import WorkflowExchange.Log.Context
import WorkflowExchange.Proofs.Log.Pieces

/-!
# Lines with a context

The context of a call follows the line of a message in square brackets, its parts in
their order and without those that are null.  It is added to the template of the
message, before the arguments are put in.

So the line is the message with the context after it whenever there are no arguments,
because then nothing is filled in, and whenever the context has no percent sign:
`Context.bound_record_follows`.  A percent sign in the context of a message with
arguments is read as the beginning of a place.  All arguments of the message are used
up by then, and the line fails or loses the sign.  Only where a dictionary is the source
of named places can the line come out all the same.
-/

namespace WorkflowExchange.Log

namespace Context

/-- The values of parts, null for those without a text. -/
def valuesOf (parts : List (String × Option String)) : List (String × Value) :=
  parts.map fun part => (part.1, part.2.elim (.scalar .null) .text)

/-- The parts that have a text. -/
def shownOf (parts : List (String × Option String)) : Context :=
  parts.filterMap fun part => part.2.map fun text => (part.1, text)

/-- What follows the line of a message: nothing, or the parts that have a text as names
and texts, with spaces between them and in square brackets. -/
def ending (parts : List (String × Option String)) : String :=
  match parts.filterMap fun part => part.2.map fun text => part.1 ++ "=" ++ text with
  | [] => ""
  | first :: others => " [" ++ String.intercalate " " (first :: others) ++ "]"

/-- A name that a part of a context can have. -/
def IsAdmissible (name : String) : Prop :=
  name ≠ loggerName ∧ name ∉ recordNames

/-- Does a part that is shown have a percent sign? -/
def HasPercent (parts : List (String × Option String)) : Prop :=
  ∃ part ∈ parts, ∃ text, part.2 = some text ∧
    ('%' ∈ part.1.toList ∨ '%' ∈ text.toList)

instance (name : String) : Decidable (IsAdmissible name) :=
  inferInstanceAs (Decidable (_ ∧ _))

variable {parts : List (String × Option String)}

theorem suffix_shownOf (parts : List (String × Option String)) :
    (shownOf parts).suffix = ending parts := by
  have pairs : (shownOf parts).map (fun part => part.1 ++ "=" ++ part.2) =
      parts.filterMap fun part => part.2.map fun text => part.1 ++ "=" ++ text := by
    rw [shownOf, List.map_filterMap]
    congr 1
    funext part
    cases part.2 <;> rfl
  rw [suffix, ending, pairs]
  cases parts.filterMap fun part => part.2.map fun text => part.1 ++ "=" ++ text with
  | nil => rfl
  | cons => rfl

theorem mapM_shown (parts : List (String × Option String)) :
    ((valuesOf parts).filter fun part => isShown part.2).mapM (fun part => do
      pure (part.1, (← part.2.display Number.digitLimit).shown) : _ → Except Fault (String × String)) =
        .ok (shownOf parts) := by
  induction parts with
  | nil => rfl
  | cons part rest inner =>
      rcases part with ⟨name, _ | text⟩
      · exact inner
      · have head : (valuesOf ((name, some text) :: rest)).filter
            (fun part => isShown part.2) =
              (name, .text text) :: (valuesOf rest).filter fun part => isShown part.2 :=
          rfl
        rw [head, List.mapM_cons, inner]
        change Except.ok ((name, (Wide.ofString text).shown) :: shownOf rest) = _
        rw [Wide.shown_ofString]
        rfl

/-- Parts with admissible names are a context. -/
theorem ofValues_valuesOf (admissible : ∀ part ∈ parts, IsAdmissible part.1) :
    ofValues (valuesOf parts) = .ok (shownOf parts) := by
  have unnamed : (valuesOf parts).any (·.1 = loggerName) = false := by
    rw [valuesOf, List.any_map, List.any_eq_false]
    intro part member
    simpa using (admissible part member).1
  have unrecorded : (valuesOf parts).any (fun part => recordNames.contains part.1) =
      false := by
    rw [valuesOf, List.any_map, List.any_eq_false]
    intro part member
    simpa using (admissible part member).2
  rw [ofValues, unnamed, mapM_shown, unrecorded]
  rfl

/-- The context of a call is the one of its user and its operation. -/
theorem ofValues_ofCall (userId operation : String) :
    ofValues (valuesOf [("user_id", some userId), ("operation", some operation)]) =
      .ok (ofCall userId operation) := by
  rw [ofValues_valuesOf]
  · rfl
  · simp only [List.forall_mem_cons]
    exact ⟨by decide, by decide, nofun⟩

theorem mem_intercalate_iff {character : Char} {separator : List Char}
    (apart : character ∉ separator) (texts : List (List Char)) :
    character ∈ separator.intercalate texts ↔ ∃ text ∈ texts, character ∈ text := by
  induction texts with
  | nil => simp
  | cons first others inner =>
      cases others with
      | nil => simp
      | cons second others =>
          rw [List.intercalate_cons_cons, List.mem_append, List.mem_append, inner,
            List.exists_mem_cons_iff]
          simp [apart]

/-- A percent sign in the ending is one of the parts that are shown. -/
theorem percent_mem_ending_iff :
    '%' ∈ (ending parts).toList ↔ HasPercent parts := by
  have inPairs : HasPercent parts ↔ ∃ pair ∈ parts.filterMap (fun part =>
      part.2.map fun text => part.1 ++ "=" ++ text), '%' ∈ pair.toList := by
    simp [HasPercent]
  rw [inPairs, ending]
  cases parts.filterMap fun part => part.2.map fun text => part.1 ++ "=" ++ text with
  | nil => simp
  | cons first others =>
      have apart : '%' ∉ " ".toList := by decide
      have pairs := mem_intercalate_iff apart ((first :: others).map String.toList)
      rw [← String.toList_intercalate] at pairs
      simp only [String.toList_append, List.mem_append, pairs]
      simp

section Lines

variable {context : Context} {message : Message} {line : String}

/-- Without arguments the template is the line, with a context as without. -/
theorem line_bind_of_unfilled (unfilled : message.arguments = [])
    (written : message.line = .ok line) :
    (context.bind message).line = .ok (line ++ context.suffix) := by
  have isEmpty : message.arguments.isEmpty = true := by rw [unfilled]; rfl
  rw [Message.line, if_pos isEmpty] at written
  rw [Message.line, bind, if_pos isEmpty]
  cases written
  rfl

/-- The arguments that a line leaves are used for its context. -/
theorem line_bind_of_filled (given : message.arguments ≠ [])
    (written : message.line = .ok line) :
    ∃ left : Template.Supply, left.isUnused = false ∧
      (Template.Supply.ofArguments message.arguments).Spends left ∧
      (context.bind message).line =
        (Template.fillPieces (Template.pieces context.suffix) left >>= fun others =>
          if others.2.isUnused then .error .wrongType
          else .ok (line ++ String.ofList others.1)) := by
  have isEmpty : ¬message.arguments.isEmpty = true := by simpa using given
  rw [Message.line, if_neg isEmpty, Template.fill] at written
  rcases Except.bind_eq_ok.mp written with ⟨⟨shown, left⟩, filled, written⟩
  rcases Template.isComplete_of_fillPieces filled with ⟨spends, complete⟩
  dsimp only at written
  cases used : left.isUnused with
  | true =>
      rw [used] at written
      cases written
  | false =>
      rw [used] at written
      cases written
      refine ⟨left, used, spends, ?_⟩
      rw [Message.line, bind, if_neg isEmpty, Template.fill,
        Template.pieces_append complete, Template.fillPieces_append_of_ok filled]
      cases Template.fillPieces (Template.pieces context.suffix) left with
      | error => rfl
      | ok others =>
          simp only [Except.map, Bind.bind, Except.bind, String.ofList_append]
          rfl

/-- A context without a percent sign follows the line. -/
theorem line_bind_of_plain (plain : '%' ∉ context.suffix.toList)
    (written : message.line = .ok line) :
    (context.bind message).line = .ok (line ++ context.suffix) := by
  by_cases unfilled : message.arguments = []
  · exact line_bind_of_unfilled unfilled written
  rcases line_bind_of_filled unfilled written with ⟨left, used, -, bound⟩
  rw [bound, Template.fillPieces_plain plain left]
  simp only [Bind.bind, Except.bind]
  rw [used, String.ofList_toList]
  rfl

/-- A percent sign does not follow a line that was filled in. -/
theorem plain_of_line_bind (given : message.arguments ≠ [])
    (unnamed : (Template.Supply.ofArguments message.arguments).named? = none)
    (written : message.line = .ok line)
    (follows : (context.bind message).line = .ok (line ++ context.suffix)) :
    '%' ∉ context.suffix.toList := by
  intro percent
  rcases line_bind_of_filled given written with ⟨left, used, spends, bound⟩
  have leftUnnamed : left.named? = none := spends.named.trans unnamed
  have exhausted : left.left = [] := by
    rw [Template.Supply.isUnused, leftUnnamed] at used
    simpa using used
  rw [bound] at follows
  rcases Except.bind_eq_ok.mp follows with ⟨⟨shown, rest⟩, filled, same⟩
  have shorter := (Template.length_of_fillPieces_exhausted exhausted leftUnnamed
    (Nat.le_of_eq String.length_toList) filled).2 percent
  split at same
  · cases same
  · have added : String.ofList shown = context.suffix :=
      String.append_right_inj line |>.mp (Except.ok.inj same)
    rw [← added, String.toList_ofList] at shorter
    exact absurd shorter (Nat.lt_irrefl _)

end Lines

/-- A record that is logged with a context is the record of the message with the parts
that are not null after its line, if the message has no arguments or the parts have no
percent sign.  For arguments that are not a dictionary of named places, it is this
record in no other case. -/
theorem bound_record_follows (parts : List (String × Option String))
    (admissible : ∀ part ∈ parts, IsAdmissible part.1) (message : Message)
    (record : Record) (written : message.record = .ok record) :
    ∃ context, ofValues (valuesOf parts) = .ok context ∧
      (message.arguments = [] ∨ ¬HasPercent parts →
        (context.bind message).record =
          .ok { record with line := record.line ++ ending parts }) ∧
      ((Template.Supply.ofArguments message.arguments).named? = none →
        (context.bind message).record =
          .ok { record with line := record.line ++ ending parts } →
        message.arguments = [] ∨ ¬HasPercent parts) := by
  refine ⟨shownOf parts, ofValues_valuesOf admissible, ?_, ?_⟩
  · intro undisturbed
    rcases Except.map_eq_ok.mp written with ⟨line, lined, rfl⟩
    have bound : ((shownOf parts).bind message).line = .ok (line ++ ending parts) := by
      rw [← suffix_shownOf]
      rcases undisturbed with unfilled | plain
      · exact line_bind_of_unfilled unfilled lined
      · rw [← percent_mem_ending_iff, ← suffix_shownOf] at plain
        exact line_bind_of_plain plain lined
    rw [Message.record, bound]
    rfl
  · intro unnamed follows
    rcases Except.map_eq_ok.mp written with ⟨line, lined, rfl⟩
    rcases Except.map_eq_ok.mp follows with ⟨bound, boundLined, same⟩
    rcases Record.mk.inj same with ⟨-, rfl⟩
    by_cases unfilled : message.arguments = []
    · exact .inl unfilled
    · rw [← percent_mem_ending_iff, ← suffix_shownOf]
      rw [← suffix_shownOf] at boundLined
      exact .inr (plain_of_line_bind unfilled unnamed lined boundLined)

/-- The message of a publication that finds its entry. -/
def updateNotice : Message :=
  ⟨.info, "Updated marketplace entry %s", [.text "mkt_0001"]⟩

theorem record_updateNotice :
    updateNotice.record = .ok ⟨.info, "Updated marketplace entry mkt_0001"⟩ :=
  record_of_name .info "Updated marketplace entry " "mkt_0001" "" (by decide) (by decide)

/-- The line of an author without a percent sign is followed by the call. -/
theorem author_follows_update_notice :
    ((ofCall "author" "publish").bind updateNotice).record =
      .ok ⟨.info,
        "Updated marketplace entry mkt_0001 [user_id=author operation=publish]"⟩ := by
  have admissible : ∀ part ∈ [("user_id", some "author"), ("operation", some "publish")],
      IsAdmissible part.1 := by
    simp only [List.forall_mem_cons]
    exact ⟨by decide, by decide, nofun⟩
  rcases bound_record_follows _ admissible updateNotice _ record_updateNotice with
    ⟨context, made, follows, -⟩
  rw [ofValues_ofCall] at made
  cases made
  refine follows (.inr ?_)
  rw [← percent_mem_ending_iff]
  decide

/-- The line of a user whose name has a percent sign is lost. -/
theorem percent_loses_update_notice :
    ¬∀ (userId operation : String) (message : Message) (record : Record),
      message.record = .ok record →
        ((ofCall userId operation).bind message).record =
          .ok { record with
            line := record.line ++ " [user_id=" ++ userId ++ " operation=" ++
              operation ++ "]" } := by
  intro always
  have follows := always "100%" "publish" updateNotice _ record_updateNotice
  have lost : ((ofCall "100%" "publish").bind updateNotice).record =
      .error .wrongType := by
    decide +kernel
  rw [lost] at follows
  cases follows

end Context

end WorkflowExchange.Log

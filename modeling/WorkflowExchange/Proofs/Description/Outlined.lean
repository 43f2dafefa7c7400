import WorkflowExchange.Proofs.Description.Generated
import WorkflowExchange.Proofs.Text.Lowercase
import WorkflowExchange.Proofs.Text.Segments
import WorkflowExchange.Proofs.Value.Agreement

/-!
# What the heuristic description tells

The heuristic description of nodes of JSON is told by three things: the names of the
types that mention a trigger, the names of the other types, both in the order of the
nodes, and the number of the nodes.  The name of a type is its last segment, and a type
without a name is only counted.  So nodes in another order have the same description
if the names of each kind keep their order: `heuristicDescription_tells_outline`.

Nodes that are not all objects are only counted.  A type that is beyond the limits of the
writer has the same effect.
-/

namespace WorkflowExchange

/-! ## The text of a type -/

namespace Value

variable {digits? : Option Nat}

/-- The text of a value is the same with a limit to the digits of integers and without
one. -/
def HasLiteral (digits? : Option Nat) (value : Value) : Prop :=
  ∃ content, value.literal digits? = .ok content ∧ value.literal none = .ok content

theorem exists_literals {values : List Value}
    (each : ∀ value ∈ values, value.HasLiteral digits?) :
    ∃ contents, literals digits? values = .ok contents ∧
      literals none values = .ok contents := by
  induction values with
  | nil => exact ⟨[], rfl, rfl⟩
  | cons value rest inner =>
      rcases List.forall_mem_cons.mp each with ⟨⟨first, written, unlimited⟩, others⟩
      rcases inner others with ⟨contents, rested, free⟩
      exact ⟨first :: contents, by rw [literals, written, rested]; rfl,
        by rw [literals, unlimited, free]; rfl⟩

theorem exists_entryLiterals {entries : List (Value × Value)}
    (each : ∀ entry ∈ entries, entry.1.HasLiteral digits? ∧ entry.2.HasLiteral digits?) :
    ∃ contents, entryLiterals digits? entries = .ok contents ∧
      entryLiterals none entries = .ok contents := by
  induction entries with
  | nil => exact ⟨[], rfl, rfl⟩
  | cons entry rest inner =>
      rcases List.forall_mem_cons.mp each with
        ⟨⟨⟨key, named, plainly⟩, first, written, unlimited⟩, others⟩
      rcases inner others with ⟨contents, rested, free⟩
      exact ⟨(key, first) :: contents, by rw [entryLiterals, named, written, rested]; rfl,
        by rw [entryLiterals, plainly, unlimited, free]; rfl⟩

/-- A JSON value whose integers are written can be written into a container. -/
theorem hasLiteral_ofJson (json : Json) (written : json.isWritten digits? = true) :
    (ofJson json).HasLiteral digits? := by
  induction json using Json.inductionOn with
  | leaf json plain =>
      cases json with
      | null | bool | float | text | halves => exact ⟨_, rfl, rfl⟩
      | int value =>
          rw [Json.isWritten] at written
          exact ⟨toString value, if_pos written, rfl⟩
      | array | object => cases plain
  | array items inner =>
      rw [Json.isWritten, Json.areWritten_iff] at written
      have each : ∀ value ∈ items.map ofJson, value.HasLiteral digits? :=
        List.forall_mem_map.mpr fun item held => inner item held (written item held)
      rcases exists_literals each with ⟨contents, shown, unlimited⟩
      rw [ofJson, ofItems_eq_map, plainList, HasLiteral, literal, literal, shown, unlimited]
      exact ⟨_, rfl, rfl⟩
  | object members inner =>
      rw [Json.isWritten, Json.membersAreWritten_iff] at written
      have each : ∀ entry ∈ members.map fun member => (text member.1, ofJson member.2),
          entry.1.HasLiteral digits? ∧ entry.2.HasLiteral digits? :=
        List.forall_mem_map.mpr fun member held =>
          ⟨⟨_, rfl, rfl⟩, inner member held (written member held)⟩
      rcases exists_entryLiterals each with ⟨contents, shown, unlimited⟩
      rw [ofJson, ofMembers_eq_map, plainDict, HasLiteral, literal, literal, shown,
        unlimited]
      exact ⟨_, rfl, rfl⟩

end Value

namespace Json

/-- The text of a JSON value in running prose. -/
def shown (json : Json) : Wide :=
  ((Value.ofJson json).display none).toOption.getD []

/-- The type of a node as a text; a type that counts as nothing is empty. -/
def nodeType : Json → Wide
  | .object members =>
    if (field members "type").isEmpty then [] else (field members "type").shown
  | _ => []

/-- An object with a type that is within the limits of a writer. -/
def IsNode (writer : Writer) (json : Json) : Prop :=
  ∃ members, json = .object members ∧
    (field members "type").Fits writer.literalDepth writer.digits?

end Json

theorem Value.display_ofJson {digits? : Option Nat} (json : Json)
    (written : json.isWritten digits? = true) :
    (ofJson json).display digits? = .ok json.shown := by
  have ⟨content, limited, unlimited⟩ : ∃ content,
      (ofJson json).display digits? = .ok content ∧
        (ofJson json).display none = .ok content := by
    rcases hasLiteral_ofJson json written with ⟨content, limited, unlimited⟩
    cases json with
    | null | bool | float | text | halves => exact ⟨_, rfl, rfl⟩
    | int | array | object =>
        exact ⟨content, congrArg (Except.map Wide.ofString) limited,
          congrArg (Except.map Wide.ofString) unlimited⟩
  rw [Json.shown, limited, unlimited]
  rfl

namespace Heap

variable {heap : Heap} {writer : Writer} {json : Json} {value : Value}
  {members : List (String × Json)}

theorem Represents.display (represents : heap.Represents json value)
    (fits : json.Fits writer.literalDepth writer.digits?) :
    heap.display writer value = .ok json.shown := by
  have unfolded : heap.unfold writer.literalDepth value = .ofJson json :=
    represents.unfoldAt ⟨fun _ => rfl, fun _ => rfl⟩ fits.shallow
      (Trail.above_empty heap _)
  rw [Heap.display, unfolded, Value.display_ofJson json fits.written]

/-- The type of a node is read. -/
theorem Represents.nodeType (represents : heap.Represents json value)
    (node : json.IsNode writer) :
    Outline.nodeType heap writer value = .ok json.nodeType := by
  rcases node with ⟨members, rfl, fits⟩
  rcases represents.exists_get "type" with ⟨found, got, standing⟩
  rw [Outline.nodeType, got, Json.nodeType]
  change heap.textOrEmpty writer found = _
  rw [textOrEmpty, standing.isEmpty_resolve]
  split
  · rfl
  · exact standing.display fits

/-- What is no object cannot be asked for a type. -/
theorem Represents.nodeType_error (writer : Writer)
    (represents : heap.Represents json value)
    (other : ∀ members, json ≠ .object members) :
    ∃ fault, Outline.nodeType heap writer value = .error fault := by
  cases represents with
  | leaf plain same =>
      rcases exists_scalar_of_plain plain with ⟨data, written⟩
      rw [same, written]
      exact ⟨_, rfl⟩
  | array container =>
      rw [Outline.nodeType, container]
      exact ⟨_, rfl⟩
  | object => exact absurd rfl (other _)

end Heap

/-! ## Types and their names -/

/-- What stands in a wide text as characters stands in the text that is shown, as long as
the replacement of a half is not among them. -/
theorem Wide.infix_shown {wide : Wide} {window : List Char}
    (whole : '\uFFFD' ∉ window) :
    window <:+: wide.shown.toList ↔ window.map Char.toNat <:+: wide := by
  rw [shown, String.toList_ofList]
  constructor
  · rw [List.infix_map_iff]
    rintro ⟨codes, within, rfl⟩
    rw [List.map_map]
    have kept : codes.map (Char.toNat ∘ fun code =>
        if code.isValidChar then Char.ofNat code else '\uFFFD') = codes := by
      refine (List.map_congr_left fun code held => ?_).trans (List.map_id codes)
      by_cases valid : code.isValidChar
      · simp only [Function.comp_apply, if_pos valid, toNat_ofNat valid, id_eq]
      · have replaced : (if code.isValidChar then Char.ofNat code else '\uFFFD') =
            '\uFFFD' := if_neg valid
        exact absurd (List.mem_map.mpr ⟨code, held, replaced⟩) whole
    rwa [kept]
  · intro within
    have same : (window.map Char.toNat).map (fun code =>
        if code.isValidChar then Char.ofNat code else '\uFFFD') = window := by
      rw [List.map_map]
      refine (List.map_congr_left fun character _ => ?_).trans (List.map_id window)
      exact (if_pos character.valid).trans (Char.ofNat_toNat character)
    rw [← same]
    exact within.map _

namespace Outline

/-- Does a type mention a trigger, in any case? -/
def MentionsTrigger (type : Wide) : Prop :=
  ∃ window : List Char,
    window.map Char.toNat <:+: type ∧ window.map Char.toLower = "trigger".toList

theorem isPlainWord_trigger : Text.IsPlainWord "trigger".toList where
  letters := by simp [Text.IsPlainLetter]
  ends := by
    intro front same
    have last := congrArg List.getLast? same
    rw [List.getLast?_concat] at last
    exact absurd last (by decide +kernel)

theorem isTrigger_iff {type : Wide} : isTrigger type = true ↔ MentionsTrigger type := by
  have lower : (Text.lower type.shown).toList = Text.lowered [] type.shown.toList :=
    String.toList_ofList
  rw [isTrigger, Text.occursIn_iff_infix, lower,
    Text.infix_lowered_iff isPlainWord_trigger (by decide +kernel)]
  refine exists_congr fun window => and_congr_left fun word => Wide.infix_shown ?_
  intro held
  have lowered : '\uFFFD'.toLower ∈ "trigger".toList := by
    rw [← word]
    exact List.mem_map_of_mem held
  exact absurd lowered (by decide +kernel)

instance : DecidablePred MentionsTrigger :=
  fun _ => decidable_of_iff _ isTrigger_iff

/-- A type has no point in its last segment, and is this segment or ends with a point and
this segment. -/
def IsLastSegment (type segment : Wide) : Prop :=
  '.'.toNat ∉ segment ∧
    (type = segment ∨ ∃ front, type = front ++ '.'.toNat :: segment)

/-- The names of some types in their order: a type has its last segment as its name, and
no name where this is empty. -/
inductive Names : List Wide → List Wide → Prop
  | nil : Names [] []
  | named {type segment : Wide} {types names : List Wide}
      (last : IsLastSegment type segment) (visible : segment ≠ [])
      (rest : Names types names) : Names (type :: types) (segment :: names)
  | unnamed {type : Wide} {types names : List Wide} (last : IsLastSegment type [])
      (rest : Names types names) : Names (type :: types) names

/-- The names that are shown. -/
def named (types : List Wide) : List Wide :=
  (types.map Wide.afterPoint).filter (· ≠ [])

theorem named_cons (type : Wide) (types : List Wide) :
    named (type :: types) =
      if type.afterPoint = [] then named types
      else type.afterPoint :: named types := by
  rw [named, List.map_cons, List.filter_cons]
  by_cases empty : type.afterPoint = [] <;> simp [empty, named]

theorem afterPoint_eq_iff {type segment : Wide} :
    type.afterPoint = segment ↔ IsLastSegment type segment :=
  Text.afterLast_eq_iff

/-- The names of types are those that are shown. -/
theorem names_iff {types names : List Wide} : Names types names ↔ named types = names := by
  constructor
  · intro named
    induction named with
    | nil => rfl
    | named last visible rest inner =>
        rw [named_cons, afterPoint_eq_iff.mpr last, if_neg visible, inner]
    | unnamed last rest inner =>
        rw [named_cons, if_pos (afterPoint_eq_iff.mpr last), inner]
  · rintro rfl
    induction types with
    | nil => exact .nil
    | cons type types inner =>
        rw [named_cons]
        split
        · next empty => exact .unnamed (afterPoint_eq_iff.mp empty) inner
        · next visible => exact .named (afterPoint_eq_iff.mp rfl) visible inner

/-- The triggers are the names of the types that mention one, and the actions those of the
other types. -/
structure Tells (types triggers actions : List Wide) : Prop where
  triggers : Names (types.filter fun type => MentionsTrigger type) triggers
  actions : Names (types.filter fun type => ¬MentionsTrigger type) actions

theorem ofTypes_of_tells {types triggers actions : List Wide}
    (tells : Tells types triggers actions) :
    ofTypes types = ⟨triggers, actions, types.length⟩ := by
  rcases tells with ⟨triggered, acted⟩
  rw [names_iff] at triggered acted
  subst triggered acted
  induction types with
  | nil => rfl
  | cons type types inner =>
      have added : ofTypes (type :: types) = addType type (ofTypes types) := rfl
      rw [added, inner, addType]
      by_cases empty : type.afterPoint = []
      · by_cases trigger : MentionsTrigger type <;>
          simp [empty, trigger, named_cons]
      · by_cases trigger : MentionsTrigger type <;>
          simp [empty, trigger, named_cons, isTrigger_iff]

/-- The first two triggers, with a remark if there are more. -/
def triggerPhrase : List Wide → Wide
  | [] => []
  | [only] => (" triggered by " : Wide) ++ only
  | [first, second] => (" triggered by " : Wide) ++ first ++ (" and " : Wide) ++ second
  | first :: second :: _ :: _ =>
    (" triggered by " : Wide) ++ first ++ (" and " : Wide) ++ second ++
      (" and more" : Wide)

/-- The first three actions, with a remark if there are more. -/
def actionPhrase : List Wide → Wide
  | [] => []
  | [only] => (" using " : Wide) ++ only
  | [first, second] => (" using " : Wide) ++ first ++ (", " : Wide) ++ second
  | [first, second, third] =>
    (" using " : Wide) ++ first ++ (", " : Wide) ++ second ++ (", " : Wide) ++ third
  | first :: second :: third :: _ :: _ =>
    (" using " : Wide) ++ first ++ (", " : Wide) ++ second ++ (", " : Wide) ++ third ++
      (" and more" : Wide)

/-- The sentence about a workflow with these triggers and actions. -/
def sentence (name : Wide) (triggers actions : List Wide) (total : Nat) : Wide :=
  ("Workflow \"" : Wide) ++ name ++ ("\"" : Wide) ++ triggerPhrase triggers ++
    actionPhrase actions ++ (" (" ++ toString total ++ " nodes total)" : String)

theorem triggerPhrase_eq (names : List Wide) :
    (if names.isEmpty then [] else (" triggered by " : Wide) ++ listed " and " 2 names) =
      triggerPhrase names := by
  rcases names with _ | ⟨first, _ | ⟨second, _ | ⟨third, others⟩⟩⟩ <;>
    simp [listed, triggerPhrase, List.intercalate]

theorem actionPhrase_eq (names : List Wide) :
    (if names.isEmpty then [] else (" using " : Wide) ++ listed ", " 3 names) =
      actionPhrase names := by
  rcases names with _ | ⟨first, _ | ⟨second, _ | ⟨third, _ | ⟨fourth, others⟩⟩⟩⟩ <;>
    simp [listed, actionPhrase, List.intercalate]

theorem text_eq_sentence (name : Wide) (triggers actions : List Wide) (total : Nat) :
    text name ⟨triggers, actions, total⟩ = sentence name triggers actions total := by
  simp only [text, triggerPhrase_eq, actionPhrase_eq]
  rfl

end Outline

/-! ## The description -/

section Nodes

variable {heap : Heap} {writer : Writer} {jsons : List Json} {nodes : Value}

theorem Heap.Represents.exists_items (formed : heap.Represents (.array jsons) nodes) :
    ∃ parts, (heap.resolve nodes).elements = .ok parts ∧
      (heap.resolve nodes).count = .ok jsons.length ∧
        List.Forall₂ heap.Represents jsons parts := by
  cases formed with
  | leaf plain => cases plain
  | array container each =>
      rw [container]
      refine ⟨_, rfl, ?_, each⟩
      rw [each.length_eq]
      rfl

theorem outline_of_nodes (formed : heap.Represents (.array jsons) nodes)
    (objects : ∀ json ∈ jsons, json.IsNode writer) {triggers actions : List Wide}
    (tells : Outline.Tells (jsons.map Json.nodeType) triggers actions) :
    Outline.ofValue heap writer nodes = .ok ⟨triggers, actions, jsons.length⟩ := by
  rcases formed.exists_items with ⟨parts, met, counted, each⟩
  have reads : ∀ json ∈ jsons, ∀ {part}, heap.Represents json part →
      ∃ type, Outline.nodeType heap writer part = .ok type ∧ json.nodeType = type :=
    fun json held _ standing => ⟨_, standing.nodeType (objects json held), rfl⟩
  rcases exists_mapM_of_forall₂ each reads with ⟨types, read, same⟩
  have told : jsons.map Json.nodeType = types := by
    rw [← List.forall₂_eq_eq_eq, List.forall₂_map_left_iff]
    exact same
  rw [told] at tells
  rw [Outline.ofValue, met, counted]
  simp only [bind, Except.bind]
  rw [Outline.ofNodes, read]
  simp only [Except.map, Outline.ofTypes_of_tells tells]
  rfl

theorem outline_error_of_other (formed : heap.Represents (.array jsons) nodes)
    (other : ∃ json ∈ jsons, ∀ members, json ≠ .object members) :
    ∃ fault, Outline.ofValue heap writer nodes = .error fault := by
  rcases formed.exists_items with ⟨parts, met, counted, each⟩
  rcases other with ⟨json, held, unlike⟩
  rcases Value.exists_mem_of_forall₂ each json held with ⟨part, member, standing⟩
  rcases standing.nodeType_error writer unlike with ⟨failure, failed⟩
  cases read : parts.mapM (Outline.nodeType heap writer) with
  | ok types =>
      rcases exists_of_mapM_eq_ok read part member with ⟨type, typed⟩
      cases failed.symm.trans typed
  | error fault =>
      refine ⟨fault, ?_⟩
      rw [Outline.ofValue, met]
      simp only [bind, Except.bind]
      rw [Outline.ofNodes, read]
      rfl

theorem heuristicDescription_of_nodes (name : Wide)
    (formed : heap.Represents (.array jsons) nodes)
    (objects : ∀ json ∈ jsons, json.IsNode writer) {triggers actions : List Wide}
    (tells : Outline.Tells (jsons.map Json.nodeType) triggers actions) :
    heuristicDescription heap writer (.ofWide name) nodes =
      .ok (Outline.sentence name triggers actions jsons.length) := by
  rw [heuristicDescription, heap.display_ofWide, outline_of_nodes formed objects tells,
    ← Outline.text_eq_sentence]
  rfl

/-- The heuristic description of objects tells the names of their types and their
number.  So it is the same for objects in another order, in any heap, in which the names
of the types that mention a trigger and the names of the others keep their order.  If
not all nodes are objects, the description tells their number. -/
theorem heuristicDescription_tells_outline (heap : Heap) (writer : Writer) (name : Wide)
    (jsons : List Json) (nodes : Value) (formed : heap.Represents (.array jsons) nodes) :
    ((∀ json ∈ jsons, json.IsNode writer) →
      ∃ triggers actions, Outline.Tells (jsons.map Json.nodeType) triggers actions ∧
        heuristicDescription heap writer (.ofWide name) nodes =
          .ok (Outline.sentence name triggers actions jsons.length) ∧
        ∀ others : List Json, others.Perm jsons →
          Outline.Tells (others.map Json.nodeType) triggers actions →
          ∀ (place : Heap) (moved : Value), place.Represents (.array others) moved →
            heuristicDescription place writer (.ofWide name) moved =
              heuristicDescription heap writer (.ofWide name) nodes) ∧
      ((∃ json ∈ jsons, ∀ members, json ≠ .object members) →
        heuristicDescription heap writer (.ofWide name) nodes =
          .ok (countText name jsons.length)) := by
  constructor
  · intro objects
    have tells : Outline.Tells (jsons.map Json.nodeType) _ _ :=
      ⟨Outline.names_iff.mpr rfl, Outline.names_iff.mpr rfl⟩
    have told := heuristicDescription_of_nodes name formed objects tells
    refine ⟨_, _, tells, told, fun others moves retold place moved standing => ?_⟩
    have again : ∀ json ∈ others, json.IsNode writer :=
      fun json held => objects json (moves.mem_iff.mp held)
    rw [told, heuristicDescription_of_nodes name standing again retold, moves.length_eq]
  · intro other
    rcases outline_error_of_other formed other with ⟨fault, failed⟩
    rcases formed.exists_items with ⟨parts, -, counted, -⟩
    rw [heuristicDescription, heap.display_ofWide, failed, counted]
    rfl

/-- Nodes with two types that mention a trigger, one other type, one type without a last
segment and one node without a type. -/
def Json.nightlyNodes : List Json :=
  [.object [("type", .text "base.scheduleTrigger")],
    .object [("type", .text "mail.Send")], .object [("name", .text "Note")],
    .object [("type", .text "TRIGGER.http")], .object [("type", .text "last.")]]

theorem nightly_tells_outline :
    ((Heap.empty.Represents (.array Json.nightlyNodes)
        (.ofJson (.array Json.nightlyNodes))) ∧
      ∀ json ∈ Json.nightlyNodes, json.IsNode Writer.usual) ∧
      heuristicDescription Heap.empty Writer.usual (.ofWide ("Nightly" : String))
          (.ofJson (.array Json.nightlyNodes)) =
        .ok ("Workflow \"Nightly\" triggered by scheduleTrigger and http using Send " ++
          "(5 nodes total)" : String) := by
  have formed := Heap.empty.represents_ofJson (.array Json.nightlyNodes)
  have objects : ∀ json ∈ Json.nightlyNodes, json.IsNode Writer.usual := by
    simp only [Json.nightlyNodes, List.forall_mem_cons]
    exact ⟨⟨_, rfl, by decide +kernel⟩, ⟨_, rfl, by decide +kernel⟩,
      ⟨_, rfl, by decide +kernel⟩, ⟨_, rfl, by decide +kernel⟩,
      ⟨_, rfl, by decide +kernel⟩, nofun⟩
  rcases (heuristicDescription_tells_outline Heap.empty Writer.usual
    ("Nightly" : String) Json.nightlyNodes _ formed).1 objects with
    ⟨triggers, actions, ⟨triggered, acted⟩, told, -⟩
  refine ⟨⟨formed, objects⟩, ?_⟩
  rw [told, ← Outline.names_iff.mp triggered, ← Outline.names_iff.mp acted]
  decide +kernel

end Nodes

/-! ## Beyond the limits of a writer -/

namespace Heap

variable {heap : Heap} {writer : Writer} {levels below : Nat} {type : Value} {json : Json}

theorem follows_all : Follows fun _ => true :=
  ⟨fun _ => rfl, fun _ => rfl⟩

/-- Writing a tower gives up where there is no room for its lower stories.  The
induction is on the room. -/
theorem literal_tower (digits? : Option Nat) (room : Nat) :
    ∀ {below : Nat} {way : Trail}, below < levels → room ≤ below → Descends way below →
      ((tower levels).unfoldAt (fun _ => true) room way (.shared below)).literal
        digits? = .error .tooDeep := by
  induction room with
  | zero =>
      intro below way within _ descends
      rw [unfoldAt_tower_zero follows_all within descends.new]
      rfl
  | succ room inner =>
      intro below way within deep descends
      cases below with
      | zero => cases deep
      | succ below =>
          have lower := inner (Nat.lt_of_succ_lt within)
            (Nat.le_of_succ_le_succ deep) (descends.enter (story (below + 1)))
          rw [unfoldAt_tower follows_all within descends.new]
          simp only [story, unfoldAt, unfoldItems, Value.literal, Value.literals]
            at lower ⊢
          rw [lower]
          rfl

theorem display_tower (within : below < levels) (deep : writer.literalDepth ≤ below) :
    (tower levels).display writer (.shared below) = .error .tooDeep := by
  have begun : Descends {} below := fun _ back => nomatch back
  have written := literal_tower writer.digits? writer.literalDepth within deep begun
  rw [display, unfold]
  cases room : writer.literalDepth with
  | zero =>
      rw [unfoldAt_tower_zero follows_all within begun.new]
      rfl
  | succ room =>
      rw [room, unfoldAt_tower follows_all within begun.new] at written
      rw [unfoldAt_tower follows_all within begun.new]
      -- A list is shown as it is written.
      cases below <;>
        · simp only [story, unfoldAt, Value.plainList, Value.display] at written ⊢
          rw [written]
          rfl

/-- A node that has a type and nothing else. -/
def nodeOf (type : Value) : Value :=
  .ofFields [("type", type)]

def nodeMembersOf (type : Json) : List (String × Json) :=
  [("type", type)]

theorem represents_nodeOf (given : heap.Represents json type) :
    heap.Represents (.array [.object (nodeMembersOf json)])
      (.plainList [nodeOf type]) :=
  .array rfl (.cons (represents_ofFields rfl (.cons given .nil)) .nil)

/-- A node with a type that has no text is only counted. -/
theorem heuristicDescription_nodeOf (name : Wide) {fault : Fault}
    (present : (heap.resolve type).isEmpty = false)
    (unwritten : heap.display writer type = .error fault) :
    heuristicDescription heap writer (.ofWide name) (.plainList [nodeOf type]) =
      .ok (countText name 1) := by
  have unread : Outline.nodeType heap writer (nodeOf type) = .error fault := by
    have got : (heap.resolve (nodeOf type)).get "type" = .ok type := rfl
    rw [Outline.nodeType, got]
    change heap.textOrEmpty writer type = _
    rw [textOrEmpty, present]
    exact unwritten
  have failed : Outline.ofValue heap writer (.plainList [nodeOf type]) =
      .error fault := by
    change (Outline.ofNodes heap writer [nodeOf type] >>= _) = _
    rw [Outline.ofNodes, List.mapM_cons, unread]
    rfl
  rw [heuristicDescription, display_ofWide, failed]
  rfl

theorem display_tenTo {digits : Nat} (limited : writer.digits? = some digits) :
    heap.display writer (.int (Number.tenTo digits)) = .error .badValue := by
  simp only [display, unfold, Value.int, unfoldAt, Value.display, Scalar.display,
    Scalar.prose, limited, Scalar.intText, not_isWritten_tenTo]
  rfl

end Heap

/-- A description that counts nodes is none that tells of them: the two texts end with
different characters. -/
theorem Outline.countText_ne_sentence (name : Wide) (count total : Nat)
    (triggers actions : List Wide) :
    countText name count ≠ sentence name triggers actions total := by
  intro same
  have counted : (countText name count).getLast? = some 's'.toNat := by
    have ending : countText name count =
        (("Workflow \"" : Wide) ++ name ++ ("\" with " ++ toString count : String)) ++
          (" nodes" : Wide) := by
      simp [countText]
    rw [ending, List.getLast?_append]
    rfl
  have bracketed : (sentence name triggers actions total).getLast? =
      some ')'.toNat := by
    have ending : sentence name triggers actions total =
        (("Workflow \"" : Wide) ++ name ++ ("\"" : Wide) ++ triggerPhrase triggers ++
          actionPhrase actions ++ (" (" ++ toString total : String)) ++
            (" nodes total)" : Wide) := by
      simp [sentence]
    rw [ending, List.getLast?_append]
    rfl
  rw [same, bracketed] at counted
  exact absurd counted (by decide)

/-- Neither limit of a writer can be left out: the description of an object does not tell
its type when this is nested more deeply, nor when it is an integer of more digits. -/
theorem types_beyond_limits_are_not_told :
    (¬∀ (heap : Heap) (name : Wide) (members : List (List (String × Json)))
      (nodes : Value), heap.Represents (.array (members.map .object)) nodes →
        (∀ one ∈ members, (Json.field one "type").isWritten Writer.usual.digits?) →
          ∃ triggers actions, heuristicDescription heap Writer.usual (.ofWide name) nodes =
            .ok (Outline.sentence name triggers actions members.length)) ∧
    ¬∀ (heap : Heap) (name : Wide) (members : List (List (String × Json)))
      (nodes : Value), heap.Represents (.array (members.map .object)) nodes →
        (∀ one ∈ members, (Json.field one "type").levels ≤ Writer.usual.literalDepth) →
          ∃ triggers actions, heuristicDescription heap Writer.usual (.ofWide name) nodes =
            .ok (Outline.sentence name triggers actions members.length) := by
  constructor
  · intro always
    have written : ∀ one ∈ [Heap.nodeMembersOf (.nest 2000)],
        (Json.field one "type").isWritten Writer.usual.digits? :=
      List.forall_mem_singleton.mpr (Heap.isWritten_nest _ 2000)
    rcases always (.tower 2000) ("Deep" : String) [Heap.nodeMembersOf (.nest 2000)] _
      (Heap.represents_nodeOf (Heap.represents_tower (Nat.lt_succ_self 1999))) written with
      ⟨triggers, actions, told⟩
    have deep : Writer.usual.literalDepth ≤ 1999 := by decide
    rw [Heap.heuristicDescription_nodeOf _
      (Heap.isEmpty_resolve_tower (Nat.lt_succ_self 1999))
      (Heap.display_tower (Nat.lt_succ_self 1999) deep)] at told
    exact Outline.countText_ne_sentence _ _ _ _ _ (Except.ok.inj told)
  · intro always
    let long : Json := .int (Number.tenTo Number.digitLimit)
    have shallow : ∀ one ∈ [Heap.nodeMembersOf long],
        (Json.field one "type").levels ≤ Writer.usual.literalDepth :=
      List.forall_mem_singleton.mpr (Nat.zero_le _)
    rcases always .empty ("Long" : String) [Heap.nodeMembersOf long] _
      (Heap.represents_nodeOf (Heap.empty.represents_ofJson long)) shallow with
      ⟨triggers, actions, told⟩
    have present : (Heap.empty.resolve (.ofJson long)).isEmpty = false := by
      decide +kernel
    rw [Heap.heuristicDescription_nodeOf _ present (Heap.display_tenTo rfl)] at told
    exact Outline.countText_ne_sentence _ _ _ _ _ (Except.ok.inj told)

end WorkflowExchange

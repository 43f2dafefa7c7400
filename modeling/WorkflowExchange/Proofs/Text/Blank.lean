import Mathlib.Data.List.DropRight
import WorkflowExchange.Text.Wide

/-!
# Texts without blanks at their ends

A list of letters is solid when its first and its last letter are not blank; it is not
empty then.  Solid texts are those that trimming leaves as they are, the empty one
aside: `Text.solid_iff`.  What trimming or an excerpt gives is empty or solid,
whatever it was made from, and so is an excerpt of a wide text.
-/

namespace WorkflowExchange.Text

variable {α : Type} {blank : α → Bool} {letters run : List α} {text : String}

/-- Some letters begin with one that is not blank. -/
def Opens (blank : α → Bool) (letters : List α) : Prop :=
  ∃ letter rest, letters = letter :: rest ∧ blank letter = false

/-- Some letters end with one that is not blank. -/
def Closes (blank : α → Bool) (letters : List α) : Prop :=
  ∃ front letter, letters = front ++ [letter] ∧ blank letter = false

/-- Some letters begin and end with ones that are not blank. -/
structure IsSolid (blank : α → Bool) (letters : List α) : Prop where
  opens : Opens blank letters
  closes : Closes blank letters

/-- A text begins and ends with characters that are not blank. -/
def Solid (text : String) : Prop :=
  IsSolid isBlank text.toList

theorem Opens.append (opens : Opens blank letters) (more : List α) :
    Opens blank (letters ++ more) := by
  rcases opens with ⟨letter, rest, rfl, visible⟩
  exact ⟨letter, rest ++ more, rfl, visible⟩

theorem Closes.append (closes : Closes blank letters) (before : List α) :
    Closes blank (before ++ letters) := by
  rcases closes with ⟨front, letter, rfl, visible⟩
  exact ⟨before ++ front, letter, (List.append_assoc ..).symm, visible⟩

theorem IsSolid.ne_nil (solid : IsSolid blank letters) : letters ≠ [] := by
  rcases solid.opens with ⟨_, _, rfl, -⟩
  exact List.cons_ne_nil _ _

theorem Solid.ne_empty (solid : Solid text) : text ≠ "" := by
  rintro rfl
  exact solid.ne_nil rfl

/-- A wide text is solid just as the text that it is. -/
theorem solid_ofString : IsSolid isBlankCode (Wide.ofString text) ↔ Solid text := by
  rw [Solid, Wide.ofString]
  generalize text.toList = characters
  constructor
  · rintro ⟨⟨code, rest, opened, visible⟩, front, last, closed, seen⟩
    rcases List.map_eq_cons_iff.mp opened with ⟨first, others, rfl, rfl, -⟩
    rcases List.map_eq_append_iff.mp closed with ⟨before, after, split, -, alone⟩
    rcases List.map_eq_singleton_iff.mp alone with ⟨final, rfl, rfl⟩
    exact ⟨⟨first, others, rfl, visible⟩, before, final, split, seen⟩
  · rintro ⟨⟨first, others, rfl, visible⟩, before, final, split, seen⟩
    refine ⟨⟨_, _, rfl, visible⟩, before.map Char.toNat, final.toNat, ?_, seen⟩
    rw [split, List.map_append, List.map_singleton]

/-! ## Trimming -/

theorem trimmed_eq (characters : List Char) :
    trimmed characters = (characters.dropWhile isBlank).rdropWhile isBlank :=
  rfl

theorem blank_of_dropWhile {letter : α} {rest : List α}
    (dropped : letters.dropWhile blank = letter :: rest) : blank letter = false := by
  have visible := List.head?_dropWhile_not blank letters
  rw [dropped] at visible
  simpa using visible

/-- What is left after trimming is solid. -/
theorem solid_trim (left : trim text ≠ "") : Solid (trim text) := by
  have letters : (trim text).toList =
      (text.toList.dropWhile isBlank).rdropWhile isBlank := by
    rw [trim, String.toList_ofList, trimmed_eq]
  have present : (text.toList.dropWhile isBlank).rdropWhile isBlank ≠ [] := by
    rw [← letters]
    simpa using left
  constructor
  · rcases List.exists_cons_of_ne_nil present with ⟨character, rest, equal⟩
    refine ⟨character, rest, letters.trans equal, ?_⟩
    -- The ends are taken off one after the other, and the second time the first
    -- character stays.
    rcases List.rdropWhile_prefix isBlank (text.toList.dropWhile isBlank) with
      ⟨blanks, whole⟩
    rw [equal, List.cons_append] at whole
    exact blank_of_dropWhile whole.symm
  · refine ⟨_, _, letters.trans (List.dropLast_append_getLast present).symm, ?_⟩
    simpa using List.rdropWhile_last_not isBlank _ present

/-- A solid text is trimmed already. -/
theorem Solid.trim_eq (solid : Solid text) : trim text = text := by
  rcases solid with ⟨⟨first, rest, letters, visible⟩, front, last, ends, seen⟩
  have front_kept : text.toList.dropWhile isBlank = text.toList := by
    rw [letters, List.dropWhile_cons_of_neg (by simp [visible])]
  have whole : trimmed text.toList = text.toList := by
    rw [trimmed_eq, front_kept, ends, List.rdropWhile_concat_neg]
    simp [seen]
  rw [trim, whole, String.ofList_toList]

/-- The solid texts are those with no blank to take off, the empty one aside. -/
theorem solid_iff (text : String) : Solid text ↔ text ≠ "" ∧ trim text = text := by
  constructor
  · exact fun solid => ⟨solid.ne_empty, solid.trim_eq⟩
  · rintro ⟨nonempty, kept⟩
    rw [← kept] at nonempty ⊢
    exact solid_trim nonempty

/-! ## Words -/

/-- A run has letters, none of them blank. -/
structure IsRun (blank : α → Bool) (run : List α) : Prop where
  nonempty : run ≠ []
  visible : ∀ letter ∈ run, blank letter = false

theorem runs_of_blank (nothing : letters.dropWhile blank = []) :
    runs blank letters = [] := by
  rw [runs]
  split
  · rfl
  · next remaining => cases nothing.symm.trans remaining

theorem runs_of_visible {first : α} {rest : List α}
    (left : letters.dropWhile blank = first :: rest) :
    runs blank letters = (first :: rest.takeWhile (!blank ·)) ::
      runs blank (rest.dropWhile (!blank ·)) := by
  rw [runs]
  split
  · next nothing => cases left.symm.trans nothing
  · next remaining =>
      cases left.symm.trans remaining
      rfl

theorem isRun_of_mem_runs (member : run ∈ runs blank letters) : IsRun blank run := by
  induction letters using runs.induct blank with
  | case1 letters nothing =>
      rw [runs_of_blank nothing] at member
      cases member
  | case2 letters first rest remaining induction =>
      rw [runs_of_visible remaining] at member
      rcases List.mem_cons.mp member with rfl | later
      · refine ⟨List.cons_ne_nil _ _, ?_⟩
        rw [List.forall_mem_cons]
        refine ⟨blank_of_dropWhile remaining, fun letter inside => ?_⟩
        simpa using List.mem_takeWhile_imp inside
      · exact induction later

theorem IsRun.solid (made : IsRun blank run) : IsSolid blank run where
  opens := by
    rcases List.exists_cons_of_ne_nil made.nonempty with ⟨letter, rest, rfl⟩
    exact ⟨letter, rest, rfl, made.visible letter List.mem_cons_self⟩
  closes :=
    ⟨_, _, (List.dropLast_append_getLast made.nonempty).symm,
      made.visible _ (List.getLast_mem made.nonempty)⟩

theorem mem_of_mem_firstItems {limit : Int} {items : List α} {item : α}
    (member : item ∈ firstItems limit items) : item ∈ items := by
  rw [firstItems] at member
  by_cases whole : 0 ≤ limit
  · rw [if_pos whole] at member
    exact List.mem_of_mem_take member
  · rw [if_neg whole] at member
    exact List.mem_of_mem_take member

/-- Solid lists with something between them make a solid one, if there are any. -/
theorem solid_intercalate (between : List α) :
    ∀ {parts : List (List α)}, (∀ part ∈ parts, IsSolid blank part) → parts ≠ [] →
      IsSolid blank (between.intercalate parts)
  | [], _, nonempty => absurd rfl nonempty
  | [part], solid, _ => by
      rw [List.intercalate_singleton]
      exact solid part List.mem_cons_self
  | part :: next :: rest, solid, _ => by
      rcases List.forall_mem_cons.mp solid with ⟨first, others⟩
      rw [List.intercalate_cons_cons]
      have rested := solid_intercalate between others (List.cons_ne_nil _ _)
      exact ⟨(first.opens.append _).append _, rested.closes.append _⟩

/-- An excerpt of a wide text is solid, unless it has no words. -/
theorem solid_excerpt {limit : Int} {wide : Wide} (left : wide.excerpt limit ≠ []) :
    IsSolid isBlankCode (wide.excerpt limit) := by
  apply solid_intercalate
  · exact fun word member => (isRun_of_mem_runs (mem_of_mem_firstItems member)).solid
  · intro nothing
    rw [Wide.excerpt, nothing] at left
    exact left rfl

end WorkflowExchange.Text

import Mathlib.Data.List.Infix
import WorkflowExchange.Text.Blank

/-!
# Segments and searches

A list is cut at each separator.  Its last segment is the one without a separator that
the list is or ends with after a separator: `Text.afterLast_eq_iff`.  A search finds
just what stands in one piece within another text: `Text.occursIn_iff_infix`.
-/

namespace WorkflowExchange.Text

/-- A search finds just the lists that stand within another one. -/
theorem occursIn_iff_infix {needle hay : List Char} :
    occursIn needle hay = true ↔ needle <:+: hay := by
  induction hay with
  | nil => rw [occursIn, List.isEmpty_iff, List.infix_nil]
  | cons first rest inner =>
      rw [occursIn, Bool.or_eq_true, List.isPrefixOf_iff_prefix, inner,
        List.infix_cons_iff]

section Segments

variable {α : Type} [DecidableEq α] {separator : α} {letters segment : List α}

theorem pieces_of_not_mem (absent : separator ∉ letters) :
    pieces separator letters = [letters] := by
  induction letters with
  | nil => rfl
  | cons first rest inner =>
      rw [List.mem_cons, not_or] at absent
      rw [pieces, if_neg (Ne.symm absent.1), inner absent.2]

/-- A separator ends a piece. -/
theorem pieces_append (before after : List α) :
    pieces separator (before ++ separator :: after) =
      pieces separator before ++ pieces separator after := by
  induction before with
  | nil => simp [pieces]
  | cons first before inner =>
      rw [List.cons_append, pieces, pieces, inner]
      split
      · rfl
      · cases cut : pieces separator before with
        | nil => exact absurd cut (pieces_ne_nil separator before)
        | cons piece others => rfl

/-- What follows the last separator has none, and the list is this or ends with a
separator and this. -/
theorem afterLast_eq_iff :
    afterLast separator letters = segment ↔
      separator ∉ segment ∧ (letters = segment ∨
        ∃ before, letters = before ++ separator :: segment) := by
  have last {letters segment : List α} (absent : separator ∉ segment)
      (ends : letters = segment ∨ ∃ before, letters = before ++ separator :: segment) :
      afterLast separator letters = segment := by
    rw [afterLast]
    rcases ends with rfl | ⟨before, rfl⟩
    · simp [pieces_of_not_mem absent]
    · simp only [pieces_append, pieces_of_not_mem absent, List.getLast_append_singleton]
  refine ⟨?_, fun spec => last spec.1 spec.2⟩
  rintro rfl
  by_cases present : separator ∈ letters
  · rcases List.eq_append_cons_of_mem (List.mem_reverse.mpr present) with
      ⟨after, before, same, absent⟩
    have cut : letters = before.reverse ++ separator :: after.reverse := by
      simpa using congrArg List.reverse same
    have absent : separator ∉ after.reverse := by
      simpa using absent
    rw [last absent (.inr ⟨_, cut⟩)]
    exact ⟨absent, .inr ⟨_, cut⟩⟩
  · rw [last present (.inl rfl)]
    exact ⟨present, .inl rfl⟩

end Segments

end WorkflowExchange.Text

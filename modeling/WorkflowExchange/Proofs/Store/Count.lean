import WorkflowExchange.Intake.Numeral
import WorkflowExchange.Store.Cell

/-!
# Counting one by one

A column of counts to which one is added again and again holds the number of
times, as long as that is an integer of 64 bits.  From there on it stays the
floating point number next to those integers, which is not shown as a number of
downloads any more.
-/

namespace WorkflowExchange

namespace CountCell

/-- The cell in which counting one by one ends. -/
def overflowed : CountCell := .real (.finite false (Number.twoTo 52) 11)

/-- The cell after counting one by one some number of times. -/
def counted (count : Nat) : CountCell :=
  if (count : Int) < Datum.intBound then .int count else overflowed

theorem counted_of_lt {count : Nat} (small : (count : Int) < Datum.intBound) :
    counted count = .int count := if_pos small

theorem counted_of_le {count : Nat} (large : Datum.intBound ≤ (count : Int)) :
    counted count = overflowed := if_neg (Int.not_lt.mpr large)

theorem eq_of_counted_eq_int {count : Nat} {value : Int}
    (shown : counted count = .int value) : value = count := by
  by_cases small : (count : Int) < Datum.intBound
  · rw [counted_of_lt small] at shown
    exact (CountCell.int.inj shown).symm
  · rw [counted_of_le (Int.not_lt.mp small)] at shown
    cases shown

theorem plus_last : (CountCell.int (Datum.intBound - 1)).plus 1 = overflowed := by
  decide +kernel

theorem plus_overflowed : overflowed.plus 1 = overflowed := by
  decide +kernel

/-- Counting once more. -/
theorem counted_plus (count : Nat) :
    (counted count).plus 1 = counted (count + 1) := by
  by_cases small : ((count + 1 : Nat) : Int) < Datum.intBound
  · have before : (count : Int) < Datum.intBound := by omega
    rw [counted_of_lt before, counted_of_lt small]
    have integer : Datum.isInt ((count : Int) + 1) = true := by
      simp only [Datum.isInt, Bool.and_eq_true, decide_eq_true_eq]
      omega
    simp only [plus, plus.ofInt, integer, ↓reduceIte]
    rw [Int.natCast_succ]
  · rw [counted_of_le (Int.not_lt.mp small)]
    by_cases last : (count : Int) < Datum.intBound
    · have equal : (count : Int) = Datum.intBound - 1 := by omega
      rw [counted_of_lt last, equal]
      exact plus_last
    · rw [counted_of_le (Int.not_lt.mp last)]
      exact plus_overflowed

/-- A count that is an integer is shown as it is. -/
theorem whole_counted_of_lt {count : Nat}
    (small : (count : Int) < Datum.intBound) :
    Rule.whole .empty (counted count).toValue = .fits count := by
  rw [counted_of_lt small]
  rfl

/-- A count that has left the integers of 64 bits is not shown. -/
theorem whole_overflowed :
    Rule.whole .empty overflowed.toValue = Rule.tooLarge := by
  have size : overflowed.toValue =
      .float (.finite false (Number.twoTo 52) 11) := rfl
  rw [size]
  have notModerate : ¬ (-Rule.wideBound < (9223372036854775808 : Int) ∧
      (9223372036854775808 : Int) < Rule.wideBound) := by decide +kernel
  have read : (Binary64.finite false (Number.twoTo 52) 11).toInt? =
      some 9223372036854775808 := by decide +kernel
  change Rule.integerOfFloat _ = _
  simp only [Rule.integerOfFloat, read, Binary64.isFinite]
  simp only [Bool.not_true, Bool.false_eq_true, ↓reduceIte]
  rw [if_neg (by simpa using notModerate)]

end CountCell

end WorkflowExchange

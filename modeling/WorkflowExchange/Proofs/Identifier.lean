import WorkflowExchange.Identifier

/-!
# Identifiers are not repeated

The number of an identifier can be read back from its digits, whatever zeros
stand before them, and so identifiers of one kind with different numbers differ.
-/

namespace WorkflowExchange

namespace Moment

theorem ofDigitChars_padded (width number : Nat) :
    Nat.ofDigitChars 10 (padded width number).toList 0 = number := by
  simp only [padded, String.toList_append, String.toList_ofList,
    Nat.ofDigitChars_append, Nat.ofDigitChars_replicate_zero, Nat.mul_zero,
    Nat.toString_eq_ofList_toDigits]
  exact Nat.ofDigitChars_toDigits (by decide) (by decide)

theorem padded_injective {width one other : Nat}
    (equal : padded width one = padded width other) : one = other := by
  have read := congrArg (fun text => Nat.ofDigitChars 10 text.toList 0) equal
  simpa only [ofDigitChars_padded] using read

end Moment

namespace Identifier

theorem Kind.numbered_injective {kind : Kind} {one other : Nat}
    (equal : kind.numbered one = kind.numbered other) : one = other := by
  have characters := congrArg String.toList equal
  simp only [Kind.numbered, String.toList_append, List.append_cancel_left_eq]
    at characters
  exact Moment.padded_injective (String.toList_inj.mp characters)

end Identifier

end WorkflowExchange

import Mathlib.Data.List.Forall2
import WorkflowExchange.Value.Agreement

/-!
# Values that agree both ways

The equality of the host is not reflexive: a number that is not a number does not
agree with itself, and nor does any container that holds one.  Plain data with no
such number does.  Lists and tuples agree both ways when their items do, whatever
their classes, and so do dictionaries with the same keys in the same order.
-/

namespace WorkflowExchange

namespace Quantity

theorem agrees_self {quantity : Quantity} (ordered : quantity ≠ .unordered) :
    quantity.agrees quantity = true := by
  simp [agrees, ordered]

theorem ofParts_ne_unordered (negative : Bool) (coefficient : Nat)
    (exponent : Int) : ofParts negative coefficient exponent ≠ .unordered := by
  rw [ofParts]
  by_cases zero : coefficient = 0
  · rw [if_pos zero]
    nofun
  · rw [if_neg zero]
    nofun

theorem ofBinary64_ne_unordered {value : Binary64} (number : value ≠ .nan) :
    ofBinary64 value ≠ .unordered := by
  cases value with
  | nan => exact absurd rfl number
  | infinite negative => nofun
  | finite negative significand exponent => exact ofParts_ne_unordered _ _ _

end Quantity

namespace Scalar

/-- Is a scalar, or a part of it, not a number? -/
def hasNaN : Scalar → Bool
  | .float value => value == .nan
  | .complex real imaginary => real == .nan || imaginary == .nan
  | .decimal numeral => Quantity.ofDecimal numeral == .unordered
  | _ => false

/-- A scalar with no part that is not a number. -/
def NaNFree (data : Scalar) : Prop :=
  data.hasNaN = false

theorem NaNFree.agrees_self {data : Scalar} (number : data.NaNFree) :
    data.agrees data = true := by
  cases data with
  | bool value => exact Quantity.agrees_self (Quantity.ofParts_ne_unordered _ _ _)
  | int value => exact Quantity.agrees_self (Quantity.ofParts_ne_unordered _ _ _)
  | float value =>
      have known : value ≠ .nan := by simpa [NaNFree, hasNaN] using number
      exact Quantity.agrees_self (Quantity.ofBinary64_ne_unordered known)
  | decimal numeral =>
      have known : Quantity.ofDecimal numeral ≠ .unordered := by
        simpa [NaNFree, hasNaN] using number
      exact Quantity.agrees_self known
  | complex real imaginary =>
      have known : real ≠ .nan ∧ imaginary ≠ .nan := by
        simpa [NaNFree, hasNaN] using number
      have first :=
        Quantity.agrees_self (Quantity.ofBinary64_ne_unordered known.1)
      have second :=
        Quantity.agrees_self (Quantity.ofBinary64_ne_unordered known.2)
      by_cases plain : imaginary.isZero <;>
        simp [agrees, quantity?, plain, first, second]
  | datetime iso => simp [agrees, quantity?, IsoTime.agrees]
  | time iso => simp [agrees, quantity?, IsoTime.agrees]
  | null | text | halves | bytes | uuid | date | duration =>
      simp [agrees, quantity?]

end Scalar

namespace Value

/-- Two values agree, whichever is asked. -/
structure Alike (one other : Value) : Prop where
  left : one.agrees other = true
  right : other.agrees one = true

theorem alike_scalar {data : Scalar} (number : data.NaNFree) :
    (scalar data).Alike (scalar data) := by
  have known := number.agrees_self
  exact ⟨by simpa [agrees, plain] using known, by simpa [agrees, plain] using known⟩

theorem agreesItems_of_forall₂ {items others : List Value}
    (paired : List.Forall₂ (fun item other => item.agrees other = true)
      items others) : agreesItems items others = true := by
  induction paired with
  | nil => rfl
  | cons first rest induction => simp [agreesItems, first, induction]

/-- Entries agree with those of another dictionary that holds an agreeing entry
for each of them. -/
theorem agreesEntries_of_forall_exists {entries others : List (Value × Value)}
    (each : ∀ entry ∈ entries, ∃ other ∈ others,
      entry.1.agrees other.1 = true ∧ entry.2.agrees other.2 = true) :
    agreesEntries entries others = true := by
  induction entries with
  | nil => rfl
  | cons entry rest induction =>
      rcases List.forall_mem_cons.mp each with ⟨⟨other, member, found⟩, each⟩
      rw [agreesEntries, induction each, Bool.and_true, List.any_eq_true]
      exact ⟨other, member, by simp [found]⟩

theorem exists_mem_of_forall₂ {α β : Type} {related : α → β → Prop}
    {ones : List α} {others : List β}
    (paired : List.Forall₂ related ones others) :
    ∀ one ∈ ones, ∃ other ∈ others, related one other := by
  induction paired with
  | nil => simp
  | cons first rest induction =>
      refine List.forall_mem_cons.mpr ⟨⟨_, List.mem_cons_self, first⟩, ?_⟩
      intro one member
      rcases induction one member with ⟨other, found, holds⟩
      exact ⟨other, List.mem_cons_of_mem _ found, holds⟩

theorem alike_list (type otherType : String) (failing otherFailing : Option Failing)
    {items others : List Value} (paired : List.Forall₂ Alike items others) :
    (list type failing items).Alike (list otherType otherFailing others) := by
  have first := agreesItems_of_forall₂ (paired.imp fun _ _ alike => alike.left)
  have second :=
    agreesItems_of_forall₂ (paired.flip.imp fun _ _ alike => alike.right)
  exact ⟨by simpa [agrees] using first, by simpa [agrees] using second⟩

theorem alike_tuple (cls otherCls : TupleClass) (failing otherFailing : Option Failing)
    {items others : List Value} (paired : List.Forall₂ Alike items others) :
    (tuple cls failing items).Alike (tuple otherCls otherFailing others) := by
  have first := agreesItems_of_forall₂ (paired.imp fun _ _ alike => alike.left)
  have second :=
    agreesItems_of_forall₂ (paired.flip.imp fun _ _ alike => alike.right)
  exact ⟨by simpa [agrees] using first, by simpa [agrees] using second⟩

theorem alike_dict (type otherType : String) (failing otherFailing : Option Failing)
    {entries others : List (Value × Value)}
    (paired : List.Forall₂ (fun entry other => entry.1.Alike other.1 ∧
      entry.2.Alike other.2) entries others) :
    (dict type failing entries).Alike (dict otherType otherFailing others) := by
  have length := paired.length_eq
  have first : agreesEntries entries others = true := by
    refine agreesEntries_of_forall_exists fun entry member => ?_
    rcases exists_mem_of_forall₂ paired entry member with ⟨other, found, alike⟩
    exact ⟨other, found, alike.1.left, alike.2.left⟩
  have second : agreesEntries others entries = true := by
    refine agreesEntries_of_forall_exists fun other member => ?_
    rcases exists_mem_of_forall₂ paired.flip other member with
      ⟨entry, found, alike⟩
    exact ⟨entry, found, alike.1.right, alike.2.right⟩
  exact ⟨by simp [agrees, length, first], by simp [agrees, length, second]⟩

end Value

end WorkflowExchange

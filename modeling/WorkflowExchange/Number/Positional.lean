/-!
# Positional notation

The powers of two and of ten, by which digits are weighed, and the last digits
of a number: in any base as numbers, in base 16 also as characters.
-/

namespace WorkflowExchange.Number

/-- A power of two. -/
def twoTo (exponent : Nat) : Nat := Nat.pow 2 exponent

/-- A power of ten. -/
def tenTo (exponent : Nat) : Nat := Nat.pow 10 exponent

/-- The number of digits beyond which the host neither reads nor writes an integer, unless
it is told otherwise. -/
def digitLimit : Nat := 4300

/-- The last digits of a number in a base, as many as asked for. -/
def lastDigits (base : Nat) : Nat → Nat → List Nat
  | 0, _ => []
  | count + 1, number =>
    lastDigits base count (number / base) ++ [number % base]

@[simp]
theorem length_lastDigits (base count number : Nat) :
    (lastDigits base count number).length = count := by
  induction count generalizing number with
  | zero => rfl
  | succ count hypothesis => simp [lastDigits, hypothesis]

/-- The last digits of a number in base 16, as many as asked for, in lower case. -/
def hexDigits (count number : Nat) : List Char :=
  (lastDigits 16 count number).map Nat.digitChar

@[simp]
theorem length_hexDigits (count number : Nat) :
    (hexDigits count number).length = count := by
  simp [hexDigits]

example : hexDigits 4 0x1F600 = ['f', '6', '0', '0'] := by decide

end WorkflowExchange.Number

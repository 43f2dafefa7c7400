import WorkflowExchange.Number.Positional

/-!
# Binary floating point numbers of 64 bits

A finite number is a sign, a significand and a power of two.  `ofRatio` rounds
a ratio of natural numbers to the nearest number, ties to the even significand,
and `ofDecimal` does the same for a decimal coefficient and exponent.
-/

namespace WorkflowExchange

/-- A 64-bit binary floating point number.

A finite number stands for `significand * 2 ^ exponent`, negated when
`negative`.  Numbers made by `ofRatio` are canonical: the significand is below
`2 ^ 53`, the exponent is at least `-1074`, and the significand is at least
`2 ^ 52` unless the exponent is `-1074`. -/
inductive Binary64 where
  | nan
  | infinite (negative : Bool)
  | finite (negative : Bool) (significand : Nat) (exponent : Int)
  deriving DecidableEq

namespace Binary64

def leastExponent : Int := -1074

def greatestExponent : Int := 971

def zero (negative : Bool) : Binary64 :=
  .finite negative 0 leastExponent

def scaled (numerator denominator : Nat) (exponent : Int) : Nat × Nat :=
  if 0 ≤ exponent then
    (numerator, denominator * Number.twoTo exponent.toNat)
  else
    (numerator * Number.twoTo (-exponent).toNat, denominator)

/-- The quotient rounded to the nearest natural number, ties to even. -/
def roundedQuotient (numerator denominator : Nat) : Nat :=
  let quotient := numerator / denominator
  let twice := 2 * (numerator % denominator)
  if twice < denominator then quotient
  else if denominator < twice then quotient + 1
  else if quotient % 2 = 0 then quotient
  else quotient + 1

/-- The exponent whose grid holds the numbers next to a positive ratio. -/
def gridExponent (numerator denominator : Nat) : Int :=
  let guess := max leastExponent
    ((numerator.log2 : Int) - (denominator.log2 : Int) - 52)
  let ratio := scaled numerator denominator guess
  if ratio.1 / ratio.2 < Number.twoTo 52 then max leastExponent (guess - 1)
  else guess

/-- The number nearest to a ratio, ties to the even significand. -/
def ofRatio (negative : Bool) (numerator denominator : Nat) : Binary64 :=
  if numerator = 0 then zero negative
  else
    let exponent := gridExponent numerator denominator
    let ratio := scaled numerator denominator exponent
    let significand := roundedQuotient ratio.1 ratio.2
    let carried : Nat × Int :=
      if significand = Number.twoTo 53 then (Number.twoTo 52, exponent + 1)
      else (significand, exponent)
    if greatestExponent < carried.2 then .infinite negative
    else .finite negative carried.1 carried.2

/-- The number of decimal digits of a natural number. -/
def digitCount (number : Nat) : Nat :=
  (Nat.toDigits 10 number).length

/-- The number nearest to `coefficient * 10 ^ exponent`, negated on demand.

Exponents far outside the finite range are answered without computing the
power of ten. -/
def ofDecimal (negative : Bool) (coefficient : Nat) (exponent : Int) :
    Binary64 :=
  if coefficient = 0 then zero negative
  else
    let magnitude := exponent + digitCount coefficient
    if 400 < magnitude then .infinite negative
    else if magnitude < -400 then zero negative
    else if 0 ≤ exponent then
      ofRatio negative (coefficient * Number.tenTo exponent.toNat) 1
    else
      ofRatio negative coefficient (Number.tenTo (-exponent).toNat)

def ofInt (value : Int) : Binary64 :=
  ofRatio (decide (value < 0)) value.natAbs 1

def inUnits (unit : Int) (negative : Bool) (significand : Nat) (exponent : Int) :
    Int :=
  let size : Int := (significand * Number.twoTo (exponent - unit).toNat : Nat)
  if negative then -size else size

/-- The sum of two numbers, rounded once. -/
def sum : Binary64 → Binary64 → Binary64
  | .finite negative significand exponent,
    .finite otherNegative otherSignificand otherExponent =>
    let unit := min exponent otherExponent
    let total := inUnits unit negative significand exponent +
      inUnits unit otherNegative otherSignificand otherExponent
    let ratio := scaled total.natAbs 1 (-unit)
    ofRatio (decide (total < 0)) ratio.1 ratio.2
  | .infinite negative, .infinite otherNegative =>
    if negative = otherNegative then .infinite negative else .nan
  | .nan, _ => .nan
  | _, .nan => .nan
  | .infinite negative, _ => .infinite negative
  | _, .infinite negative => .infinite negative

/-- Is the number a zero of either sign? -/
def isZero : Binary64 → Bool
  | .finite _ significand _ => significand == 0
  | _ => false

def isFinite : Binary64 → Bool
  | .finite _ _ _ => true
  | _ => false

/-- The integer that a finite number stands for, if it stands for one. -/
def toInt? : Binary64 → Option Int
  | .finite negative significand exponent =>
    let sign : Int := if negative then -1 else 1
    if 0 ≤ exponent then
      some (sign * (significand * Number.twoTo exponent.toNat : Nat))
    else
      let divisor := Number.twoTo (-exponent).toNat
      if significand % divisor = 0 then
        some (sign * (significand / divisor : Nat))
      else none
  | _ => none

end Binary64

end WorkflowExchange

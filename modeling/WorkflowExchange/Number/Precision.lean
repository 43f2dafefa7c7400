import WorkflowExchange.Number.Shortest

/-!
# Numbers with a given precision

A number can be written with a given number of digits after the point, either
positionally or with an exponent, or with a given number of significant digits.
The exact value is rounded to the nearest decimal, a half to the even one; only
`plainSignificant` rounds halves up.
-/

namespace WorkflowExchange.Binary64

/-- A non-negative ratio of natural numbers. -/
structure Ratio where
  numerator : Nat
  denominator : Nat

def sizeRatio (significand : Nat) (exponent : Int) : Ratio :=
  ⟨significand * Number.twoTo exponent.toNat, Number.twoTo (-exponent).toNat⟩

/-- Digits with a point before the last `places` of them; the point of no places
is written on demand. -/
def pointed (keepPoint : Bool) (places : Nat) (coefficient : Nat) : String :=
  let digits := Nat.toDigits 10 coefficient
  let padded := List.replicate (places + 1 - digits.length) '0' ++ digits
  let whole := padded.take (padded.length - places)
  let fraction := padded.drop (padded.length - places)
  String.ofList whole ++
    (if fraction.isEmpty then (if keepPoint then "." else "")
      else "." ++ String.ofList fraction)

def Ratio.positional (keepPoint : Bool) (places : Nat) (ratio : Ratio) :
    String :=
  pointed keepPoint places
    (roundedQuotient (ratio.numerator * Number.tenTo places) ratio.denominator)

/-- The coefficient with `places + 1` digits and the exponent of its first
digit, given how quotients are rounded. -/
def Ratio.partsRounded (rounded : Nat → Nat → Nat) (places : Nat)
    (ratio : Ratio) : Nat × Int :=
  if ratio.numerator = 0 then (0, 0)
  else
    let leading := leadingExponent ratio.numerator ratio.denominator
    let shift : Int := places - leading
    let coefficient := rounded
      (ratio.numerator * Number.tenTo shift.toNat)
      (ratio.denominator * Number.tenTo (-shift).toNat)
    if coefficient = Number.tenTo (places + 1) then
      (Number.tenTo places, leading + 1)
    else (coefficient, leading)

/-- The coefficient with `places + 1` digits and the exponent of its first
digit. -/
def Ratio.scientificParts : Nat → Ratio → Nat × Int :=
  Ratio.partsRounded roundedQuotient

def Ratio.scientific (keepPoint : Bool) (places : Nat) (ratio : Ratio) :
    String :=
  let (coefficient, exponent) := ratio.scientificParts places
  pointed keepPoint places coefficient ++ "e" ++ exponentText exponent

/-- A fraction without last zeros, and without a point that nothing follows. -/
def withoutLastZeros (shown : String) : String :=
  if shown.contains '.' then
    let kept := (shown.toList.reverse.dropWhile (· == '0')).reverse
    String.ofList (if kept.getLast? = some '.' then kept.dropLast else kept)
  else shown

/-- A ratio with a number of significant digits, with an exponent only when it
is small or has more digits before the point than are written. -/
def Ratio.significant (keepZeros : Bool) (digits : Nat) (ratio : Ratio) :
    String :=
  let digits := max digits 1
  let (coefficient, exponent) := ratio.scientificParts (digits - 1)
  if -4 ≤ exponent && exponent < digits then
    let shown := ratio.positional keepZeros ((digits : Int) - 1 - exponent).toNat
    if keepZeros then shown else withoutLastZeros shown
  else
    let shown := pointed keepZeros (digits - 1) coefficient
    (if keepZeros then shown else withoutLastZeros shown) ++
      "e" ++ exponentText exponent

/-- The quotient rounded to the nearest natural number, halves up. -/
def halfUpQuotient (numerator denominator : Nat) : Nat :=
  (2 * numerator + denominator) / (2 * denominator)

/-- A fraction without last zeros except the first digit after the point. -/
def withOneTenth (shown : String) : String :=
  let kept := withoutLastZeros shown
  if kept.contains '.' then kept else kept ++ ".0"

/-- A ratio with at most a number of significant digits, halves rounded up, and
with a digit after the point in any case. -/
def Ratio.plainSignificant (digits : Nat) (ratio : Ratio) : String :=
  let (coefficient, exponent) := ratio.partsRounded halfUpQuotient (digits - 1)
  if -4 ≤ exponent && exponent < digits then
    withOneTenth
      (pointed false ((digits : Int) - 1 - exponent).toNat coefficient)
  else
    withOneTenth (pointed false (digits - 1) coefficient) ++
      "e" ++ exponentText exponent

end WorkflowExchange.Binary64

import WorkflowExchange.Number.Binary64

/-!
# Shortest decimal text of a floating point number

A finite number is written with the fewest decimal digits that read back as
the same number and, among those, with the digits nearest to it.  The text is
positional when the decimal point falls at most sixteen digits after, or three
zeros before, the first digit, and uses an exponent of at least two digits
otherwise.
-/

namespace WorkflowExchange.Binary64

/-- A positive decimal number `coefficient * 10 ^ exponent`. -/
structure Decimal where
  coefficient : Nat
  exponent : Int

/-- The numbers that round to a finite number, as three fractions over one
denominator: the lower end, the number itself and the upper end. -/
structure Neighbourhood where
  lower : Nat
  centre : Nat
  upper : Nat
  denominator : Nat
  endsIncluded : Bool

/-- The neighbourhood of `significand * 2 ^ exponent`.

It reaches half a unit up and half a unit down, or a quarter down at the start
of a binade, and includes its ends when the significand is even. -/
def neighbourhood (significand : Nat) (exponent : Int) : Neighbourhood :=
  let quarterDown := significand == Number.twoTo 52 && leastExponent < exponent
  let lower := 4 * significand - (if quarterDown then 1 else 2)
  let centre := 4 * significand
  let upper := 4 * significand + 2
  if 0 ≤ exponent then
    let scale := Number.twoTo exponent.toNat
    ⟨lower * scale, centre * scale, upper * scale, 4, significand % 2 == 0⟩
  else
    ⟨lower, centre, upper, 4 * Number.twoTo (-exponent).toNat,
      significand % 2 == 0⟩

/-- Does a decimal number round to the centre of a neighbourhood? -/
def Neighbourhood.holds (around : Neighbourhood) (decimal : Decimal) : Bool :=
  let scaledUp := Number.tenTo decimal.exponent.toNat
  let scaledDown := Number.tenTo (-decimal.exponent).toNat
  let number := decimal.coefficient * scaledUp * around.denominator
  let lower := around.lower * scaledDown
  let upper := around.upper * scaledDown
  if around.endsIncluded then lower ≤ number && number ≤ upper
  else lower < number && number < upper

/-- The exponent of the first decimal digit of a positive ratio. -/
def leadingExponent (numerator denominator : Nat) : Int :=
  if denominator ≤ numerator then
    (digitCount (numerator / denominator) : Int) - 1
  else
    let zeros := (List.range 400).find? fun shift =>
      denominator ≤ numerator * Number.tenTo (shift + 1)
    Int.negSucc (zeros.getD 400)

/-- The decimal numbers of a digit count next to the centre, the nearer one
first, the even coefficient first on a tie. -/
def Neighbourhood.candidates (around : Neighbourhood) (digits : Nat) :
    List Decimal :=
  let exponent :=
    leadingExponent around.centre around.denominator - (digits : Int) + 1
  let numerator := around.centre * Number.tenTo (-exponent).toNat
  let denominator := around.denominator * Number.tenTo exponent.toNat
  let below := numerator / denominator
  let nearest := roundedQuotient numerator denominator
  let other := if nearest = below then below + 1 else below
  [⟨nearest, exponent⟩, ⟨other, exponent⟩]

/-- Drop the trailing zeros of a coefficient, at most as many as given. -/
def Decimal.stripped : Nat → Decimal → Decimal
  | 0, decimal => decimal
  | bound + 1, decimal =>
    if decimal.coefficient % 10 = 0 then
      stripped bound ⟨decimal.coefficient / 10, decimal.exponent + 1⟩
    else decimal

/-- The shortest decimal number that rounds to a positive finite number. -/
def shortest (significand : Nat) (exponent : Int) : Decimal :=
  let around := neighbourhood significand exponent
  let found := (List.range 17).findSome? fun digits =>
    (around.candidates (digits + 1)).find? around.holds
  match found with
  | some decimal => decimal.stripped 20
  | none => ⟨significand, exponent⟩

/-- An exponent with its sign and at least two digits. -/
def exponentText (exponent : Int) : String :=
  let digits := toString exponent.natAbs
  (if exponent < 0 then "-" else "+") ++
    (if digits.length < 2 then "0" ++ digits else digits)

def Decimal.text (decimal : Decimal) : String :=
  let digits := Nat.toDigits 10 decimal.coefficient
  let point := (digits.length : Int) + decimal.exponent
  if 16 < point || point < -3 then
    let fraction := digits.drop 1
    String.ofList (digits.take 1) ++
      (if fraction.isEmpty then "" else "." ++ String.ofList fraction) ++
      "e" ++ exponentText (point - 1)
  else if point ≤ 0 then
    "0." ++ String.ofList (List.replicate (-point).toNat '0' ++ digits)
  else if digits.length ≤ point.toNat then
    String.ofList (digits ++ List.replicate (point.toNat - digits.length) '0') ++
      ".0"
  else
    String.ofList (digits.take point.toNat) ++ "." ++
      String.ofList (digits.drop point.toNat)

/-- The text of a decimal number without an exponent, whatever its size, and
without a point when it is whole. -/
def Decimal.plainText (decimal : Decimal) : String :=
  let digits := Nat.toDigits 10 decimal.coefficient
  let point := (digits.length : Int) + decimal.exponent
  if point ≤ 0 then
    "0." ++ String.ofList (List.replicate (-point).toNat '0' ++ digits)
  else
    let fraction := digits.drop point.toNat
    String.ofList (digits.take point.toNat ++
        List.replicate (point.toNat - digits.length) '0') ++
      (if fraction.isEmpty then "" else "." ++ String.ofList fraction)

structure SpecialNames where
  nan : String
  infinity : String

def textWith (names : SpecialNames) : Binary64 → String
  | .nan => names.nan
  | .infinite negative => (if negative then "-" else "") ++ names.infinity
  | .finite negative significand exponent =>
    (if negative then "-" else "") ++
      (if significand = 0 then "0.0" else (shortest significand exponent).text)

/-- The text of a number without an exponent and without a last `.0`. -/
def plainText : Binary64 → String
  | .finite negative significand exponent =>
    (if negative then "-" else "") ++
      (if significand = 0 then "0"
        else (shortest significand exponent).plainText)
  | special => textWith ⟨"NaN", "inf"⟩ special

/-- The text of a number in prose: `nan` and `inf` for the special ones. -/
def text : Binary64 → String :=
  textWith ⟨"nan", "inf"⟩

end WorkflowExchange.Binary64

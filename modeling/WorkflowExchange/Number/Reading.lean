import WorkflowExchange.Number.Shortest

/-!
# Reading decimal numerals

`decimal?` reads an optional sign, digits with an optional fraction, and an
optional exponent.  Single underscores between digits are accepted on demand.
-/

namespace WorkflowExchange.Number

def digit? (character : Char) : Option Nat :=
  if '0' ≤ character && character ≤ '9' then
    some (character.toNat - '0'.toNat)
  else none

def isDigit (character : Char) : Bool :=
  (digit? character).isSome

def ofDigits (digits : List Char) : Nat :=
  digits.foldl (fun total character =>
    10 * total + (digit? character).getD 0) 0

def splitSign : List Char → Bool × List Char
  | '-' :: rest => (true, rest)
  | '+' :: rest => (false, rest)
  | characters => (false, characters)

/-- An integer of digits only, with an optional sign. -/
def integer? (characters : List Char) : Option Int :=
  let signed := splitSign characters
  if signed.2.isEmpty || !signed.2.all isDigit then none
  else some (if signed.1 then -(ofDigits signed.2 : Int) else ofDigits signed.2)

structure Numeral where
  negative : Bool
  coefficient : Nat
  exponent : Int

/-- Read the exponent part of a numeral: nothing, or `e` and an integer. -/
def exponentPart? : List Char → Option Int
  | [] => some 0
  | 'e' :: rest => integer? rest
  | 'E' :: rest => integer? rest
  | _ => none

/-- Read a decimal numeral with at least one digit before or after the point. -/
def numeral? (characters : List Char) : Option Numeral :=
  let signed := splitSign characters
  let whole := signed.2.takeWhile isDigit
  let afterWhole := signed.2.dropWhile isDigit
  let fraction :=
    match afterWhole with
    | '.' :: rest => rest.takeWhile isDigit
    | _ => []
  let afterFraction :=
    match afterWhole with
    | '.' :: rest => rest.dropWhile isDigit
    | others => others
  if whole.isEmpty && fraction.isEmpty then none
  else
    (exponentPart? afterFraction).map fun exponent =>
      { negative := signed.1
        coefficient := ofDigits (whole ++ fraction)
        exponent := exponent - fraction.length }

/-- A numeral at the beginning of a text. -/
structure LeadingNumeral where
  numeral : Numeral
  /-- Is it written without a point and without an exponent? -/
  isWhole : Bool
  rest : List Char

/-- The exponent at the beginning of a text, and what follows it. -/
def leadingExponent? (characters : List Char) : Option (Int × List Char) :=
  match characters with
  | [] => none
  | mark :: rest =>
    let signed := splitSign rest
    let digits := signed.2.takeWhile isDigit
    if (mark != 'e' && mark != 'E') || digits.isEmpty then none
    else
      let size : Int := ofDigits digits
      some (if signed.1 then -size else size, signed.2.dropWhile isDigit)

/-- The longest numeral at the beginning of a text, with at least one digit
before or after the point. -/
def leadingNumeral? (characters : List Char) : Option LeadingNumeral :=
  let signed := splitSign characters
  let whole := signed.2.takeWhile isDigit
  let afterWhole := signed.2.dropWhile isDigit
  let (fraction, afterFraction, hasPoint) :=
    match afterWhole with
    | '.' :: rest => (rest.takeWhile isDigit, rest.dropWhile isDigit, true)
    | others => ([], others, false)
  if whole.isEmpty && fraction.isEmpty then none
  else
    let exponent? := leadingExponent? afterFraction
    some
      { numeral :=
          { negative := signed.1
            coefficient := ofDigits (whole ++ fraction)
            exponent := (exponent?.map (·.1)).getD 0 - fraction.length }
        isWhole := !hasPoint && exponent?.isNone
        rest := (exponent?.map (·.2)).getD afterFraction }

def Numeral.toBinary64 (numeral : Numeral) : Binary64 :=
  .ofDecimal numeral.negative numeral.coefficient numeral.exponent

/-- Lower-case letters for upper-case ones among A to Z. -/
def lowerLetter (character : Char) : Char :=
  character.toLower

/-- Read a floating point text: a numeral, or a signed name of a special
number in any case. -/
def float? (text : List Char) : Option Binary64 :=
  match numeral? text with
  | some numeral => some numeral.toBinary64
  | none =>
    let signed := splitSign text
    match String.ofList (signed.2.map lowerLetter) with
    | "nan" => some .nan
    | "inf" => some (.infinite signed.1)
    | "infinity" => some (.infinite signed.1)
    | _ => none

end WorkflowExchange.Number

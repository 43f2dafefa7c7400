import WorkflowExchange.Failure
import WorkflowExchange.Number.Precision
import WorkflowExchange.Value.Display

/-!
# Cells

What the columns of the store hold.  The store is given a `Datum` for a column
and keeps it in the way of the column: a column of texts keeps numbers by their
texts, and a column of counts keeps a number that is whole as an integer of 64
bits and reads texts that are numerals.  Bytes are kept as they are.  A number
by itself in a column of JSON is kept like a count.
-/

namespace WorkflowExchange

/-- What the store is given for a column.  Integers have 64 bits, and NaN is
given as null. -/
inductive Datum where
  | null
  | int (value : Int)
  | real (value : Binary64)
  | text (content : String)
  | bytes (content : List UInt8)
  deriving DecidableEq

namespace Datum

/-- The number of integers of 64 bits that are not negative. -/
def intBound : Int := Number.twoTo 63

def isInt (number : Int) : Bool :=
  -intBound ≤ number && number < intBound

/-- The number of significant digits of a text for a floating point number. -/
def realDigits : Nat := 15

def realText : Binary64 → String
  | .nan => "NaN"
  | .infinite negative => if negative then "-Inf" else "Inf"
  | .finite negative significand exponent =>
    (if negative && significand != 0 then "-" else "") ++
      (Binary64.sizeRatio significand exponent).plainSignificant realDigits

def ofValue (value : Value) : Except Failure Datum :=
  match value.plain with
  | .scalar .null => .ok .null
  | .scalar (.bool content) => .ok (.int (if content then 1 else 0))
  | .scalar (.int number) =>
    if isInt number then .ok (.int number) else .error (.fault .overflow)
  | .scalar (.float .nan) => .ok .null
  | .scalar (.float number) => .ok (.real number)
  | .scalar (.text content) => .ok (.text content)
  | .scalar (.halves _) => .error (.fault .unencodable)
  | .scalar (.bytes content) => .ok (.bytes content)
  | .scalar (.datetime iso) => .ok (.text (Scalar.spacedMoment iso))
  | .scalar (.date iso) => .ok (.text iso)
  | _ => .error (.database .programming)

end Datum

inductive TextCell where
  | text (content : String)
  | bytes (content : List UInt8)
  deriving DecidableEq

namespace TextCell

/-- What a column of texts keeps of what it is given, unless that is null. -/
def ofDatum? : Datum → Option TextCell
  | .null => none
  | .int value => some (.text (toString value))
  | .real value => some (.text (Datum.realText value))
  | .text content => some (.text content)
  | .bytes content => some (.bytes content)

def toValue : TextCell → Value
  | .text content => .text content
  | .bytes content => .scalar (.bytes content)

def shown : TextCell → String
  | .text content => content
  | .bytes content => Text.byteLiteral content

/-- The order of columns of texts: bytes come after every text. -/
def atMost : TextCell → TextCell → Bool
  | .text one, .text other => one ≤ other
  | .text _, .bytes _ => true
  | .bytes _, .text _ => false
  | .bytes one, .bytes other => one ≤ other

end TextCell

inductive CountCell where
  | int (value : Int)
  | real (value : Binary64)
  | text (content : String)
  | bytes (content : List UInt8)
  deriving DecidableEq

namespace CountCell

/-- Does white space stand around a numeral? -/
def isSpace (character : Char) : Bool :=
  character == ' ' || (0x09 ≤ character.toNat && character.toNat ≤ 0x0D)

/-- A floating point number in a column of counts: an integer if it is one of
less than the greatest size. -/
def ofReal (number : Binary64) : CountCell :=
  match number.toInt? with
  | none => .real number
  | some whole =>
    if -Datum.intBound < whole && whole < Datum.intBound then .int whole
    else .real number

/-- The number that a numeral stands for, an integer if it is written as one of
64 bits. -/
def ofNumeral (found : Number.LeadingNumeral) : CountCell :=
  let size : Int := found.numeral.coefficient
  let number := if found.numeral.negative then -size else size
  if found.isWhole && Datum.isInt number then .int number
  else .real found.numeral.toBinary64

def ofText (content : String) : CountCell :=
  match Number.leadingNumeral? (content.toList.dropWhile isSpace) with
  | none => .text content
  | some found =>
    if !found.rest.all isSpace then .text content
    else
      match ofNumeral found with
      | .real number => ofReal number
      | other => other

/-- What a column of counts keeps of what it is given, unless that is null. -/
def ofDatum? : Datum → Option CountCell
  | .null => none
  | .int value => some (.int value)
  | .real value => some (ofReal value)
  | .text content => some (ofText content)
  | .bytes content => some (.bytes content)

def toValue : CountCell → Value
  | .int value => .int value
  | .real value => .float value
  | .text content => .text content
  | .bytes content => .scalar (.bytes content)

/-- The number at the beginning of some characters, or zero. -/
def leading (characters : List Char) : CountCell :=
  match Number.leadingNumeral? (characters.dropWhile isSpace) with
  | none => .int 0
  | some found => ofNumeral found

/-- A column of counts with an integer added to it.  A sum that is too large for
an integer becomes a floating point number; a text counts as the number at its
beginning. -/
def plus (cell : CountCell) (amount : Int) : CountCell :=
  match cell with
  | .int value => ofInt value
  | .real value => ofReal (value.sum (.ofInt amount))
  | .text content => ofLeading content.toList
  | .bytes content => ofLeading (content.map fun byte => Char.ofNat byte.toNat)
where
  ofInt (value : Int) : CountCell :=
    if Datum.isInt (value + amount) then .int (value + amount)
    else ofReal ((Binary64.ofInt value).sum (.ofInt amount))
  /-- The number at the beginning of a text with the amount added to it. -/
  ofLeading (characters : List Char) : CountCell :=
    match leading characters with
    | .real value => ofReal (value.sum (.ofInt amount))
    | .int value => ofInt value
    | other => other

end CountCell

/-- What a column of JSON keeps of a value that it is given. -/
def Json.kept : Json → Json
  | .int value =>
    if Datum.isInt value then .int value else .float (.ofInt value)
  | .float value =>
    match CountCell.ofReal value with
    | .int whole => .int whole
    | _ => .float value
  | other => other

end WorkflowExchange

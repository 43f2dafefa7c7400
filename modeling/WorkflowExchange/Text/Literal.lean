import WorkflowExchange.Number.Positional
import WorkflowExchange.Text.Printable

/-!
# Text and byte literals

A literal stands between single quotation marks, or between double ones when it
holds a single mark and no double one.  The mark in use and the backslash are
escaped, and a character that cannot be shown is written by its code in two,
four or eight hexadecimal digits.
-/

namespace WorkflowExchange.Text

/-- The quotation mark that a literal of some characters uses. -/
def quotationMark (characters : List Char) : Char :=
  if characters.contains '\'' && !characters.contains '"' then '"' else '\''

def codeEscape (code : Nat) : List Char :=
  if code < 0x100 then '\\' :: 'x' :: Number.hexDigits 2 code
  else if code < 0x10000 then '\\' :: 'u' :: Number.hexDigits 4 code
  else '\\' :: 'U' :: Number.hexDigits 8 code

/-- The written form of a character inside a literal. -/
def literalEscape (shown : Char → Bool) (mark character : Char) : List Char :=
  if character = mark || character = '\\' then ['\\', character]
  else if character = '\n' then ['\\', 'n']
  else if character = '\r' then ['\\', 'r']
  else if character = '\t' then ['\\', 't']
  else if shown character then [character]
  else codeEscape character.toNat

def literalOf (shown : Char → Bool) (characters : List Char) : String :=
  let mark := quotationMark characters
  String.ofList
    (mark :: characters.flatMap (literalEscape shown mark) ++ [mark])

def literal (text : String) : String :=
  literalOf isPrintable text.toList

def isAsciiPrintable (character : Char) : Bool :=
  0x20 ≤ character.toNat && character.toNat < 0x7F

def byteLiteral (bytes : List UInt8) : String :=
  "b" ++ literalOf isAsciiPrintable
    (bytes.map fun byte => Char.ofNat byte.toNat)

end WorkflowExchange.Text

import WorkflowExchange.Json.Basic
import WorkflowExchange.Number.Positional
import WorkflowExchange.Number.Shortest

/-!
# Writing JSON text

Text is written in ASCII: a character outside it becomes one `\u` escape for
each of its UTF-16 units.  A `Layout` fixes what stands between the items of an
array or object and after a key; `spaced` writes on one line with a blank after
each comma and colon, `compact` without blanks, and `indented` puts each item
on a line of its own.
-/

namespace WorkflowExchange.Json

def escapeUnit (unit : Nat) : List Char :=
  '\\' :: 'u' :: Number.hexDigits 4 unit

def units (character : Char) : List Nat :=
  let code := character.toNat
  if code < 0x10000 then [code]
  else [0xD800 + (code - 0x10000) / 0x400, 0xDC00 + (code - 0x10000) % 0x400]

/-- The written form of one character inside a text. -/
def escape (character : Char) : List Char :=
  match character with
  | '"' => ['\\', '"']
  | '\\' => ['\\', '\\']
  | '\n' => ['\\', 'n']
  | '\r' => ['\\', 'r']
  | '\t' => ['\\', 't']
  | '\x08' => ['\\', 'b']
  | '\x0c' => ['\\', 'f']
  | _ =>
    if 0x20 ≤ character.toNat && character.toNat < 0x7F then [character]
    else (units character).flatMap escapeUnit

def quoted (text : String) : String :=
  "\"" ++ String.ofList (text.toList.flatMap escape) ++ "\""

/-- A text given by its code points, between quotation marks. -/
def quotedCodes (codes : List Nat) : String :=
  "\"" ++ String.ofList (codes.flatMap fun code =>
    if code.isValidChar then escape (Char.ofNat code) else escapeUnit code) ++
    "\""

/-- The text of a number; the special ones are `NaN` and `Infinity`. -/
def floatText : Binary64 → String :=
  Binary64.textWith ⟨"NaN", "Infinity"⟩

/-- How the parts of an array or object are set apart. -/
inductive Layout where
  | spaced
  | compact
  | indented
  deriving DecidableEq

namespace Layout

/-- A new line at a nesting level, in the indented layout. -/
def newline (layout : Layout) (level : Nat) : String :=
  match layout with
  | .indented => "\n" ++ String.ofList (List.replicate (2 * level) ' ')
  | _ => ""

/-- What stands between two items at a nesting level. -/
def separator (layout : Layout) (level : Nat) : String :=
  match layout with
  | .spaced => ", "
  | .compact => ","
  | .indented => "," ++ layout.newline level

/-- What stands between a key and its value. -/
def colon : Layout → String
  | .compact => ":"
  | _ => ": "

end Layout

mutual
/-- The text of a value at a nesting level. -/
def writeAt (layout : Layout) (level : Nat) : Json → String
  | .null => "null"
  | .bool value => if value then "true" else "false"
  | .int value => toString value
  | .float value => floatText value
  | .text value => quoted value
  | .halves codes => quotedCodes codes
  | .array [] => "[]"
  | .array (first :: rest) =>
    "[" ++ layout.newline (level + 1) ++ writeAt layout (level + 1) first ++
      writeItems layout (level + 1) rest ++ layout.newline level ++ "]"
  | .object [] => "\x7b\x7d"
  | .object (first :: rest) =>
    "\x7b" ++ layout.newline (level + 1) ++
      writeMember layout (level + 1) first ++
      writeMembers layout (level + 1) rest ++ layout.newline level ++ "\x7d"
termination_by structural value => value

/-- The text of the items after the first one. -/
def writeItems (layout : Layout) (level : Nat) : List Json → String
  | [] => ""
  | item :: rest =>
    layout.separator level ++ writeAt layout level item ++
      writeItems layout level rest
termination_by structural items => items

def writeMember (layout : Layout) (level : Nat) : String × Json → String
  | (key, value) => quoted key ++ layout.colon ++ writeAt layout level value
termination_by structural member => member

/-- The text of the members after the first one. -/
def writeMembers (layout : Layout) (level : Nat) :
    List (String × Json) → String
  | [] => ""
  | member :: rest =>
    layout.separator level ++ writeMember layout level member ++
      writeMembers layout level rest
termination_by structural members => members
end

def write (layout : Layout) (value : Json) : String :=
  value.writeAt layout 0

end WorkflowExchange.Json

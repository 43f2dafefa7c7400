import WorkflowExchange.Text.Wide
import WorkflowExchange.Value.Basic

/-!
# Values as text

`Value.display` is the text of a value in running prose: a text is itself, plain
data is written plainly, and a container is written as its literal.
`Value.literal` is the text of a value inside a container, where a text stands
between quotation marks.  An integer with more digits than are written is a fault, and
so is a value that is nested too deeply.  A `Writer` has these limits.
-/

namespace WorkflowExchange

/-- The limits of the host at the place where a value is written.  How far it goes into
containers depends on what it does already, and its limits for literals and for JSON need
not be the same. -/
structure Writer where
  literalDepth : Nat
  jsonDepth : Nat
  /-- The greatest number of digits of an integer, if there is one. -/
  digits? : Option Nat

/-- The limits that a host usually has. -/
def Writer.usual : Writer := ⟨1000, 1000, some Number.digitLimit⟩

namespace Scalar

def complexPart (value : Binary64) : String :=
  let shown := value.text
  if shown.endsWith ".0" then (shown.dropEnd 2).toString else shown

def complexText (real imaginary : Binary64) : String :=
  let lower := complexPart imaginary
  if real = Binary64.zero false then lower ++ "j"
  else
    complexPart real ++ (if lower.startsWith "-" then "" else "+") ++ lower ++ "j"

/-- A date and a time of day with a blank between them. -/
def spacedMoment (iso : String) : String :=
  iso.map fun character => if character = 'T' then ' ' else character

def twoDigits (number : Int) : String :=
  (if number < 10 then "0" else "") ++ toString number

/-- The text of a duration: its days, and its hours, minutes and seconds. -/
def durationText (days seconds microseconds : Int) : String :=
  let dayText :=
    if days = 0 then ""
    else
      toString days ++ (if days.natAbs = 1 then " day, " else " days, ")
  let fraction :=
    if microseconds = 0 then ""
    else
      let digits := toString microseconds
      "." ++ String.ofList (List.replicate (6 - digits.length) '0') ++ digits
  dayText ++ toString (seconds / 3600) ++ ":" ++
    twoDigits (seconds / 60 % 60) ++ ":" ++ twoDigits (seconds % 60) ++ fraction

/-- Has an integer no more digits than are written? -/
def isWritten (digits? : Option Nat) (value : Int) : Bool :=
  digits?.all fun digits => value.natAbs < Number.tenTo digits

def intText (digits? : Option Nat) (value : Int) : Except Fault String :=
  if isWritten digits? value then .ok (toString value) else .error .badValue

/-- The text of a scalar in running prose, with a replacement for each half of a pair. -/
def prose (digits? : Option Nat) : Scalar → Except Fault String
  | .null => .ok "None"
  | .bool value => .ok (if value then "True" else "False")
  | .int value => intText digits? value
  | .float value => .ok value.text
  | .text value => .ok value
  | .halves codes => .ok (Wide.shown codes)
  | .bytes value => .ok (Text.byteLiteral value)
  | .complex real imaginary =>
    let shown := complexText real imaginary
    .ok (if real = Binary64.zero false then shown else "(" ++ shown ++ ")")
  | .decimal numeral => .ok numeral
  | .uuid digits => .ok digits
  | .datetime iso => .ok (spacedMoment iso)
  | .date iso => .ok iso
  | .time iso => .ok iso
  | .duration days seconds microseconds =>
    .ok (durationText days seconds microseconds)

/-- The text of a scalar in running prose. -/
def display (digits? : Option Nat) : Scalar → Except Fault Wide
  | .halves codes => .ok codes
  | other => (other.prose digits?).map Wide.ofString

def numbersIn (characters : List Char) : List Nat :=
  (Text.runs (!Number.isDigit ·) characters).map Number.ofDigits

/-- The numbers without a last zero, and then without another one. -/
def withoutZeros (numbers : List Nat) : List Nat :=
  let drop (numbers : List Nat) : List Nat :=
    if numbers.getLast? = some 0 then numbers.dropLast else numbers
  if numbers.getLast? = some 0 then drop (drop numbers) else numbers

/-- The literal of a duration, from its parts that are not zero. -/
def durationLiteral (days seconds microseconds : Int) : String :=
  let part (name : String) (value : Int) : List String :=
    if value = 0 then [] else [name ++ "=" ++ toString value]
  let parts := part "days" days ++ part "seconds" seconds ++
    part "microseconds" microseconds
  "datetime.timedelta(" ++
    (if parts.isEmpty then "0" else String.intercalate ", " parts) ++ ")"

def offsetLiteral (offset : List Char) : List String :=
  match offset with
  | [] => []
  | sign :: rest =>
    let numbers := numbersIn rest
    let size : Int :=
      3600 * numbers.getD 0 0 + 60 * numbers.getD 1 0 + numbers.getD 2 0
    let seconds := if sign = '-' then -size else size
    if seconds = 0 then ["tzinfo=datetime.timezone.utc"]
    else
      ["tzinfo=datetime.timezone(" ++
        durationLiteral (seconds / 86400) (seconds % 86400) 0 ++ ")"]

def splitOffset (characters : List Char) : List Char × List Char :=
  characters.span fun character => character != '+' && character != '-'

/-- The literal of a date, a time of day or both. -/
def momentLiteral (type : String) (calendar timeOfDay : List Char) : String :=
  let (clock, offset) := splitOffset timeOfDay
  let numbers :=
    match numbersIn clock with
    | [hour, minute, second] => [hour, minute, second, 0]
    | others => others
  "datetime." ++ type ++ "(" ++ String.intercalate ", "
    ((numbersIn calendar ++ withoutZeros numbers).map toString ++
      offsetLiteral offset) ++ ")"

/-- The text of a scalar inside a container. -/
def literal (digits? : Option Nat) : Scalar → Except Fault String
  | .text value => .ok (Text.literal value)
  | .halves codes => .ok (Wide.literal codes)
  | .decimal numeral => .ok ("Decimal('" ++ numeral ++ "')")
  | .uuid digits => .ok ("UUID('" ++ digits ++ "')")
  | .datetime iso =>
    let (calendar, clock) := iso.toList.span (· != 'T')
    .ok (momentLiteral "datetime" calendar (clock.drop 1))
  | .date iso => .ok (momentLiteral "date" iso.toList [])
  | .time iso => .ok (momentLiteral "time" [] iso.toList)
  | .duration days seconds microseconds =>
    .ok (durationLiteral days seconds microseconds)
  | other => other.prose digits?

end Scalar

/-- The text of a foreign value; no address is shown. -/
def Foreign.display : Foreign → String
  | .routine _ _ qualifiedName => "<function " ++ qualifiedName ++ ">"
  | .blueprint _ _ qualifiedName => "<class '" ++ qualifiedName ++ "'>"
  | other => "<" ++ other.typeName ++ " object>"

namespace Value

/-- The text of a dictionary of a class, given the texts of its keys and
values. -/
def dictLiteral (type : String) (entries : List (String × String)) : String :=
  let braced :=
    "\x7b" ++ String.intercalate ", " (entries.map fun entry =>
      entry.1 ++ ": " ++ entry.2) ++ "\x7d"
  match type with
  | "OrderedDict" =>
    if entries.isEmpty then "OrderedDict()"
    else
      "OrderedDict([" ++ String.intercalate ", " (entries.map fun entry =>
        "(" ++ entry.1 ++ ", " ++ entry.2 ++ ")") ++ "])"
  | "defaultdict" => "defaultdict(None, " ++ braced ++ ")"
  | _ => braced

def setLiteral (frozen : Bool) (members : List String) : String :=
  let braced := "\x7b" ++ String.intercalate ", " members ++ "\x7d"
  match frozen, members with
  | false, [] => "set()"
  | false, _ => braced
  | true, [] => "frozenset()"
  | true, _ => "frozenset(" ++ braced ++ ")"

/-- Texts in round brackets after a name, each behind its own name. -/
def namedLiteral (type : String) (parts : List (String × String)) : String :=
  type ++ "(" ++ String.intercalate ", " (parts.map fun part =>
    part.1 ++ "=" ++ part.2) ++ ")"

/-- The text of a tuple of a class, given the texts of its items. -/
def tupleLiteral (cls : TupleClass) (items : List String) : String :=
  match cls, items with
  | .named type fieldNames, _ => namedLiteral type (fieldNames.zip items)
  | _, [item] => "(" ++ item ++ ",)"
  | _, _ => "(" ++ String.intercalate ", " items ++ ")"

variable (digits? : Option Nat)

mutual
/-- The text of a value inside a container.  The declared fields of a record are read
one by one, unless the record is a model, which shows those that it has. -/
def literal : Value → Except Fault String
  | .scalar data => data.literal digits?
  | .member type name _ value => do
    let shown ← literal value
    pure ("<" ++ type ++ "." ++ name ++ ": " ++ shown ++ ">")
  | .foreign thing => .ok thing.display
  | .set frozen members => do
    let shown ← literals members
    pure (setLiteral frozen shown)
  | .dict type _ entries => do
    let shown ← entryLiterals entries
    pure (dictLiteral type shown)
  | .list _ _ items => do
    let shown ← literals items
    pure ("[" ++ String.intercalate ", " shown ++ "]")
  | .tuple cls _ items => do
    let shown ← literals items
    pure (tupleLiteral cls shown)
  | .record .plain type fields _ failing => do
    let shown ← fieldLiterals failing fields
    pure (namedLiteral type shown)
  | .record .model type fields extra _ => do
    let shown ← fieldLiterals none fields
    let others ← fieldLiterals none extra
    pure (namedLiteral type (shown ++ others))
  | .shared _ => .error .tooDeep
  | .loop (some mark) => .ok mark
  | .loop none => .error .tooDeep
termination_by structural value => value

def literals : List Value → Except Fault (List String)
  | [] => .ok []
  | item :: rest => do
    let shown ← literal item
    let others ← literals rest
    pure (shown :: others)
termination_by structural items => items

def entryLiterals : List (Value × Value) → Except Fault (List (String × String))
  | [] => .ok []
  | (key, value) :: rest => do
    let shownKey ← literal key
    let shown ← literal value
    let others ← entryLiterals rest
    pure ((shownKey, shown) :: others)
termination_by structural entries => entries

def fieldLiterals (failing : Option Failing) :
    List (String × Value) → Except Fault (List (String × String))
  | [] => Failing.ended failing []
  | (name, value) :: rest => do
    Failing.checked failing
    let shown ← literal value
    let others ← fieldLiterals (failing.map Failing.next) rest
    pure ((name, shown) :: others)
termination_by structural fields => fields
end

/-- The text of a value in running prose. -/
def display : Value → Except Fault Wide
  | .scalar data => data.display digits?
  | .member type name _ _ => .ok (type ++ "." ++ name)
  | .record .model _ fields extra _ => do
    let shown ← fieldLiterals digits? none (fields ++ extra)
    pure (String.intercalate " " (shown.map fun part => part.1 ++ "=" ++ part.2))
  | other => (other.literal digits?).map Wide.ofString

end Value

namespace Heap

def display (heap : Heap) (writer : Writer) (value : Value) : Except Fault Wide :=
  (heap.unfold writer.literalDepth value).display writer.digits?

end Heap

namespace Value

/-- The value that a wide text is. -/
def ofWide (wide : Wide) : Value :=
  match wide.string? with
  | some content => .text content
  | none => .scalar (.halves wide)

/-- The wide text that a value is, for texts and members of a text enumeration. -/
def asWide? (value : Value) : Option Wide :=
  match value.plain with
  | .scalar (.text content) => some content
  | .scalar (.halves codes) => some codes
  | _ => none

end Value

end WorkflowExchange

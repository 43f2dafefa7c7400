import WorkflowExchange.Json.Basic
import WorkflowExchange.Time.Iso
import WorkflowExchange.Value.Basic

/-!
# Portable forms

`Value.portable` gives any value its standard JSON form: dates and times in ISO
notation with `Z` for universal time, durations in ISO notation with years of
365 days, decimals and identifiers as texts, bytes as the text that they encode,
sets as arrays and records as objects.  A foreign value has no portable form,
except a generator, which has nothing left to give.

`Value.ofJson` goes the other way and reads a JSON value as a live one.
-/

namespace WorkflowExchange

/-- What becomes of the numbers that are not finite. -/
inductive SpecialNumbers where
  | kept
  | asNull
  deriving DecidableEq

namespace Scalar

/-- An offset from universal time in whole minutes, or `Z` for none. -/
def portableOffset (microseconds : Int) : String :=
  let seconds := microseconds.fdiv Moment.second
  let minutes := seconds.natAbs / 60
  if seconds = 0 then "Z"
  else
    (if seconds < 0 then "-" else "+") ++ Moment.padded 2 (minutes / 60) ++
      ":" ++ Moment.padded 2 (minutes % 60)

def portableTime (characters : List Char) : String :=
  let (clock, offset) := IsoTime.splitOffset characters
  String.ofList clock ++
    ((IsoTime.offsetOf? offset).map portableOffset).getD ""

def portableDatetime (iso : String) : String :=
  let (calendar, rest) := iso.toList.span (· != 'T')
  String.ofList calendar ++ String.ofList (rest.take 1) ++
    portableTime (rest.drop 1)

/-- A number followed by a letter, or nothing for zero. -/
def isoPart (number : Nat) (letter : String) : String :=
  if number = 0 then "" else toString number ++ letter

/-- The seconds of a duration with their fraction, without last zeros. -/
def isoSeconds (seconds microseconds : Nat) : String :=
  if seconds = 0 && microseconds = 0 then ""
  else if microseconds = 0 then toString seconds ++ "S"
  else
    let digits := Nat.toDigits 10 microseconds
    let padded := List.replicate (6 - digits.length) '0' ++ digits
    let stripped := (padded.reverse.dropWhile (· == '0')).reverse
    toString seconds ++ "." ++ String.ofList stripped ++ "S"

def isoDuration (days seconds microseconds : Int) : String :=
  let total := (days * 86400 + seconds) * 1000000 + microseconds
  let size := total.natAbs
  let dayCount := size / 86400000000
  let rest := size % 86400000000
  let clock := rest / 1000000
  let date := isoPart (dayCount / 365) "Y" ++ isoPart (dayCount % 365) "D"
  let time := isoPart (clock / 3600) "H" ++ isoPart (clock / 60 % 60) "M" ++
    isoSeconds (clock % 60) (rest % 1000000)
  let shown :=
    if size = 0 then "T0S"
    else date ++ (if time.isEmpty then "" else "T" ++ time)
  (if total < 0 then "-P" else "P") ++ shown

/-- A complex number as one text: its real part unless that is zero, and its
imaginary part.  A plus stands before an imaginary part without a minus. -/
def complexParts (real imaginary : Binary64) : String :=
  let lower := imaginary.plainText ++ "j"
  let isPlus :=
    match imaginary with
    | .nan => true
    | .infinite negative => !negative
    | .finite negative _ _ => !negative
  if real.isZero then lower
  else real.plainText ++ (if isPlus then "+" else "") ++ lower

def decoded (bytes : List UInt8) : Except Fault String :=
  match String.fromUTF8? ⟨bytes.toArray⟩ with
  | some content => .ok content
  | none => .error .badText

def portable (specials : SpecialNumbers) : Scalar → Except Fault Json
  | .null => .ok .null
  | .bool value => .ok (.bool value)
  | .int value => .ok (.int value)
  | .float (.finite negative significand exponent) =>
    .ok (.float (.finite negative significand exponent))
  | .float special =>
    .ok (if specials = .asNull then .null else .float special)
  | .text value => .ok (.text value)
  | .halves _ => .error .notSerializable
  | .bytes value => (decoded value).map .text
  | .complex real imaginary => .ok (.text (complexParts real imaginary))
  | .decimal numeral => .ok (.text numeral)
  | .uuid digits => .ok (.text digits)
  | .datetime iso => .ok (.text (portableDatetime iso))
  | .date iso => .ok (.text iso)
  | .time iso => .ok (.text (portableTime iso.toList))
  | .duration days seconds microseconds =>
    .ok (.text (isoDuration days seconds microseconds))

def portableKey (specials : SpecialNumbers) : Scalar → Except Fault String
  | .null => .ok "None"
  | .bool value => .ok (if value then "true" else "false")
  | .int value => .ok (toString value)
  | .float value =>
    .ok (if specials = .asNull && !value.isFinite then "None" else value.text)
  | other =>
    match other.portable .kept with
    | .ok (.text shown) => .ok shown
    | .ok _ => .error .notSerializable
    | .error fault => .error fault

end Scalar

namespace Value

mutual
/-- The text of a value as the key of a portable object.  A container other than
a tuple cannot be a key. -/
def portableKey (specials : SpecialNumbers) : Value → Except Fault String
  | .scalar data => data.portableKey specials
  | .member _ _ _ value => portableKey specials value
  | .tuple _ _ items =>
    (portableKeys specials items).map (String.intercalate ",")
  | .foreign (.resource "generator") => .error .wrongType
  | .foreign _ => .error .notSerializable
  | _ => .error .wrongType
termination_by structural value => value

def portableKeys (specials : SpecialNumbers) :
    List Value → Except Fault (List String)
  | [] => .ok []
  | item :: rest => do
    let shown ← portableKey specials item
    let others ← portableKeys specials rest
    pure (shown :: others)
termination_by structural items => items
end

mutual
/-- The standard JSON form of a value of any depth.  Of two entries whose keys
have the same text the later one counts. -/
def portableForm (specials : SpecialNumbers) : Value → Except Fault Json
  | .scalar data => data.portable specials
  | .member _ _ _ value => portableForm specials value
  | .foreign (.resource "generator") => .ok (.array [])
  | .foreign _ => .error .notSerializable
  | .set _ members => (portableItems specials members).map .array
  | .dict _ _ entries =>
    (portableEntries specials entries).map (.object ∘ Json.merged)
  | .list _ _ items => (portableItems specials items).map .array
  | .tuple _ _ items => (portableItems specials items).map .array
  | .record .plain _ fields _ failing => do
    let members ← portableFields specials failing fields
    pure (.object members)
  | .record .model _ fields extra _ => do
    let members ← portableFields specials none fields
    let others ← portableFields specials none extra
    pure (.object (members ++ others))
  | .shared _ => .error .badValue
  | .loop _ => .error .badValue
termination_by structural value => value

def portableItems (specials : SpecialNumbers) :
    List Value → Except Fault (List Json)
  | [] => .ok []
  | item :: rest => do
    let shown ← portableForm specials item
    let others ← portableItems specials rest
    pure (shown :: others)
termination_by structural items => items

def portableEntries (specials : SpecialNumbers) :
    List (Value × Value) → Except Fault (List (String × Json))
  | [] => .ok []
  | (key, value) :: rest => do
    let name ← portableKey specials key
    let shown ← portableForm specials value
    let others ← portableEntries specials rest
    pure ((name, shown) :: others)
termination_by structural entries => entries

def portableFields (specials : SpecialNumbers) (failing : Option Failing) :
    List (String × Value) → Except Fault (List (String × Json))
  | [] => Failing.ended failing []
  | (name, value) :: rest => do
    Failing.checked failing
    let shown ← portableForm specials value
    let others ← portableFields specials (failing.map Failing.next) rest
    pure ((name, shown) :: others)
termination_by structural fields => fields
end

/-- The depth that the standard JSON form of a value may have. -/
def portableDepth : Nat := 255

/-- The standard JSON form of a value that is not nested too deeply. -/
def portable (specials : SpecialNumbers) (value : Value) : Except Fault Json := do
  let form ← value.portableForm specials
  if form.depth ≤ portableDepth then pure form else .error .badValue

mutual
def ofJson : Json → Value
  | .null => null
  | .bool value => bool value
  | .int value => int value
  | .float value => float value
  | .text value => text value
  | .halves codes => .scalar (.halves codes)
  | .array items => plainList (ofItems items)
  | .object members => plainDict (ofMembers members)
termination_by structural value => value

def ofItems : List Json → List Value
  | [] => []
  | item :: rest => ofJson item :: ofItems rest
termination_by structural items => items

def ofMembers : List (String × Json) → List (Value × Value)
  | [] => []
  | (key, value) :: rest => (text key, ofJson value) :: ofMembers rest
termination_by structural members => members
end

end Value

end WorkflowExchange

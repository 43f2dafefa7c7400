import WorkflowExchange.Copy.Depth
import WorkflowExchange.Intake.Fit
import WorkflowExchange.Text.Blank
import WorkflowExchange.Value.Access
import WorkflowExchange.Value.Agreement
import WorkflowExchange.Value.Display
import WorkflowExchange.Value.Portable

/-!
# Rules for declared fields

A rule says how a value is read as something declared: a text, a truth value, a
number, a list or a dictionary.  The rules are lax: bytes are read as the text
that they encode, and a truth value may be given as a number or as a word.
-/

namespace WorkflowExchange

/-- How a value is read as something declared. -/
abbrev Rule (α : Type) := Heap → Value → Fit α

namespace Rule

/-- The value is no text in Unicode. -/
def noUnicode {α : Type} : Fit α :=
  .misfit "string_unicode"
    "Input should be a valid string, unable to parse raw data as a unicode string"

/-- A text, bytes that encode one, or a member of an enumeration, whose value is
written as a text. -/
def text : Rule String := fun heap value =>
  match heap.resolve value with
  | .scalar (.text content) => .fits content
  | .scalar (.halves _) => noUnicode
  | .scalar (.bytes content) =>
    match Scalar.decoded content with
    | .ok content => .fits content
    | .error _ => noUnicode
  | .member _ _ _ value =>
    match value.display Number.digitLimit with
    | .ok shown =>
      match shown.string? with
      | some content => .fits content
      | none => noUnicode
    | .error fault => .breaks fault
  | _ => .misfit "string_type" "Input should be a valid string"

def nonEmptyText : Rule String := fun heap value =>
  (text heap value).andThen fun content =>
    if content.isEmpty then
      .misfit "string_too_short" "String should have at least 1 character"
    else .fits content

def trueWords : List String := ["1", "t", "y", "on", "yes", "true"]

def falseWords : List String := ["0", "f", "n", "no", "off", "false"]

/-- The least integer that is too large for a number to be looked at. -/
def wideBound : Int := Number.twoTo 63

/-- A whole number that a floating point number is, if it is one of moderate
size. -/
def moderate? (number : Binary64) : Option Int :=
  number.toInt?.filter fun whole => -wideBound < whole && whole < wideBound

def noTruth : Fit Bool :=
  .misfit "bool_type" "Input should be a valid boolean"

/-- The value might be a truth value but cannot be told. -/
def unclearTruth : Fit Bool :=
  .misfit "bool_parsing"
    "Input should be a valid boolean, unable to interpret input"

def truthOfInt : Int → Fit Bool
  | 0 => .fits false
  | 1 => .fits true
  | _ => unclearTruth

def truthOfFloat (number : Binary64) : Fit Bool :=
  match moderate? number with
  | some whole => truthOfInt whole
  | none => noTruth

/-- The truth value that a word stands for, in any case. -/
def truthOfText (content : String) : Fit Bool :=
  let word := content.map Char.toLower
  if word ∈ trueWords then .fits true
  else if word ∈ falseWords then .fits false
  else unclearTruth

/-- A truth value, also as a number or a word. -/
def truth : Rule Bool := fun heap value =>
  match (heap.resolve value).plain with
  | .scalar (.bool content) => .fits content
  | .scalar (.text content) => truthOfText content
  | .scalar (.halves _) => noUnicode
  | .scalar (.bytes content) =>
    match Scalar.decoded content with
    | .ok content => truthOfText content
    | .error _ => unclearTruth
  | .scalar (.int number) =>
    if -wideBound ≤ number && number < wideBound then truthOfInt number
    else noTruth
  | .scalar (.float number) => truthOfFloat number
  | .scalar (.decimal numeral) =>
    truthOfFloat ((Number.float? numeral.toList).getD .nan)
  | _ => noTruth

def optional {α : Type} (rule : Rule α) : Rule (Option α) := fun heap value =>
  match heap.resolve value with
  | .scalar .null => .fits none
  | other => some <$> rule heap other

/-- A list, also given as a tuple or a set. -/
def list {α : Type} (rule : Rule α) : Rule (List α) := fun heap value =>
  match heap.resolve value with
  | .list _ _ items => read heap items
  | .tuple _ _ items => read heap items
  | .set _ members => read heap members
  | _ => .misfit "list_type" "Input should be a valid list"
where
  read (heap : Heap) (items : List Value) : Fit (List α) :=
    Fit.all (fun entry => (rule heap entry.1).within (.index entry.2))
      (items.zipIdx.map fun entry => (entry.1, (entry.2 : Int)))

def keyStep (key : Value) : Step :=
  match key.plain with
  | .scalar (.text content) => .field content
  | .scalar (.int number) =>
    if -wideBound ≤ number && number < wideBound then .index number
    else .field (toString number)
  | .scalar (.bool content) => .index (if content then 1 else 0)
  | other =>
    match other.literal Number.digitLimit with
    | .ok shown => .field shown
    | .error _ => .field ("<unprintable " ++ other.typeName ++ " object>")

/-- A dictionary whose keys are texts. -/
def dictionary : Rule Value := fun heap value =>
  match heap.resolve value with
  | .dict _ _ entries =>
    (fun read => Value.plainDict (Value.distinctEntries read)) <$>
      Fit.all
        (fun entry =>
          ((fun key => (Value.text key, entry.2)) <$>
            (text heap entry.1).within (.field "[key]")).within
              (keyStep entry.1))
        entries
  | _ => .misfit "dict_type" "Input should be a valid dictionary"

/-- Data that may not be nested deeper than a graph may be. -/
def shallow {α : Type} (toValue : α → Value) (rule : Rule α) : Rule α :=
  fun heap value =>
    (rule heap value).andThen fun result =>
      match heap.isNestedBeyond Heap.graphDepth (toValue result) with
      | .error fault => .breaks fault
      | .ok false => .fits result
      | .ok true =>
        .misfit "value_error"
          ("Value error, Graph data is nested deeper than " ++
            toString Heap.graphDepth ++ " levels")

end Rule

end WorkflowExchange

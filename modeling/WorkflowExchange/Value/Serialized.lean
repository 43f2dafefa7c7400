import WorkflowExchange.Json.Writer
import WorkflowExchange.Value.Display
import WorkflowExchange.Value.Portable

/-!
# Serialized values

`Value.serialize` turns a value into JSON the way a plain JSON writer does:
null, truth values, numbers, texts, dictionaries, lists and tuples have a form
of their own, and a rule given by the caller supplies the form of every other
value.  A key that is null, a truth value or a number becomes a text; other keys
are refused, and so is a container inside itself.

A column of the store uses the portable form as its rule (`Value.stored`), the
summary for a description the display text (`Heap.described`).
-/

namespace WorkflowExchange

namespace Scalar

def key (digits? : Option Nat) : Scalar → Except Fault String
  | .null => .ok "null"
  | .bool value => .ok (if value then "true" else "false")
  | .int value => intText digits? value
  | .float value => .ok (Json.floatText value)
  | .text value => .ok value
  | _ => .error .wrongType

end Scalar

namespace Value

/-- The text of a value as an object key. -/
def key (digits? : Option Nat) (value : Value) : Except Fault String :=
  match value.plain with
  | .scalar data => data.key digits?
  | _ => .error .wrongType

/-- How a writer goes through a list: it may begin to read even an empty one, or
look first whether there is anything to read. -/
inductive Walk where
  | eager
  | looking
  deriving DecidableEq

/-- How a writer goes through lists, and how many digits an integer may have. -/
structure Manner where
  walk : Walk
  digits? : Option Nat

mutual
/-- The JSON of a value, given the form of the values that have none. -/
def serialize (manner : Manner) (rule : Value → Except Fault Json) :
    Value → Except Fault Json
  | .scalar .null => .ok .null
  | .scalar (.bool value) => .ok (.bool value)
  | .scalar (.int value) =>
    (Scalar.intText manner.digits? value).map fun _ => .int value
  | .scalar (.float value) => .ok (.float value)
  | .scalar (.text value) => .ok (.text value)
  | .scalar (.halves codes) => .ok (.halves codes)
  | .member _ _ (some _) value => serialize manner rule value
  | .dict _ failing entries =>
    match failing, entries with
    | some failing, _ :: _ => .error failing.fault
    | _, _ => (serializeEntries manner rule entries).map .object
  | .list _ failing items =>
    match failing, items, manner.walk with
    | some _, [], .looking => .ok (.array [])
    | some failing, _, _ => .error failing.fault
    | none, _, _ => (serializeItems manner rule items).map .array
  | .tuple _ failing items =>
    match failing, items, manner.walk with
    | some _, [], .looking => .ok (.array [])
    | some failing, _, _ => .error failing.fault
    | none, _, _ => (serializeItems manner rule items).map .array
  | .loop _ => .error .badValue
  | other => rule other
termination_by structural value => value

def serializeItems (manner : Manner) (rule : Value → Except Fault Json) :
    List Value → Except Fault (List Json)
  | [] => .ok []
  | item :: rest => do
    let shown ← serialize manner rule item
    let others ← serializeItems manner rule rest
    pure (shown :: others)
termination_by structural items => items

/-- The members that stand for some entries. -/
def serializeEntries (manner : Manner) (rule : Value → Except Fault Json) :
    List (Value × Value) → Except Fault (List (String × Json))
  | [] => .ok []
  | (key, value) :: rest => do
    let name ← Value.key manner.digits? key
    let shown ← serialize manner rule value
    let others ← serializeEntries manner rule rest
    pure ((name, shown) :: others)
termination_by structural entries => entries
end

/-- The JSON that a column of the store is given. -/
def columnForm (value : Value) : Except Fault Json :=
  value.serialize ⟨.eager, none⟩ fun other =>
    match other with
    | .shared _ => .error .tooDeep
    | _ => other.portable .kept

/-- The JSON that a column of the store gives back.  No limit is set to the digits of its
integers. -/
def stored (value : Value) : Except Fault Json :=
  value.columnForm.map Json.reread

end Value

namespace Json.Layout

/-- How a writer in a layout goes through a list. -/
def walk : Json.Layout → Value.Walk
  | .indented => .looking
  | _ => .eager

end Json.Layout

namespace Heap

/-- The text of a value as JSON in a layout.  Values without a form of their own
are shown by their display text. -/
def described (heap : Heap) (writer : Writer) (layout : Json.Layout)
    (value : Value) : Except Fault String := do
  let manner : Value.Manner := ⟨layout.walk, writer.digits?⟩
  let shown ← (heap.opened writer.jsonDepth value).serialize manner fun other =>
    if (heap.resolve other).isSequential then .error .tooDeep
    else (heap.display writer other).map Json.ofWide
  pure (shown.write layout)

end Heap

end WorkflowExchange

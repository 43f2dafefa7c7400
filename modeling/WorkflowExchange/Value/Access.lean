import WorkflowExchange.Value.Display

/-!
# Access to the parts of a value

`Value.get` asks a dictionary for an entry, `Value.elements` lists what a walk
through a value meets, and `Value.count` tells how many elements it has.  Each
is a fault for a value that has no such parts.
-/

namespace WorkflowExchange

namespace Value

def isDict : Value → Bool
  | .dict _ _ _ => true
  | _ => false

def lookup? (entries : List (Value × Value)) (key : String) : Option Value :=
  (entries.find? fun candidate => candidate.1.asText? = some key).map (·.2)

/-- What asking a value that is no dictionary for an entry ends in.  A class of
dictionaries has the operation but no entries, and a record may have a field of
its name. -/
def unasked : Value → Fault
  | .foreign (.blueprint .dict _ _) => .wrongType
  | .record _ _ fields extra _ =>
    if (fields ++ extra).any (·.1 = "get") then .wrongType else .noAttribute
  | _ => .noAttribute

/-- The value under a text key, or another one.  Only a dictionary can be
asked. -/
def getOr (other : Value) (value : Value) (key : String) :
    Except Fault Value :=
  match value with
  | .dict _ _ entries => .ok ((lookup? entries key).getD other)
  | _ => .error value.unasked

/-- The value under a text key, or null.  Only a dictionary can be asked. -/
def get (value : Value) (key : String) : Except Fault Value :=
  getOr null value key

/-- The characters of a text, each as a text. -/
def characters (content : String) : List Value :=
  content.toList.map fun character => text character.toString

/-- What a walk through a value meets: items, members, keys, characters, bytes
or named fields. -/
def elements (value : Value) : Except Fault (List Value) :=
  match value.plain with
  | .scalar (.text content) => .ok (characters content)
  | .scalar (.halves codes) => .ok (codes.map fun code => .ofWide [code])
  | .scalar (.bytes content) =>
    .ok (content.map fun byte => int byte.toNat)
  | .set _ members => .ok members
  | .dict _ _ entries => .ok (entries.map (·.1))
  | .list _ failing items => Failing.ended failing items
  | .tuple _ failing items => Failing.ended failing items
  | .record .model _ fields extra _ =>
    .ok ((fields ++ extra).map fun field => plainTuple [text field.1, field.2])
  | .foreign (.blueprint .enumeration _ _) => .ok []
  | _ => .error .wrongType

/-- The number of elements of a value. -/
def count (value : Value) : Except Fault Nat :=
  match value.plain with
  | .scalar (.text content) => .ok content.length
  | .scalar (.halves codes) => .ok codes.length
  | .scalar (.bytes content) => .ok content.length
  | .set _ members => .ok members.length
  | .dict _ _ entries => .ok entries.length
  | .list _ _ items => .ok items.length
  | .tuple _ _ items => .ok items.length
  | .foreign (.blueprint .enumeration _ _) => .ok 0
  | _ => .error .wrongType

end Value

end WorkflowExchange

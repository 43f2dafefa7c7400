import WorkflowExchange.Number.Reading

/-!
# Live values

The parameters of a workflow may hold any value of the running host: plain
data, containers that are shared or that contain themselves, functions, classes
and live host objects.  A `Value` describes one of them.

A container of the host stands in a `Heap` under its identity, so that it may be
reached along several paths; a `Value` refers to it by `shared`.  Containers that
are written in place have no identity: they are the finite trees that copying
makes and that a store gives back.  `Heap.resolve` looks through a reference and
`Heap.unfold` replaces references by what they refer to; where a container
contains itself, a `loop` stands for it.
-/

namespace WorkflowExchange

/-- An ordinary error of the host, known by the name of its class. -/
structure Fault where
  className : String
  deriving DecidableEq

namespace Fault

def wrongType : Fault := ⟨"TypeError"⟩

def noAttribute : Fault := ⟨"AttributeError"⟩

def badValue : Fault := ⟨"ValueError"⟩

def badText : Fault := ⟨"UnicodeDecodeError"⟩

def unencodable : Fault := ⟨"UnicodeEncodeError"⟩

def notSerializable : Fault := ⟨"NotSerializable"⟩

def noEntry : Fault := ⟨"KeyError"⟩

def overflow : Fault := ⟨"OverflowError"⟩

def badSetting : Fault := ⟨"SettingsError"⟩

def timeout : Fault := ⟨"TimeoutError"⟩

def invalidOperation : Fault := ⟨"InvalidOperation"⟩

def tooDeep : Fault := ⟨"RecursionError"⟩

end Fault

/-- Immutable plain data.  A text that has halves of UTF-16 pairs in it is given
by its code points. -/
inductive Scalar where
  | null
  | bool (value : Bool)
  | int (value : Int)
  | float (value : Binary64)
  | text (value : String)
  | halves (codes : List Nat)
  | bytes (value : List UInt8)
  | complex (real imaginary : Binary64)
  | decimal (numeral : String)
  | uuid (digits : String)
  | datetime (iso : String)
  | date (iso : String)
  | time (iso : String)
  | duration (days seconds microseconds : Int)
  deriving DecidableEq

/-- The kinds of function that carry a name of their own. -/
inductive RoutineKind where
  | function
  | method
  | staticMethod
  | classMethod
  | builtin
  deriving DecidableEq

/-- What a class object derives from. -/
inductive BlueprintKind where
  | plain
  | model
  | record
  | enumeration
  | dict
  deriving DecidableEq

/-- A value that has no data to copy. -/
inductive Foreign where
  /-- A live host object such as a socket, a file or a lock. -/
  | resource (kind : String)
  /-- A function with its name and its qualified name. -/
  | routine (kind : RoutineKind) (name qualifiedName : String)
  /-- A class with its name and its qualified name. -/
  | blueprint (kind : BlueprintKind) (name qualifiedName : String)
  /-- An object that can be called, with the names it was given, if any. -/
  | callable (type : String) (name? qualifiedName? : Option String)
  | object (type : String)
  deriving DecidableEq

/-- The plain type that the members of an enumeration also have. -/
inductive MemberBase where
  | text
  | int
  deriving DecidableEq

/-- The classes of tuples: plain ones, derived ones, and those with a constructor that takes
their fields. -/
inductive TupleClass where
  | plain
  | derived (type : String)
  | named (type : String) (fieldNames : List String)
  deriving DecidableEq

/-- The two kinds of objects with declared fields; a model also checks them. -/
inductive RecordKind where
  | plain
  | model
  deriving DecidableEq

/-- The identity of a container in a heap. -/
abbrev Identity := Nat

/-- How a container fails when its children are read one by one.  A declared field
that a record does not have is one that cannot be read. -/
structure Failing where
  /-- How many children are read before, unless the reading does not even begin. -/
  after? : Option Nat
  /-- What the reading meets then. -/
  fault : Fault
  deriving DecidableEq

namespace Failing

/-- What is left of a failing when one more child was read. -/
def next (failing : Failing) : Failing :=
  { failing with after? := failing.after?.map (· - 1) }

/-- Go on to the next child, if it can be read. -/
def checked : Option Failing → Except Fault Unit
  | none => .ok ()
  | some failing =>
    if failing.after?.getD 0 = 0 then .error failing.fault else .ok ()

/-- What was made of all children, if the reading ends. -/
def ended {α : Type} (failing : Option Failing) (made : α) : Except Fault α :=
  match failing with
  | none => .ok made
  | some failing => .error failing.fault

end Failing

/-- A live value.

A container that is `failing` cannot be read to its end.  The `fields` of a record are
those declared ones that it has, in their order, and the `extra` ones are not declared.
A `loop` stands for a container inside itself, with the text that is written for it
there, if writing notices it. -/
inductive Value where
  | scalar (data : Scalar)
  | member (type name : String) (base : Option MemberBase) (value : Value)
  | foreign (thing : Foreign)
  | set (frozen : Bool) (members : List Value)
  | dict (type : String) (failing : Option Failing)
      (entries : List (Value × Value))
  | list (type : String) (failing : Option Failing) (items : List Value)
  | tuple (cls : TupleClass) (failing : Option Failing) (items : List Value)
  | record (kind : RecordKind) (type : String)
      (fields extra : List (String × Value)) (failing : Option Failing)
  | shared (identity : Identity)
  | loop (mark? : Option String)

namespace Value

instance : Inhabited Value := ⟨.scalar .null⟩

abbrev null : Value := .scalar .null

abbrev text (content : String) : Value := .scalar (.text content)

abbrev bool (value : Bool) : Value := .scalar (.bool value)

abbrev int (value : Int) : Value := .scalar (.int value)

abbrev float (value : Binary64) : Value := .scalar (.float value)

abbrev plainDict (entries : List (Value × Value)) : Value :=
  .dict "dict" none entries

/-- A dictionary of the plain class with text keys. -/
def ofFields (fields : List (String × Value)) : Value :=
  plainDict (fields.map fun field => (text field.1, field.2))

abbrev plainList (items : List Value) : Value :=
  .list "list" none items

abbrev plainTuple (items : List Value) : Value :=
  .tuple .plain none items

def ofOption (value? : Option Value) : Value :=
  value?.getD null

def ofText? (content? : Option String) : Value :=
  ofOption (content?.map text)

end Value

namespace Scalar

def typeName : Scalar → String
  | .null => "NoneType"
  | .bool _ => "bool"
  | .int _ => "int"
  | .float _ => "float"
  | .text _ => "str"
  | .halves _ => "str"
  | .bytes _ => "bytes"
  | .complex _ _ => "complex"
  | .decimal _ => "Decimal"
  | .uuid _ => "UUID"
  | .datetime _ => "datetime"
  | .date _ => "date"
  | .time _ => "time"
  | .duration _ _ _ => "timedelta"

/-- Is a decimal numeral a signaling NaN, with which nothing can be done? -/
def isSignaling (numeral : String) : Bool :=
  numeral.startsWith "sNaN" || numeral.startsWith "-sNaN"

/-- Does a scalar count as nothing: null, false, a zero or an empty text? -/
def isEmpty : Scalar → Bool
  | .null => true
  | .bool value => !value
  | .int value => value == 0
  | .float value => value.isZero
  | .text value => value.isEmpty
  | .bytes value => value.isEmpty
  | .complex real imaginary => real.isZero && imaginary.isZero
  | .decimal numeral =>
    match Number.numeral? numeral.toList with
    | some number => number.coefficient == 0
    | none => false
  | .duration days seconds microseconds =>
    days == 0 && seconds == 0 && microseconds == 0
  | _ => false

end Scalar

namespace Foreign

def typeName : Foreign → String
  | .resource kind => kind
  | .routine .function _ _ => "function"
  | .routine .method _ _ => "method"
  | .routine .staticMethod _ _ => "staticmethod"
  | .routine .classMethod _ _ => "classmethod"
  | .routine .builtin _ _ => "builtin_function_or_method"
  | .blueprint .model _ _ => "ModelMetaclass"
  | .blueprint .enumeration _ _ => "EnumType"
  | .blueprint _ _ _ => "type"
  | .callable type _ _ => type
  | .object type => type

end Foreign

namespace TupleClass

def name : TupleClass → String
  | .plain => "tuple"
  | .derived type => type
  | .named type _ => type

end TupleClass

namespace Value

/-- The name of the class of a value that is not a reference. -/
def typeName : Value → String
  | .scalar data => data.typeName
  | .member type _ _ _ => type
  | .foreign thing => thing.typeName
  | .set frozen _ => if frozen then "frozenset" else "set"
  | .dict type _ _ => type
  | .list type _ _ => type
  | .tuple cls _ _ => cls.name
  | .record _ type _ _ _ => type
  | .shared _ => "object"
  | .loop _ => "object"

/-- The text that is written for a container inside itself.  Writing a named
tuple or a model does not notice that it comes back to itself. -/
def loopMark? : Value → Option String
  | .dict type _ _ =>
    some (match type with
      | "OrderedDict" => "..."
      | "defaultdict" => "defaultdict(None, \x7b...\x7d)"
      | _ => "\x7b...\x7d")
  | .list _ _ _ => some "[...]"
  | .tuple (.named _ _) _ _ => none
  | .tuple _ _ _ => some "(...)"
  | .record .plain _ _ _ _ => some "..."
  | _ => none

def isSequential : Value → Bool
  | .dict _ _ _ => true
  | .list _ _ _ => true
  | .tuple _ _ _ => true
  | _ => false

/-- Does a value count as nothing?  An empty container does, a record never. -/
def isEmpty : Value → Bool
  | .scalar data => data.isEmpty
  | .member _ _ (some _) value => value.isEmpty
  | .set _ members => members.isEmpty
  | .dict _ _ entries => entries.isEmpty
  | .list _ _ items => items.isEmpty
  | .tuple _ _ items => items.isEmpty
  | _ => false

/-- The plain value that an enumeration member with a base also is. -/
def plain : Value → Value
  | .member _ _ (some _) value => value
  | other => other

/-- The text that a value is, for texts and members of a text enumeration. -/
def asText? (value : Value) : Option String :=
  match value.plain with
  | .scalar (.text content) => some content
  | _ => none

end Value

/-- The containers that may be reached along several paths, by identity. -/
structure Heap where
  cells : Array Value

namespace Heap

def empty : Heap := ⟨#[]⟩

/-- The value that a reference refers to, or the value itself. -/
def resolve (heap : Heap) : Value → Value
  | .shared identity => heap.cells[identity]?.getD .null
  | value => value

/-- The value, or another one when it counts as nothing. -/
def orElse (heap : Heap) (value other : Value) : Value :=
  if (heap.resolve value).isEmpty then other else value

/-- The containers on the way to a value.  Writing notices when it comes back
to one of the `noticed`; the `recent` ones are those on the way since the last of
these whose writing would not notice. -/
structure Trail where
  noticed : List Identity := []
  recent : List Identity := []

namespace Trail

/-- Does a way that leads to a container come back to it? -/
def returns (trail : Trail) (identity : Identity) : Bool :=
  trail.noticed.contains identity || trail.recent.contains identity

/-- The way into a container. -/
def enter (trail : Trail) (identity : Identity) (container : Value) : Trail :=
  match container.loopMark? with
  | some _ => ⟨identity :: trail.noticed, []⟩
  | none => { trail with recent := identity :: trail.recent }

end Trail

mutual
/-- Replace the references of a value by what they refer to, following only
those to certain containers, at most `room` of them on a path and none that
comes back on itself. -/
def unfoldAt (heap : Heap) (follow : Value → Bool) (room : Nat) (trail : Trail) (value : Value) :
    Value :=
  match value with
  | .scalar data => .scalar data
  | .member type name base inner =>
    .member type name base (heap.unfoldAt follow room trail inner)
  | .foreign thing => .foreign thing
  | .set frozen members => .set frozen (heap.unfoldItems follow room trail members)
  | .dict type failing entries =>
    .dict type failing (heap.unfoldEntries follow room trail entries)
  | .list type failing items =>
    .list type failing (heap.unfoldItems follow room trail items)
  | .tuple cls failing items =>
    .tuple cls failing (heap.unfoldItems follow room trail items)
  | .record kind type fields extra failing =>
    .record kind type (heap.unfoldFields follow room trail fields)
      (heap.unfoldFields follow room trail extra) failing
  | .loop mark? => .loop mark?
  | .shared identity =>
    let container := heap.resolve (.shared identity)
    if !follow container then .shared identity
    else if trail.returns identity then .loop container.loopMark?
    else
      match room with
      | 0 => .shared identity
      | room + 1 =>
        heap.unfoldAt follow room (trail.enter identity container) container
termination_by (room, sizeOf value)

def unfoldItems (heap : Heap) (follow : Value → Bool) (room : Nat) (trail : Trail)
    (items : List Value) : List Value :=
  match items with
  | [] => []
  | item :: rest =>
    heap.unfoldAt follow room trail item :: heap.unfoldItems follow room trail rest
termination_by (room, sizeOf items)

def unfoldEntries (heap : Heap) (follow : Value → Bool) (room : Nat) (trail : Trail)
    (entries : List (Value × Value)) : List (Value × Value) :=
  match entries with
  | [] => []
  | (key, value) :: rest =>
    (key, heap.unfoldAt follow room trail value) ::
      heap.unfoldEntries follow room trail rest
termination_by (room, sizeOf entries)

def unfoldFields (heap : Heap) (follow : Value → Bool) (room : Nat) (trail : Trail)
    (fields : List (String × Value)) : List (String × Value) :=
  match fields with
  | [] => []
  | (name, value) :: rest =>
    (name, heap.unfoldAt follow room trail value) ::
      heap.unfoldFields follow room trail rest
termination_by (room, sizeOf fields)
end

/-- The value with its references replaced by what they refer to.  A reference
is left where there is no room for more containers inside each other. -/
def unfold (heap : Heap) (room : Nat) (value : Value) : Value :=
  heap.unfoldAt (fun _ => true) room {} value

/-- The value with references to dictionaries, lists and tuples replaced as far as there
is room, and those to other containers left. -/
def opened (heap : Heap) (room : Nat) (value : Value) : Value :=
  heap.unfoldAt Value.isSequential room {} value

/-- The value with all of its references replaced.  A path that does not come back on
itself passes each container at most once since the last one that is noticed. -/
def closed (heap : Heap) (value : Value) : Value :=
  heap.unfold ((heap.cells.size + 1) * (heap.cells.size + 1)) value

end Heap

end WorkflowExchange

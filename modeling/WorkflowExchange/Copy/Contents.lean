import WorkflowExchange.Value.Basic

/-!
# The contents of containers

`Heap.contents` opens a container: it gives the children in reading order, each
under its key, and the fault that ends the reading, if one does.  Items of lists
and tuples have their index as key and the fields of a record their name.
-/

namespace WorkflowExchange

/-- The plain container that a copy is built as. -/
inductive Form where
  | dict
  | list
  | tuple
  deriving DecidableEq

/-- The children of a container, and the fault met after the last of them. -/
structure Contents where
  form : Form
  children : List (Value × Value)
  failure : Option Fault

/-- Items under their indices, from a first index on. -/
def indexed (first : Nat) : List Value → List (Value × Value)
  | [] => []
  | item :: rest => (.int first, item) :: indexed (first + 1) rest

@[simp]
theorem map_snd_indexed (first : Nat) (items : List Value) :
    (indexed first items).map (·.2) = items := by
  induction items generalizing first with
  | nil => rfl
  | cons item rest hypothesis => simp [indexed, hypothesis]

@[simp]
theorem length_indexed (first : Nat) (items : List Value) :
    (indexed first items).length = items.length := by
  induction items generalizing first with
  | nil => rfl
  | cons item rest hypothesis => simp [indexed, hypothesis]

/-- A plain container with the given children. -/
def Form.build (form : Form) (children : List (Value × Value)) : Value :=
  match form with
  | .dict => .plainDict children
  | .list => .plainList (children.map (·.2))
  | .tuple => .plainTuple (children.map (·.2))

/-- The children that can be read: those before the reading fails. -/
def readable {α : Type} (failing : Option Failing) (children : List α) : List α :=
  match failing with
  | none => children
  | some failing => children.take (failing.after?.getD 0)

namespace Value

/-- The contents of a container that is not a reference. -/
def contents? : Value → Option Contents
  | .dict _ failing entries =>
    some ⟨.dict, readable failing entries, failing.map (·.fault)⟩
  | .list _ failing items =>
    some ⟨.list, readable failing (indexed 0 items), failing.map (·.fault)⟩
  | .tuple _ failing items =>
    some ⟨.tuple, readable failing (indexed 0 items), failing.map (·.fault)⟩
  | .record _ _ fields _ failing =>
    some ⟨.dict, readable failing (fields.map fun field => (text field.1, field.2)),
      failing.map (·.fault)⟩
  | _ => none

/-- The identity of a container that stands in a heap. -/
def identity? : Value → Option Identity
  | .shared identity => some identity
  | _ => none

end Value

namespace Heap

/-- The contents of a value, if it is a container. -/
def contents? (heap : Heap) (value : Value) : Option Contents :=
  (heap.resolve value).contents?

def typeName (heap : Heap) (value : Value) : String :=
  (heap.resolve value).typeName

def onPath (path : List Identity) (value : Value) : Bool :=
  match value.identity? with
  | some identity => path.contains identity
  | none => false

/-- A path followed by the identity of a container, if it has one. -/
def extend (path : List Identity) (value : Value) : List Identity :=
  value.identity?.toList ++ path

end Heap

end WorkflowExchange

import WorkflowExchange.Copy.Full

/-!
# Full copies in a loop

`Heap.copy` is a recursion.  `CopyLoop.step` makes the same copy without one: the
containers that are being copied stand on a stack, each with the children that
are still to be read, and the identities of those containers are kept beside
the stack.  One step deals with one child of the container on top, or takes
the container off when it has no child left and gives what was built of it to the
container below.
-/

namespace WorkflowExchange

/-- A container that is being copied. -/
structure Frame where
  source : Value
  form : Form
  /-- The children that are copied, in reading order. -/
  built : List (Value × Value)
  /-- The children that are still to be read. -/
  waiting : List (Value × Value)
  /-- The fault that ends the reading, if one does. -/
  failure : Option Fault
  /-- The key under which the container below holds this one. -/
  key : Value
  level : Nat

namespace Frame

/-- A container of which no child was read. -/
def opened (source : Value) (contents : Contents) (key : Value) (level : Nat) :
    Frame where
  source
  form := contents.form
  built := []
  waiting := contents.children
  failure := contents.failure
  key
  level

/-- The container with one more child. -/
def put (frame : Frame) (key copied : Value) : Frame :=
  { frame with built := frame.built ++ [(key, copied)] }

/-- The plain container that the frame has become. -/
def result (frame : Frame) : Value :=
  frame.form.build frame.built

end Frame

/-- A copy in progress: the container on top of the stack, those below it and
the identities of all of them; or the outcome. -/
inductive CopyLoop where
  | running (top : Frame) (below : List Frame) (entered : List Identity)
  | ended (outcome : Except Fault Value)

namespace CopyLoop

/-- The identities without that of a container that is taken off the stack. -/
def leave (entered : List Identity) (value : Value) : List Identity :=
  entered.filter fun identity => value.identity? ≠ some identity

/-- Deal with the next child of the container on top of the stack. -/
def visit (heap : Heap) (limit : Int) (top : Frame) (below : List Frame)
    (entered : List Identity) (key child : Value) : CopyLoop :=
  match heap.contents? child with
  | none =>
    .running (top.put key (heap.resolve child).leafCopy) below entered
  | some contents =>
    if Heap.onPath entered child then
      .running (top.put key (.text Value.circularText)) below entered
    else if limit ≤ top.level then
      .running (top.put key (.text (Value.truncatedText (heap.typeName child))))
        below entered
    else
      .running (.opened child contents key (top.level + 1)) (top :: below)
        (Heap.extend entered child)

/-- Take the container off the stack of which no child is left. -/
def close (top : Frame) (below : List Frame) (entered : List Identity) :
    CopyLoop :=
  match below with
  | [] => .ended (.ok top.result)
  | parent :: rest =>
    .running (parent.put top.key top.result) rest (leave entered top.source)

/-- One step of the loop.  A copy that has ended stays as it is. -/
def step (heap : Heap) (limit : Int) : CopyLoop → CopyLoop
  | .running top below entered =>
    match top.waiting with
    | (key, child) :: rest =>
      visit heap limit { top with waiting := rest } below entered key child
    | [] =>
      match top.failure with
      | some fault => .ended (.error fault)
      | none => close top below entered
  | .ended outcome => .ended outcome

/-- The beginning of a copy: the value itself is opened whatever the limit. -/
def start (heap : Heap) (value : Value) : CopyLoop :=
  match heap.contents? value with
  | none => .ended (.ok (heap.resolve value).leafCopy)
  | some contents =>
    .running (.opened value contents .null 1) [] (Heap.extend [] value)

end CopyLoop

end WorkflowExchange

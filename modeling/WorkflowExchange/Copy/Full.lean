import WorkflowExchange.Copy.Contents
import WorkflowExchange.Copy.Leaf

/-!
# Full copies of value graphs

`Heap.copy` copies a value with everything below it.  The copy is a tree of
plain containers that shares nothing with the source:

* a container that is already on the path from the root becomes a text, so the
  copy has no cycles, while a container reached along two separate paths is
  copied twice;
* a container below the depth limit becomes a text that names its class;
* a value that is not a container is copied by `Value.leafCopy`.

The recursion is on the number of container levels that are left.  Children are
read in order and reading stops at the first fault.
-/

namespace WorkflowExchange

namespace Heap

/-- Copy a value below the containers of `path`, with `room` levels of
containers left. -/
def copyBelow (heap : Heap) (room : Nat) (path : List Identity)
    (value : Value) : Except Fault Value :=
  match heap.contents? value with
  | none => .ok (heap.resolve value).leafCopy
  | some contents =>
    if onPath path value then .ok (.text Value.circularText)
    else
      match room with
      | 0 => .ok (.text (Value.truncatedText (heap.typeName value)))
      | room + 1 => do
        let children ← contents.children.mapM fun child => do
          let copied ← heap.copyBelow room (extend path value) child.2
          pure (child.1, copied)
        match contents.failure with
        | some fault => .error fault
        | none => .ok (contents.form.build children)

/-- Copy a value, keeping at most `depth` levels of containers.  The value
itself is opened whatever the limit. -/
def copy (heap : Heap) (depth : Int) (value : Value) : Except Fault Value :=
  heap.copyBelow (max 1 depth).toNat [] value

end Heap

end WorkflowExchange

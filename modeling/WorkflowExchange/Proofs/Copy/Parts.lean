import WorkflowExchange.Proofs.Copy.Faults
import WorkflowExchange.Proofs.Copy.Graph

/-!
# Parts of a graph are copied apart

A graph is copied part by part: every node that is a dictionary, the connections,
the settings and the static data.  Each of them is copied safely on its own, so
that the copy of one says nothing about the others:

* no node that is a dictionary is lost, whatever its copy degrades to, and each
  other item of the node list is dropped with one warning;
* a copy fails for one reason, and only when one level of some part cannot be
  copied;
* what is made of a part depends on what can be reached from that part alone,
  which is a statement about two graphs: `Heap.Isolated`.
-/

namespace WorkflowExchange

namespace Heap

/-! ## What is reached from a value -/

/-- Do two heaps hold the same along every path from a value? -/
def Alike (heap other : Heap) (root : Value) : Prop :=
  ∀ path above last, heap.Along root path above last →
    heap.resolve last = other.resolve last

variable {heap other : Heap} {value : Value}

theorem Alike.resolve (alike : heap.Alike other value) :
    heap.resolve value = other.resolve value :=
  alike [] [] value (.root value)

theorem Alike.contents? (alike : heap.Alike other value) :
    heap.contents? value = other.contents? value :=
  congrArg Value.contents? alike.resolve

theorem Alike.child (alike : heap.Alike other value) {contents : Contents}
    {child : Value × Value} (container : heap.contents? value = some contents)
    (held : child ∈ contents.children) : heap.Alike other child.2 := by
  intro path above last along
  rcases List.mem_iff_getElem?.mp held with ⟨position, found⟩
  exact alike _ _ last (.child container found along)

/-- What a source holds under a key of a graph: null where it holds nothing. -/
def graphPart (heap : Heap) (source : Value) (key : String) : Value :=
  match (heap.resolve source).get key with
  | .ok part => part
  | .error _ => .null

/-- What is copied for the connections: an empty dictionary for connections that
count as nothing. -/
def connectionPart (heap : Heap) (source : Value) : Value :=
  heap.orElse (heap.graphPart source "connections") (.plainDict [])

variable {source : Value} {items : List Value}

/-- What is copied in two graphs is the same value, and all that is reached from
it is the same. -/
structure SamePart (heap other : Heap) (one two : Value) : Prop where
  same : one = two
  alike : heap.Alike other one

theorem alike_plainDict_nil (heap other : Heap) :
    heap.Alike other (.plainDict []) := by
  intro path above last along
  cases along with
  | root => rfl
  | child container held =>
      cases container
      cases held

theorem SamePart.connectionPart {second : Value}
    (part : heap.SamePart other (heap.graphPart source "connections")
      (other.graphPart second "connections")) :
    heap.SamePart other (heap.connectionPart source)
      (other.connectionPart second) := by
  rcases part with ⟨same, alike⟩
  rw [Heap.connectionPart, Heap.connectionPart, orElse, orElse, ← same,
    ← alike.resolve]
  by_cases empty : (heap.resolve (heap.graphPart source "connections")).isEmpty
  · rw [if_pos empty]
    exact ⟨rfl, alike_plainDict_nil heap other⟩
  · rw [if_neg empty]
    exact ⟨rfl, alike⟩

end Heap

end WorkflowExchange

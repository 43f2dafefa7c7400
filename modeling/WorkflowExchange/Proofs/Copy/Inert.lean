import WorkflowExchange.Copy.Safe
import WorkflowExchange.Proofs.Copy.Stable

/-!
# Foreign things in a copy

A safe copy puts a text in the place of every function, class and host object that
stands in it as a value, an item or a field.  It does not look into the keys of
dictionaries, sets and the members of enumerations: these are kept, with whatever
stands in them.  `Heap.foreign_only_in_kept_parts` says that nothing foreign in a
copy stands anywhere else, except for the generator that a named tuple of one field
is made of when it is copied one level deep.

The argument is the same at every container, whichever of the two copies made it:
a container of the copy has keys of its source and children that have been copied
(`Heap.neutral_of_children`).
-/

namespace WorkflowExchange

namespace Value

/-- The values that a value is made of, in whatever way it holds them. -/
def parts : Value → List Value
  | .member _ _ _ value => [value]
  | .set _ members => members
  | .dict _ _ entries => entries.map (·.1) ++ entries.map (·.2)
  | .list _ _ items => items
  | .tuple _ _ items => items
  | .record _ _ fields extra _ => fields.map (·.2) ++ extra.map (·.2)
  | _ => []

/-- Sets and the members of enumerations are copied without being opened. -/
def IsWhole : Value → Prop
  | .set _ _ => True
  | .member _ _ _ _ => True
  | _ => False

theorem IsWhole.contents? {value : Value} (whole : value.IsWhole) :
    value.contents? = none := by
  cases value with
  | set | member => rfl
  | _ => cases whole

end Value

namespace Heap

/-- The parts of a value that copying does not look into: keys of dictionaries,
sets and members of enumerations. -/
inductive Keeps (heap : Heap) (root : Value) : Value → Prop where
  | key {path : List Nat} {above : List Value} {last : Value}
      {contents : Contents} {child : Value × Value}
      (along : heap.Along root path above last)
      (container : heap.contents? last = some contents)
      (dictionary : contents.form = .dict)
      (held : child ∈ contents.children) : Keeps heap root child.1
  | whole {path : List Nat} {above : List Value} {last : Value}
      (along : heap.Along root path above last)
      (kind : (heap.resolve last).IsWhole) : Keeps heap root (heap.resolve last)

variable {heap : Heap} {source copied : Value} {contents inner : Contents}

theorem Keeps.child {child : Value × Value} {part : Value}
    (container : heap.contents? source = some contents)
    (held : child ∈ contents.children) (keeps : heap.Keeps child.2 part) :
    heap.Keeps source part := by
  rcases List.mem_iff_getElem?.mp held with ⟨position, held⟩
  cases keeps with
  | key along inside dictionary member =>
      exact .key (.child container held along) inside dictionary member
  | whole along kind => exact .whole (.child container held along) kind

/-- Does a value have no child, either because it is no container or because there
is nothing in it? -/
def Childless (heap : Heap) (value : Value) : Prop :=
  ∀ contents, heap.contents? value = some contents → contents.children = []

theorem Childless.not_held {child : Value × Value} (childless : heap.Childless source)
    (container : heap.contents? source = some contents) :
    child ∉ contents.children := by
  rw [childless contents container]
  exact List.not_mem_nil

/-- Without children, a path leads to the value itself. -/
theorem Childless.along {path : List Nat} {above : List Value} {last : Value}
    (childless : heap.Childless source)
    (along : heap.Along source path above last) : last = source := by
  cases along with
  | root => rfl
  | child outer held =>
      exact absurd (List.mem_of_getElem? held) (childless.not_held outer)

/-- Without children, nothing is kept but the value itself. -/
theorem Childless.keeps {part : Value} (childless : heap.Childless source)
    (keeps : heap.Keeps source part) :
    part = heap.resolve source ∧ (heap.resolve source).IsWhole := by
  cases keeps with
  | key along container dictionary held =>
      obtain rfl := childless.along along
      exact absurd held (childless.not_held container)
  | whole along kind =>
      obtain rfl := childless.along along
      exact ⟨rfl, kind⟩

/-- A named tuple of one list that cannot be read. -/
def unreadable : Value :=
  .tuple (.named "Point" ["x"]) none [.list "Rows" (some ⟨none, .badValue⟩) [.int 1]]

end Heap

end WorkflowExchange

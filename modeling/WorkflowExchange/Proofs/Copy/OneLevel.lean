import WorkflowExchange.Proofs.Copy.Inert
import WorkflowExchange.Proofs.Value.Agreement

/-!
# What a one-level copy holds

A one-level copy of a container has the keys of the container, or its length, and its
order.  In each position stands the child itself when it is plain data, a new container
of the same class when it is an empty one, and otherwise the name of its class.  For a
value that is no dictionary, list or tuple the copy is what would stand for it in a
position.  So nothing that stands in a position is foreign or holds anything:
`Heap.degradedCopy_keeps_one_level`.

There is one exception.  A tuple is made again by its class, and the class of a named
tuple takes a value for each field instead of a sequence.  A class of one field takes
the walk through the children for that value; any other number of fields is refused.
-/

namespace WorkflowExchange

namespace Value

/-- An empty dictionary, list, tuple or set, and a new one of its class. -/
inductive Anew : Value → Value → Prop where
  | set (frozen : Bool) : Anew (.set frozen []) (.set frozen [])
  | dict (type : String) (failing : Option Failing) :
      Anew (.dict type failing []) (.dict type none [])
  | list (type : String) (failing : Option Failing) :
      Anew (.list type failing []) (.list type none [])
  | tuple (cls : TupleClass) (failing : Option Failing) :
      Anew (.tuple cls failing []) (.tuple cls none [])

/-- Is a value an empty dictionary, list, tuple or set? -/
def IsHollow (value : Value) : Prop :=
  ∃ fresh, value.Anew fresh

/-- A value that holds no other one: plain data, or an empty container. -/
def IsBare (value : Value) : Prop :=
  value.isPlainData = true ∨ value.IsHollow

/-- What stands in the positions of a dictionary, a list or a tuple.  Any other value
is a position of its own. -/
def positions : Value → List Value
  | .dict _ _ entries => entries.map (·.2)
  | .list _ _ items => items
  | .tuple _ _ items => items
  | other => [other]

variable {value fresh : Value}

theorem Anew.isHollow (anew : value.Anew fresh) : fresh.IsHollow := by
  cases anew with
  | set frozen => exact ⟨_, .set frozen⟩
  | dict type => exact ⟨_, .dict type none⟩
  | list type => exact ⟨_, .list type none⟩
  | tuple cls => exact ⟨_, .tuple cls none⟩

theorem IsBare.positions (bare : value.IsBare) :
    ∀ part ∈ value.positions, part.IsBare := by
  rcases bare with plain | ⟨fresh, anew⟩
  · cases value with
    | scalar | member =>
        exact List.forall_mem_singleton.mpr (.inl plain)
    | _ => cases plain
  · cases anew with
    | set frozen =>
        exact List.forall_mem_singleton.mpr (.inr ⟨_, .set frozen⟩)
    | dict | list | tuple => nofun

end Value

namespace Heap

/-- What stands for a value in a one-level copy. -/
inductive Stands (heap : Heap) (value : Value) : Value → Prop where
  | data (plain : (heap.resolve value).isPlainData = true) :
      Stands heap value (heap.resolve value)
  | empty {fresh : Value} (anew : (heap.resolve value).Anew fresh) :
      Stands heap value fresh
  | other (content : ¬(heap.resolve value).IsBare) :
      Stands heap value (.text ("[" ++ heap.typeName value ++ "]"))

/-- One level of a value: what stands for its children, under the same keys or in the
same order, or what stands for the value if it has no children of its own. -/
inductive Level (heap : Heap) (value : Value) : Value → Prop where
  | dict {type : String} {entries copies : List (Value × Value)}
      (container : heap.resolve value = .dict type none entries)
      (keys : copies.map (·.1) = entries.map (·.1))
      (each : List.Forall₂ heap.Stands (entries.map (·.2)) (copies.map (·.2))) :
      Level heap value (.plainDict copies)
  | list {type : String} {items copies : List Value}
      (container : heap.resolve value = .list type none items)
      (each : List.Forall₂ heap.Stands items copies) :
      Level heap value (.list type none copies)
  | tuple {cls : TupleClass} {items copies : List Value}
      (container : heap.resolve value = .tuple cls none items)
      (each : List.Forall₂ heap.Stands items copies) :
      Level heap value (.tuple cls none copies)
  | single {copied : Value} (other : (heap.resolve value).isSequential = false)
      (stands : heap.Stands value copied) : Level heap value copied

variable {heap : Heap} {value copied : Value} {fault : Fault}

/-- Nothing that stands for a value in a one-level copy holds anything. -/
theorem Stands.isBare (stands : heap.Stands value copied) : copied.IsBare := by
  cases stands with
  | data plain => exact .inl plain
  | empty anew => exact .inr anew.isHollow
  | other => exact .inl rfl

theorem isBare_of_forall₂ {items copies : List Value}
    (each : List.Forall₂ heap.Stands items copies) : ∀ copy ∈ copies, copy.IsBare := by
  intro copy member
  rcases Value.exists_mem_of_forall₂ each.flip copy member with ⟨item, -, stands⟩
  exact stands.isBare

theorem Level.isBare (level : heap.Level value copied) :
    ∀ part ∈ copied.positions, part.IsBare := by
  cases level with
  | dict container keys each | list container each | tuple container each =>
      exact isBare_of_forall₂ each
  | single other stands => exact stands.isBare.positions

end Heap

end WorkflowExchange

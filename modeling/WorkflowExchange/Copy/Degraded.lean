import WorkflowExchange.Value.Basic

/-!
# One-level copies

When a value cannot be copied in full, `Value.degradedCopy` keeps one level of
it: scalars and empty containers stay, every other child is replaced by the
name of its class in brackets.  A dictionary becomes a plain one; a list or a
tuple is rebuilt by its own class from a generator of the children.  A named tuple takes
the generator as its only field, and fails when it has another number of fields.
-/

namespace WorkflowExchange

def bracketed (typeName : String) : String :=
  "[" ++ typeName ++ "]"

namespace Value

def isPlainData : Value → Bool
  | .scalar _ => true
  | .member _ _ _ _ => true
  | _ => false

/-- A new empty container of the class of an empty container. -/
def freshEmpty? : Value → Option Value
  | .set frozen [] => some (.set frozen [])
  | .dict type _ [] => some (.dict type none [])
  | .list type _ [] => some (.list type none [])
  | .tuple cls _ [] => some (.tuple cls none [])
  | _ => none

/-- The copy of a child in a one-level copy. -/
def shallowCopy (value : Value) : Value :=
  if value.isPlainData then value
  else
    match value.freshEmpty? with
    | some emptied => emptied
    | none => text (bracketed value.typeName)

end Value

namespace TupleClass

/-- A tuple made by calling its class with a generator of items.  A named tuple takes
the generator itself as its only field, and does not read it. -/
def rebuild (cls : TupleClass) (failing : Option Failing) (items : List Value) :
    Except Fault Value :=
  match cls, failing with
  | _, some ⟨none, fault⟩ => .error fault
  | .named type [name], _ =>
    .ok (.tuple (.named type [name]) none [.foreign (.resource "generator")])
  | .named _ _, _ => .error .wrongType
  | _, some failing => .error failing.fault
  | cls, none => .ok (.tuple cls none items)

end TupleClass

namespace Heap

/-- The copy of a child in a one-level copy. -/
def shallowCopy (heap : Heap) (value : Value) : Value :=
  (heap.resolve value).shallowCopy

/-- A copy of one level of a value. -/
def degradedCopy (heap : Heap) (value : Value) : Except Fault Value :=
  match heap.resolve value with
  | .dict _ (some failing) _ => .error failing.fault
  | .dict _ none entries =>
    .ok (.plainDict (entries.map fun entry =>
      (entry.1, heap.shallowCopy entry.2)))
  | .list _ (some failing) _ => .error failing.fault
  | .list type none items =>
    .ok (.list type none (items.map heap.shallowCopy))
  | .tuple cls failing items => cls.rebuild failing (items.map heap.shallowCopy)
  | other => .ok other.shallowCopy

end Heap

end WorkflowExchange

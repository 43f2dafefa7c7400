import WorkflowExchange.Copy.Contents

/-!
# Nesting depth

`Heap.isNestedBeyond` tells whether dictionaries, lists and tuples are nested
more than a number of levels below a value, the value itself being the first.
It follows references, ends on cycles because every step uses up a level, and
does not look inside records.  Children are visited from the last to the first,
which decides whether a list that cannot be read is met before a level that is
too deep.
-/

namespace WorkflowExchange

namespace Value

/-- The values that nesting is counted through, for dictionaries, lists and
tuples, and the fault of a list or tuple that cannot be read to its end.  The values of
a dictionary are not read with its keys, which is what may fail. -/
def nested? : Value → Option (List Value × Option Fault)
  | .dict _ _ entries => some (entries.map (·.2), none)
  | .list _ failing items => some (items, failing.map (·.fault))
  | .tuple _ failing items => some (items, failing.map (·.fault))
  | _ => none

end Value

/-- Does a check hold of some value of a list?  The first fault wins over any
later answer. -/
def anyChecked (check : Value → Except Fault Bool) :
    List Value → Except Fault Bool
  | [] => .ok false
  | value :: rest => do
    if ← check value then .ok true else anyChecked check rest

namespace Heap

/-- The greatest nesting depth that a workflow graph may have. -/
def graphDepth : Nat := 64

/-- Are containers nested more than `limit` levels, counting from a value? -/
def isNestedBeyond (heap : Heap) (limit : Nat) (value : Value) :
    Except Fault Bool :=
  match (heap.resolve value).nested? with
  | none => .ok false
  | some (children, failure) =>
    match limit with
    | 0 => .ok true
    | limit + 1 =>
      match failure with
      | some fault => .error fault
      | none => anyChecked (heap.isNestedBeyond limit) children.reverse

end Heap

end WorkflowExchange

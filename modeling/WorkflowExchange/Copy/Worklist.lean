import WorkflowExchange.Copy.Depth

/-!
# The nesting check in a loop

`Heap.isNestedBeyond` is a recursion.  `NestingLoop.step` makes the same check
without one: the values that are still to be looked at stand on a stack, each with
its level, and one step takes a value off and puts its children on.  Nothing is
noted of the containers that were met, so that a container that contains itself is
met again and again, one level deeper each time.
-/

namespace WorkflowExchange

/-- A check in progress: the values that are still to be looked at, the next one
first, with their levels; or the outcome. -/
inductive NestingLoop where
  | running (waiting : List (Value × Nat))
  | ended (outcome : Except Fault Bool)

namespace NestingLoop

/-- Children with the level below that of their container, the last one first. -/
def below (children : List Value) (level : Nat) : List (Value × Nat) :=
  children.reverse.map fun child => (child, level + 1)

/-- Look at a value that was taken off the stack. -/
def visit (heap : Heap) (limit : Nat) (value : Value) (level : Nat)
    (rest : List (Value × Nat)) : NestingLoop :=
  match (heap.resolve value).nested? with
  | none => .running rest
  | some (children, failure) =>
    if limit < level then .ended (.ok true)
    else
      match failure with
      | some fault => .ended (.error fault)
      | none => .running (below children level ++ rest)

/-- One step of the loop.  A check that has ended stays as it is. -/
def step (heap : Heap) (limit : Nat) : NestingLoop → NestingLoop
  | .running [] => .ended (.ok false)
  | .running ((value, level) :: rest) => visit heap limit value level rest
  | .ended outcome => .ended outcome

/-- The beginning of a check: the value itself is at the first level. -/
def start (value : Value) : NestingLoop :=
  .running [(value, 1)]

end NestingLoop

end WorkflowExchange

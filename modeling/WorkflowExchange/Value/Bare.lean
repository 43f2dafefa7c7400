import WorkflowExchange.Value.Basic

/-!
# Bare values

A bare value shows no class of its own: its lists, tuples and sets are of the
plain classes, and its records are dictionaries of their fields.  Dictionaries
that keep an order of their own or make up missing entries stay as they are.

`Value.bare` makes the values in a dictionary bare down to a fixed depth.  What
lies deeper and what comes back to itself is left alone, and a record of which a
declared field cannot be read has no bare form.
-/

namespace WorkflowExchange.Value

/-- The number of values inside each other that are made bare. -/
def bareDepth : Nat := 255

/-- The classes of dictionaries that stay as they are. -/
def lastingClasses : List String := ["OrderedDict", "defaultdict"]

mutual
/-- The bare form of a value, with room for some values inside each other. -/
def bareWithin : Nat → Value → Except Fault Value
  | 0, value => .ok value
  | room + 1, .set frozen members =>
    (bareItems room members).map (.set frozen)
  | room + 1, .dict type failing entries =>
    if type ∈ lastingClasses then .ok (.dict type failing entries)
    else (bareEntries room entries).map plainDict
  | room + 1, .list _ _ items => (bareItems room items).map plainList
  | room + 1, .tuple _ _ items => (bareItems room items).map plainTuple
  | room + 1, .record .plain _ fields _ failing => do
    let shown ← bareFields room failing fields
    pure (ofFields shown)
  | room + 1, .record .model _ fields extra _ => do
    let shown ← bareFields room none fields
    let others ← bareFields room none extra
    pure (ofFields (shown ++ others))
  | _ + 1, other => .ok other
termination_by structural _ value => value

def bareItems : Nat → List Value → Except Fault (List Value)
  | _, [] => .ok []
  | room, item :: rest => do
    let shown ← bareWithin room item
    let others ← bareItems room rest
    pure (shown :: others)
termination_by structural _ items => items

/-- Some entries with the bare forms of their values. -/
def bareEntries : Nat → List (Value × Value) →
    Except Fault (List (Value × Value))
  | _, [] => .ok []
  | room, (key, value) :: rest => do
    let shown ← bareWithin room value
    let others ← bareEntries room rest
    pure ((key, shown) :: others)
termination_by structural _ entries => entries

/-- Some fields with the bare forms of their values, which are read one by one. -/
def bareFields : Nat → Option Failing → List (String × Value) →
    Except Fault (List (String × Value))
  | _, failing, [] => Failing.ended failing []
  | room, failing, (name, value) :: rest => do
    Failing.checked failing
    let shown ← bareWithin room value
    let others ← bareFields room (failing.map Failing.next) rest
    pure ((name, shown) :: others)
termination_by structural _ _ fields => fields
end

def bare : Value → Except Fault Value
  | .dict _ _ entries => (bareEntries bareDepth entries).map plainDict
  | other => .ok other

end WorkflowExchange.Value

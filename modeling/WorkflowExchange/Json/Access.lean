import WorkflowExchange.Json.Writer

/-!
# Access to JSON values

A part that a value does not have is null, empty or nothing.  `sorted` brings
the members of every object into the order of their keys, so that `canonical`
writes equal values in the same way.
-/

namespace WorkflowExchange.Json

/-- The value of the first member with a key, or null. -/
def field (members : List (String × Json)) (key : String) : Json :=
  (member? members key).getD .null

def members : Json → List (String × Json)
  | .object members => members
  | _ => []

def items : Json → List Json
  | .array items => items
  | _ => []

/-- The text that a value is. -/
def text? : Json → Option String
  | .text content => some content
  | _ => none

/-- The integer that a value is. -/
def int? : Json → Option Int
  | .int value => some value
  | _ => none

def bool? : Json → Option Bool
  | .bool value => some value
  | _ => none

mutual
def sorted : Json → Json
  | .array items => .array (sortedItems items)
  | .object members =>
    .object ((sortedMembers members).mergeSort fun one other =>
      one.1 ≤ other.1)
  | other => other
termination_by structural value => value

def sortedItems : List Json → List Json
  | [] => []
  | item :: rest => sorted item :: sortedItems rest
termination_by structural items => items

def sortedMembers : List (String × Json) → List (String × Json)
  | [] => []
  | (key, value) :: rest => (key, sorted value) :: sortedMembers rest
termination_by structural members => members
end

/-- The text of a value without blanks and with sorted members. -/
def canonical (value : Json) : String :=
  value.sorted.write .compact

/-- Values in the order of their canonical texts. -/
def ordered (values : List Json) : List Json :=
  ((values.map fun value => (value.canonical, value)).mergeSort
    fun one other => one.1 ≤ other.1).map (·.2)

end WorkflowExchange.Json

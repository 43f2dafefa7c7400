import WorkflowExchange.Number.Binary64
import WorkflowExchange.Text.Wide

/-!
# JSON values

The members of an object keep the order in which they were written.  `insert`
gives a key a new value at the place where the key already stands, so that the
last of several equal keys wins and the first keeps its place.
-/

namespace WorkflowExchange

/-- A JSON value whose numbers are integers of any size or 64-bit floats.

A written text may hold halves of UTF-16 pairs without the other half.  Such a
text is given by its code points, the halves among them. -/
inductive Json where
  | null
  | bool (value : Bool)
  | int (value : Int)
  | float (value : Binary64)
  | text (value : String)
  | halves (codes : List Nat)
  | array (items : List Json)
  | object (members : List (String × Json))

namespace Json

instance : Inhabited Json := ⟨.null⟩

/-- The value that a wide text is. -/
def ofWide (wide : Wide) : Json :=
  match wide.string? with
  | some content => .text content
  | none => .halves wide

/-- Give a key a value, in place when the key is already there. -/
def insert (members : List (String × Json)) (key : String) (value : Json) :
    List (String × Json) :=
  match members with
  | [] => [(key, value)]
  | first :: rest =>
    if first.1 = key then (key, value) :: rest
    else first :: insert rest key value

/-- The members with every repeated key reduced to its last value. -/
def merged (members : List (String × Json)) : List (String × Json) :=
  members.foldl (fun collected member => insert collected member.1 member.2) []

def member? (members : List (String × Json)) (key : String) : Option Json :=
  (members.find? (·.1 = key)).map (·.2)

mutual
/-- The value that a reader gets back from the written text: every object
keeps one member for each key. -/
def reread : Json → Json
  | .array items => .array (rereadItems items)
  | .object members => .object (merged (rereadMembers members))
  | other => other
termination_by structural value => value

def rereadItems : List Json → List Json
  | [] => []
  | item :: rest => reread item :: rereadItems rest
termination_by structural items => items

/-- The members that a reader gets back, before equal keys are merged. -/
def rereadMembers : List (String × Json) → List (String × Json)
  | [] => []
  | (key, value) :: rest => (key, reread value) :: rereadMembers rest
termination_by structural members => members
end

mutual
/-- The number of values on the longest path from a value to its parts. -/
def depth : Json → Nat
  | .array items => depthOfItems items + 1
  | .object members => depthOfMembers members + 1
  | _ => 1
termination_by structural value => value

def depthOfItems : List Json → Nat
  | [] => 0
  | item :: rest => max (depth item) (depthOfItems rest)
termination_by structural items => items

def depthOfMembers : List (String × Json) → Nat
  | [] => 0
  | (_, value) :: rest => max (depth value) (depthOfMembers rest)
termination_by structural members => members
end

end Json

end WorkflowExchange

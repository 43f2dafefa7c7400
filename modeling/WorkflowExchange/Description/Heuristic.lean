import WorkflowExchange.Description.Words
import WorkflowExchange.Text.Lowercase
import WorkflowExchange.Value.Access

/-!
# Heuristic descriptions

A workflow can be described without any provider: by the short types of its
triggers, the short types of its other nodes, and the number of its nodes.  An
`Outline` holds these three, `Outline.of?` reads them off the nodes and
`Outline.text` words them.
-/

namespace WorkflowExchange

/-- What a heuristic description is made from. -/
structure Outline where
  triggers : List Wide
  actions : List Wide
  total : Nat
  deriving DecidableEq

namespace Outline

/-- Does a type mention a trigger, in any case?  Halves of pairs have no case. -/
def isTrigger (type : Wide) : Bool :=
  Text.occursIn "trigger".toList (Text.lower type.shown).toList

/-- The type of a node as a text; a type that counts as nothing is empty. -/
def nodeType (heap : Heap) (writer : Writer) (node : Value) : Except Fault Wide := do
  heap.textOrEmpty writer (← (heap.resolve node).get "type")

/-- Add the type of one more node in front.  A type whose last segment is empty
counts in the total only. -/
def addType (type : Wide) (outline : Outline) : Outline :=
  let short := type.afterPoint
  if short.isEmpty then { outline with total := outline.total + 1 }
  else if isTrigger type then
    { outline with
      triggers := short :: outline.triggers, total := outline.total + 1 }
  else
    { outline with
      actions := short :: outline.actions, total := outline.total + 1 }

/-- The outline of nodes with some types. -/
def ofTypes (types : List Wide) : Outline :=
  types.foldr addType ⟨[], [], 0⟩

/-- The outline of some nodes, which have to be dictionaries. -/
def ofNodes (heap : Heap) (writer : Writer) (nodes : List Value) :
    Except Fault Outline :=
  (nodes.mapM (nodeType heap writer)).map ofTypes

/-- Up to `limit` names with a separator between them, and a remark when there
are more. -/
def listed (separator : String) (limit : Nat) (names : List Wide) : Wide :=
  List.intercalate (separator : Wide) (names.take limit) ++
    (if limit < names.length then (" and more" : Wide) else [])

/-- An outline in words. -/
def text (name : Wide) (outline : Outline) : Wide :=
  ("Workflow \"" : Wide) ++ name ++ ("\"" : Wide) ++
    (if outline.triggers.isEmpty then []
      else (" triggered by " : Wide) ++ listed " and " 2 outline.triggers) ++
    (if outline.actions.isEmpty then []
      else (" using " : Wide) ++ listed ", " 3 outline.actions) ++
    (" (" ++ toString outline.total ++ " nodes total)" : String)

end Outline

/-- The outline of the nodes in a value, which are counted as they stand there. -/
def Outline.ofValue (heap : Heap) (writer : Writer) (nodes : Value) :
    Except Fault Outline := do
  let outline ← Outline.ofNodes heap writer (← (heap.resolve nodes).elements)
  let total ← (heap.resolve nodes).count
  pure { outline with total }

/-- The description that only counts nodes. -/
def countText (name : Wide) (total : Nat) : Wide :=
  ("Workflow \"" : Wide) ++ name ++
    ("\" with " ++ toString total ++ " nodes" : String)

/-- The description of a workflow from its nodes.  Nodes that are not all
dictionaries are only counted. -/
def heuristicDescription (heap : Heap) (writer : Writer) (name nodes : Value) :
    Except Fault Wide := do
  let shown ← heap.display writer name
  match Outline.ofValue heap writer nodes with
  | .ok outline => pure (outline.text shown)
  | .error _ => pure (countText shown (← (heap.resolve nodes).count))

end WorkflowExchange

import WorkflowExchange.Copy.Safe
import WorkflowExchange.Failure
import WorkflowExchange.Value.Access

/-!
# Copies of workflow graphs

The graph of a workflow has four parts: a list of nodes, the connections
between them, settings and static data.  `Heap.copyGraph` copies each node and
each other part on its own, so that a fault in one of them degrades that one
only.  Nodes that are not dictionaries are dropped with a warning; connections
that are not a dictionary become an empty one, settings and static data that
are not a dictionary become absent.
-/

namespace WorkflowExchange

/-- The four parts of a copied graph. -/
structure GraphCopy where
  nodes : List Value
  connections : Value
  settings : Value
  staticData : Value

/-- The graph as a dictionary with its four stored keys. -/
def GraphCopy.toValue (graph : GraphCopy) : Value :=
  .ofFields
    [("nodes", .plainList graph.nodes), ("connections", graph.connections),
      ("settings", graph.settings), ("staticData", graph.staticData)]

namespace Heap

def dropWarning (typeName : String) : Log.Message :=
  ⟨.warning, "Dropping workflow node of type %s", [.text typeName]⟩

/-- Copy a value safely; a value that cannot be copied fails the operation. -/
def copyPart (heap : Heap) (value : Value) : Trial Failure Value :=
  (heap.safeCopy value).mapError fun _ => .because .uncopied

/-- Copy the nodes that are dictionaries and warn of the others. -/
def copyNodes (heap : Heap) : List Value → Trial Failure (List Value)
  | [] => pure []
  | node :: rest => do
    if (heap.resolve node).isDict then
      let copied ← heap.copyPart node
      let others ← heap.copyNodes rest
      pure (if copied.isDict then copied :: others else others)
    else
      Trial.log (dropWarning (heap.typeName node))
      heap.copyNodes rest

/-- The nodes of a graph: the items of a list or tuple, none otherwise. -/
def nodeItems (heap : Heap) (nodes : Value) : Except Fault (List Value) :=
  match heap.resolve nodes with
  | .list _ failing items => Failing.ended failing items
  | .tuple _ failing items => Failing.ended failing items
  | _ => .ok []

/-- The nodes of a graph that can be read. -/
def readableNodes (heap : Heap) (nodes : Value) : List Value :=
  match heap.resolve nodes with
  | .list _ failing items => readable failing items
  | .tuple _ failing items => readable failing items
  | _ => []

/-- The value when it is a dictionary, or another one. -/
def dictOr (other value : Value) : Value :=
  if value.isDict then value else other

/-- Copy the four parts of a graph.  The nodes are copied while they are read. -/
def copyGraph (heap : Heap) (source : Value) : Trial Failure GraphCopy := do
  let part (key : String) : Trial Failure Value :=
    .ofExcept (((heap.resolve source).get key).mapError .fault)
  let nodeList ← part "nodes"
  let nodes ← heap.copyNodes (heap.readableNodes nodeList)
  let _ ← Trial.ofExcept ((heap.nodeItems nodeList).mapError .fault)
  let connectionPart ← part "connections"
  let connections ← heap.copyPart
    (if (heap.resolve connectionPart).isEmpty then .plainDict []
      else connectionPart)
  let settings ← heap.copyPart (← part "settings")
  let staticData ← heap.copyPart (← part "staticData")
  pure
    { nodes
      connections := dictOr (.plainDict []) connections
      settings := dictOr .null settings
      staticData := dictOr .null staticData }

end Heap

end WorkflowExchange

import WorkflowExchange.Value.Access
import WorkflowExchange.Value.Serialized

/-!
# Summaries of workflows

A description provider is shown a summary: the name of the workflow, the name,
type and parameters of its nodes, and its connections.  `Summary.ofWorkflow`
keeps as much as fits a limit on the length of the JSON text.  It leaves out the
parameters first, then the connections, and then nodes from the end.
-/

namespace WorkflowExchange

/-- What a summary tells of a node. -/
structure NodeSummary where
  name : Value
  type : Value
  /-- The parameters, unless they are left out. -/
  parameters? : Option Value

/-- What a provider is shown of a workflow. -/
structure Summary where
  name : Value
  nodes : List NodeSummary
  connections : Value

namespace NodeSummary

/-- The name, the type and the parameters of a node. -/
def ofNode (heap : Heap) (node : Value) : Except Fault NodeSummary := do
  let node := heap.resolve node
  pure
    { name := ← node.get "name"
      type := ← node.get "type"
      parameters? := some (heap.orElse (← node.get "parameters") (.plainDict [])) }

/-- A node without its parameters. -/
def bare (node : NodeSummary) : NodeSummary :=
  { node with parameters? := none }

def toValue (node : NodeSummary) : Value :=
  .ofFields ([("name", node.name), ("type", node.type)] ++
    node.parameters?.toList.map fun parameters => ("parameters", parameters))

end NodeSummary

/-- The nodes of a workflow that are dictionaries. -/
def graphNodes (heap : Heap) (workflow : Value) : Except Fault (List Value) := do
  let nodes ← (heap.resolve workflow).get "nodes"
  let elements ← (heap.resolve (heap.orElse nodes (.plainList []))).elements
  pure (elements.filter fun node => (heap.resolve node).isDict)

namespace Summary

def toValue (summary : Summary) : Value :=
  .ofFields
    [("name", summary.name),
      ("nodes", .plainList (summary.nodes.map NodeSummary.toValue)),
      ("connections", summary.connections)]

/-- The number of characters that a summary takes as JSON. -/
def size (heap : Heap) (writer : Writer) (summary : Summary) : Except Fault Nat :=
  (heap.described writer .spaced summary.toValue).map String.length

/-- Everything that a summary may tell of a workflow. -/
def full (heap : Heap) (name workflow : Value) : Except Fault Summary := do
  let nodes ← (← graphNodes heap workflow).mapM (NodeSummary.ofNode heap)
  let connections ← (heap.resolve workflow).get "connections"
  pure ⟨name, nodes, heap.orElse connections (.plainDict [])⟩

/-- A summary without the parameters of its nodes. -/
def bare (summary : Summary) : Summary :=
  { summary with nodes := summary.nodes.map NodeSummary.bare }

/-- The summary without connections and with its first nodes only. -/
def cut (count : Nat) (summary : Summary) : Summary :=
  { summary with
    nodes := summary.nodes.take count, connections := .plainDict [] }

/-- The longest cut of at most `count` nodes that fits a limit, or the one
without nodes. -/
def longestCut (heap : Heap) (writer : Writer) (limit : Int) (summary : Summary) :
    Nat → Except Fault Summary
  | 0 => .ok (summary.cut 0)
  | count + 1 => do
    let candidate := summary.cut (count + 1)
    if (← candidate.size heap writer) ≤ limit then pure candidate
    else summary.longestCut heap writer limit count

/-- As much of a summary as fits a limit. -/
def fitted (heap : Heap) (writer : Writer) (limit : Int) (summary : Summary) :
    Except Fault Summary := do
  if (← summary.size heap writer) ≤ limit then pure summary
  else if (← summary.bare.size heap writer) ≤ limit then pure summary.bare
  else summary.bare.longestCut heap writer limit summary.nodes.length

/-- The summary of a workflow, within a limit where it can be. -/
def ofWorkflow (heap : Heap) (writer : Writer) (limit : Int) (name workflow : Value) :
    Except Fault Summary := do
  (← full heap name workflow).fitted heap writer limit

end Summary

end WorkflowExchange

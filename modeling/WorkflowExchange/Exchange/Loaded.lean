import WorkflowExchange.Store.Columns
import WorkflowExchange.Store.Prepared

/-!
# Loaded workflows

A workflow as work sees it: its row, and the fields that can be changed as live
values.  What is given for a new workflow consists of live values, too, and is
prepared for the store.
-/

namespace WorkflowExchange

/-- The four parts of a graph as live values. -/
structure LiveGraph where
  nodes : Value
  connections : Value
  settings : Value
  staticData : Value

/-- A workflow that work has loaded or made: its row, and the fields that can be
changed as the work sees them. -/
structure LoadedWorkflow where
  row : Workflow
  name : Value
  active : Value
  graph : LiveGraph

namespace LiveGraph

/-- A stored graph as live values. -/
def ofGraph (graph : Graph) : LiveGraph :=
  ⟨.ofJson graph.nodes, .ofJson graph.connections, .ofJson graph.settings,
    .ofJson graph.staticData⟩

/-- The graph that the store keeps. -/
def prepared (graph : LiveGraph) : Prepared Graph :=
  .mk <$> Column.json graph.nodes <*> Column.json graph.connections <*>
    Column.json graph.settings <*> Column.json graph.staticData

/-- The graph as a dictionary with its four stored keys. -/
def toValue (graph : LiveGraph) : Value :=
  .ofFields
    [("nodes", graph.nodes), ("connections", graph.connections),
      ("settings", graph.settings), ("staticData", graph.staticData)]

end LiveGraph

namespace LoadedWorkflow

def ofRow (row : Workflow) : LoadedWorkflow :=
  ⟨row, row.name.toValue, .bool row.active, .ofGraph row.graph⟩

/-- The columns of a workflow as the work sees them. -/
def columns (workflow : LoadedWorkflow) : Columns :=
  let graph := workflow.graph
  workflow.row.columnsWith workflow.name workflow.active graph.nodes
    graph.connections graph.settings graph.staticData

end LoadedWorkflow

/-- A workflow that is to be stored.  A workflow without a moment of its own is
stamped with the moment of the work. -/
structure WorkflowDraft where
  name : Value
  active : Value
  graph : LiveGraph
  createdAt : Value := .null
  updatedAt : Value := .null

/-- The stamps of a row, given values for them and the moment of the work. -/
def Stamps.prepared (moment : Moment) (createdAt updatedAt : Value) :
    Prepared Stamps :=
  .mk <$> Column.moment.orElse moment createdAt <*>
    Column.moment.orElse moment updatedAt

/-- The row of a workflow that is to be stored. -/
def WorkflowDraft.prepared (draft : WorkflowDraft) (id versionId : String)
    (moment : Moment) : Prepared Workflow :=
  (fun name active graph stamps =>
      { id, name, active, graph, versionId, stamps }) <$>
    Column.text draft.name <*> Column.truth.orElse false draft.active <*>
    draft.graph.prepared <*>
    Stamps.prepared moment draft.createdAt draft.updatedAt

end WorkflowExchange

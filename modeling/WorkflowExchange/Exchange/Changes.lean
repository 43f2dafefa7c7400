import WorkflowExchange.Exchange.Loaded
import WorkflowExchange.Value.Agreement

/-!
# Changes of workflows

New values for some fields of a workflow.  A column whose new value agrees with
the value that the work has loaded is not written: `Changes.row` tells what the
store keeps, and `Changes.seen` what the work sees.
-/

namespace WorkflowExchange

/-- The fields of a workflow that can be changed. -/
inductive WorkflowField where
  | name
  | active
  | nodes
  | connections
  | settings
  | staticData
  deriving DecidableEq

namespace WorkflowField

def label : WorkflowField → String
  | .name => "name"
  | .active => "active"
  | .nodes => "nodes"
  | .connections => "connections"
  | .settings => "settings"
  | .staticData => "static_data"

def all : List WorkflowField :=
  [.name, .active, .nodes, .connections, .settings, .staticData]

/-- The field with a name. -/
def ofLabel? (label : String) : Option WorkflowField :=
  all.find? (·.label = label)

def isOfGraph : WorkflowField → Bool
  | .name => false
  | .active => false
  | _ => true

end WorkflowField

abbrev Changes := List (WorkflowField × Value)

/-- What a column holds after a change, if there is one.  A new value that agrees
with the one that the work has loaded is not written. -/
def Column.changed {α : Type} (column : Column α) (loaded : Value) (kept : α)
    (change? : Option Value) : Prepared α :=
  match change? with
  | none => .ready kept
  | some value => if value.agrees loaded then .ready kept else column value

namespace Changes

/-- What the work sees of a workflow after some changes. -/
def seen (changes : Changes) (workflow : LoadedWorkflow) : LoadedWorkflow :=
  let current (field : WorkflowField) (loaded : Value) : Value :=
    (changes.lookup field).getD loaded
  { workflow with
    name := current .name workflow.name
    active := current .active workflow.active
    graph :=
      { nodes := current .nodes workflow.graph.nodes
        connections := current .connections workflow.graph.connections
        settings := current .settings workflow.graph.settings
        staticData := current .staticData workflow.graph.staticData } }

/-- The graph that the store keeps after some changes. -/
def graph (changes : Changes) (workflow : LoadedWorkflow) : Prepared Graph :=
  let held := workflow.row.graph
  let loaded := workflow.graph
  .mk
    <$> Column.json.changed loaded.nodes held.nodes (changes.lookup .nodes)
    <*> Column.json.changed loaded.connections held.connections
      (changes.lookup .connections)
    <*> Column.json.changed loaded.settings held.settings
      (changes.lookup .settings)
    <*> Column.json.changed loaded.staticData held.staticData
      (changes.lookup .staticData)

def row (changes : Changes) (workflow : LoadedWorkflow) : Prepared Workflow :=
  let held := workflow.row
  (fun name active graph => { held with name, active, graph })
    <$> Column.text.changed workflow.name held.name (changes.lookup .name)
    <*> Column.truth.changed workflow.active held.active (changes.lookup .active)
    <*> changes.graph workflow

end Changes

end WorkflowExchange

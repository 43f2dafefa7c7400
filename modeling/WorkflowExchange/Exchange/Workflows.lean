import WorkflowExchange.Exchange.Summary

/-!
# Workflows of users

The operations on workflows: create one in the personal project of a user, read
one and update some of its fields.
-/

namespace WorkflowExchange

namespace CreateRequest

/-- The row that a request asks for, without identifiers. -/
def draft (request : CreateRequest) : WorkflowDraft where
  name := .text request.name
  active := .bool (request.active.getD false)
  graph :=
    { nodes := .plainList (request.graph.nodes.getD [])
      connections := request.graph.connections.getD (.plainDict [])
      settings := .ofOption (request.graph.settings.getD none)
      staticData := .ofOption (request.graph.staticData.getD none) }

end CreateRequest

namespace UpdateRequest

/-- The changes that a request asks for.  A null for a field that has to have a
value asks for nothing. -/
def changes (request : UpdateRequest) : Changes :=
  let change (field : WorkflowField) (value? : Option Value) : Changes :=
    (value?.map fun value => (field, value)).toList
  change .name (request.name.join.map .text) ++
    change .nodes (request.nodes.join.map .plainList) ++
    change .connections request.connections.join ++
    change .settings (request.settings.map .ofOption) ++
    change .staticData (request.staticData.map .ofOption) ++
    change .active (request.active.join.map .bool)

end UpdateRequest

namespace Workflows

/-- What a workflow is shown as, or that it cannot be shown. -/
def shown (workflow : LoadedWorkflow) : Work WorkflowDetail :=
  .ofExcept (WorkflowDetail.ofLoaded workflow).toExcept

/-- Create a workflow in the personal project of a user. -/
def create (user : User) (request : CreateRequest) : Work WorkflowDetail :=
  let context := Log.Context.ofCall user.id "create_workflow"
  .transaction .creation context do
    let project ← Work.personalProject user.id
    let workflow ← .insertWorkflow request.draft
    .linkOwner workflow.row.id project.id
    .commit
    .log context ⟨.info, "Created workflow %s", [.text workflow.row.id]⟩
    shown workflow

/-- A workflow that a user may read.  Nothing is undone here, and an error of the database
is not reported as one of the exchange. -/
def get (user : User) (workflowId : String) : Work WorkflowDetail :=
  .unit do
    match ← Work.accessible? user [Scope.read] workflowId with
    | none => .refuse .workflowMissing
    | some workflow => shown (.ofRow workflow)

/-- The message that fields of a workflow were updated, in alphabetical order. -/
def updatedMessage (id : String) (changes : Changes) : Log.Message :=
  let fields := (changes.map (·.1.label)).mergeSort (· ≤ ·)
  ⟨.info, "Updated workflow %s (%s)",
    [.text id, .text (String.intercalate ", " fields)]⟩

/-- Update the fields of a workflow that were sent, with bare values.  A request
that asks for no change changes nothing. -/
def update (user : User) (workflowId : String) (request : UpdateRequest) :
    Work WorkflowDetail := do
  let context := Log.Context.ofCall user.id "update_workflow"
  let request ← .ofExcept (request.bare.mapError .fault)
  .transaction .update context do
    match ← Work.accessible? user [Scope.update] workflowId with
    | none =>
      match ← Work.accessible? user [Scope.read] workflowId with
      | none => .refuse .workflowMissing
      | some _ => .refuse .updateForbidden
    | some row =>
      let workflow := LoadedWorkflow.ofRow row
      let changes := request.changes
      if changes.isEmpty then shown workflow
      else
        let updated ← .updateWorkflow workflow changes
        .commit
        .log context (updatedMessage updated.row.id changes)
        shown updated

end Workflows

end WorkflowExchange

import WorkflowExchange.Intake.Field
import WorkflowExchange.Value.Bare

/-!
# Requests

The data of a request to publish a workflow, to create one, to update one, and
the graph of a workflow by itself.  Each `read` function checks data against the
declared fields and collects all misfits in the order of the fields.

The parts of a graph are closed values: references are replaced by what they
refer to once the depth of the data is checked.
-/

namespace WorkflowExchange

/-- A request to publish a workflow, or to publish it again: what its entry shows, and
whether a description is to be made. -/
structure PublishRequest where
  name : String
  description : Sent (Option String)
  category : String
  workflowId : String
  isPublic : Sent (Option Bool)
  useAutoDescription : Sent Bool

/-- The parts of a workflow graph that were sent. -/
structure GraphRequest where
  nodes : Sent (List Value)
  connections : Sent Value
  settings : Sent (Option Value)
  staticData : Sent (Option Value)

/-- A request to create a workflow. -/
structure CreateRequest where
  name : String
  graph : GraphRequest
  active : Sent Bool

/-- A request to update a workflow: what was not sent stays, and what was sent as null
is emptied where the field takes null. -/
structure UpdateRequest where
  name : Sent (Option String)
  nodes : Sent (Option (List Value))
  connections : Sent (Option Value)
  settings : Sent (Option Value)
  staticData : Sent (Option Value)
  active : Sent (Option Bool)

namespace Spelling

def name : Spelling := plain "name"

def nodes : Spelling := plain "nodes"

def connections : Spelling := plain "connections"

def settings : Spelling := plain "settings"

def staticData : Spelling := ⟨"staticData", "static_data"⟩

def active : Spelling := plain "active"

end Spelling

namespace Rule

/-- The nodes of a graph: a list of dictionaries. -/
def nodes : Rule (List Value) := list dictionary

/-- A rule whose result is given without references. -/
def closed {α : Type} (close : Heap → α → α) (rule : Rule α) : Rule α :=
  fun heap value => close heap <$> rule heap value

/-- The nodes of a graph that is not nested too deeply, if any. -/
def shallowNodes : Rule (List Value) :=
  closed (fun heap => List.map heap.closed) (shallow .plainList nodes)

/-- A part of a graph that is not nested too deeply. -/
def shallowDictionary : Rule Value :=
  closed Heap.closed (shallow id dictionary)

end Rule

/-- Read the data of a request by its entries; what is no dictionary misfits, under the
name of the request. -/
def readFields {α : Type} (request : String) (heap : Heap) (data : Value)
    (read : List (Value × Value) → Fit α) : Fit α :=
  match heap.resolve data with
  | .dict _ _ entries => read entries
  | _ =>
    .misfit "model_type"
      ("Input should be a valid dictionary or instance of " ++ request)

namespace PublishRequest

/-- A request needs a description that is not blank, or asks for one to be
made. -/
def describable (request : PublishRequest) : Bool :=
  Text.trim ((request.description.getD none).getD "") ≠ "" ||
    request.useAutoDescription.getD false

def read (heap : Heap) (data : Value) : Fit PublishRequest :=
  readFields "PublishWorkflowDTO" heap data fun entries =>
    let fields : Fit PublishRequest := mk
      <$> Spelling.name.required Rule.nonEmptyText heap entries
      <*> (Spelling.plain "description").sent (.optional .text) heap entries
      <*> (Spelling.plain "category").required .nonEmptyText heap entries
      <*> (Spelling.mk "workflowId" "workflow_id").required .nonEmptyText heap
        entries
      <*> (Spelling.mk "isPublic" "is_public").sent (.optional .truth) heap
        entries
      <*> (Spelling.mk "useAutoDescription" "use_auto_description").sent .truth
        heap entries
    fields.andThen fun request =>
      if request.describable then .fits request
      else
        .misfit "value_error"
          ("Value error, Please provide a description or enable " ++
            "auto-description generation.")

end PublishRequest

namespace GraphRequest

def readWith (nodes : Rule (List Value)) (part : Rule Value) (heap : Heap)
    (entries : List (Value × Value)) : Fit GraphRequest :=
  mk
    <$> Spelling.nodes.sent nodes heap entries
    <*> Spelling.connections.sent part heap entries
    <*> Spelling.settings.sent part.optional heap entries
    <*> Spelling.staticData.sent part.optional heap entries

def read (heap : Heap) (data : Value) : Fit GraphRequest :=
  readFields "WorkflowGraph" heap data
    (readWith (.closed (fun heap => List.map heap.closed) .nodes)
      (.closed Heap.closed .dictionary) heap)

/-- The parts of a graph with bare values. -/
def bare (graph : GraphRequest) : Except Fault GraphRequest := do
  pure
    { nodes := ← graph.nodes.mapM (List.mapM Value.bare)
      connections := ← graph.connections.mapM Value.bare
      settings := ← graph.settings.mapM (Option.mapM Value.bare)
      staticData := ← graph.staticData.mapM (Option.mapM Value.bare) }

end GraphRequest

namespace CreateRequest

def read (heap : Heap) (data : Value) : Fit CreateRequest :=
  readFields "CreateWorkflowDTO" heap data fun entries =>
    mk
      <$> Spelling.name.required .nonEmptyText heap entries
      <*> GraphRequest.readWith .shallowNodes .shallowDictionary heap entries
      <*> Spelling.active.sent .truth heap entries

end CreateRequest

namespace UpdateRequest

def read (heap : Heap) (data : Value) : Fit UpdateRequest :=
  readFields "UpdateWorkflowDTO" heap data fun entries =>
    mk
      <$> Spelling.name.sent (.optional .nonEmptyText) heap entries
      <*> Spelling.nodes.sent (.optional .shallowNodes) heap entries
      <*> Spelling.connections.sent (.optional .shallowDictionary) heap entries
      <*> Spelling.settings.sent (.optional .shallowDictionary) heap entries
      <*> Spelling.staticData.sent (.optional .shallowDictionary) heap entries
      <*> Spelling.active.sent (.optional .truth) heap entries

/-- The request with bare values in the parts of its graph. -/
def bare (request : UpdateRequest) : Except Fault UpdateRequest := do
  pure
    { request with
      nodes := ← request.nodes.mapM (Option.mapM (List.mapM Value.bare))
      connections := ← request.connections.mapM (Option.mapM Value.bare)
      settings := ← request.settings.mapM (Option.mapM Value.bare)
      staticData := ← request.staticData.mapM (Option.mapM Value.bare) }

end UpdateRequest

end WorkflowExchange

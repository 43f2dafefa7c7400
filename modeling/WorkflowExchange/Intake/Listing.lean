import WorkflowExchange.Intake.Request

/-!
# Fields of requests

A request that was read, field by field: the name and the bare value of each
field, and whether it was sent.  A field that was not sent has the value that it
has unless it is set.
-/

namespace WorkflowExchange

/-- A field of a request that was read. -/
structure ReadField where
  name : String
  value : Value
  isSent : Bool

namespace ReadField

def always (name content : String) : ReadField :=
  ⟨name, .text content, true⟩

/-- A field that may be left out, with its value where it is. -/
def maybe {α : Type} (name : String) (sent : Sent α) (toValue : α → Value)
    (unsent : Value) : ReadField :=
  ⟨name, (sent.map toValue).getD unsent, sent.isSome⟩

/-- A field that may be left out or null. -/
def nullable {α : Type} (name : String) (sent : Sent (Option α))
    (toValue : α → Value) : ReadField :=
  maybe name sent (fun value? => .ofOption (value?.map toValue)) .null

end ReadField

/-- The fields of a request to publish. -/
def PublishRequest.fields (request : PublishRequest) :
    Except Fault (List ReadField) :=
  .ok
    [.always "name" request.name,
      .nullable "description" request.description .text,
      .always "category" request.category,
      .always "workflow_id" request.workflowId,
      .nullable "is_public" request.isPublic .bool,
      .maybe "use_auto_description" request.useAutoDescription .bool
        (.bool false)]

def GraphRequest.fields (graph : GraphRequest) :
    Except Fault (List ReadField) := do
  let graph ← graph.bare
  pure
    [.maybe "nodes" graph.nodes .plainList (.plainList []),
      .maybe "connections" graph.connections id (.plainDict []),
      .nullable "settings" graph.settings id,
      .nullable "static_data" graph.staticData id]

def CreateRequest.fields (request : CreateRequest) :
    Except Fault (List ReadField) := do
  pure ([.always "name" request.name] ++ (← request.graph.fields) ++
    [.maybe "active" request.active .bool (.bool false)])

/-- The fields of a request to update a workflow. -/
def UpdateRequest.fields (request : UpdateRequest) :
    Except Fault (List ReadField) := do
  let request ← request.bare
  pure
    [.nullable "name" request.name .text,
      .nullable "nodes" request.nodes .plainList,
      .nullable "connections" request.connections id,
      .nullable "settings" request.settings id,
      .nullable "static_data" request.staticData id,
      .nullable "active" request.active .bool]

end WorkflowExchange

import WorkflowExchange.Exchange.View
import WorkflowExchange.Http.Bearer
import WorkflowExchange.Http.Body
import WorkflowExchange.Http.Origin
import WorkflowExchange.Http.Route

/-!
# The exchange over HTTP

`serve` answers a request.  A failure with a cause is reported as the problem
that it is; any other failure is logged and reported without details, by the
outermost layer, so that such a report has none of the headers that other
responses are given.
-/

namespace WorkflowExchange.Http

/-- What serving depends on besides the exchange. -/
structure Site where
  /-- The origins of the pages that may use the exchange. -/
  origins : List String
  /-- The identifier of a request that brings none. -/
  requestId : String

namespace Request

def user (request : Request) : Work User := do
  match (request.header? "authorization").bind Bearer.userId? with
  | none => .refuse .unauthenticated
  | some id =>
    match (← Work.store).user? id with
    | none => .refuse .unauthenticated
    | some user => pure user

def forUser (request : Request) (work : User → Work Response) :
    Work Response := do
  work (← request.user)

/-- Answer for the user and the data of a request.  A body that cannot be read
as JSON is noticed before the user is, any other misfit after it. -/
def forData {α : Type} (request : Request) (reading : Heap → Value → Fit α)
    (work : User → α → Work Response) : Work Response := do
  let body := Body.ofRequest request
  match body with
  | .malformed offset => .refuse (Body.malformedCause offset)
  | .unreadable => pure (.ofRemark 400 Body.unreadableRemark)
  | _ =>
    let user ← request.user
    work user (← .ofExcept (body.read reading))

end Request

/-- A response with a view that may have no written form. -/
def responding (status : Nat) (view : Except Fault Json) : Work Response :=
  .ofExcept ((view.map (Response.ofJson status)).mapError Failure.fault)

namespace Operation

/-- Do what a request asks for. -/
def perform (request : Request) : Operation → Work Response
  | .health => pure (.ofJson 200 (.object [("status", .text "ok")]))
  | .documentation => pure (.ofNothing 200)
  | .listEntries => request.forUser fun user => do
    let entries ← Catalog.findAll user
    pure (.ofJson 200 (.array (entries.map EntrySummary.view)))
  | .publish => request.forData PublishRequest.read fun user data => do
    pure (.ofJson 200 (← Catalog.publish user data).view)
  | .importEntry id => request.forUser fun user => do
    pure (.ofJson 201 (← Catalog.importEntry user id).view)
  | .listWorkflows => request.forUser fun user => do
    let workflows ← Catalog.findUserWorkflows user
    pure (.ofJson 200 (.array (workflows.map WorkflowSummary.view)))
  | .preview workflowId => request.forUser fun user => do
    responding 200 (previewView (← Catalog.preview user workflowId))
  | .showEntry id => request.forUser fun user => do
    responding 200 (← Catalog.get user id).view
  | .deleteEntry id => request.forUser fun user => do
    Catalog.delete user id
    pure (.ofJson 200 deletionView)
  | .createWorkflow => request.forData CreateRequest.read fun user data => do
    responding 201 (← Workflows.create user data).view
  | .showWorkflow id => request.forUser fun user => do
    responding 200 (← Workflows.get user id).view
  | .updateWorkflow id => request.forData UpdateRequest.read fun user data => do
    responding 200 (← Workflows.update user id data).view

end Operation

/-- The address that a redirected request is sent to. -/
def location (request : Request) (path : String) : String :=
  "http://" ++ (request.header? "host").getD "" ++ Path.encoded
    (path ++ if request.query.isEmpty then "" else "?" ++ request.query)

/-- Do what a request asks for, or tell why not. -/
def dispatch (request : Request) : Work Response :=
  match Route.of request.method (Path.decoded request.path) with
  | .operation operation => operation.perform request
  | .methodRefused allowed =>
    pure ((Response.ofRemark 405 "Method Not Allowed").adding
      [("allow", String.intercalate ", " allowed)])
  | .redirected path =>
    pure ((Response.ofNothing 307).adding [("location", location request path)])
  | .unknown => pure (.ofRemark 404 "Not Found")

def reporting (work : Work Response) : Work Response :=
  tryCatch work fun failure =>
    match failure with
    | .because cause => pure (.ofProblem cause.problem)
    | other => .fail other

def unhandledMessage (request : Request) : Log.Message :=
  ⟨.error, "Unhandled error on %s %s",
    [.text request.method,
      .text (Path.plainPart (Path.decoded request.path))]⟩

def unhandledResponse : Response :=
  .ofProblem ⟨.general, "Unhandled error", []⟩

/-- The identifier of a request: the one that it brings, or else a new one. -/
def Site.identifierOf (site : Site) (request : Request) : String :=
  ((request.header? "x-request-id").filter (!·.isEmpty)).getD site.requestId

/-- A response to a request for headers alone. -/
def Response.bare (response : Response) : Response :=
  { response with content := .text "" }

def serve (site : Site) (request : Request) : Work Response := do
  let answer : Work Response := do
    let response ←
      match Origin.question? request with
      | some (origin, method) =>
        pure (Origin.answer site.origins request origin method)
      | none =>
        let response ← reporting (dispatch request)
        pure (Origin.share site.origins request response)
    pure (response.withDefault "x-request-id" (site.identifierOf request))
  let response ← tryCatch answer fun _ => do
    .log [] (unhandledMessage request)
    pure unhandledResponse
  pure (if request.method = "HEAD" then response.bare else response)

end WorkflowExchange.Http

import WorkflowExchange.Http.Path

/-!
# Routes

The operations that requests can ask for, and the paths and methods that ask for
them.  A path with operations none of which has the method of the request is
known but refused; a path that would be known without slashes at its end is
redirected; any other path is unknown.
-/

namespace WorkflowExchange.Http

inductive Operation where
  | health
  /-- The description of the operations themselves. -/
  | documentation
  | listEntries
  | publish
  | importEntry (id : String)
  | listWorkflows
  | preview (workflowId : String)
  | showEntry (id : String)
  | deleteEntry (id : String)
  | createWorkflow
  | showWorkflow (id : String)
  | updateWorkflow (id : String)
  deriving DecidableEq

namespace Operation

/-- Is the last segment of a path a given word?  A line break after it does not
count. -/
def isWord (segment word : String) : Bool :=
  segment = word || segment = word ++ "\n"

end Operation

/-- What a path can be asked for with some methods. -/
structure Endpoint where
  methods : List String
  operation : Operation

namespace Endpoint

def only (method : String) (operation : Operation) : Endpoint :=
  ⟨[method], operation⟩

/-- An endpoint that some last segments of a path lead to. -/
def onlyIf (condition : Bool) (endpoint : Endpoint) : List Endpoint :=
  if condition then [endpoint] else []

/-- The endpoint of a document, whose headers may be asked for alone. -/
def document : Endpoint := ⟨["GET", "HEAD"], .documentation⟩

def documents : List String := ["docs", "redoc", "openapi.json"]

def ofOne (segment : String) : List Endpoint :=
  onlyIf (documents.any (Operation.isWord segment)) document ++
    onlyIf (Operation.isWord segment "marketplace") (only "GET" .listEntries) ++
    onlyIf (Operation.isWord segment "workflows") (only "POST" .createWorkflow) ++
    onlyIf (Operation.isWord segment "healthz") (only "GET" .health)

/-- The endpoints at a path with two segments. -/
def ofTwo (first segment : String) : List Endpoint :=
  if segment.isEmpty then []
  else if first = "docs" then
    onlyIf (Operation.isWord segment "oauth2-redirect") document
  else if first = "marketplace" then
    onlyIf (Operation.isWord segment "publish") (only "POST" .publish) ++
      onlyIf (Operation.isWord segment "user-workflows")
        (only "GET" .listWorkflows) ++
      [only "GET" (.showEntry segment), only "DELETE" (.deleteEntry segment)]
  else if first = "workflows" then
    [only "GET" (.showWorkflow segment), only "PATCH" (.updateWorkflow segment)]
  else []

def ofThree (first second segment : String) : List Endpoint :=
  if segment.isEmpty || first ≠ "marketplace" then []
  else if second = "import" then [only "POST" (.importEntry segment)]
  else if second = "preview-description" then [only "GET" (.preview segment)]
  else []

/-- The endpoints at a path, in the order in which they are tried. -/
def allAt (path : String) : List Endpoint :=
  match Path.segments path with
  | [segment] => ofOne segment
  | [first, segment] => ofTwo first segment
  | [first, second, segment] => ofThree first second segment
  | _ => []

end Endpoint

/-- What becomes of a request, judged by its method and path. -/
inductive Route where
  | operation (operation : Operation)
  /-- The path is known, and these are the methods of its first endpoint. -/
  | methodRefused (allowed : List String)
  | redirected (path : String)
  | unknown
  deriving DecidableEq

def Route.of (method path : String) : Route :=
  let endpoints := Endpoint.allAt path
  match endpoints.find? (·.methods.contains method), endpoints with
  | some found, _ => .operation found.operation
  | none, first :: _ => .methodRefused first.methods
  | none, [] =>
    let shorter := Path.withoutSlashes path
    if shorter ≠ path && !(Endpoint.allAt shorter).isEmpty then
      .redirected shorter
    else .unknown

example : Route.of "POST" "/marketplace/publish" = .operation .publish := by
  decide +kernel

example : Route.of "GET" "/marketplace/" = .redirected "/marketplace" := by
  decide +kernel

example : Route.of "PUT" "/marketplace/x" = .methodRefused ["GET"] := by
  decide +kernel

end WorkflowExchange.Http

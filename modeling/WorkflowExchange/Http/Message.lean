import WorkflowExchange.Failure
import WorkflowExchange.Text.Lowercase

/-!
# Messages

The requests that the exchange answers and the responses it gives.  Header names
are compared without regard to case.
-/

namespace WorkflowExchange.Http

/-- Headers by name. -/
abbrev Headers := List (String × String)

def Headers.value? (headers : Headers) (name : String) : Option String :=
  (headers.find? fun header => Text.lower header.1 = name).map (·.2)

/-- A request.  The path is percent-encoded. -/
structure Request where
  method : String
  path : String
  query : String
  headers : Headers
  body : String

def Request.header? (request : Request) (name : String) : Option String :=
  request.headers.value? name

/-- What a response carries. -/
inductive Content where
  | json (value : Json)
  | text (content : String)

/-- A response. -/
structure Response where
  status : Nat
  headers : Headers
  content : Content

namespace Response

def header? (response : Response) (name : String) : Option String :=
  response.headers.value? name

def ofJson (status : Nat) (value : Json) : Response :=
  ⟨status, [("content-type", "application/json")], .json value⟩

def ofText (status : Nat) (content : String) : Response :=
  ⟨status, [("content-type", "text/plain; charset=utf-8")], .text content⟩

/-- A response without content. -/
def ofNothing (status : Nat) : Response :=
  ⟨status, [], .text ""⟩

/-- A response that carries a remark of the server itself. -/
def ofRemark (status : Nat) (remark : String) : Response :=
  ofJson status (.object [("detail", .text remark)])

def ofProblem (problem : Problem) : Response :=
  ofJson problem.kind.status problem.body

def adding (response : Response) (headers : Headers) : Response :=
  { response with headers := response.headers ++ headers }

/-- A response with a header, unless it has one of that name. -/
def withDefault (response : Response) (name value : String) : Response :=
  if (response.header? name).isSome then response
  else response.adding [(name, value)]

end Response

end WorkflowExchange.Http

import WorkflowExchange.Http.Message

/-!
# Origins

A browser names the web page that a request comes from in the `Origin` header.
Responses tell the browser whether the page may see them, and before an unusual
request the browser asks in advance.
-/

namespace WorkflowExchange.Http.Origin

/-- The methods that a page may use. -/
def methods : List String :=
  ["DELETE", "GET", "HEAD", "OPTIONS", "PATCH", "POST", "PUT"]

/-- Pages may send credentials. -/
def credentials : String × String :=
  ("access-control-allow-credentials", "true")

/-- The header that allows a page to see a response. -/
def allowed (origin : String) : String × String :=
  ("access-control-allow-origin", origin)

/-- The response depends on the page. -/
def varies : String × String := ("vary", "Origin")

/-- A response with what a browser has to know of it. -/
def share (origins : List String) (request : Request) (response : Response) :
    Response :=
  match request.header? "origin" with
  | none => response
  | some origin =>
    response.adding
      (credentials ::
        if origins.contains origin then [allowed origin, varies] else [])

/-- The page and the method about which a browser asks in advance. -/
def question? (request : Request) : Option (String × String) :=
  if request.method = "OPTIONS" then
    match request.header? "origin",
        request.header? "access-control-request-method" with
    | some origin, some method => some (origin, method)
    | _, _ => none
  else none

/-- The answer to a browser that asks in advance. -/
def answer (origins : List String) (request : Request)
    (origin method : String) : Response :=
  let isKnown := origins.contains origin
  let refused :=
    (if isKnown then [] else ["origin"]) ++
      (if methods.contains method then [] else ["method"])
  let response :=
    if refused.isEmpty then Response.ofText 200 "OK"
    else .ofText 400 ("Disallowed CORS " ++ String.intercalate ", " refused)
  response.adding
    ([varies, ("access-control-allow-methods", String.intercalate ", " methods),
        ("access-control-max-age", "600"), credentials] ++
      (if isKnown then [allowed origin] else []) ++
      match request.header? "access-control-request-headers" with
      | some names => [("access-control-allow-headers", names)]
      | none => [])

end WorkflowExchange.Http.Origin

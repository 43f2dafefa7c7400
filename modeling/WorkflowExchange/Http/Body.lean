import WorkflowExchange.Http.Message
import WorkflowExchange.Intake.Fit
import WorkflowExchange.Json.Reader
import WorkflowExchange.Text.Blank
import WorkflowExchange.Value.Portable

/-!
# Bodies

The body of a request is data if its content type is a JSON type.  Data has to
be an object that fits the declared fields; a misfit is reported with its place
in the body.
-/

namespace WorkflowExchange.Http

inductive Body where
  | absent
  /-- The body is no JSON text; it fails to be one at an offset. -/
  | malformed (offset : Nat)
  /-- The body is no text at all, or one that is not read to its end. -/
  | unreadable
  | data (value : Json)
  /-- The body is not declared to be JSON. -/
  | undeclared

namespace Body

/-- Is a content type a JSON type?  Parameters after a semicolon do not
count. -/
def isJsonType (contentType : String) : Bool :=
  let essence := Text.trimmed (contentType.toList.takeWhile (· != ';'))
  match Text.pieces '/' (Text.lower (String.ofList essence)).toList with
  | [main, sub] =>
    String.ofList main = "application" &&
      (String.ofList sub = "json" || (String.ofList sub).endsWith "+json")
  | _ => false

/-- A text without the byte order mark before it. -/
def withoutMark (text : String) : String :=
  match text.toList with
  | '\uFEFF' :: rest => String.ofList rest
  | _ => text

/-- The characters of a body, in the encoding that its first bytes tell. -/
def characters? (content : String) : Option (List Char) :=
  let bytes := content.toUTF8.toList
  match Text.Encoding.ofZeros bytes with
  | .bytes => some (withoutMark content).toList
  | wider => (wider.codes? bytes).map Text.ofCodes

/-- Read the body of a request that is declared to be JSON. -/
def ofContent (content : String) : Body :=
  match characters? content with
  | none => .unreadable
  | some characters =>
    match Json.readWithin Json.readingDepth characters with
    | .ok value => .data value
    | .error (.malformed offset) => .malformed offset
    | .error _ => .unreadable

def ofRequest (request : Request) : Body :=
  if request.body.isEmpty then .absent
  else if isJsonType ((request.header? "content-type").getD "") then
    ofContent request.body
  else .undeclared

def detail (path message : String) : Json :=
  .object [("path", .text path), ("msg", .text message)]

def detailOf (misfit : Misfit) : Json :=
  detail (String.intercalate "." ("body" :: misfit.place.map Step.label))
    misfit.message

def malformedCause (offset : Nat) : Cause :=
  .invalidBody [detail ("body." ++ toString offset) "JSON decode error"]

def absentCause : Cause :=
  .invalidBody [detail "body" "Field required"]

def shapelessCause : Cause :=
  .invalidBody [detail "body"
    "Input should be a valid dictionary or object to extract fields from"]

def unreadableRemark : String := "There was an error parsing the body"

/-- Read the data of a body, if it has any, as a request of the exchange. -/
def read {α : Type} (reading : Heap → Value → Fit α) (body : Body) :
    Except Failure α :=
  match body with
  | .absent => .error (.because absentCause)
  | .malformed offset => .error (.because (malformedCause offset))
  | .data (.object members) =>
    match (reading .empty (.ofJson (.object members))).toExcept with
    | .ok request => .ok request
    | .error (.misfits found) =>
      .error (.because (.invalidBody (found.map detailOf)))
    | .error failure => .error failure
  | _ => .error (.because shapelessCause)

end Body

end WorkflowExchange.Http

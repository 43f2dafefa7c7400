import WorkflowExchange.Json.Basic
import WorkflowExchange.Value.Basic

/-!
# Failures

A `Cause` is a reason for which an operation refuses or fails on purpose.
`Cause.problem` gives the kind, the wording and the details that a caller is
shown.  A `Failure` is any way in which an operation ends without a result: for
a cause, for a fault of the host, for an error of the database, or because data
did not fit its declared fields.
-/

namespace WorkflowExchange

/-- The kinds of problem a caller can be shown. -/
inductive ProblemKind where
  | general
  | authentication
  | validation
  | authorization
  | notFound
  | externalService
  | persistence
  | serialization
  deriving DecidableEq

namespace ProblemKind

def status : ProblemKind → Nat
  | .general => 500
  | .authentication => 401
  | .validation => 400
  | .authorization => 403
  | .notFound => 404
  | .externalService => 502
  | .persistence => 500
  | .serialization => 500

def code : ProblemKind → String
  | .general => "INTERNAL"
  | .authentication => "UNAUTHORIZED"
  | .validation => "VALIDATION_ERROR"
  | .authorization => "FORBIDDEN"
  | .notFound => "NOT_FOUND"
  | .externalService => "EXTERNAL_SERVICE"
  | .persistence => "PERSISTENCE"
  | .serialization => "SERIALIZATION"

end ProblemKind

/-- The envelope in which a problem is reported. -/
def problemBody (code : String) (message details : Json) : Json :=
  .object [("error", .object
    [("code", .text code), ("message", message), ("details", details)])]

structure Problem where
  kind : ProblemKind
  message : String
  details : List Json

def Problem.body (problem : Problem) : Json :=
  problemBody problem.kind.code (.text problem.message)
    (.array problem.details)

/-- The operations whose transaction may have to be undone. -/
inductive Undone where
  | operation
  | creation
  | update
  deriving DecidableEq

/-- The reasons for which an operation refuses or fails on purpose. -/
inductive Cause where
  | unauthenticated
  | invalidBody (details : List Json)
  | entryMissing
  | importForbidden
  | publishForbidden
  | deleteForbidden
  | personalProjectMissing
  | workflowMissing
  | updateForbidden
  | notSaved (undone : Undone)
  | uncopied

namespace Cause

def kind : Cause → ProblemKind
  | .unauthenticated => .authentication
  | .invalidBody _ => .validation
  | .entryMissing => .notFound
  | .importForbidden => .authorization
  | .publishForbidden => .authorization
  | .deleteForbidden => .authorization
  | .personalProjectMissing => .notFound
  | .workflowMissing => .notFound
  | .updateForbidden => .authorization
  | .notSaved _ => .persistence
  | .uncopied => .serialization

def message : Cause → String
  | .unauthenticated => "Unauthorized"
  | .invalidBody _ => "Invalid request body"
  | .entryMissing => "Marketplace workflow not found"
  | .importForbidden => "Cannot import this workflow"
  | .publishForbidden => "Permission denied or workflow not found"
  | .deleteForbidden =>
    "Only the author or an administrator can delete this workflow"
  | .personalProjectMissing => "Personal project not found for user"
  | .workflowMissing => "Workflow not found"
  | .updateForbidden => "You do not have permission to update this workflow"
  | .notSaved .operation =>
    "Could not complete the operation; nothing was saved. Please retry."
  | .notSaved .creation =>
    "Could not create the workflow; nothing was saved. Please retry."
  | .notSaved .update =>
    "Could not update the workflow; nothing was saved. Please retry."
  | .uncopied => "Workflow data could not be copied"

def problem (cause : Cause) : Problem where
  kind := cause.kind
  message := cause.message
  details :=
    match cause with
    | .invalidBody details => details
    | _ => []

end Cause

inductive DatabaseError where
  | operational
  /-- A row breaks a key or lacks a required column. -/
  | integrity
  /-- A value has no form in its column. -/
  | statement
  /-- A value is of no kind that the database takes. -/
  | programming
  deriving DecidableEq

def DatabaseError.className : DatabaseError → String
  | .operational => "OperationalError"
  | .integrity => "IntegrityError"
  | .statement => "StatementError"
  | .programming => "ProgrammingError"

/-- One step to a place inside data: a field or an index. -/
inductive Step where
  | field (name : String)
  | index (position : Int)
  deriving DecidableEq

def Step.label : Step → String
  | .field name => name
  | .index position => toString position

/-- Data at a place does not fit what is declared there. -/
structure Misfit where
  place : List Step
  kind : String
  message : String
  deriving DecidableEq

/-- A way in which an operation ends without a result. -/
inductive Failure where
  | because (cause : Cause)
  | fault (fault : Fault)
  | database (error : DatabaseError)
  | notUpdatable (fields : List String)
  | misfits (found : List Misfit)

end WorkflowExchange

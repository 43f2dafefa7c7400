/-!
# Scopes and roles

A scope is a right on a workflow.  The role that a user has in a project grants
scopes on the workflows that are shared with the project, and global
administrators have every scope on every workflow.
-/

namespace WorkflowExchange

/-- A right on a workflow. -/
abbrev Scope := String

namespace Scope

def read : Scope := "workflow:read"

def update : Scope := "workflow:update"

def delete : Scope := "workflow:delete"

end Scope

namespace Role

def personalOwner : String := "project:personalOwner"

def admin : String := "project:admin"

def editor : String := "project:editor"

def viewer : String := "project:viewer"

/-- The project roles with the scopes that they grant, sorted by name. -/
def granted : List (String × List Scope) :=
  [(admin, [Scope.read, Scope.update, Scope.delete]),
    (editor, [Scope.read, Scope.update]),
    (personalOwner, [Scope.read, Scope.update, Scope.delete]),
    (viewer, [Scope.read])]

/-- The project roles that grant all of some scopes, sorted by name. -/
def withScopes (scopes : List Scope) : List String :=
  (granted.filter fun role => scopes.all (role.2.contains ·)).map (·.1)

/-- The role of the project that owns a workflow. -/
def workflowOwner : String := "workflow:owner"

/-- The role of a user who is no administrator. -/
def member : String := "global:member"

def globalAdmins : List String := ["global:owner", "global:admin"]

end Role

end WorkflowExchange

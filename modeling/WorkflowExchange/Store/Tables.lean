import WorkflowExchange.Identifier
import WorkflowExchange.Store.Row

/-!
# The store

A store has one table for each kind of row, in the order in which the rows were
added.  Adding a row can break a key: `Store.addUser`, `Store.addEntry` and the
like give nothing then.  Queries are plain functions of the tables.

A table takes `Store.capacity` rows.  The functions here do not ask whether there is
room for one more row: that a full table takes none is an error of the database, which
the turns of a run meet.
-/

namespace WorkflowExchange

/-- The tables of the exchange.  A draft of a session and what is saved of it are both
stores. -/
structure Store where
  users : List User
  projects : List Project
  memberships : List Membership
  workflows : List Workflow
  sharings : List Sharing
  entries : List Entry

namespace Store

def empty : Store := ⟨[], [], [], [], [], []⟩

/-- The number of rows that a table takes: each row has a number of its own, a positive
integer of 64 bits. -/
def capacity : Nat := 9223372036854775807

/-- Does a table take no more rows? -/
def isFull {α : Type} (rows : List α) : Bool :=
  capacity ≤ rows.length

/-- Add a row to a table unless it clashes with a row that is there. -/
def added {α : Type} (clashes : α → α → Bool) (rows : List α) (row : α) :
    Option (List α) :=
  if rows.any (clashes row) then none else some (rows ++ [row])

/-! ## Users and projects -/

def user? (store : Store) (id : String) : Option User :=
  store.users.find? (·.id = id)

def userByEmail? (store : Store) (email : String) : Option User :=
  store.users.find? (·.email = email)

/-- Add a user; identifiers and email addresses are unique. -/
def addUser (store : Store) (user : User) : Option Store :=
  (added (fun one other => one.id = other.id || one.email = other.email)
    store.users user).map fun users => { store with users }

def addProject (store : Store) (project : Project) : Option Store :=
  (added (·.id = ·.id) store.projects project).map fun projects =>
    { store with projects }

/-- Add a membership; a user has one role in a project. -/
def addMembership (store : Store) (membership : Membership) : Option Store :=
  (added
    (fun one other =>
      one.projectId = other.projectId && one.userId = other.userId)
    store.memberships membership).map fun memberships =>
      { store with memberships }

/-- Take a user out of a project. -/
def removeMembership (store : Store) (projectId userId : String) : Store :=
  { store with
    memberships := store.memberships.filter fun membership =>
      !(membership.projectId = projectId && membership.userId = userId) }

def personalProjectWith? (store : Store) (id : String) : Option Project :=
  store.projects.find? fun project =>
    project.id = id && project.type = .personal

/-- The personal project of a user: the first one that the user came to own. -/
def personalProject? (store : Store) (userId : String) : Option Project :=
  store.memberships.findSome? fun membership =>
    if membership.userId = userId && membership.role = Role.personalOwner then
      store.personalProjectWith? membership.projectId
    else none

/-! ## Workflows -/

def workflow? (store : Store) (id : String) : Option Workflow :=
  store.workflows.find? (·.id = id)

def addWorkflow (store : Store) (workflow : Workflow) : Option Store :=
  (added (·.id = ·.id) store.workflows workflow).map fun workflows =>
    { store with workflows }

def replaceWorkflow (store : Store) (workflow : Workflow) : Store :=
  { store with
    workflows := store.workflows.map fun other =>
      if other.id = workflow.id then workflow else other }

/-- The workflows with some identifiers, those changed last first. -/
def workflowsWithIds (store : Store) (ids : List String) : List Workflow :=
  (store.workflows.filter fun workflow => ids.contains workflow.id).mergeSort
    fun one other => one.stamps.updatedAt.microseconds ≥ other.stamps.updatedAt.microseconds

/-- Add a sharing; a workflow is shared with a project once. -/
def addSharing (store : Store) (sharing : Sharing) : Option Store :=
  (added
    (fun one other =>
      one.workflowId = other.workflowId && one.projectId = other.projectId)
    store.sharings sharing).map fun sharings => { store with sharings }

/-- With which projects a workflow is shared. -/
def sharingsOf (store : Store) (workflowId : String) : List Sharing :=
  store.sharings.filter (·.workflowId = workflowId)

/-! ## Access -/

/-- Does a sharing with a project in which a user has one of some roles grant access to a
workflow? -/
def grantsTo (store : Store) (userId : String) (roles : List String)
    (workflowId : String) : Bool :=
  store.sharings.any fun sharing =>
    sharing.workflowId = workflowId &&
      store.memberships.any fun membership =>
        membership.projectId = sharing.projectId &&
          membership.userId = userId && roles.contains membership.role

/-- The workflow with an identifier, if a user has some scopes on it. -/
def accessibleWorkflow? (store : Store) (user : User) (scopes : List Scope)
    (workflowId : String) : Option Workflow :=
  if user.isGlobalAdmin then store.workflow? workflowId
  else if store.grantsTo user.id (Role.withScopes scopes) workflowId then
    store.workflow? workflowId
  else none

/-- Each of some texts once, in order. -/
def distinct (items : List String) : List String :=
  items.foldl
    (fun found item => if found.contains item then found else found ++ [item]) []

/-- The identifiers of the workflows on which a user has some scopes. -/
def accessibleIds (store : Store) (user : User) (scopes : List Scope) :
    List String :=
  if user.isGlobalAdmin then store.workflows.map (·.id)
  else
    let roles := Role.withScopes scopes
    distinct ((store.sharings.filter fun sharing =>
      store.memberships.any fun membership =>
        membership.projectId = sharing.projectId &&
          membership.userId = user.id && roles.contains membership.role).map
      (·.workflowId))

/-! ## The catalog -/

def entryWith? (store : Store) (id : String) : Option Entry :=
  store.entries.find? (·.id = .text id)

/-- Are two entries published by one user from one workflow? -/
def sameOrigin (one other : Entry) : Bool :=
  one.originalWorkflowId.isSome &&
    one.originalWorkflowId = other.originalWorkflowId &&
    one.createdByUserId = other.createdByUserId

def entryByOrigin? (store : Store) (workflowId userId : String) :
    Option Entry :=
  store.entries.find? fun entry =>
    entry.originalWorkflowId = some (.text workflowId) &&
      entry.createdByUserId = .text userId

/-- Add an entry; identifiers are unique, and a user publishes a workflow
once. -/
def addEntry (store : Store) (entry : Entry) : Option Store :=
  (added (fun one other => one.id = other.id || sameOrigin one other)
    store.entries entry).map fun entries => { store with entries }

def replaceEntry (store : Store) (entry : Entry) : Store :=
  { store with
    entries := store.entries.map fun other =>
      if other.id = entry.id then entry else other }

def removeEntry (store : Store) (id : String) : Store :=
  { store with entries := store.entries.filter (·.id ≠ .text id) }

/-- Does an entry come before another one in a listing?  What was changed last
comes first, and of entries changed at the same moment the one with the greater
identifier. -/
def listsBefore (one other : Entry) : Bool :=
  other.stamps.updatedAt.microseconds < one.stamps.updatedAt.microseconds ||
    (other.stamps.updatedAt.microseconds = one.stamps.updatedAt.microseconds &&
      other.id.atMost one.id)

/-- The entries that a user is shown: the public ones and those the user
published. -/
def visibleEntries (store : Store) (userId : String) : List Entry :=
  (store.entries.filter fun entry =>
    entry.isPublic || entry.createdByUserId = .text userId).mergeSort listsBefore

end Store

end WorkflowExchange

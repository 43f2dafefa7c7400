import WorkflowExchange.Access.Scope
import WorkflowExchange.Json.Basic
import WorkflowExchange.Store.Cell
import WorkflowExchange.Time.Moment

/-!
# Rows

The rows of the store: users, projects, memberships of users in projects,
workflows, sharings of workflows with projects, and the entries of the catalog.
The parts of a graph are stored as JSON.  The columns that can be given any value
are cells.
-/

namespace WorkflowExchange

/-- When a row was made and when it was last changed. -/
structure Stamps where
  createdAt : Moment
  updatedAt : Moment
  deriving DecidableEq

/-- The stamps of a row that is made at a moment. -/
def Stamps.at (moment : Moment) : Stamps := ⟨moment, moment⟩

/-- The stamps of a row that is changed at a moment. -/
def Stamps.touched (stamps : Stamps) (moment : Moment) : Stamps :=
  { stamps with updatedAt := moment }

structure User where
  id : String
  email : String
  firstName : Option String
  lastName : Option String
  role : String
  stamps : Stamps
  deriving DecidableEq

namespace User

/-- The name under which a user is shown: the parts of the name that are there,
or else the email address. -/
def displayName (user : User) : String :=
  let parts := [user.firstName, user.lastName].filterMap fun part =>
    part.filter (!·.isEmpty)
  if parts.isEmpty then user.email else String.intercalate " " parts

/-- Does a user have every scope on every workflow? -/
def isGlobalAdmin (user : User) : Bool :=
  Role.globalAdmins.contains user.role

end User

inductive ProjectType where
  | personal
  | team
  deriving DecidableEq

def ProjectType.name : ProjectType → String
  | .personal => "personal"
  | .team => "team"

/-- A project, with which workflows are shared. -/
structure Project where
  id : String
  name : String
  type : ProjectType
  stamps : Stamps
  deriving DecidableEq

structure Membership where
  projectId : String
  userId : String
  role : String
  stamps : Stamps
  deriving DecidableEq

/-- The four parts of a stored graph. -/
structure Graph where
  nodes : Json
  connections : Json
  settings : Json
  staticData : Json

structure Workflow where
  id : String
  name : TextCell
  active : Bool
  graph : Graph
  versionId : String
  stamps : Stamps

structure Sharing where
  workflowId : String
  projectId : String
  role : String
  stamps : Stamps
  deriving DecidableEq

/-- An entry of the catalog.  Its snapshot is a copy of a graph, as one JSON
value. -/
structure Entry where
  id : TextCell
  name : TextCell
  description : TextCell
  category : TextCell
  authorId : TextCell
  authorName : TextCell
  snapshot : Json
  downloads : CountCell
  isPublic : Bool
  originalWorkflowId : Option TextCell
  createdByUserId : TextCell
  stamps : Stamps

end WorkflowExchange

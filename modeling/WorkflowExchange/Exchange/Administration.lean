import WorkflowExchange.Exchange.Records

/-!
# Administration

The work that is not done for a user of the exchange: making users with their
personal projects, team projects and memberships, sharing workflows, and storing
workflows and entries without the checks that requests undergo.
-/

namespace WorkflowExchange

/-- What a new user is made from. -/
structure UserDraft where
  email : String
  /-- The identifier; one is made for a user without any. -/
  id? : Option String
  firstName : Option String
  lastName : Option String
  role : String

/-- The workflow that named fields describe.  A workflow without a graph has an
empty one. -/
def WorkflowDraft.ofFields (fields : List (String × Value)) : WorkflowDraft where
  name := .ofOption (fields.lookup "name")
  active := .ofOption (fields.lookup "active")
  graph :=
    { nodes := (fields.lookup "nodes").getD (.plainList [])
      connections := (fields.lookup "connections").getD (.plainDict [])
      settings := .ofOption (fields.lookup "settings")
      staticData := .ofOption (fields.lookup "static_data") }
  createdAt := .ofOption (fields.lookup "created_at")
  updatedAt := .ofOption (fields.lookup "updated_at")

/-- The row of an entry that named fields describe.  An entry is public and has
no downloads unless the fields say otherwise. -/
def Entry.prepared (fields : List (String × Value)) (id : Value)
    (moment : Moment) : Prepared Entry :=
  let given (name : String) : Value := .ofOption (fields.lookup name)
  .mk
    <$> Column.text id
    <*> Column.text (given "name")
    <*> Column.text.orElse (.text "") (given "description")
    <*> Column.text (given "category")
    <*> Column.text (given "author_id")
    <*> Column.text (given "author_name")
    <*> Column.json ((fields.lookup "workflow_json").getD (.plainDict []))
    <*> Column.count.orElse (.int 0) (given "downloads")
    <*> Column.truth.orElse true (given "is_public")
    <*> Column.text? (given "original_workflow_id")
    <*> Column.text (given "created_by_user_id")
    <*> Stamps.prepared moment (given "created_at") (given "updated_at")

namespace Administration

def addMember (projectId userId role : String) : Work Membership := do
  let membership : Membership :=
    { projectId, userId, role, stamps := .at (← Work.now) }
  .setAdded ((← Work.store).addMembership membership)
  pure membership

def createProject (name : String) (type : ProjectType) : Work Project := do
  let id ← .fresh .project
  let project : Project := { id, name, type, stamps := .at (← Work.now) }
  .setAdded ((← Work.store).addProject project)
  pure project

def createPersonalProject (userId name : String) : Work Project := do
  let project ← createProject name .personal
  let _ ← addMember project.id userId Role.personalOwner
  pure project

/-- Make a user with a personal project. -/
def createUser (draft : UserDraft) : Work User := do
  let id ←
    match draft.id?.filter (!·.isEmpty) with
    | some id => pure id
    | none => .fresh .user
  let user : User :=
    { id
      email := draft.email
      firstName := draft.firstName
      lastName := draft.lastName
      role := draft.role
      stamps := .at (← Work.now) }
  .setAdded ((← Work.store).addUser user)
  let _ ← createPersonalProject user.id
    (user.displayName ++ " <" ++ draft.email ++ ">")
  pure user

/-- End a membership. -/
def removeMember (projectId userId : String) : Work Unit := do
  .setStore ((← Work.store).removeMembership projectId userId)

/-- Store a workflow without checks and make the personal project of a user its
owner, if one is named.  The fields cannot name its identifiers. -/
def depositWorkflow (fields : List (String × Value)) (owner? : Option String) :
    Work LoadedWorkflow := do
  let workflow ← Work.insertWorkflow (.ofFields fields)
  match owner? with
  | none => pure ()
  | some owner =>
    let project ← Work.personalProject owner
    .linkOwner workflow.row.id project.id
  pure workflow

/-- Store an entry without checks.  The result is its identifier as it was given,
or else the one that was made. -/
def depositEntry (fields : List (String × Value)) : Work Value := do
  let made ← .fresh .entry
  let id := (fields.lookup "id").getD (.text made)
  let entry ← .storing (Entry.prepared fields id (← Work.now))
  .setAdded ((← Work.store).addEntry entry)
  pure id

/-- Change fields of a workflow without checking the values.  Fields that cannot
be changed are refused, sorted by name. -/
def changeWorkflow (workflowId : String) (fields : List (String × Value)) :
    Work LoadedWorkflow := do
  let found := (← Work.store).workflow? workflowId
  let unknown := (fields.map (·.1)).filter fun name =>
    (WorkflowField.ofLabel? name).isNone
  if !unknown.isEmpty then .fail (.notUpdatable (unknown.mergeSort (· ≤ ·)))
  else
    match found with
    | none => .fail (.fault .noAttribute)
    | some row =>
      .updateWorkflow (.ofRow row) (fields.filterMap fun field =>
        (WorkflowField.ofLabel? field.1).map fun known => (known, field.2))

end Administration

end WorkflowExchange

import WorkflowExchange.Store.Tables
import WorkflowExchange.Value.Portable

/-!
# Columns

The columns of each kind of row with their values, and the declaration of the
tables: which columns may be null, which make up the primary key, and which are
unique together.
-/

namespace WorkflowExchange

/-- The columns of a row with their names: those with plain data, and those with
JSON. -/
structure Columns where
  data : List (String × Value)
  json : List (String × Value) := []

def Value.ofMoment (moment : Moment) : Value :=
  .text moment.text

def Stamps.columns (stamps : Stamps) : List (String × Value) :=
  [("created_at", .ofMoment stamps.createdAt),
    ("updated_at", .ofMoment stamps.updatedAt)]

def User.columns (user : User) : Columns where
  data :=
    [("id", .text user.id), ("email", .text user.email),
      ("first_name", .ofText? user.firstName),
      ("last_name", .ofText? user.lastName), ("role", .text user.role)] ++
      user.stamps.columns

def Project.columns (project : Project) : Columns where
  data :=
    [("id", .text project.id), ("name", .text project.name),
      ("type", .text project.type.name)] ++ project.stamps.columns

def Membership.columns (membership : Membership) : Columns where
  data :=
    [("project_id", .text membership.projectId),
      ("user_id", .text membership.userId), ("role", .text membership.role)] ++
      membership.stamps.columns

/-- The columns of a workflow, given what its name, its activity and the parts of
its graph are shown as. -/
def Workflow.columnsWith (workflow : Workflow)
    (name active nodes connections settings staticData : Value) : Columns where
  data :=
    [("id", .text workflow.id), ("name", name), ("active", active),
      ("version_id", .text workflow.versionId)] ++ workflow.stamps.columns
  json :=
    [("nodes", nodes), ("connections", connections), ("settings", settings),
      ("static_data", staticData)]

def Workflow.columns (workflow : Workflow) : Columns :=
  let graph := workflow.graph
  workflow.columnsWith workflow.name.toValue (.bool workflow.active)
    (.ofJson graph.nodes) (.ofJson graph.connections) (.ofJson graph.settings)
    (.ofJson graph.staticData)

def Sharing.columns (sharing : Sharing) : Columns where
  data :=
    [("workflow_id", .text sharing.workflowId),
      ("project_id", .text sharing.projectId), ("role", .text sharing.role)] ++
      sharing.stamps.columns

/-- The columns of an entry. -/
def Entry.columns (entry : Entry) : Columns where
  data :=
    [("id", entry.id.toValue), ("name", entry.name.toValue),
      ("description", entry.description.toValue),
      ("category", entry.category.toValue),
      ("author_id", entry.authorId.toValue),
      ("author_name", entry.authorName.toValue),
      ("downloads", entry.downloads.toValue),
      ("is_public", .bool entry.isPublic),
      ("original_workflow_id",
        .ofOption (entry.originalWorkflowId.map TextCell.toValue)),
      ("created_by_user_id", entry.createdByUserId.toValue)] ++
      entry.stamps.columns
  json := [("workflow_json", .ofJson entry.snapshot)]

/-- The tables of a store by name, each as the columns of its rows. -/
def Store.tables (store : Store) : List (String × List Columns) :=
  [("marketplace_workflow", store.entries.map Entry.columns),
    ("project", store.projects.map Project.columns),
    ("project_relation", store.memberships.map Membership.columns),
    ("shared_workflow", store.sharings.map Sharing.columns),
    ("user", store.users.map User.columns),
    ("workflow_entity", store.workflows.map Workflow.columns)]

/-- The declaration of a table. -/
structure TableDeclaration where
  name : String
  required : List String
  nullable : List String
  primaryKey : List String
  unique : List (List String)

/-- The declarations of all tables. -/
def tableDeclarations : List TableDeclaration :=
  [{ name := "marketplace_workflow"
     required :=
       ["id", "name", "description", "category", "author_id", "author_name",
         "workflow_json", "downloads", "is_public", "created_by_user_id",
         "created_at", "updated_at"]
     nullable := ["original_workflow_id"]
     primaryKey := ["id"]
     unique := [["created_by_user_id", "original_workflow_id"]] },
    { name := "project"
      required := ["id", "name", "type", "created_at", "updated_at"]
      nullable := []
      primaryKey := ["id"]
      unique := [] },
    { name := "project_relation"
      required := ["project_id", "user_id", "role", "created_at", "updated_at"]
      nullable := []
      primaryKey := ["project_id", "user_id"]
      unique := [] },
    { name := "shared_workflow"
      required :=
        ["workflow_id", "project_id", "role", "created_at", "updated_at"]
      nullable := []
      primaryKey := ["project_id", "workflow_id"]
      unique := [] },
    { name := "user"
      required := ["id", "email", "role", "created_at", "updated_at"]
      nullable := ["first_name", "last_name"]
      primaryKey := ["id"]
      unique := [] },
    { name := "workflow_entity"
      required :=
        ["id", "name", "active", "nodes", "connections", "version_id",
          "created_at", "updated_at"]
      nullable := ["settings", "static_data"]
      primaryKey := ["id"]
      unique := [] }]

end WorkflowExchange

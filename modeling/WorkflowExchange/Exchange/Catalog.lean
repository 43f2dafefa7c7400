import WorkflowExchange.Exchange.Summary

/-!
# The catalog

The operations on the catalog: list the entries that a user may see, show one
with its graph, publish a workflow, import an entry as a new workflow and delete
an entry.

Publishing takes two transactions.  The first one checks access and copies the
graph; then the description is made, which may take long; the second one updates
the entry of the workflow and its author, or inserts it.  When the insertion
breaks a key because another publication came first, the entry that is there is
updated instead.
-/

namespace WorkflowExchange

namespace Catalog

/-- What is added to the name of an imported workflow. -/
def importedMark : String := " (Imported)"

/-- A copy of a graph; its messages are logged. -/
def copied (context : Log.Context) (source : Value) : Work GraphCopy :=
  .ofTrial context (Heap.empty.copyGraph source)

/-- May a user see an entry: is it public or by the user? -/
def isOpenTo (entry : Entry) (user : User) : Bool :=
  entry.isPublic || entry.authorId = .text user.id

/-- What an entry is listed as, or that it cannot be shown. -/
def shown (entry : Entry) : Work EntrySummary :=
  .ofExcept (EntrySummary.ofEntry entry).toExcept

/-! ## Listing -/

/-- The entries that a user is shown, those changed last first: a publication and a
counted import change an entry. -/
def findAll (user : User) : Work (List EntrySummary) :=
  .transaction .operation (.ofCall user.id "find_all") do
    let entries ← .call .findVisible [] do
      pure ((← Work.store).visibleEntries user.id)
    entries.mapM shown

/-- An entry with its graph.  A private entry of someone else is reported as
missing. -/
def get (user : User) (entryId : String) : Work EntryDetail :=
  let context := Log.Context.ofCall user.id "get"
  .transaction .operation context do
    match ← Work.entryWith? entryId with
    | none => .refuse .entryMissing
    | some entry =>
      if isOpenTo entry user then
        let graph ← copied context (.ofJson entry.snapshot)
        pure ⟨← shown entry, graph⟩
      else .refuse .entryMissing

/-- The workflows that a user may read, those changed last first. -/
def findUserWorkflows (user : User) : Work (List WorkflowSummary) :=
  .transaction .operation (.ofCall user.id "find_user_workflows") do
    let ids ← .call .accessibleIds [] do
      pure ((← Work.store).accessibleIds user [Scope.read])
    let workflows ← .call .workflowsWithIds [] do
      pure ((← Work.store).workflowsWithIds ids)
    workflows.mapM fun workflow =>
      .ofExcept (WorkflowSummary.ofLoaded (.ofRow workflow)).toExcept

/-! ## Publishing -/

/-- The scopes that are needed to publish a workflow. -/
def publishScopes (strict : Bool) : List Scope :=
  if strict then [Scope.read, Scope.update] else [Scope.read]

/-- The name of a workflow and a copy of its graph, for a user who has some
scopes on it. -/
def snapshotFor (context : Log.Context) (user : User) (scopes : List Scope)
    (workflowId : String) : Work (Value × GraphCopy) := do
  match ← Work.accessible? user scopes workflowId with
  | none => .refuse .publishForbidden
  | some workflow =>
    let graph ← copied context (LiveGraph.ofGraph workflow.graph).toValue
    pure (workflow.name.toValue, graph)

/-- The description that the generator makes of a workflow. -/
def describe (context : Log.Context) (name : Value) (graph : GraphCopy) :
    Work Wide := do
  let generator := (← read).generator
  .ofTrial context
    ((generator.generate .empty name graph.toValue).mapError .fault)

/-- The description that publishing a workflow would make; nothing is stored. -/
def preview (user : User) (workflowId : String) : Work Wide := do
  let context := Log.Context.ofCall user.id "preview_description"
  let (name, graph) ← .transaction .operation context
    (snapshotFor context user [Scope.read] workflowId)
  describe context name graph

/-- The description that a request carries, without blanks around it. -/
def sentDescription (request : PublishRequest) : String :=
  Text.trim ((request.description.getD none).getD "")

/-- What a publication gives an entry. -/
def entryFields (request : PublishRequest) (description : String)
    (graph : GraphCopy) : EntryFields where
  name := request.name
  description := description
  category := request.category
  snapshot := graph.toValue
  isPublic? := request.isPublic.getD none

/-- The first entry of a workflow and its author, with an identifier and a
snapshot, made at a moment. -/
def firstEntry (user : User) (workflowId : String) (fields : EntryFields)
    (id : String) (snapshot : Json) (moment : Moment) : Entry where
  id := .text id
  name := .text fields.name
  description := .text fields.description
  category := .text fields.category
  authorId := .text user.id
  authorName := .text user.displayName
  snapshot := snapshot
  downloads := .int 0
  isPublic := fields.isPublic?.getD true
  originalWorkflowId := some (.text workflowId)
  createdByUserId := .text user.id
  stamps := .at moment

/-- Insert an entry, and tell whether it was inserted without breaking a key. -/
def inserts (entry : Entry) : Work Bool :=
  tryCatch (do Work.insertEntry entry; pure true) fun failure =>
    match failure with
    | .database .integrity => pure false
    | other => .fail other

/-- Insert the entry of a workflow and its author, or update the one that
another publication inserted. -/
def insertOrUpdate (context : Log.Context) (user : User) (workflowId : String)
    (fields : EntryFields) : Work Entry := do
  let id ← .fresh .entry
  let moment ← Work.now
  let snapshot ← .storing (Column.json fields.snapshot)
  let entry := firstEntry user workflowId fields id snapshot moment
  if ← inserts entry then
    .log context ⟨.info, "Created marketplace entry %s", [entry.id.toValue]⟩
    pure entry
  else
    match ← Work.entryByOrigin? workflowId user.id with
    | none => .fail (.database .integrity)
    | some existing =>
      .log context ⟨.info, "Concurrent publish detected, updating entry %s",
        [existing.id.toValue]⟩
      .updateEntry existing fields

/-- Update the entry of a workflow and its author, or insert it. -/
def placeEntry (context : Log.Context) (user : User) (workflowId : String)
    (fields : EntryFields) : Work Entry := do
  match ← Work.entryByOrigin? workflowId user.id with
  | some existing =>
    let entry ← .updateEntry existing fields
    .log context ⟨.info, "Updated marketplace entry %s", [entry.id.toValue]⟩
    pure entry
  | none => insertOrUpdate context user workflowId fields

/-- Place the entry of a workflow and its author, and save it. -/
def saveEntry (context : Log.Context) (user : User) (workflowId : String)
    (fields : EntryFields) : Work Entry := do
  let entry ← placeEntry context user workflowId fields
  .commit
  pure entry

/-- The second transaction of publishing, for a description that has an encoding. -/
def writeEntry (context : Log.Context) (user : User) (workflowId : String)
    (fields : EntryFields) : Work EntrySummary :=
  .transaction .operation context do
    shown (← saveEntry context user workflowId fields)

/-- The first transaction of publishing: the name of the workflow and a copy of
its graph, if the user may publish it. -/
def beginPublish (user : User) (request : PublishRequest) :
    Work (Value × GraphCopy) := do
  let context := Log.Context.ofCall user.id "publish"
  let scopes := publishScopes (← read).strict
  .transaction .operation context
    (snapshotFor context user scopes request.workflowId)

/-- The description of an entry: one that is made, or the one that the request
carries. -/
def descriptionFor (context : Log.Context) (request : PublishRequest)
    (name : Value) (graph : GraphCopy) : Work Wide :=
  if request.useAutoDescription.getD false then describe context name graph
  else pure (sentDescription request)

/-- The calls that send the database a description. -/
def sendsDescription : StoreCall → Bool
  | .insertEntry => true
  | .updateEntry => true
  | _ => false

/-- Write the entry of a workflow with a description.  One that has halves of pairs in it
has no encoding, so that the call that sends it fails. -/
def writeDescribed (context : Log.Context) (user : User) (request : PublishRequest)
    (graph : GraphCopy) (description : Wide) : Work EntrySummary :=
  match description.string? with
  | some content =>
    writeEntry context user request.workflowId (entryFields request content graph)
  | none =>
    .unbound sendsDescription (.fault .unencodable)
      (writeEntry context user request.workflowId
        (entryFields request description.shown graph))

/-- The rest of publishing: make the description, and write the entry. -/
def finishPublish (user : User) (request : PublishRequest) (name : Value)
    (graph : GraphCopy) : Work EntrySummary := do
  let context := Log.Context.ofCall user.id "publish"
  let description ← descriptionFor context request name graph
  writeDescribed context user request graph description

/-- Publish a workflow: insert or update the entry of the workflow and its
author. -/
def publish (user : User) (request : PublishRequest) : Work EntrySummary := do
  let (name, graph) ← beginPublish user request
  finishPublish user request name graph

/-! ## Importing -/

/-- Count a download of an entry by a user, unless the user is the author. -/
def countDownload (user : User) (entryId : String) (entry : Entry) :
    Work Unit := do
  if entry.authorId ≠ .text user.id then
    if (← Work.incrementDownloads entryId 1) ≠ 1 then .refuse .entryMissing

/-- Make a new workflow from an entry, in the personal project of a user. -/
def importEntry (user : User) (entryId : String) : Work WorkflowSummary :=
  let context := Log.Context.ofCall user.id "import"
  .transaction .operation context do
    match ← Work.entryWith? entryId with
    | none => .refuse .entryMissing
    | some entry =>
      if !isOpenTo entry user then .refuse .importForbidden
      else
        let graph ← copied context (.ofJson entry.snapshot)
        let project ← Work.personalProject user.id
        let workflow ← .insertWorkflow
          { name := .text (entry.name.shown ++ importedMark)
            active := .bool false
            graph := graph.live }
        .linkOwner workflow.row.id project.id
        countDownload user entryId entry
        .commit
        .log context ⟨.info, "Imported marketplace entry %s as workflow %s",
          [.text entryId, .text workflow.row.id]⟩
        .ofExcept (WorkflowSummary.ofLoaded workflow).toExcept

/-! ## Deleting -/

/-- Remove an entry for good.  Only its author and global administrators may;
workflows imported from it stay. -/
def delete (user : User) (entryId : String) : Work Unit :=
  let context := Log.Context.ofCall user.id "delete"
  .transaction .operation context do
    match ← Work.entryWith? entryId with
    | none => .refuse .entryMissing
    | some entry =>
      if !(user.isGlobalAdmin || entry.createdByUserId = .text user.id) then
        .refuse .deleteForbidden
      else
        let _ ← Work.deleteEntry entryId
        .commit
        .log context ⟨.info, "Deleted marketplace entry %s", [.text entryId]⟩

end Catalog

end WorkflowExchange

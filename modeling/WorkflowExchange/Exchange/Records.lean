import WorkflowExchange.Exchange.Changes
import WorkflowExchange.Exchange.Session

/-!
# Store calls

The uses of the store, as work in a session.  What the store is given is prepared
on the way: what cannot be stored, and a key that would be broken, are errors of
the database.
-/

namespace WorkflowExchange

/-- What publishing gives an entry. -/
structure EntryFields where
  name : String
  description : String
  category : String
  snapshot : Value
  /-- The visibility, if the request sent one. -/
  isPublic? : Option Bool

namespace Entry

/-- An entry with the fields that publishing it again gives it at a moment. -/
def republished (entry : Entry) (fields : EntryFields) (snapshot : Json)
    (moment : Moment) : Entry :=
  { entry with
    name := .text fields.name
    description := .text fields.description
    category := .text fields.category
    snapshot
    isPublic := fields.isPublic?.getD entry.isPublic
    stamps := entry.stamps.touched moment }

/-- An entry with some more downloads, counted at a moment. -/
def downloaded (entry : Entry) (amount : Int) (moment : Moment) : Entry :=
  { entry with
    downloads := entry.downloads.plus amount
    stamps := entry.stamps.touched moment }

end Entry

namespace Work

/-- What is prepared for a row, or the failure of storing it. -/
def storing {α : Type} (prepared : Prepared α) : Work α :=
  ofExcept prepared.toExcept

/-- Go on with tables to which a row was added, if no key is broken. -/
def setAdded (store? : Option Store) : Work Unit :=
  match store? with
  | some store => setStore store
  | none => fail (.database .integrity)

/-- The mishap of a call whose data cannot be prepared. -/
def mishapOf : Failure → Mishap
  | .database error => .error error
  | .fault found => .fault found
  | _ => .nothing

/-- Do work with an identifier that some calls send the database as a value.  Rows are
found by texts: what is kept otherwise finds nothing. -/
def withId {α : Type} (sends : StoreCall → Bool) (id : Value)
    (work : String → Work α) : Work α :=
  match Datum.ofValue id with
  | .error failure => unbound sends (mishapOf failure) (work "")
  | .ok datum =>
    match TextCell.ofDatum? datum with
    | some (.text content) => work content
    | _ => unbound sends .nothing (work "")

/-! ## Projects and workflows -/

/-- The personal project of a user; everyone who makes a workflow has to have one. -/
def personalProject (userId : String) : Work Project := do
  match ← call .personalProject none (do
    pure ((← store).personalProject? userId)) with
  | some project => pure project
  | none => refuse .personalProjectMissing

/-- The workflow with an identifier, if a user has some scopes on it. -/
def accessible? (user : User) (scopes : List Scope) (workflowId : String) :
    Work (Option Workflow) :=
  call .accessibleWorkflow none do
    pure ((← store).accessibleWorkflow? user scopes workflowId)

/-- Insert a row for a new workflow, with an identifier and a version of its own. -/
def insertWorkflow (draft : WorkflowDraft) : Work LoadedWorkflow := do
  let id ← fresh .workflow
  let versionId ← fresh .version
  let moment ← now
  change .insertWorkflow do
    let row ← storing (draft.prepared id versionId moment)
    setAdded ((← store).addWorkflow row)
    pure ⟨row, draft.name, draft.active, draft.graph⟩

/-- Let a project own a workflow. -/
def linkOwner (workflowId projectId : String) : Work Unit :=
  change .linkOwner do
    setAdded ((← store).addSharing
      { workflowId, projectId, role := Role.workflowOwner
        stamps := .at (← now) })

/-- The version of a workflow after some changes: a new one if its graph
changes. -/
def versionAfter (workflow : LoadedWorkflow) (changes : Changes) : Work String :=
  if changes.any (·.1.isOfGraph) then fresh .version
  else pure workflow.row.versionId

/-- Make changes to the row of a workflow, with its next version. -/
def updateWorkflow (workflow : LoadedWorkflow) (changes : Changes) :
    Work LoadedWorkflow :=
  change .updateWorkflow do
    let versionId ← versionAfter workflow changes
    let changed ← storing (changes.row workflow)
    let stamps := workflow.row.stamps.touched (← now)
    let row := { changed with versionId, stamps }
    setStore ((← store).replaceWorkflow row)
    pure { changes.seen workflow with row }

/-! ## The catalog -/

/-- The entry with an identifier. -/
def entryWith? (id : String) : Work (Option Entry) :=
  call .getEntry none do pure ((← store).entryWith? id)

/-- The entry of a workflow and the user who published it. -/
def entryByOrigin? (workflowId userId : String) : Work (Option Entry) :=
  call .findByOrigin none do
    pure ((← store).entryByOrigin? workflowId userId)

/-- Insert an entry inside a savepoint, so that a broken key undoes nothing else. -/
def insertEntry (entry : Entry) : Work Unit := do
  change .savepoint (pure ())
  change .insertEntry do
    setAdded ((← store).addEntry entry)

/-- Give an entry the fields of another publication. -/
def updateEntry (entry : Entry) (fields : EntryFields) : Work Entry :=
  change .updateEntry do
    let snapshot ← storing (Column.json.changed (.ofJson entry.snapshot)
      entry.snapshot (some fields.snapshot))
    let updated := entry.republished fields snapshot (← now)
    setStore ((← store).replaceEntry updated)
    pure updated

/-- Count downloads of an entry; the result is the number of entries that were
changed.  No more can be counted at once than an integer of 64 bits. -/
def incrementDownloads (id : String) (amount : Int) : Work Nat :=
  call .incrementDownloads 0 do
    if !Datum.isInt amount then fail (.fault .overflow)
    match (← store).entryWith? id with
    | none => pure 0
    | some entry =>
      let counted := entry.downloaded amount (← now)
      setStore ((← store).replaceEntry counted)
      pure 1

/-- Remove an entry; the result is the number of entries that were removed. -/
def deleteEntry (id : String) : Work Nat :=
  call .deleteEntry 0 do
    match (← store).entryWith? id with
    | none => pure 0
    | some _ =>
      setStore ((← store).removeEntry id)
      pure 1

end Work

end WorkflowExchange

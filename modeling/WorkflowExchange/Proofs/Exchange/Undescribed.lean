import WorkflowExchange.Proofs.Exchange.Calm
import WorkflowExchange.Proofs.Store.Tables

/-!
# Runs that differ in a description

`Store.undescribed` takes the descriptions from the entries of an origin.  Entries are
found, added and replaced in the same way without them, and so two runs that describe
an entry differently go on alike: `Work.Resembles` says that both end with the same
failure, or with results for which something holds, and leave stores behind that are
the same without the descriptions.  The generators of the runs and what they log may
differ.
-/

namespace WorkflowExchange

/-! ## Taking descriptions away -/

/-- An entry with another description. -/
def Entry.described (entry : Entry) (content : String) : Entry :=
  { entry with description := .text content }

/-- An entry, without its description if it is of an origin. -/
def Entry.undescribed (origin : Option TextCell × TextCell) (entry : Entry) :
    Entry :=
  if entry.origin = origin then entry.described "" else entry

/-- A store without the descriptions of the entries of an origin. -/
def Store.undescribed (origin : Option TextCell × TextCell) (store : Store) :
    Store :=
  { store with entries := store.entries.map (Entry.undescribed origin) }

namespace Entry

variable (origin : Option TextCell × TextCell) (entry : Entry)

@[simp]
theorem originalWorkflowId_undescribed :
    (entry.undescribed origin).originalWorkflowId = entry.originalWorkflowId := by
  rw [undescribed]
  split <;> rfl

@[simp]
theorem createdByUserId_undescribed :
    (entry.undescribed origin).createdByUserId = entry.createdByUserId := by
  rw [undescribed]
  split <;> rfl

variable {origin entry}

end Entry

namespace Store

variable {origin : Option TextCell × TextCell} {store : Store}

theorem entryByOrigin?_undescribed (workflowId userId : String) :
    (store.undescribed origin).entryByOrigin? workflowId userId =
      (store.entryByOrigin? workflowId userId).map (Entry.undescribed origin) := by
  simp only [entryByOrigin?, undescribed, List.find?_map, Function.comp_def,
    Entry.originalWorkflowId_undescribed, Entry.createdByUserId_undescribed]

end Store

/-! ## Sessions -/

/-- Two sessions resemble each other: without the descriptions of the entries of an
origin their stores are the same, and so is all else but the messages. -/
structure Session.Resembles (origin : Option TextCell × TextCell)
    (one other : Session) : Prop where
  saved : other.saved.undescribed origin = one.saved.undescribed origin
  draft : other.draft.undescribed origin = one.draft.undescribed origin
  counters : other.counters = one.counters
  calls : other.calls = one.calls
  commits : other.commits = one.commits

namespace Session.Resembles

variable {origin : Option TextCell × TextCell} {one other : Session}

theorem refl (session : Session) : session.Resembles origin session :=
  ⟨rfl, rfl, rfl, rfl, rfl⟩

/-- Sessions resemble each other after calls and messages, when the calls are the
same. -/
theorem of_idle (resembles : one.Resembles origin other) {after later : Session}
    (idle : one.Idle after) (likewise : other.Idle later)
    (calls : later.calls = after.calls) : after.Resembles origin later where
  saved := by rw [likewise.saved, idle.saved, resembles.saved]
  draft := by rw [likewise.draft, idle.draft, resembles.draft]
  counters := by rw [likewise.counters, idle.counters, resembles.counters]
  calls := calls
  commits := by rw [likewise.commits, idle.commits, resembles.commits]

theorem noted (resembles : one.Resembles origin other) (call : StoreCall) :
    (one.noted call).Resembles origin (other.noted call) :=
  resembles.of_idle (Session.idle_noted _ _) (Session.idle_noted _ _)
    (congrArg (call :: ·) resembles.calls)

theorem discarded (resembles : one.Resembles origin other) :
    one.discarded.Resembles origin other.discarded :=
  { resembles with draft := resembles.saved }

theorem committed (resembles : one.Resembles origin other) :
    one.committed.Resembles origin other.committed where
  saved := resembles.draft
  draft := resembles.draft
  counters := resembles.counters
  calls := congrArg (StoreCall.commit :: ·) resembles.calls
  commits := congrArg (· + 1) resembles.commits

theorem entryByOrigin?_eq (resembles : one.Resembles origin other)
    (workflowId userId : String) :
    (other.draft.entryByOrigin? workflowId userId).map (Entry.undescribed origin) =
      (one.draft.entryByOrigin? workflowId userId).map
        (Entry.undescribed origin) := by
  rw [← Store.entryByOrigin?_undescribed, resembles.draft,
    Store.entryByOrigin?_undescribed]

end Session.Resembles

/-- The environment with another generator. -/
def Environment.asking (environment : Environment) (generator : Generator) :
    Environment :=
  { environment with generator }

namespace Work

variable {α β : Type} {origin : Option TextCell × TextCell}
  {environment : Environment} {generator : Generator} {one other : Session}

/-- Two runs with different generators end with the same failure, or with results for
which something holds, and in sessions that resemble each other. -/
inductive Resembles (origin : Option TextCell × TextCell)
    (environment : Environment) (generator : Generator) (first second : Work α)
    (one other : Session) (holds : α → α → Prop) : Prop where
  | fails {failure : Failure} {after later : Session}
      (ended : first.outcome environment one = (.error failure, after))
      (likewise : second.outcome (environment.asking generator) other =
        (.error failure, later))
      (resembles : after.Resembles origin later)
  | ends {result twin : α} {after later : Session}
      (ended : first.outcome environment one = (.ok result, after))
      (likewise : second.outcome (environment.asking generator) other =
        (.ok twin, later))
      (resembles : after.Resembles origin later)
      (holding : holds result twin)

/-- The sessions in the end resemble each other. -/
theorem Resembles.after {first second : Work α} {holds : α → α → Prop}
    (resembles : first.Resembles origin environment generator second one other holds) :
    (first.outcome environment one).2.Resembles origin
      (second.outcome (environment.asking generator) other).2 := by
  cases resembles with
  | fails ended likewise alike | ends ended likewise alike =>
      rw [ended, likewise]
      exact alike

theorem Resembles.congr {first second before past : Work α}
    {start begun : Session} {holds : α → α → Prop}
    (resembles : before.Resembles origin environment generator past start begun
      holds)
    (ended : first.outcome environment one = before.outcome environment start)
    (likewise : second.outcome (environment.asking generator) other =
      past.outcome (environment.asking generator) begun) :
    first.Resembles origin environment generator second one other holds := by
  cases resembles with
  | fails last same alike =>
      exact .fails (ended.trans last) (likewise.trans same) alike
  | ends last same alike holding =>
      exact .ends (ended.trans last) (likewise.trans same) alike holding

/-- What work prepares in the first run holds of its result. -/
theorem Resembles.and_prepares {first second : Work α} {holds : α → α → Prop}
    {said : α → Session → Prop}
    (resembles : first.Resembles origin environment generator second one other
      holds)
    (prepares : first.Prepares environment one said) :
    first.Resembles origin environment generator second one other
      fun result twin => holds result twin ∧ ∃ after, said result after := by
  cases resembles with
  | fails ended likewise alike => exact .fails ended likewise alike
  | ends ended likewise alike holding =>
      exact .ends ended likewise alike
        ⟨holding, _, (Settles.of_ok prepares ended).2⟩

end Work

end WorkflowExchange

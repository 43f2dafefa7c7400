import WorkflowExchange.Exchange.Run
import WorkflowExchange.Proofs.Exchange.Declared
import WorkflowExchange.Proofs.Exchange.Outcome
import WorkflowExchange.Proofs.Store.Tables

/-!
# Deeds

A turn that saves something does one of a few things to the store, a `Deed`.
`Store.Does` tells what: how the tables before and after are related, whatever
mishaps the turn met on the way to its only commit.  Every invariant of runs is
proved by cases on it.
-/

namespace WorkflowExchange

/-- What a turn does when it saves something. -/
inductive Deed where
  | create
  | importEntry (user : User) (entryId : String)
  | update
  | publish (user : User) (request : PublishRequest)
  | delete (entryId : String)

/-- An identifier of a kind was made between some counters and others. -/
def Counters.Makes (before after : Counters) (kind : Identifier.Kind)
    (id : String) : Prop :=
  ∃ number, before.count kind < number ∧ number ≤ after.count kind ∧
    id = kind.numbered number

theorem Counters.Makes.widen {earlier before after : Counters}
    {kind : Identifier.Kind} {id : String} (makes : before.Makes after kind id)
    (most : earlier.AtMost before) : earlier.Makes after kind id := by
  rcases makes with ⟨number, new, made, named⟩
  exact ⟨number, Nat.lt_of_le_of_lt (most kind) new, made, named⟩

/-- The next identifier of a kind is made once that many are counted. -/
theorem Counters.makes_next {before after : Counters} {kind : Identifier.Kind}
    (made : before.count kind + 1 ≤ after.count kind) :
    before.Makes after kind (kind.numbered (before.count kind + 1)) :=
  ⟨_, Nat.lt_succ_self _, made, rfl⟩

/-- A workflow of the declared kinds was added under identifiers that were made
meanwhile, and shared with a project. -/
def Store.Deposited (before after : Counters) (first last : Store) : Prop :=
  ∃ row sharing, row.Declared ∧ before.Makes after .workflow row.id ∧
    before.Makes after .version row.versionId ∧ sharing.workflowId = row.id ∧
    last = { first with
      workflows := first.workflows ++ [row]
      sharings := first.sharings ++ [sharing] }

/-- A workflow with an identifier that no other has was added and shared with the
personal project of a user. -/
def Store.Adopts (user : User) (row : Workflow) (first last : Store) : Prop :=
  ∃ project stamps, first.personalProject? user.id = some project ∧
    (∀ present ∈ first.workflows, row.id ≠ present.id) ∧
    last = { first with
      workflows := first.workflows ++ [row]
      sharings := first.sharings ++
        [⟨row.id, project.id, Role.workflowOwner, stamps⟩] }

theorem Store.adopts_of_added {user : User} {row : Workflow} {project : Project}
    {stamps : Stamps} {first second third : Store}
    (owned : first.personalProject? user.id = some project)
    (added : first.addWorkflow row = some second)
    (linked : second.addSharing ⟨row.id, project.id, Role.workflowOwner,
      stamps⟩ = some third) : first.Adopts user row third := by
  rcases Store.addWorkflow_eq_some.mp added with ⟨different, rfl⟩
  rcases Store.addSharing_eq_some.mp linked with ⟨-, rfl⟩
  exact ⟨project, stamps, owned, different, rfl⟩

theorem Store.Adopts.deposited {before after : Counters} {user : User}
    {row : Workflow} {first last : Store} (adopts : first.Adopts user row last)
    (declared : row.Declared) (made : before.Makes after .workflow row.id)
    (version : before.Makes after .version row.versionId) :
    first.Deposited before after last := by
  rcases adopts with ⟨project, stamps, -, -, rfl⟩
  exact ⟨row, _, declared, made, version, rfl, rfl⟩

theorem Store.Deposited.entries_eq {before after : Counters}
    {first last : Store} (deposited : first.Deposited before after last) :
    last.entries = first.entries := by
  rcases deposited with ⟨_, _, -, -, -, -, rfl⟩
  rfl

/-- A deed at a moment leads from one store to another, with the identifiers that
were made before and after it. -/
inductive Store.Does (moment : Moment) (before after : Counters) :
    Deed → Store → Store → Prop where
  | create {first last : Store}
      (deposited : first.Deposited before after last) :
      Does moment before after .create first last
  | importOwn {first last : Store} {user : User} {entryId : String}
      {entry : Entry}
      (found : first.entryWith? entryId = some entry)
      (own : entry.authorId = .text user.id)
      (deposited : first.Deposited before after last) :
      Does moment before after (.importEntry user entryId) first last
  | importOther {first last : Store} {user : User} {entryId : String}
      {entry : Entry}
      (found : first.entryWith? entryId = some entry)
      (others : entry.authorId ≠ .text user.id)
      (deposited : first.Deposited before after last) :
      Does moment before after (.importEntry user entryId) first
        (last.replaceEntry (entry.downloaded 1 moment))
  | update {first : Store} {old changed : Workflow}
      (held : old ∈ first.workflows) (declared : changed.Declared)
      (same : changed.id = old.id)
      (version : changed.versionId = old.versionId ∨
        before.Makes after .version changed.versionId) :
      Does moment before after .update first (first.replaceWorkflow changed)
  | publish {first last : Store} {user : User} {request : PublishRequest}
      {description : String} {graph : GraphCopy} {snapshot : Json}
      {number : Nat} (new : before.entries < number)
      (made : number ≤ after.entries) (object : snapshot.IsObject)
      (added : first.addEntry (Catalog.firstEntry user request.workflowId
        (Catalog.entryFields request description graph)
        (Identifier.Kind.entry.numbered number) snapshot moment) = some last) :
      Does moment before after (.publish user request) first last
  | republish {first : Store} {user : User} {request : PublishRequest}
      {description : String} {graph : GraphCopy} {snapshot : Json}
      {entry : Entry}
      (found : first.entryByOrigin? request.workflowId user.id = some entry)
      (object : snapshot.IsObject ∨ snapshot = entry.snapshot) :
      Does moment before after (.publish user request) first
        (first.replaceEntry (entry.republished
          (Catalog.entryFields request description graph) snapshot moment))
  | delete {first : Store} {entryId : String} :
      Does moment before after (.delete entryId) first
        (first.removeEntry entryId)
  | deleteNothing {first : Store} {entryId : String} :
      Does moment before after (.delete entryId) first first

theorem Store.Deposited.widen {earlier before after : Counters}
    {first last : Store} (deposited : first.Deposited before after last)
    (most : earlier.AtMost before) : first.Deposited earlier after last := by
  rcases deposited with ⟨row, sharing, declared, made, version, rest⟩
  exact ⟨row, sharing, declared, made.widen most, version.widen most, rest⟩

/-- A deed can be looked at from an earlier time. -/
theorem Store.Does.widen {moment : Moment} {earlier before after : Counters}
    {deed : Deed} {first last : Store}
    (does : Store.Does moment before after deed first last)
    (most : earlier.AtMost before) :
    Store.Does moment earlier after deed first last := by
  cases does with
  | create deposited => exact .create (deposited.widen most)
  | importOwn found own deposited =>
      exact .importOwn found own (deposited.widen most)
  | importOther found others deposited =>
      exact .importOther found others (deposited.widen most)
  | update held declared same version =>
      exact .update held declared same (version.imp_right (·.widen most))
  | publish new made object added =>
      exact .publish (Nat.lt_of_le_of_lt (most .entry) new) made object added
  | republish found object => exact .republish found object
  | delete => exact .delete
  | deleteNothing => exact .deleteNothing

/-- From one session to another there is one commit, of a deed. -/
structure Session.Did (moment : Moment) (deed : Deed)
    (before after : Session) : Prop where
  does : Store.Does moment before.counters after.counters deed before.saved
    after.saved
  commits : after.commits = before.commits + 1
  counters : before.counters.AtMost after.counters

theorem Session.Did.widen {moment : Moment} {deed : Deed}
    {first second third : Session} (did : Session.Did moment deed second third)
    (unsaved : first.Unsaved second) : Session.Did moment deed first third where
  does := by
    rw [← unsaved.saved]
    exact did.does.widen unsaved.counters
  commits := by rw [did.commits, unsaved.commits]
  counters := unsaved.counters.trans did.counters

/-- What is done to a draft that only a commit saves. -/
theorem Session.did_of_committed {moment : Moment} {deed : Deed}
    {before last after : Session} (unsaved : before.discarded.Unsaved last)
    (does : Store.Does moment before.counters last.counters deed before.saved
      last.draft)
    (idle : last.committed.Idle after) :
    Session.Did moment deed before after.discarded where
  does := by
    have saved : after.discarded.saved = last.draft := idle.saved
    have counters : after.discarded.counters = last.counters := idle.counters
    rw [saved, counters]
    exact does
  commits := by
    have commits : after.discarded.commits = last.commits + 1 := idle.commits
    rw [commits, unsaved.commits]
    rfl
  counters := by
    have counters : after.discarded.counters = last.counters := idle.counters
    rw [counters]
    exact unsaved.counters

end WorkflowExchange

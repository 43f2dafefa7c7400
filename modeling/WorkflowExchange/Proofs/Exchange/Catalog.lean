import WorkflowExchange.Proofs.Exchange.Deed
import WorkflowExchange.Proofs.Exchange.Records

/-!
# What the operations on the catalog do

Listing, showing and the first transaction of publishing save nothing.  Importing
and deleting fail with nothing saved or commit once.  The rest of publishing fails
with nothing saved, or commits once and then shows the entry; showing it is all
that can still fail.
-/

namespace WorkflowExchange

namespace Catalog

variable {environment : Environment} {before : Session}

/-! ## Operations that save nothing -/

theorem prepares_copied (context : Log.Context) (source : Value) :
    (copied context source).Prepares environment before fun graph after =>
      (Heap.empty.copyGraph source).outcome = .ok graph ∧ before.Idle after :=
  Work.prepares_ofTrial context _

theorem prepares_shown (entry : Entry) :
    (shown entry).Prepares environment before fun summary _ =>
      (EntrySummary.ofEntry entry).toExcept = .ok summary :=
  Work.Prepares.mono (Work.prepares_ofExcept _) fun _ _ _ both => both.1

/-- What is listed are entries that the user is shown. -/
theorem findAll_prepares (user : User) :
    (findAll user).Prepares environment before fun summaries _ =>
      ∀ summary ∈ summaries, ∃ entry ∈ before.saved.visibleEntries user.id,
        (EntrySummary.ofEntry entry).toExcept = .ok summary := by
  apply Work.prepares_transaction
  apply Work.prepares_bind (Work.prepares_lookup _ _ fun draft =>
    draft.visibleEntries user.id)
  rintro entries first - ⟨found, -⟩
  apply Work.Prepares.mono
    (Work.prepares_mapM fun entry session => prepares_shown entry)
  intro summaries last _ shown summary member
  rcases shown summary member with ⟨entry, listed, shows⟩
  rcases found with rfl | rfl
  · cases listed
  · exact ⟨entry, listed, shows⟩

theorem get_prepares (user : User) (entryId : String) :
    (get user entryId).Prepares environment before fun detail _ => ∃ entry,
      before.saved.entryWith? entryId = some entry ∧
      isOpenTo entry user = true ∧
      (Heap.empty.copyGraph (.ofJson entry.snapshot)).outcome =
        .ok detail.graph ∧
      (EntrySummary.ofEntry entry).toExcept = .ok detail.summary := by
  apply Work.prepares_transaction
  apply Work.prepares_bind (Work.prepares_entryWith? entryId)
  rintro found first - ⟨present, -⟩
  cases found with
  | none => exact Work.prepares_refuse
  | some entry =>
      by_cases visible : isOpenTo entry user
      · simp only [visible, ↓reduceIte]
        apply Work.prepares_bind (prepares_copied _ _)
        rintro graph second - ⟨copied, -⟩
        apply Work.prepares_bind (prepares_shown entry)
        intro summary third _ shown
        exact Work.prepares_pure ⟨entry, present entry rfl, visible, copied, shown⟩
      · simp only [visible, Bool.false_eq_true, ↓reduceIte]
        exact Work.prepares_refuse

theorem findUserWorkflows_prepares (user : User) :
    (findUserWorkflows user).Prepares environment before fun _ _ => True := by
  apply Work.prepares_transaction
  apply Work.prepares_bind (Work.prepares_lookup _ _ fun draft =>
    draft.accessibleIds user [Scope.read])
  intro ids first _ _
  apply Work.prepares_bind (Work.prepares_lookup _ _ fun draft =>
    draft.workflowsWithIds ids)
  intro workflows second _ _
  apply Work.Prepares.mono (Work.prepares_mapM fun workflow session =>
    Work.Prepares.mono (Work.prepares_ofExcept _) fun _ _ _ both => both.1)
  exact fun _ _ _ _ => trivial

/-- A name and a graph are those of a workflow on which a user has some scopes,
the graph copied. -/
def IsSnapshot (store : Store) (user : User) (scopes : List Scope)
    (workflowId : String) (name : Value) (graph : GraphCopy) : Prop :=
  ∃ row, store.accessibleWorkflow? user scopes workflowId = some row ∧
    name = row.name.toValue ∧
    (Heap.empty.copyGraph (LiveGraph.ofGraph row.graph).toValue).outcome =
      .ok graph

theorem IsSnapshot.isJson {store : Store} {user : User} {scopes : List Scope}
    {workflowId : String} {name : Value} {graph : GraphCopy}
    (taken : IsSnapshot store user scopes workflowId name graph) :
    graph.IsJson := by
  rcases taken with ⟨row, -, -, copied⟩
  have stored : (LiveGraph.ofGraph row.graph).toValue =
      .ofJson (.object [("nodes", row.graph.nodes),
        ("connections", row.graph.connections),
        ("settings", row.graph.settings),
        ("staticData", row.graph.staticData)]) := rfl
  rw [stored] at copied
  rcases Heap.copyGraph_ofJson .empty _ with ⟨other, equal, formed⟩
  rw [equal] at copied
  cases copied
  exact formed

/-- The graph of a workflow is copied from the store. -/
theorem prepares_snapshotFor (context : Log.Context) (user : User)
    (scopes : List Scope) (workflowId : String) :
    (snapshotFor context user scopes workflowId).Prepares environment before
      fun found after =>
        IsSnapshot before.draft user scopes workflowId found.1 found.2 ∧
          before.Idle after := by
  apply Work.prepares_bind (Work.prepares_accessible? user scopes workflowId)
  rintro found first - ⟨present, idle⟩
  cases found with
  | none => exact Work.prepares_refuse
  | some workflow =>
      apply Work.prepares_bind (prepares_copied _ _)
      rintro graph second - ⟨copied, secondIdle⟩
      exact Work.prepares_pure ⟨⟨workflow, present workflow rfl, rfl, copied⟩,
        idle.trans secondIdle⟩

/-- A snapshot that is taken in a transaction is one of what is saved. -/
theorem prepares_snapshot (context : Log.Context) (user : User)
    (scopes : List Scope) (workflowId : String) :
    (Work.transaction .operation context
      (snapshotFor context user scopes workflowId)).Prepares environment before
        fun found _ =>
          IsSnapshot before.saved user scopes workflowId found.1 found.2 := by
  apply Work.prepares_transaction
  exact Work.Prepares.mono (prepares_snapshotFor context user scopes workflowId)
    fun _ _ _ holds => holds.1

theorem prepares_describe (context : Log.Context) (name : Value)
    (graph : GraphCopy) :
    (describe context name graph).Prepares environment before fun _ after =>
      before.Idle after := by
  apply Work.prepares_bind Work.prepares_read
  rintro found _ - ⟨rfl, rfl⟩
  exact Work.Prepares.mono (Work.prepares_ofTrial _ _) fun _ _ _ holds => holds.2

theorem preview_prepares (user : User) (workflowId : String) :
    (preview user workflowId).Prepares environment before fun _ _ => True := by
  apply Work.prepares_bind (prepares_snapshot _ user _ workflowId)
  intro found first _ _
  exact Work.Prepares.mono (prepares_describe _ _ _) fun _ _ _ _ => trivial

/-- The first transaction of publishing ends with a copy of what is stored. -/
theorem beginPublish_prepares (user : User) (request : PublishRequest) :
    (beginPublish user request).Prepares environment before fun found after =>
      IsSnapshot before.saved user (publishScopes environment.strict)
          request.workflowId found.1 found.2 ∧
        after.counters = before.counters := by
  apply Work.prepares_bind Work.prepares_read
  rintro found _ - ⟨rfl, rfl⟩
  apply Work.prepares_transaction
  apply Work.Prepares.mono (prepares_snapshotFor _ user _ request.workflowId)
  rintro found after - ⟨taken, idle⟩
  exact ⟨taken, idle.counters⟩

/-! ## Importing and deleting -/

theorem prepares_countDownload (user : User) (entryId : String)
    (entry : Entry) :
    (countDownload user entryId entry).Prepares environment before
      fun _ after =>
        after.counters = before.counters ∧
        (entry.authorId = .text user.id ∧ after.draft = before.draft ∨
          entry.authorId ≠ .text user.id ∧ ∃ present,
            before.draft.entryWith? entryId = some present ∧
            after.draft = before.draft.replaceEntry
              (present.downloaded 1 environment.now)) := by
  rw [countDownload]
  by_cases own : entry.authorId = .text user.id
  · simp only [own, ne_eq, not_true_eq_false, ↓reduceIte]
    exact Work.prepares_pure ⟨rfl, .inl ⟨trivial, rfl⟩⟩
  · simp only [own, ne_eq, not_false_eq_true, ↓reduceIte]
    apply Work.prepares_bind (Work.prepares_incrementDownloads entryId 1)
    rintro affected first - ⟨counters, none | ⟨one, present, found, draft⟩⟩
    · subst none
      exact Work.prepares_refuse
    · subst one
      exact Work.prepares_pure
        ⟨counters, .inr ⟨trivial, present, found, draft⟩⟩

/-- The workflow that an entry is imported as, with a copy of its graph. -/
def importedDraft (entry : Entry) (graph : GraphCopy) : WorkflowDraft where
  name := .text (entry.name.shown ++ importedMark)
  active := .bool false
  graph := graph.live

/-- An entry that is open to a user was imported as a workflow with a copy of its
graph and identifiers of its own, a download of someone else's entry was counted,
and the workflow is shown under its identifier. -/
structure Imported (environment : Environment) (before : Session) (user : User)
    (entryId : String) (summary : WorkflowSummary) (after : Session) :
    Prop where
  did : Session.Did environment.now (.importEntry user entryId) before after
  adopts : ∃ entry graph row middle,
    before.saved.entryWith? entryId = some entry ∧
    isOpenTo entry user = true ∧
    (Heap.empty.copyGraph (.ofJson entry.snapshot)).outcome = .ok graph ∧
    (importedDraft entry graph).Stored
      (Identifier.Kind.workflow.numbered (before.counters.workflows + 1))
      (Identifier.Kind.version.numbered (before.counters.versions + 1)) row ∧
    summary.id = row.id ∧
    before.saved.Adopts user row middle ∧
    (entry.authorId = .text user.id ∧ after.saved = middle ∨
      entry.authorId ≠ .text user.id ∧
        after.saved = middle.replaceEntry (entry.downloaded 1 environment.now))

theorem importEntry_imports (user : User) (entryId : String) :
    (importEntry user entryId).Settles environment before fun summary after =>
      Imported environment before user entryId summary after := by
  apply Work.settles_transaction
  apply Work.settles_bind (Work.prepares_entryWith? entryId)
  rintro found first finding ⟨present, idle⟩
  cases found with
  | none => exact Work.settles_refuse
  | some entry =>
      by_cases closed : !isOpenTo entry user
      · simp only [closed, ↓reduceIte]
        exact Work.settles_refuse
      · simp only [closed, Bool.false_eq_true, ↓reduceIte]
        apply Work.settles_bind (prepares_copied _ _)
        rintro graph second copying ⟨copied, secondIdle⟩
        apply Work.settles_bind (Work.prepares_personalProject user.id)
        rintro project third owning ⟨owned, thirdIdle⟩
        apply Work.settles_bind (Work.prepares_insertWorkflow _)
        rintro workflow fourth inserting ⟨ready, made, added, counters⟩
        have declared := Heap.declared_of_copyGraph copied
        rcases WorkflowDraft.declared_of_prepared ⟨_, rfl⟩ declared.admitted
          ready with ⟨rowDeclared, named⟩
        apply Work.settles_bind (Work.prepares_linkOwner _ project.id)
        rintro _ fifth linking ⟨linked, sameCounters⟩
        apply Work.settles_bind (prepares_countDownload user entryId entry)
        rintro _ sixth counting ⟨counted, downloaded⟩
        rcases WorkflowSummary.fits workflow
          (by rw [made]; exact ⟨_, rfl⟩) (by rw [made]; exact ⟨_, rfl⟩) with
          ⟨summary, fits⟩
        apply Work.settles_reported (congrArg Fit.toExcept fits)
        intro after last
        have chain := ((((finding.trans copying).trans owning).trans
          inserting).trans linking).trans counting
        have quiet := (idle.trans secondIdle).trans thirdIdle
        have here : before.saved.entryWith? entryId = some entry :=
          present entry rfl
        have stored : (importedDraft entry graph).Stored _ _ workflow.row :=
          WorkflowDraft.stored_of_prepared ready
        rw [quiet.counters] at named counters stored
        have count : before.counters.Makes sixth.counters .workflow
            workflow.row.id := by
          rw [named, counted, sameCounters, counters]
          exact Counters.makes_next (Nat.le_refl _)
        have version : before.counters.Makes sixth.counters .version
            workflow.row.versionId := by
          rw [stored.version, counted, sameCounters, counters]
          exact Counters.makes_next (Nat.le_refl _)
        rw [quiet.draft] at added
        rw [(idle.trans secondIdle).draft] at owned
        have adopts : before.saved.Adopts user workflow.row fifth.draft :=
          Store.adopts_of_added owned added linked
        have deposited := adopts.deposited rowDeclared count version
        have saved : after.discarded.saved = sixth.draft := last.saved
        have named := WorkflowSummary.id_of_ofLoaded fits
        have counts : entry.authorId = .text user.id ∧ sixth.draft = fifth.draft ∨
            entry.authorId ≠ .text user.id ∧ sixth.draft =
              fifth.draft.replaceEntry (entry.downloaded 1 environment.now) := by
          refine downloaded.imp_right ?_
          rintro ⟨others, found, there, draft⟩
          have same : found = entry := by
            rcases adopts with ⟨_, _, -, -, equal⟩
            rw [equal] at there
            exact Option.some.inj (there.symm.trans here)
          rw [same] at draft
          exact ⟨others, draft⟩
        refine ⟨Session.did_of_committed chain ?_ last, entry, graph, workflow.row,
          fifth.draft, here, by simpa using closed, copied, stored, named, adopts,
          by rw [saved]; exact counts⟩
        rcases counts with ⟨own, draft⟩ | ⟨others, draft⟩
        · rw [draft]
          exact .importOwn here own deposited
        · rw [draft]
          exact .importOther here others deposited

/-- Importing adds a workflow and counts a download of another user's entry. -/
theorem importEntry_settles (user : User) (entryId : String) :
    (importEntry user entryId).Settles environment before fun _ after =>
      Session.Did environment.now (.importEntry user entryId) before after :=
  (importEntry_imports user entryId).mono fun _ _ imported => imported.did

/-- Deleting removes the entry, unless a mishap keeps it from being found. -/
theorem delete_settles (user : User) (entryId : String) :
    (delete user entryId).Settles environment before fun _ after =>
      Session.Did environment.now (.delete entryId) before after := by
  apply Work.settles_transaction
  apply Work.settles_bind (Work.prepares_entryWith? entryId)
  rintro found first finding ⟨present, idle⟩
  cases found with
  | none => exact Work.settles_refuse
  | some entry =>
      by_cases closed :
          !(user.isGlobalAdmin || entry.createdByUserId = .text user.id)
      · simp only [closed, ↓reduceIte]
        exact Work.settles_refuse
      · simp only [closed, Bool.false_eq_true, ↓reduceIte]
        apply Work.settles_bind (Work.prepares_deleteEntry entryId)
        rintro affected second removing ⟨counters, removed⟩
        apply Work.settles_commit
        refine ⟨(), _, Work.outcome_log _ _ _ _, ?_⟩
        refine Session.did_of_committed (finding.trans removing) ?_
          (Session.idle_told _ _)
        rw [idle.draft] at removed
        rcases removed with draft | draft
        · rw [draft]
          exact .deleteNothing
        · rw [draft]
          exact .delete

end Catalog

end WorkflowExchange

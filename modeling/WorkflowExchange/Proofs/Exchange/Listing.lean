import WorkflowExchange.Proofs.Exchange.Downloads
import WorkflowExchange.Proofs.Store.Access

/-!
# Listing what a user may read

The query for one workflow, the query for identifiers and the listing of a user's
workflows give the same answer, that of the access model:
`Store.access_queries_agree`.
-/

namespace WorkflowExchange

/-! ## Reading every item of a list -/

theorem Work.outcome_mapM_ofExcept {α β : Type} (environment : Environment)
    (session : Session) (read : α → Except Failure β) (items : List α) :
    (items.mapM fun item => ofExcept (read item)).outcome environment session =
      (items.mapM read, session) := by
  induction items with
  | nil => rfl
  | cons item rest hypothesis =>
      simp only [List.mapM_cons, outcome_bind, outcome_ofExcept]
      cases read item with
      | error failure => rfl
      | ok result =>
          simp only [hypothesis]
          cases rest.mapM read <;> rfl

/-- Data that does not fit is no error of the database. -/
theorem Fit.toExcept_ne_database {α : Type} (reading : Fit α)
    (error : DatabaseError) :
    reading.toExcept ≠ .error (.database error) := by
  cases reading <;> simp [toExcept]

/-- What a list shows of a workflow are its columns. -/
structure WorkflowSummary.Shows (summary : WorkflowSummary) (row : Workflow) :
    Prop where
  id : summary.id = row.id
  name : row.name = .text summary.name
  active : summary.active = row.active
  stamps : summary.stamps = row.stamps

/-- A workflow with a text for its name is shown as it is. -/
theorem WorkflowSummary.exists_shows {row : Workflow}
    (named : ∃ name, row.name = .text name) :
    ∃ summary, (ofLoaded (.ofRow row)).toExcept = .ok summary ∧
      summary.Shows row := by
  rcases named with ⟨name, named⟩
  refine ⟨⟨row.id, name, row.active, row.stamps⟩, ?_, rfl, named, rfl, rfl⟩
  rw [ofLoaded, LoadedWorkflow.ofRow, named]
  rfl

/-- Some rows are the workflows that a user may read, each once, those changed last
first. -/
structure Store.ListsReadable (store : Store) (user : User)
    (rows : List Workflow) : Prop where
  once : (rows.map (·.id)).Nodup
  exactly : ∀ row, row ∈ rows ↔
    row ∈ store.workflows ∧ store.Permits user [Scope.read] row.id
  lastFirst : rows.Pairwise fun one other =>
    other.stamps.updatedAt.microseconds ≤ one.stamps.updatedAt.microseconds

theorem Store.listsReadable_workflowsWithIds {store : Store} {user : User}
    (keys : (store.workflows.map (·.id)).Nodup)
    (named : store.SharesWorkflows) :
    store.ListsReadable user
      (store.workflowsWithIds (store.accessibleIds user [Scope.read])) where
  once := nodup_workflowsWithIds keys _
  exactly row := by rw [mem_workflowsWithIds, mem_accessibleIds named]
  lastFirst := pairwise_workflowsWithIds _ _

/-- Without mishaps the workflows of a user are listed as the two queries find
them. -/
theorem Catalog.outcome_findUserWorkflows (environment : Environment)
    (before : Session) (user : User) :
    ((findUserWorkflows user).outcome environment.calm before).1 =
      (before.saved.workflowsWithIds
        (before.saved.accessibleIds user [Scope.read])).mapM fun row =>
          (WorkflowSummary.ofLoaded (.ofRow row)).toExcept := by
  rw [findUserWorkflows, Work.outcome_transaction_of_ne]
  all_goals simp only [Work.outcome_bind, Work.outcome_call_calm,
    Work.outcome_store, Work.outcome_pure, Work.outcome_mapM_ofExcept]
  · rfl
  · intro error fails
    rcases exists_of_mapM_eq_error fails with ⟨row, -, failed⟩
    exact Fit.toExcept_ne_database _ error failed

namespace Store

/-- In a store with one workflow for each identifier and no sharing without its
workflow, both queries follow the access model for every user and every collection of
scopes.  No identifier is listed twice, more scopes only leave out workflows, and the
workflows that a user may read are listed each once, those changed last first.  That
listing ends with what is shown of the rows, which there is for rows named by
texts. -/
theorem access_queries_agree (store : Store) (user : User)
    (keys : (store.workflows.map (·.id)).Nodup)
    (named : store.SharesWorkflows) :
    (∀ scopes workflowId,
      ((∃ row, store.accessibleWorkflow? user scopes workflowId = some row) ↔
        workflowId ∈ store.accessibleIds user scopes) ∧
      (workflowId ∈ store.accessibleIds user scopes ↔
        store.Permits user scopes workflowId) ∧
      ∀ row, store.accessibleWorkflow? user scopes workflowId = some row →
        row ∈ store.workflows ∧ row.id = workflowId) ∧
    (∀ scopes, (store.accessibleIds user scopes).Nodup) ∧
    (∀ scopes more, scopes ⊆ more →
      store.accessibleIds user more ⊆ store.accessibleIds user scopes ∧
      ∀ workflowId row,
        store.accessibleWorkflow? user more workflowId = some row →
        store.accessibleWorkflow? user scopes workflowId = some row) ∧
    ∀ (environment : Environment) (before : Session), before.saved = store →
      ∃ rows, store.ListsReadable user rows ∧
        ((Catalog.findUserWorkflows user).outcome environment.calm before).1 =
          rows.mapM (fun row =>
            (WorkflowSummary.ofLoaded (.ofRow row)).toExcept) ∧
        ((∀ row ∈ rows, ∃ name, row.name = .text name) → ∃ summaries,
          ((Catalog.findUserWorkflows user).outcome environment.calm before).1 =
            .ok summaries ∧
          List.Forall₂ WorkflowSummary.Shows summaries rows) := by
  have listed (scopes : List Scope) (workflowId : String) :
      workflowId ∈ store.accessibleIds user scopes ↔
        store.Permits user scopes workflowId := mem_accessibleIds named
  refine ⟨?_, fun scopes => nodup_accessibleIds keys, ?_, ?_⟩
  · intro scopes workflowId
    refine ⟨?_, listed scopes workflowId, ?_⟩
    · rw [listed, exists_accessibleWorkflow?]
    · intro row found
      exact workflow?_eq_some (accessibleWorkflow?_eq_some.mp found).2
  · intro scopes more fewer
    refine ⟨?_, ?_⟩
    · intro workflowId member
      exact (listed scopes workflowId).mpr
        (((listed more workflowId).mp member).mono fewer)
    · intro workflowId row found
      have there := (accessibleWorkflow?_eq_some.mp found).2
      have permits := (exists_accessibleWorkflow?.mp ⟨row, found⟩).mono fewer
      rcases exists_accessibleWorkflow?.mpr permits with ⟨other, foundAgain⟩
      have same := (accessibleWorkflow?_eq_some.mp foundAgain).2
      rw [there] at same
      cases same
      exact foundAgain
  · rintro environment before rfl
    have ended := Catalog.outcome_findUserWorkflows environment before user
    refine ⟨_, listsReadable_workflowsWithIds keys named, ended, ?_⟩
    intro texts
    rcases exists_mapM_eq_ok fun row member =>
      WorkflowSummary.exists_shows (texts row member) with
      ⟨summaries, read, shows⟩
    exact ⟨summaries, ended.trans read, shows⟩

/-- Two projects, in which the reader has different roles, share one workflow. -/
def sharedTwice : Store where
  users := [Fair.member "reader"]
  projects := []
  memberships :=
    [⟨"first", "reader", Role.viewer, .at ⟨0⟩⟩,
      ⟨"second", "reader", Role.editor, .at ⟨0⟩⟩]
  workflows :=
    [⟨"shared", .text "Name", false, ⟨.null, .null, .null, .null⟩, "version",
      .at ⟨0⟩⟩]
  sharings :=
    [⟨"shared", "first", Role.workflowOwner, .at ⟨0⟩⟩,
      ⟨"shared", "second", Role.workflowOwner, .at ⟨0⟩⟩]
  entries := []

/-- A workflow that is shared twice is listed once, and one of the roles grants
updating it. -/
theorem shared_twice_listed_once :
    (sharedTwice.workflows.map (·.id)).Nodup ∧ sharedTwice.SharesWorkflows ∧
    (sharedTwice.accessibleIds (Fair.member "reader") [Scope.read]).Nodup ∧
    sharedTwice.Permits (Fair.member "reader") [Scope.read, Scope.update]
      "shared" ∧
    ¬ sharedTwice.Permits (Fair.member "reader") [Scope.delete] "shared" ∧
    ∃ rows, sharedTwice.ListsReadable (Fair.member "reader") rows := by
  have keys : (sharedTwice.workflows.map (·.id)).Nodup := by decide
  have named : sharedTwice.SharesWorkflows := by
    intro sharing shared
    refine ⟨_, List.mem_cons_self, ?_⟩
    revert sharing
    decide
  rcases access_queries_agree sharedTwice (Fair.member "reader") keys named with
    ⟨queries, once, -, lists⟩
  refine ⟨keys, named, once _, ?_, ?_, ?_⟩
  · exact (queries _ _).2.1.mp (by decide)
  · intro permits
    have member := (queries _ _).2.1.mpr permits
    revert member
    decide
  · rcases lists Fair.weather (.start sharedTwice {}) rfl with ⟨rows, readable, -⟩
    exact ⟨rows, readable⟩

end Store

end WorkflowExchange

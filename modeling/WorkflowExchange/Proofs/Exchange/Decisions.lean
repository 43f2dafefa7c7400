import WorkflowExchange.Proofs.Exchange.Listing
import WorkflowExchange.Proofs.Exchange.Publish
import WorkflowExchange.Proofs.Intake.Updates

/-!
# Decisions on workflows

Without mishaps the operations on a workflow decide by the access model alone.
Reading, previewing and publishing without strictness need the right to read,
updating and strict publishing the right to update, too.  Who has not the right is
refused with an error that does not tell whether there is such a workflow, and a
refusal changes nothing: `World.decisions_follow_access`.
-/

namespace WorkflowExchange

/-- An outcome is a problem of a kind. -/
def ProblemKind.Ends {α : Type} (kind : ProblemKind)
    (outcome : Except Failure α) : Prop :=
  ∃ cause, outcome = .error (.because cause) ∧ cause.kind = kind

/-- What does not fit is no problem that a caller caused on purpose. -/
theorem ProblemKind.not_ends_toExcept {α : Type} (kind : ProblemKind)
    (reading : Fit α) : ¬kind.Ends reading.toExcept := by
  rintro ⟨cause, equal, -⟩
  cases reading <;> cases equal

theorem ProblemKind.ends_because {α : Type} {kind : ProblemKind} {cause : Cause} :
    kind.Ends (.error (.because cause) : Except Failure α) ↔ cause.kind = kind := by
  constructor
  · rintro ⟨_, equal, same⟩
    cases equal
    exact same
  · intro same
    exact ⟨cause, rfl, same⟩

theorem ProblemKind.not_ends_ok {α : Type} (kind : ProblemKind) (result : α) :
    ¬kind.Ends (.ok result) := by
  rintro ⟨_, equal, -⟩
  cases equal

/-! ## Access -/

namespace Store

variable {store : Store} {user : User} {scopes : List Scope} {workflowId : String}

theorem accessibleWorkflow?_eq_none :
    store.accessibleWorkflow? user scopes workflowId = none ↔
      ¬store.Permits user scopes workflowId := by
  rw [← exists_accessibleWorkflow?, ← Option.isSome_iff_exists,
    Option.not_isSome_iff_eq_none]

theorem id_of_accessibleWorkflow? {row : Workflow}
    (found : store.accessibleWorkflow? user scopes workflowId = some row) :
    row.id = workflowId :=
  (workflow?_eq_some (accessibleWorkflow?_eq_some.mp found).2).2

/-- The scopes that publishing needs are granted together or one by one. -/
theorem permits_publishScopes (strict : Bool) :
    store.Permits user (Catalog.publishScopes strict) workflowId ↔
      store.Permits user [Scope.read] workflowId ∧
        (strict = true → store.Permits user [Scope.update] workflowId) := by
  cases strict with
  | false => simp [Catalog.publishScopes]
  | true =>
      constructor
      · intro permits
        exact ⟨permits.mono (by decide), fun _ => permits.mono (by decide)⟩
      · rintro ⟨-, updates⟩
        exact (updates rfl).reading

end Store

namespace Work

theorem outcome_accessible?_calm (environment : Environment) (before : Session)
    (user : User) (scopes : List Scope) (workflowId : String) :
    (accessible? user scopes workflowId).outcome environment.calm before =
      (.ok (before.draft.accessibleWorkflow? user scopes workflowId),
        before.noted .accessibleWorkflow) :=
  outcome_call_calm _ _ _ _ _

end Work

/-! ## Reading -/

namespace Workflows

variable {environment : Environment} {before : Session} {user : User}
  {workflowId : String}

/-- Who may not read a workflow is told that there is none. -/
theorem get_refused
    (hidden : ¬before.saved.Permits user [Scope.read] workflowId) :
    (get user workflowId).outcome environment.calm before =
      (.error (.because .workflowMissing),
        (before.discarded.noted .accessibleWorkflow).discarded) := by
  have none : before.discarded.draft.accessibleWorkflow? user [Scope.read]
      workflowId = none := Store.accessibleWorkflow?_eq_none.mpr hidden
  rw [get, Work.outcome_unit, Work.outcome_bind, Work.outcome_accessible?_calm,
    none]
  rfl

/-- Who may read a workflow is shown its row. -/
theorem get_allowed (declared : ∀ row ∈ before.saved.workflows, row.Declared)
    (permits : before.saved.Permits user [Scope.read] workflowId) :
    ∃ row detail after, row ∈ before.saved.workflows ∧ row.id = workflowId ∧
      WorkflowDetail.ofLoaded (.ofRow row) = .fits detail ∧
      (get user workflowId).outcome environment.calm before =
        (.ok detail, after) := by
  rcases Store.exists_accessibleWorkflow?.mpr permits with ⟨row, found⟩
  have member := Store.mem_of_accessibleWorkflow? found
  rcases WorkflowDetail.fits (declared row member).loaded with ⟨detail, fits⟩
  refine ⟨row, detail, (before.discarded.noted .accessibleWorkflow).discarded,
    member, Store.id_of_accessibleWorkflow? found, fits, ?_⟩
  have there : before.discarded.draft.accessibleWorkflow? user [Scope.read]
      workflowId = some row := found
  rw [get, Work.outcome_unit, Work.outcome_bind, Work.outcome_accessible?_calm,
    there]
  simp only [shown, fits, Work.outcome_ofExcept]
  rfl

/-! ## Updating -/

/-- The changes of a workflow that can be stored are made. -/
theorem calmly_updateWorkflow {workflow : LoadedWorkflow} {changes : Changes}
    {changed : Workflow} (ready : changes.row workflow = .ready changed) :
    (Work.updateWorkflow workflow changes).Calmly environment before
      fun _ _ => True := by
  have versions : (Work.versionAfter workflow changes).Calmly environment
      (before.noted .updateWorkflow) fun _ _ => True := by
    rw [Work.versionAfter]
    by_cases graph : changes.any (·.1.isOfGraph)
    · rw [if_pos graph]
      exact (Work.calmly_fresh .version).mono fun _ _ _ => trivial
    · rw [if_neg graph]
      exact Work.calmly_pure trivial
  apply Work.calmly_change
  apply Work.calmly_bind versions
  intro versionId first _
  apply Work.calmly_bind (Work.calmly_storing ready)
  rintro _ second ⟨rfl, rfl⟩
  apply Work.calmly_bind Work.calmly_now
  rintro _ third ⟨rfl, rfl⟩
  apply Work.calmly_bind Work.calmly_store
  rintro _ fourth ⟨rfl, rfl⟩
  apply Work.calmly_bind (Work.calmly_setStore _)
  rintro _ fifth -
  exact Work.calmly_pure trivial

/-- Who may update a workflow can send it any JSON data that fits. -/
theorem update_calmly {request : UpdateRequest} (requested : request.Declared)
    (form : request.IsJson)
    (declared : ∀ row, before.saved.accessibleWorkflow? user [Scope.update]
      workflowId = some row → row.Declared)
    (permits : before.saved.Permits user [Scope.update] workflowId) :
    (update user workflowId request).Calmly environment before
      fun detail _ => detail.summary.id = workflowId := by
  rcases Store.exists_accessibleWorkflow?.mpr permits with ⟨row, found⟩
  have rowDeclared := declared row found
  have named := Store.id_of_accessibleWorkflow? found
  have shows {loaded : LoadedWorkflow} {session : Session}
      (live : loaded.Declared) (same : loaded.row.id = workflowId) :
      (shown loaded).Calmly environment session
        fun detail _ => detail.summary.id = workflowId := by
    rcases WorkflowDetail.fits live with ⟨detail, fits⟩
    apply (Work.calmly_ofExcept (congrArg Fit.toExcept fits)).mono
    rintro _ after ⟨rfl, -⟩
    rw [WorkflowDetail.id_of_ofLoaded fits, same]
  have bare : request.bare.mapError Failure.fault = .ok request :=
    congrArg (·.mapError Failure.fault) form.bare
  apply Work.calmly_bind (Work.calmly_ofExcept bare)
  rintro given _ ⟨equal, rfl⟩
  subst given
  apply Work.calmly_transaction
  apply Work.calmly_bind (Work.calmly_lookup fun draft =>
    draft.accessibleWorkflow? user [Scope.update] workflowId)
  rintro there first ⟨equal, idle⟩
  cases equal.trans found
  by_cases empty : request.changes.isEmpty
  · simp only [empty, ↓reduceIte]
    exact shows rowDeclared.loaded named
  · simp only [empty, Bool.false_eq_true, ↓reduceIte]
    have changes := requested.changes
    rcases changes.exists_row (fun _ _ found => form.changes found)
      (.ofRow row) with ⟨_, stored⟩
    apply Work.calmly_bind ((calmly_updateWorkflow stored).and_prepares
      (Work.prepares_updateWorkflow _ _))
    rintro updated second ⟨-, -, changed, versionId, ready, made, -, -⟩
    have seen := changes.seen rowDeclared.loaded
    have live : updated.Declared := by
      rw [made]
      exact ⟨seen.name, seen.active, seen.graph⟩
    have same : updated.row.id = workflowId := by
      rw [made]
      exact (changes.row rowDeclared ready).2.trans named
    apply Work.calmly_bind Work.calmly_commit
    rintro _ third -
    apply Work.calmly_bind (Work.calmly_log _ _)
    rintro _ fourth -
    exact shows live same

/-- Who may not update a workflow is told so, or that there is none. -/
theorem update_refused {request : UpdateRequest} (form : request.IsJson)
    (lacks : ¬before.saved.Permits user [Scope.update] workflowId) :
    ∃ after, after.saved = before.saved ∧
      (before.saved.Permits user [Scope.read] workflowId ∧
          (update user workflowId request).outcome environment.calm before =
            (.error (.because .updateForbidden), after) ∨
        ¬before.saved.Permits user [Scope.read] workflowId ∧
          (update user workflowId request).outcome environment.calm before =
            (.error (.because .workflowMissing), after)) := by
  have none : before.discarded.draft.accessibleWorkflow? user [Scope.update]
      workflowId = none := Store.accessibleWorkflow?_eq_none.mpr lacks
  have again : (before.discarded.noted .accessibleWorkflow).draft =
      before.saved := rfl
  have bare : request.bare.mapError Failure.fault = .ok request :=
    congrArg (·.mapError Failure.fault) form.bare
  refine ⟨((before.discarded.noted .accessibleWorkflow).noted
    .accessibleWorkflow).discarded, rfl, ?_⟩
  rw [update, Work.outcome_bind, bare, Work.outcome_ofExcept]
  simp only [Work.outcome_transaction, Work.outcome_bind,
    Work.outcome_accessible?_calm, none, again]
  by_cases reads : before.saved.Permits user [Scope.read] workflowId
  · rcases Store.exists_accessibleWorkflow?.mpr reads with ⟨row, found⟩
    rw [found]
    exact .inl ⟨reads, rfl⟩
  · rw [Store.accessibleWorkflow?_eq_none.mpr reads]
    exact .inr ⟨reads, rfl⟩

end Workflows

/-! ## Previewing and publishing -/

namespace Catalog

variable {environment : Environment} {before : Session} {user : User}
  {workflowId : String} {request : PublishRequest}

/-- Every stored graph is copied. -/
theorem exists_copied (graph : Graph) : ∃ copy,
    (Heap.empty.copyGraph (LiveGraph.ofGraph graph).toValue).outcome = .ok copy := by
  rcases Heap.copyGraph_ofJson .empty [("nodes", graph.nodes),
    ("connections", graph.connections), ("settings", graph.settings),
    ("staticData", graph.staticData)] with ⟨copy, copied, -⟩
  exact ⟨copy, copied⟩

/-- Making a description fails with faults of the host only. -/
theorem exists_fault_of_mapError {α : Type} {trial : Trial Fault α}
    {failure : Failure}
    (fails : (trial.mapError Failure.fault).outcome = .error failure) :
    ∃ fault, failure = .fault fault := by
  rw [Trial.outcome_mapError] at fails
  cases result : trial.outcome <;> rw [result] at fails <;> cases fails
  exact ⟨_, rfl⟩

theorem exists_fault_of_descriptionOf {name : Value} {graph : GraphCopy}
    {failure : Failure}
    (fails : descriptionOf environment request name graph = .error failure) :
    ∃ fault, failure = .fault fault := by
  rw [descriptionOf] at fails
  cases made : wideDescriptionOf environment request name graph with
  | error other =>
      rw [made] at fails
      cases fails
      rw [wideDescriptionOf] at made
      split at made
      · exact exists_fault_of_mapError made
      · cases made
  | ok description =>
      rw [made] at fails
      change encoded description = _ at fails
      rw [encoded] at fails
      split at fails <;> cases fails
      exact ⟨_, rfl⟩

/-- Who may not read a workflow is refused a preview. -/
theorem preview_refused
    (hidden : ¬before.saved.Permits user [Scope.read] workflowId) :
    ((preview user workflowId).outcome environment.calm before).1 =
      .error (.because .publishForbidden) := by
  have none : before.discarded.draft.accessibleWorkflow? user [Scope.read]
      workflowId = none := Store.accessibleWorkflow?_eq_none.mpr hidden
  rw [preview, Work.outcome_bind, Work.outcome_transaction,
    outcome_snapshotFor _ rfl, none]

/-- Who may read a workflow is not refused a preview, but making the description
can fail. -/
theorem preview_allowed (kind : ProblemKind)
    (permits : before.saved.Permits user [Scope.read] workflowId) :
    ¬kind.Ends ((preview user workflowId).outcome environment.calm before).1 := by
  rcases Store.exists_accessibleWorkflow?.mpr permits with ⟨row, found⟩
  rcases exists_copied row.graph with ⟨graph, copied⟩
  have there : before.discarded.draft.accessibleWorkflow? user [Scope.read]
      workflowId = some row := found
  rw [preview, Work.outcome_bind, Work.outcome_transaction,
    outcome_snapshotFor _ rfl, there]
  simp only [copied, Except.map, describe, Work.outcome_bind, Work.outcome_read,
    Work.outcome_ofTrial]
  rintro ⟨cause, fails, -⟩
  rcases exists_fault_of_mapError fails with ⟨fault, equal⟩
  cases equal

/-- A preview saves nothing, whatever it ends in. -/
theorem saved_preview (environment : Environment) (before : Session) (user : User)
    (workflowId : String) :
    ((preview user workflowId).outcome environment before).2.saved =
      before.saved := by
  rcases Work.Settles.exists_outcome (preview_prepares user workflowId) with
    ⟨_, _, ended, unsaved⟩ | ⟨_, _, ended, unsaved, -⟩
  · rw [ended]
    exact unsaved.saved
  · rw [ended]
    exact unsaved.saved

/-- Who lacks a scope that publishing needs is refused, and nothing is saved. -/
theorem publish_refused
    (lacks : ¬before.saved.Permits user (publishScopes environment.strict)
      request.workflowId) :
    ∃ after, (publish user request).outcome environment.calm before =
        (.error (.because .publishForbidden), after) ∧
      after.saved = before.saved := by
  have none : before.discarded.draft.accessibleWorkflow? user
      (publishScopes environment.calm.strict) request.workflowId = none :=
    Store.accessibleWorkflow?_eq_none.mpr lacks
  refine ⟨(before.discarded.noted .accessibleWorkflow).discarded, ?_, rfl⟩
  rw [publish, Work.outcome_bind, beginPublish, Work.outcome_bind,
    Work.outcome_read]
  simp only [Work.outcome_transaction]
  rw [outcome_snapshotFor _ rfl, none]

/-- Who has the scopes that publishing needs is not refused. -/
theorem publish_allowed (kind : ProblemKind)
    (sound : before.saved.Sound before.counters)
    (permits : before.saved.Permits user (publishScopes environment.strict)
      request.workflowId) :
    ¬kind.Ends ((publish user request).outcome environment.calm before).1 := by
  rcases Store.exists_accessibleWorkflow?.mpr permits with ⟨row, found⟩
  rcases exists_copied row.graph with ⟨graph, copied⟩
  cases described : descriptionOf environment request row.name.toValue graph with
  | ok description =>
      rcases publish_calm sound.keyed sound.hasDistinctKeys found copied
        described with ⟨entry, after, ended, -⟩
      rw [ended]
      exact kind.not_ends_toExcept _
  | error failure =>
      rcases exists_fault_of_descriptionOf described with ⟨fault, rfl⟩
      rcases publish_calm_undescribed found copied described with ⟨after, ended, -⟩
      rw [ended]
      rintro ⟨cause, equal, -⟩
      cases equal

end Catalog

/-! ## All decisions -/

section All

variable {environment : Environment} {before : Session} {user : User}
  {workflowId : String}

theorem Workflows.get_decides
    (declared : ∀ row ∈ before.saved.workflows, row.Declared) :
    let reads := before.saved.Permits user [Scope.read] workflowId
    let getting := (get user workflowId).outcome environment.calm before
    ((∃ detail, getting.1 = .ok detail) ↔ reads) ∧
      (∀ detail, getting.1 = .ok detail →
        ∃ row ∈ before.saved.workflows, row.id = workflowId ∧
          WorkflowDetail.ofLoaded (.ofRow row) = .fits detail) ∧
      (ProblemKind.notFound.Ends getting.1 ↔ ¬reads) ∧
      (¬reads → getting.2.saved = before.saved) := by
  intro reads getting
  by_cases permits : reads
  · rcases get_allowed declared permits with
      ⟨row, detail, after, member, named, fits, ended⟩
    have result : getting.1 = .ok detail := congrArg Prod.fst ended
    refine ⟨iff_of_true ⟨detail, result⟩ permits, ?_,
      iff_of_false ?_ (not_not_intro permits), absurd permits⟩
    · intro other same
      cases same.symm.trans result
      exact ⟨row, member, named, fits⟩
    · rw [result]
      exact ProblemKind.not_ends_ok _ _
  · have refused : getting = _ := get_refused permits
    rw [refused]
    refine ⟨iff_of_false ?_ permits, ?_, iff_of_true ⟨_, rfl, rfl⟩ permits,
      fun _ => rfl⟩
    · rintro ⟨_, equal⟩
      cases equal
    · intro _ equal
      cases equal

theorem Workflows.update_decides {request : UpdateRequest}
    (requested : request.Declared) (form : request.IsJson)
    (declared : ∀ row ∈ before.saved.workflows, row.Declared) :
    let reads := before.saved.Permits user [Scope.read] workflowId
    let updates := before.saved.Permits user [Scope.update] workflowId
    let updating :=
      (update user workflowId request).outcome environment.calm before
    ((∃ detail, updating.1 = .ok detail) ↔ updates) ∧
      (ProblemKind.authorization.Ends updating.1 ↔ reads ∧ ¬updates) ∧
      (ProblemKind.notFound.Ends updating.1 ↔ ¬reads) ∧
      (¬updates → updating.2.saved = before.saved) := by
  intro reads updates updating
  by_cases permits : updates
  · have readable : reads := permits.reading.mono (by decide)
    rcases (update_calmly requested form
      (fun row found => declared row (Store.mem_of_accessibleWorkflow? found))
      permits).exists_ok with
      ⟨detail, after, ended⟩
    have result : updating.1 = .ok detail := congrArg Prod.fst ended
    rw [result]
    exact ⟨iff_of_true ⟨detail, rfl⟩ permits,
      iff_of_false (ProblemKind.not_ends_ok _ _) fun both => both.2 permits,
      iff_of_false (ProblemKind.not_ends_ok _ _) (not_not_intro readable),
      absurd permits⟩
  · have fails (result : Except Failure WorkflowDetail) (cause : Cause)
        (equal : result = .error (.because cause)) :
        ¬∃ detail, result = .ok detail := by
      rintro ⟨_, again⟩
      cases equal.symm.trans again
    rcases update_refused form permits with
      ⟨after, saved, ⟨readable, ended⟩ | ⟨hidden, ended⟩⟩
    · have refused : updating = _ := ended
      rw [refused]
      refine ⟨iff_of_false (fails _ _ rfl) permits,
        iff_of_true ⟨_, rfl, rfl⟩ ⟨readable, permits⟩,
        iff_of_false ?_ (not_not_intro readable), fun _ => saved⟩
      rw [ProblemKind.ends_because]
      decide
    · have refused : updating = _ := ended
      rw [refused]
      refine ⟨iff_of_false (fails _ _ rfl) permits,
        iff_of_false ?_ fun both => hidden both.1,
        iff_of_true ⟨_, rfl, rfl⟩ hidden, fun _ => saved⟩
      rw [ProblemKind.ends_because]
      decide

theorem Catalog.preview_decides :
    let previewing := (preview user workflowId).outcome environment.calm before
    (ProblemKind.authorization.Ends previewing.1 ↔
        ¬before.saved.Permits user [Scope.read] workflowId) ∧
      previewing.2.saved = before.saved := by
  refine ⟨⟨?_, ?_⟩, saved_preview _ _ _ _⟩
  · intro refused permits
    exact preview_allowed _ permits refused
  · intro hidden
    rw [preview_refused hidden]
    exact ⟨_, rfl, rfl⟩

theorem Catalog.publish_decides (environment : Environment) (before : Session)
    (user : User) (request : PublishRequest)
    (sound : before.saved.Sound before.counters) :
    let permits := before.saved.Permits user (publishScopes environment.strict)
      request.workflowId
    let publishing := (publish user request).outcome environment.calm before
    (ProblemKind.authorization.Ends publishing.1 ↔ ¬permits) ∧
      (¬permits → publishing.1 = .error (.because .publishForbidden) ∧
        publishing.2.saved = before.saved) := by
  intro permits publishing
  refine ⟨⟨?_, ?_⟩, ?_⟩
  · intro refused allowed
    exact publish_allowed _ sound allowed refused
  · intro lacks
    rcases publish_refused lacks with ⟨after, ended, -⟩
    exact ⟨_, congrArg Prod.fst ended, rfl⟩
  · intro lacks
    rcases publish_refused lacks with ⟨after, ended, saved⟩
    have refused : publishing = _ := ended
    rw [refused]
    exact ⟨rfl, saved⟩

end All

/-- In every world that a run leads to the operations on a workflow, which may be
there or not, decide by the access model when they meet no mishap.  A workflow is
shown to exactly those who may read it, and data that fits is taken from exactly
those who may update it.  A preview needs the right to read, and so does a
publication, which needs the right to update, too, where publishing is strict; it is
refused with one error, whether there is such a workflow or not.  A refusal changes
no table. -/
theorem World.decisions_follow_access (users : List User)
    (projects : List Project) (memberships : List Membership)
    (counters : Counters) (turns : List (Environment × Turn))
    (environment : Environment) (user : User) (workflowId : String) :
    let world := (start users projects memberships counters).run turns
    let reads := world.store.Permits user [Scope.read] workflowId
    let updates := world.store.Permits user [Scope.update] workflowId
    let getting :=
      (Workflows.get user workflowId).outcome environment.calm world.session
    let updating (request : UpdateRequest) :=
      (Workflows.update user workflowId request).outcome environment.calm
        world.session
    let previewing :=
      (Catalog.preview user workflowId).outcome environment.calm world.session
    let publishing (request : PublishRequest) :=
      (Catalog.publish user request).outcome environment.calm world.session
    (updates → reads) ∧
    (((∃ detail, getting.1 = .ok detail) ↔ reads) ∧
      (∀ detail, getting.1 = .ok detail →
        ∃ row ∈ world.store.workflows, row.id = workflowId ∧
          WorkflowDetail.ofLoaded (.ofRow row) = .fits detail) ∧
      (ProblemKind.notFound.Ends getting.1 ↔ ¬reads) ∧
      (¬reads → getting.2.saved = world.store)) ∧
    (∀ heap data request, UpdateRequest.read heap data = .fits request →
      request.IsJson →
      ((∃ detail, (updating request).1 = .ok detail) ↔ updates) ∧
      (ProblemKind.authorization.Ends (updating request).1 ↔
        reads ∧ ¬updates) ∧
      (ProblemKind.notFound.Ends (updating request).1 ↔ ¬reads) ∧
      (¬updates → (updating request).2.saved = world.store)) ∧
    ((ProblemKind.authorization.Ends previewing.1 ↔ ¬reads) ∧
      previewing.2.saved = world.store) ∧
    ∀ request, request.workflowId = workflowId →
      (environment.strict = false →
        (ProblemKind.authorization.Ends (publishing request).1 ↔ ¬reads)) ∧
      (environment.strict = true →
        (ProblemKind.authorization.Ends (publishing request).1 ↔
          ¬(reads ∧ updates))) ∧
      (ProblemKind.authorization.Ends (publishing request).1 →
        (publishing request).1 = .error (.because .publishForbidden) ∧
          (publishing request).2.saved = world.store) := by
  intro world reads updates getting updating previewing publishing
  have sound : world.Sound :=
    (sound_start users projects memberships counters).run turns
  refine ⟨fun permits => permits.reading.mono (by decide),
    Workflows.get_decides sound.workflowsDeclared, ?_, Catalog.preview_decides, ?_⟩
  · intro heap data request fits form
    exact Workflows.update_decides (UpdateRequest.declared_of_read fits) form
      sound.workflowsDeclared
  · rintro request rfl
    rcases Catalog.publish_decides environment world.session user request
      sound.store with ⟨refused, cleanly⟩
    refine ⟨?_, ?_, fun ends => cleanly (refused.mp ends)⟩
    · intro lenient
      rw [Store.permits_publishScopes, lenient] at refused
      refine refused.trans (not_congr ?_)
      exact ⟨And.left, fun permits => ⟨permits, nofun⟩⟩
    · intro strict
      rw [Store.permits_publishScopes, strict] at refused
      refine refused.trans (not_congr ?_)
      exact and_congr_right fun _ => ⟨fun both => both rfl, fun permits _ => permits⟩

namespace Fair

/-- The reader is a viewer in the project of the author. -/
def viewing : List Membership :=
  memberships ++ [⟨"author", "reader", Role.viewer, .at ⟨0⟩⟩]

/-- A request for another name. -/
def rename : UpdateRequest where
  name := some (some "Renamed")
  nodes := none
  connections := none
  settings := none
  staticData := none
  active := none

theorem reads_rename : UpdateRequest.read .empty
    (.ofFields [("name", .text "Renamed")]) = .fits rename := rfl

theorem isJson_rename : rename.IsJson := by
  constructor <;> simp [rename]

end Fair

/-- A viewer can read the workflow of the author and not rename it; the author can,
and nobody finds a workflow that is not there. -/
theorem World.viewer_may_only_read :
    let world := (start Fair.members Fair.projects Fair.viewing {}).run
      (Fair.turns.take 1)
    let workflowId := Identifier.Kind.workflow.numbered 1
    let renamed (user : User) (workflowId : String) :=
      ((Workflows.update user workflowId Fair.rename).outcome
        Fair.weather.calm world.session).1
    ProblemKind.authorization.Ends (renamed (Fair.member "reader") workflowId) ∧
    (∃ detail, renamed (Fair.member "author") workflowId = .ok detail) ∧
    ProblemKind.notFound.Ends (renamed (Fair.member "author") "missing") := by
  intro world workflowId renamed
  have decides (user : User) (id : String) :=
    (decisions_follow_access Fair.members Fair.projects Fair.viewing {}
      (Fair.turns.take 1) Fair.weather user id).2.2.1 .empty _ _
      Fair.reads_rename Fair.isJson_rename
  have permits (user : User) (scopes : List Scope) (id : String) :
      (world.store.accessibleWorkflow? user scopes id).isSome = true ↔
        world.store.Permits user scopes id := by
    rw [Option.isSome_iff_exists, Store.exists_accessibleWorkflow?]
  refine ⟨(decides _ _).2.1.mpr ⟨?_, ?_⟩, (decides _ _).1.mpr ?_,
    (decides _ _).2.2.1.mpr ?_⟩
  · exact (permits _ _ _).mp (by decide +kernel)
  · rw [← permits]
    decide +kernel
  · exact (permits _ _ _).mp (by decide +kernel)
  · rw [← permits]
    decide +kernel

end WorkflowExchange

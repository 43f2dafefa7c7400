import WorkflowExchange.Proofs.Exchange.Settling

/-!
# What store calls prepare

One statement for each use of the store: what it found or changed in the draft
when it ends with a result.  A mishap can make a lookup find nothing; a change is
made as a whole or fails.
-/

namespace WorkflowExchange

theorem Prepared.toExcept_eq_ok {α : Type} {prepared : Prepared α} {result : α} :
    prepared.toExcept = .ok result ↔ prepared = .ready result := by
  cases prepared <;> simp [Prepared.toExcept]

/-- The version of a workflow after some changes: the next one that is made if its graph
changes, and otherwise the one that it had. -/
def Changes.version (changes : Changes) (old : String) (made : Nat) : String :=
  if changes.any (·.1.isOfGraph) then Identifier.Kind.version.numbered (made + 1)
  else old

namespace Work

variable {environment : Environment} {before : Session}

/-- A lookup in the draft. -/
theorem prepares_lookup {α : Type} (call : StoreCall) (none : α)
    (query : Store → α) :
    (Work.call call none (do pure (query (← store)))).Prepares environment before
      fun found after =>
        (found = none ∨ found = query before.draft) ∧ before.Idle after := by
  apply prepares_call
  · intro after idle
    exact ⟨.inl rfl, idle⟩
  · exact ⟨.refl _, .inr rfl, Session.idle_noted _ _⟩

/-- A lookup of something that may not be there. -/
theorem prepares_lookup? {α : Type} (call : StoreCall)
    (query : Store → Option α) :
    (Work.call call none (do pure (query (← store)))).Prepares environment before
      fun found after =>
        (∀ result, found = some result →
          query before.draft = some result) ∧ before.Idle after := by
  apply Prepares.mono (prepares_lookup call none query)
  rintro found after - ⟨absent | present, idle⟩
  · subst absent
    exact ⟨by simp, idle⟩
  · subst present
    exact ⟨fun _ equal => equal, idle⟩

theorem prepares_storing {α : Type} (prepared : Prepared α) :
    (storing prepared).Prepares environment before fun result after =>
      prepared = .ready result ∧ after = before := by
  apply Prepares.mono (prepares_ofExcept _)
  rintro result after - ⟨equal, same⟩
  exact ⟨Prepared.toExcept_eq_ok.mp equal, same⟩

theorem prepares_setAdded (store? : Option Store) :
    (setAdded store?).Prepares environment before fun _ after =>
      store? = some after.draft ∧ after.counters = before.counters := by
  cases store? with
  | none => exact prepares_fail
  | some draft =>
      apply Prepares.mono (prepares_setStore draft)
      rintro _ after - rfl
      exact ⟨rfl, rfl⟩

/-! ## Projects and workflows -/

theorem prepares_personalProject (userId : String) :
    (personalProject userId).Prepares environment before fun project after =>
      before.draft.personalProject? userId = some project ∧
        before.Idle after := by
  apply prepares_bind (prepares_lookup? _ fun draft =>
    draft.personalProject? userId)
  rintro found middle - ⟨present, idle⟩
  cases found with
  | none => exact prepares_refuse
  | some project => exact prepares_pure ⟨present project rfl, idle⟩

theorem prepares_accessible? (user : User) (scopes : List Scope)
    (workflowId : String) :
    (accessible? user scopes workflowId).Prepares environment before
      fun found after =>
        (∀ workflow, found = some workflow →
          before.draft.accessibleWorkflow? user scopes workflowId =
            some workflow) ∧ before.Idle after :=
  prepares_lookup? _ fun draft =>
    draft.accessibleWorkflow? user scopes workflowId

/-- A new workflow is stored under the next identifiers. -/
theorem prepares_insertWorkflow (draft : WorkflowDraft) :
    (insertWorkflow draft).Prepares environment before fun workflow after =>
      draft.prepared
          (Identifier.Kind.workflow.numbered (before.counters.workflows + 1))
          (Identifier.Kind.version.numbered (before.counters.versions + 1))
          environment.now = .ready workflow.row ∧
        workflow = ⟨workflow.row, draft.name, draft.active, draft.graph⟩ ∧
        before.draft.addWorkflow workflow.row = some after.draft ∧
        after.counters =
          (before.counters.advance .workflow).advance .version := by
  apply prepares_bind (prepares_fresh .workflow)
  rintro id first - ⟨rfl, rfl⟩
  apply prepares_bind (prepares_fresh .version)
  rintro versionId second - ⟨rfl, rfl⟩
  apply prepares_bind prepares_now
  rintro moment third - ⟨rfl, rfl⟩
  apply prepares_change
  apply prepares_bind (prepares_storing _)
  rintro row fourth - ⟨ready, rfl⟩
  apply prepares_bind prepares_store
  rintro held fifth - ⟨rfl, rfl⟩
  apply prepares_bind (prepares_setAdded _)
  rintro _ sixth - ⟨added, counters⟩
  exact prepares_pure ⟨ready, rfl, added, counters⟩

/-- The sharing that makes a project the owner of a workflow. -/
theorem prepares_linkOwner (workflowId projectId : String) :
    (linkOwner workflowId projectId).Prepares environment before fun _ after =>
      before.draft.addSharing
          ⟨workflowId, projectId, Role.workflowOwner, .at environment.now⟩ =
        some after.draft ∧ after.counters = before.counters := by
  apply prepares_change
  apply prepares_bind prepares_store
  rintro held first - ⟨rfl, rfl⟩
  apply prepares_bind prepares_now
  rintro moment second - ⟨rfl, rfl⟩
  exact prepares_setAdded _

/-- A version is used up when the graph of a workflow changes. -/
theorem prepares_versionAfter (workflow : LoadedWorkflow) (changes : Changes) :
    (versionAfter workflow changes).Prepares environment before
      fun versionId after =>
        after.draft = before.draft ∧
        versionId = changes.version workflow.row.versionId before.counters.versions ∧
        (changes.any (·.1.isOfGraph) →
          after.counters = before.counters.advance .version) := by
  rw [versionAfter, Changes.version]
  by_cases graph : changes.any (·.1.isOfGraph)
  · rw [if_pos graph, if_pos graph]
    apply Prepares.mono (prepares_fresh .version)
    rintro versionId after - ⟨rfl, rfl⟩
    exact ⟨rfl, rfl, fun _ => rfl⟩
  · rw [if_neg graph, if_neg graph]
    exact prepares_pure ⟨rfl, rfl, fun changed => absurd changed graph⟩

/-- Changed fields of a workflow are prepared and replace the row. -/
theorem prepares_updateWorkflow (workflow : LoadedWorkflow) (changes : Changes) :
    (updateWorkflow workflow changes).Prepares environment before
      fun updated after =>
        ∃ changed versionId,
          changes.row workflow = .ready changed ∧
          updated = { changes.seen workflow with
            row := { changed with
              versionId
              stamps := workflow.row.stamps.touched environment.now } } ∧
          (versionId = changes.version workflow.row.versionId before.counters.versions ∧
            (changes.any (·.1.isOfGraph) →
              after.counters = before.counters.advance .version)) ∧
          after.draft = before.draft.replaceWorkflow updated.row := by
  apply prepares_change
  apply prepares_bind (prepares_versionAfter workflow changes)
  rintro versionId first - ⟨sameDraft, version⟩
  apply prepares_bind (prepares_storing _)
  rintro changed second - ⟨ready, rfl⟩
  apply prepares_bind prepares_now
  rintro moment third - ⟨rfl, rfl⟩
  apply prepares_bind prepares_store
  rintro held fourth - ⟨rfl, rfl⟩
  apply prepares_bind (prepares_setStore _)
  rintro _ fifth - rfl
  rw [sameDraft]
  exact prepares_pure ⟨changed, versionId, ready, rfl, version, rfl⟩

/-! ## The catalog -/

theorem prepares_entryWith? (id : String) :
    (entryWith? id).Prepares environment before fun found after =>
      (∀ entry, found = some entry →
        before.draft.entryWith? id = some entry) ∧ before.Idle after :=
  prepares_lookup? _ fun draft => draft.entryWith? id

theorem prepares_entryByOrigin? (workflowId userId : String) :
    (entryByOrigin? workflowId userId).Prepares environment before
      fun found after =>
        (∀ entry, found = some entry →
          before.draft.entryByOrigin? workflowId userId = some entry) ∧
          before.Idle after :=
  prepares_lookup? _ fun draft => draft.entryByOrigin? workflowId userId

theorem prepares_insertEntry (entry : Entry) :
    (insertEntry entry).Prepares environment before fun _ after =>
      before.draft.addEntry entry = some after.draft ∧
        after.counters = before.counters := by
  have saved : (change .savepoint (pure ())).Prepares environment before
      fun _ after => before.Idle after := by
    apply prepares_change
    exact prepares_pure (Session.idle_noted _ _)
  apply prepares_bind saved
  intro _ first _ idle
  apply prepares_change
  apply prepares_bind prepares_store
  rintro held second - ⟨rfl, rfl⟩
  apply Prepares.mono (prepares_setAdded _)
  rintro _ after - ⟨added, counters⟩
  exact ⟨by rw [← added, ← idle.draft]; rfl, counters.trans idle.counters⟩

/-- New fields of an entry are prepared and replace the row. -/
theorem prepares_updateEntry (entry : Entry) (fields : EntryFields) :
    (updateEntry entry fields).Prepares environment before fun updated after =>
      ∃ snapshot,
        Column.json.changed (.ofJson entry.snapshot) entry.snapshot
          (some fields.snapshot) = .ready snapshot ∧
        updated = entry.republished fields snapshot environment.now ∧
        after.draft = before.draft.replaceEntry updated ∧
        after.counters = before.counters := by
  apply prepares_change
  apply prepares_bind (prepares_storing _)
  rintro snapshot first - ⟨ready, rfl⟩
  apply prepares_bind prepares_now
  rintro moment second - ⟨rfl, rfl⟩
  apply prepares_bind prepares_store
  rintro held third - ⟨rfl, rfl⟩
  apply prepares_bind (prepares_setStore _)
  rintro _ fourth - rfl
  exact prepares_pure ⟨snapshot, ready, rfl, rfl, rfl⟩

/-- Downloads are counted for the entry that is there, or for none. -/
theorem prepares_incrementDownloads (id : String) (amount : Int) :
    (incrementDownloads id amount).Prepares environment before
      fun affected after =>
        after.counters = before.counters ∧
        (affected = 0 ∨
          affected = 1 ∧ ∃ entry,
            before.draft.entryWith? id = some entry ∧
            after.draft = before.draft.replaceEntry
              (entry.downloaded amount environment.now)) := by
  apply prepares_call
  · intro after idle
    exact ⟨idle.counters, .inl rfl⟩
  · by_cases fits : !Datum.isInt amount
    · simp only [fits, ↓reduceIte]
      have failed : (fail (.fault .overflow) : Work Unit).Prepares environment
          (before.noted .incrementDownloads) fun _ _ => False := prepares_fail
      exact prepares_bind failed fun _ _ _ impossible => impossible.elim
    · simp only [fits]
      apply prepares_bind prepares_store
      rintro held second - ⟨rfl, rfl⟩
      rcases found : (before.noted .incrementDownloads).draft.entryWith? id with
        _ | entry
      · exact prepares_pure ⟨rfl, .inl rfl⟩
      · apply prepares_bind prepares_now
        rintro moment third - ⟨rfl, rfl⟩
        apply prepares_bind prepares_store
        rintro held fourth - ⟨rfl, rfl⟩
        apply prepares_bind (prepares_setStore _)
        rintro _ fifth - rfl
        exact prepares_pure ⟨rfl, .inr ⟨rfl, entry, found, rfl⟩⟩

/-- The entry that is there is removed; a mishap can leave it. -/
theorem prepares_deleteEntry (id : String) :
    (deleteEntry id).Prepares environment before fun _ after =>
      after.counters = before.counters ∧
        (after.draft = before.draft ∨
          after.draft = before.draft.removeEntry id) := by
  apply prepares_call
  · intro after idle
    exact ⟨idle.counters, .inl idle.draft⟩
  · apply prepares_bind prepares_store
    rintro held first - ⟨rfl, rfl⟩
    rcases (before.noted .deleteEntry).draft.entryWith? id with _ | entry
    · exact prepares_pure ⟨rfl, .inl rfl⟩
    · apply prepares_bind prepares_store
      rintro held second - ⟨rfl, rfl⟩
      apply prepares_bind (prepares_setStore _)
      rintro _ third - rfl
      exact prepares_pure ⟨rfl, .inr rfl⟩

end Work

end WorkflowExchange

import WorkflowExchange.Proofs.Exchange.History
import WorkflowExchange.Proofs.Store.Access

/-!
# Where versions and snapshots come from

In every world that a run leads to, the version of each workflow is one that was
made, so that the next one is new; the snapshot of each entry is a whole graph, so
that a copy of it can be stored as it is; and each entry comes from a workflow that
was made, so that nobody published the next one yet.
-/

namespace WorkflowExchange

/-- The versions of all workflows were made. -/
def Store.Versioned (counters : Counters) (store : Store) : Prop :=
  ∀ row ∈ store.workflows, ∃ number ≤ counters.versions,
    row.versionId = Identifier.Kind.version.numbered number

/-- The snapshots of all entries are whole graphs. -/
def Store.Charted (store : Store) : Prop :=
  ∀ entry ∈ store.entries, ∃ graph : Graph,
    entry.snapshot = graph.toJson ∧ graph.Formed ∧ graph.Distinct

/-- The identifiers of the workflows from which all entries come were made. -/
def Store.Traced (counters : Counters) (store : Store) : Prop :=
  ∀ entry ∈ store.entries, ∃ number ≤ counters.workflows,
    entry.originalWorkflowId =
      some (.text (Identifier.Kind.workflow.numbered number))

/-! ## Versions -/

namespace Store

variable {moment : Moment} {before after : Counters} {deed : Deed}
  {first last : Store}

theorem Versioned.widen (versioned : first.Versioned before)
    (most : before.AtMost after) : first.Versioned after := by
  intro row member
  rcases versioned row member with ⟨number, bound, equal⟩
  exact ⟨number, Nat.le_trans bound (most .version), equal⟩

/-- The next version is not that of any workflow. -/
theorem Versioned.next_ne (versioned : first.Versioned before) {row : Workflow}
    (member : row ∈ first.workflows) :
    row.versionId ≠ Identifier.Kind.version.numbered (before.versions + 1) := by
  rcases versioned row member with ⟨number, bound, equal⟩
  intro same
  have numbers := Identifier.Kind.numbered_injective (equal.symm.trans same)
  omega

theorem Deposited.versioned (deposited : first.Deposited before after last)
    (versioned : first.Versioned after) : last.Versioned after := by
  rcases deposited with
    ⟨row, _, -, -, ⟨number, -, made, equal⟩, -, rfl⟩
  intro present member
  rcases List.mem_append.mp member with member | member
  · exact versioned present member
  · rw [List.mem_singleton.mp member]
    exact ⟨number, made, equal⟩

/-- A deed leaves made versions behind. -/
theorem Does.versioned (does : Store.Does moment before after deed first last)
    (most : before.AtMost after) (versioned : first.Versioned before) :
    last.Versioned after := by
  have wide := versioned.widen most
  cases does with
  | create deposited | importOwn found own deposited =>
      exact deposited.versioned wide
  | @importOther _ middle _ _ _ found others deposited =>
      have kept : middle.Versioned after := deposited.versioned wide
      exact kept
  | update held declared same version =>
      intro row member
      rcases mem_replaceWorkflow member with place | rfl
      · exact wide row place
      · rcases version with unchanged | ⟨number, -, made, equal⟩
        · rw [unchanged]
          exact wide _ held
        · exact ⟨number, made, equal⟩
  | publish new made object added =>
      rcases addEntry_eq_some.mp added with ⟨-, rfl⟩
      exact wide
  | republish | delete | deleteNothing => exact wide

end Store

/-! ## Origins -/

namespace Store

variable {moment : Moment} {before after : Counters} {first last : Store}

theorem Traced.widen (traced : first.Traced before)
    (most : before.AtMost after) : first.Traced after := by
  intro entry member
  rcases traced entry member with ⟨number, bound, equal⟩
  exact ⟨number, Nat.le_trans bound (most .workflow), equal⟩

/-- No entry comes from the next workflow. -/
theorem Traced.origin_ne (traced : first.Traced before) {entry : Entry}
    (member : entry ∈ first.entries) (userId : String) :
    entry.origin ≠ Entry.originOf
      (Identifier.Kind.workflow.numbered (before.workflows + 1)) userId := by
  rcases traced entry member with ⟨number, bound, equal⟩
  intro same
  have next : entry.originalWorkflowId = _ := congrArg Prod.fst same
  have numbers := Identifier.Kind.numbered_injective
    (TextCell.text.inj (Option.some.inj (equal.symm.trans next)))
  omega

/-- An entry that is placed comes from the workflow that was published. -/
theorem Traced.places {user : User} {workflowId : String} {fields : EntryFields}
    {earlier later : Session} {entry : Entry}
    (traced : earlier.draft.Traced after)
    (made : ∃ number ≤ after.workflows,
      workflowId = Identifier.Kind.workflow.numbered number)
    (places : Catalog.Places moment user workflowId fields earlier later entry) :
    later.draft.Traced after := by
  intro present member
  cases places with
  | @update existing _ found ready draft =>
      rw [draft] at member
      rcases mem_replaceEntry member with ⟨held, -⟩ | rfl
      · exact traced present held
      · exact traced existing (entryByOrigin?_eq_some found).1
  | insert _ ready added =>
      rcases addEntry_eq_some.mp added with ⟨-, draft⟩
      rw [draft] at member
      rcases List.mem_append.mp member with held | new
      · exact traced present held
      · rcases made with ⟨number, bound, rfl⟩
        rw [List.mem_singleton.mp new]
        exact ⟨number, bound, rfl⟩

end Store

/-! ## Snapshots -/

/-- A column of JSON that is given a value with different keys keeps what it held
or holds the value. -/
theorem Json.kept_or_given {json held kept : Json} (distinct : json.Distinct)
    (part : json.IsPart)
    (ready : Column.json.changed (.ofJson held) held (some (.ofJson json)) =
      .ready kept) : kept = held ∨ kept = json := by
  rcases Column.changed_eq_ready.mp ready with ⟨-, rfl⟩ | ⟨_, ⟨⟩, -, stored⟩
  · exact .inl rfl
  · cases (distinct.column part).symm.trans stored
    exact .inr rfl

/-- Of the entries after one was placed each has the snapshot of an entry before, or
the one that was given. -/
theorem Catalog.Places.kept_or_given {moment : Moment} {user : User}
    {workflowId : String} {fields : EntryFields} {before after : Session}
    {entry present : Entry} {json : Json} (distinct : json.Distinct)
    (part : json.IsPart) (given : fields.snapshot = .ofJson json)
    (places : Places moment user workflowId fields before after entry)
    (member : present ∈ after.draft.entries) :
    (∃ old ∈ before.draft.entries, present.snapshot = old.snapshot) ∨
      present.snapshot = json := by
  cases places with
  | @update existing snapshot found ready draft =>
      rw [draft] at member
      rcases Store.mem_replaceEntry member with ⟨held, -⟩ | rfl
      · exact .inl ⟨present, held, rfl⟩
      · rw [given] at ready
        rcases Json.kept_or_given distinct part ready with kept | taken
        · exact .inl ⟨existing, (Store.entryByOrigin?_eq_some found).1, kept⟩
        · exact .inr taken
  | insert made ready added =>
      rcases Store.addEntry_eq_some.mp added with ⟨-, draft⟩
      rw [draft] at member
      rcases List.mem_append.mp member with held | new
      · exact .inl ⟨present, held, rfl⟩
      · rw [given, distinct.column part] at ready
        cases ready
        rw [List.mem_singleton.mp new]
        exact .inr rfl

/-- An entry that is placed with a whole graph leaves whole graphs behind. -/
theorem Catalog.Places.charted {moment : Moment} {user : User} {workflowId : String}
    {fields : EntryFields} {before after : Session} {entry : Entry} {graph : Graph}
    (formed : graph.Formed) (distinct : graph.Distinct)
    (given : fields.snapshot = .ofJson graph.toJson)
    (places : Places moment user workflowId fields before after entry)
    (charted : before.draft.Charted) : after.draft.Charted := by
  intro present member
  rcases places.kept_or_given distinct.toJson trivial given member with
    ⟨old, held, same⟩ | taken
  · rcases charted old held with ⟨kept, equal, whole⟩
    exact ⟨kept, same.trans equal, whole⟩
  · exact ⟨graph, taken, formed, distinct⟩

namespace World

variable {first world : World} {environment : Environment} {turn : Turn}

/-! ## Runs -/

theorem Sound.versioned_after (sound : world.Sound)
    (versioned : world.store.Versioned world.counters) (environment : Environment)
    (turn : Turn) : (world.after environment turn).store.Versioned
      (world.after environment turn).counters := by
  rcases after_cases world environment turn sound.workflowsDeclared with
    ⟨most, ⟨same, -⟩ | ⟨-, deed, -, does⟩⟩
  · rw [same]
    exact versioned.widen most
  · exact does.versioned most versioned

theorem Sound.versioned_run (sound : world.Sound)
    (versioned : world.store.Versioned world.counters)
    (turns : List (Environment × Turn)) :
    (world.run turns).store.Versioned (world.run turns).counters := by
  induction turns generalizing world with
  | nil => exact versioned
  | cons turn rest hypothesis =>
      exact hypothesis (sound.step turn.1 turn.2)
        (sound.versioned_after versioned _ turn.2)

/-- Identifiers are only used up in a run. -/
theorem Sound.counters_run (sound : world.Sound)
    (turns : List (Environment × Turn)) :
    world.counters.AtMost (world.run turns).counters := by
  induction turns generalizing world with
  | nil => exact .refl _
  | cons turn rest hypothesis =>
      exact (after_cases world _ turn.2 sound.workflowsDeclared).1.trans
        (hypothesis (sound.step turn.1 turn.2))

/-- A turn places the entry of the call that it commits, or every entry was there
before and is kept. -/
theorem places_or_kept (ids : (world.store.entries.map Entry.id).Nodup)
    (acts : world.Acts environment turn) :
    (∃ call last entry, world.call? environment turn = some call ∧
      Catalog.Places environment.now call.publication.user
        call.publication.request.workflowId call.fields world.session last entry ∧
      (world.after environment turn).store = last.draft) ∨
    ∀ entry ∈ (world.after environment turn).store.entries,
      ∃ old ∈ world.store.entries, old.Kept entry := by
  rcases acts with ⟨-, ⟨same, -⟩ | ⟨commits, deed, means, does⟩⟩
  · right
    rw [same]
    exact fun entry member => ⟨entry, member, .refl entry⟩
  by_cases publishes : ∃ user request, deed = .publish user request
  · rcases publishes with ⟨user, request, rfl⟩
    rcases exists_finished means commits with ⟨publication, finished⟩
    rcases call_of_finished finished commits with
      ⟨description, last, entry, called, places, saved⟩
    exact .inl ⟨_, last, entry, called, places, saved⟩
  · exact .inr fun _ member => does.exists_kept ids
      (fun user request equal => publishes ⟨user, request, equal⟩) member

theorem traced_after (ids : (world.store.entries.map Entry.id).Nodup)
    (acts : world.Acts environment turn)
    (made : ∀ call ∈ world.call? environment turn,
      ∃ number ≤ (world.after environment turn).counters.workflows,
        call.publication.request.workflowId =
          Identifier.Kind.workflow.numbered number)
    (traced : world.store.Traced world.counters) :
    (world.after environment turn).store.Traced
      (world.after environment turn).counters := by
  have wide := traced.widen acts.1
  rcases places_or_kept ids acts with
    ⟨call, last, entry, called, places, saved⟩ | kept
  · rw [saved]
    exact Store.Traced.places wide (made call called) places
  · intro entry member
    rcases kept entry member with ⟨old, held, downloads, stamps, rfl⟩
    exact wide old held

theorem Sound.charted_after (sound : world.Sound)
    (stored : ∀ call ∈ world.call? environment turn,
      ∃ graph, call.publication.graph.IsStored graph)
    (charted : world.store.Charted) :
    (world.after environment turn).store.Charted := by
  rcases places_or_kept sound.store.ids
      (after_cases world environment turn sound.workflowsDeclared) with
    ⟨call, last, entry, called, places, saved⟩ | kept
  · rcases stored call called with ⟨graph, whole⟩
    rw [saved]
    exact places.charted whole.formed whole.distinct whole.toValue charted
  · intro entry member
    rcases kept entry member with ⟨old, held, downloads, stamps, rfl⟩
    exact charted old held

/-- What a call publishes was there when it was taken, so that its identifier was
made. -/
theorem Took.made {turns : List (Environment × Turn)} {publication : Publication}
    (took : first.Took turns publication) (sound : first.Sound) :
    ∃ number ≤ (first.run turns).counters.workflows,
      publication.request.workflowId =
        Identifier.Kind.workflow.numbered number := by
  rcases took with ⟨before, environment, turn, after, rfl, -, row, found, -⟩
  have there := Store.workflow?_eq_some (Store.accessibleWorkflow?_eq_some.mp found).2
  rcases ((sound.run before).store.workflows row there.1).2 with
    ⟨number, bound, equal⟩
  have most := (sound.run before).counters_run ((environment, turn) :: after)
  rw [run_append]
  exact ⟨number, Nat.le_trans bound (most .workflow), there.2.symm.trans equal⟩

/-- Every entry of a run that begins without entries has a whole graph: what is
published was taken from a workflow before. -/
theorem Sound.charted_run (sound : first.Sound) (idle : first.waiting = [])
    (none : first.store.entries = []) (turns : List (Environment × Turn)) :
    (first.run turns).store.Charted := by
  induction turns using List.reverseRecOn with
  | nil =>
      intro entry member
      rw [show (first.run []).store.entries = [] from none] at member
      cases member
  | append_singleton turns last hypothesis =>
      rcases last with ⟨environment, turn⟩
      rw [run_append, run_singleton]
      exact (sound.run turns).charted_after
        (fun call called => (took_of_call idle called).exists_isStored sound)
        hypothesis

/-- Every entry of a run that begins without entries comes from a workflow that was
made. -/
theorem Sound.traced_run (sound : first.Sound) (idle : first.waiting = [])
    (none : first.store.entries = []) (turns : List (Environment × Turn)) :
    (first.run turns).store.Traced (first.run turns).counters := by
  induction turns using List.reverseRecOn with
  | nil =>
      intro entry member
      rw [show (first.run []).store.entries = [] from none] at member
      cases member
  | append_singleton turns last hypothesis =>
      rcases last with ⟨environment, turn⟩
      have soundly := sound.run turns
      have made : ∀ call ∈ (first.run turns).call? ((first.run turns).within environment)
          turn, ∃ number ≤ ((first.run turns).step environment turn).counters.workflows,
            call.publication.request.workflowId =
              Identifier.Kind.workflow.numbered number := by
        intro call called
        rw [← run_singleton, ← run_append]
        exact (took_of_call idle called).made sound
      rw [run_append, run_singleton]
      exact traced_after soundly.store.ids
        (after_cases _ _ turn soundly.workflowsDeclared) made hypothesis

end World

end WorkflowExchange

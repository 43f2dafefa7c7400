import WorkflowExchange.Proofs.Exchange.Sound
import WorkflowExchange.Proofs.Exchange.Unbound

/-!
# Races to publish

A publication whose lookup wrongly finds no entry tries to insert one, breaks a
key and updates the entry that is there.  It ends like a publication whose lookup
was right, and leaves the same store: `World.Sound.finish_losing`.  So there is at
most one entry for each origin in every world that a run leads to, and a lost race
makes no publication fail.
-/

namespace WorkflowExchange

/-- The first entry of an origin can be added exactly when there is none. -/
theorem Store.Keyed.isSome_addEntry {counters : Counters} {store : Store}
    (keyed : store.Keyed counters) (user : User) (workflowId : String)
    (fields : EntryFields) (snapshot : Json) (moment : Moment) :
    (store.addEntry (Catalog.firstEntry user workflowId fields
      (Identifier.Kind.entry.numbered (counters.entries + 1)) snapshot
      moment)).isSome = (store.entryByOrigin? workflowId user.id).isNone := by
  rw [Bool.eq_iff_iff, Option.isNone_iff_eq_none, Store.entryByOrigin?_eq_none,
    Option.isSome_iff_exists]
  constructor
  · rintro ⟨last, added⟩ present member same
    rcases Store.addEntry_eq_some.mp added with ⟨different, -⟩
    have apart := (Store.sameOrigin_eq_false rfl).mp
      (different present member).2
    exact apart same.symm
  · intro absent
    refine ⟨_, Store.addEntry_eq_some.mpr ⟨?_, rfl⟩⟩
    intro present member
    constructor
    · rcases (keyed.entries present member).id with ⟨number, bound, equal⟩
      rw [equal]
      intro clash
      have numbers := Identifier.Kind.numbered_injective
        (TextCell.text.inj clash)
      omega
    · apply (Store.sameOrigin_eq_false rfl).mpr
      intro same
      exact absent present member same.symm

namespace Catalog

variable {environment : Environment} {before : Session} {context : Log.Context}
  {user : User} {workflowId : String} {fields : EntryFields}

/-! ## Without mishaps an entry is placed -/

theorem calmly_inserts (entry : Entry) :
    (inserts entry).Calmly environment before fun inserted _ =>
      inserted = (before.draft.addEntry entry).isSome := by
  intro calm
  have next : environment.mishap (before.noted .savepoint).calls .insertEntry =
      none := (calm.noted .savepoint).here .insertEntry
  have later := (calm.noted .savepoint).noted .insertEntry
  rw [inserts, Work.outcome_tryCatch, Work.outcome_bind, Work.insertEntry,
    Work.outcome_bind, Work.outcome_change, calm.here]
  simp only [Work.outcome_pure, Work.outcome_change]
  rw [next]
  simp only [Work.outcome_bind, Work.outcome_store, outcome_setAdded]
  rcases added : ((before.noted .savepoint).noted .insertEntry).draft.addEntry
    entry with _ | draft
  · have refused : before.draft.addEntry entry = none := added
    exact ⟨false, _, rfl, later, congrArg Option.isSome refused.symm⟩
  · have accepted : before.draft.addEntry entry = some draft := added
    exact ⟨true, _, rfl, later, congrArg Option.isSome accepted.symm⟩

theorem calmly_updateEntry (entry : Entry) (form : fields.snapshot.IsJson) :
    (Work.updateEntry entry fields).Calmly environment before
      fun _ _ => True := by
  have takes : ∀ value ∈ some fields.snapshot, ∃ stored,
      Column.json value = .ready stored := by
    rintro _ ⟨⟩
    exact form.column
  rcases Column.exists_changed (.ofJson entry.snapshot) entry.snapshot takes with
    ⟨snapshot, ready⟩
  apply Work.calmly_change
  apply Work.calmly_bind (Work.calmly_storing ready)
  rintro _ first ⟨rfl, rfl⟩
  apply Work.calmly_bind Work.calmly_now
  rintro _ second ⟨rfl, rfl⟩
  apply Work.calmly_bind Work.calmly_store
  rintro _ third ⟨rfl, rfl⟩
  apply Work.calmly_bind (Work.calmly_setStore _)
  rintro _ fourth rfl
  exact Work.calmly_pure trivial

theorem calmly_insertOrUpdate (keyed : before.draft.Keyed before.counters)
    (form : fields.snapshot.IsJson) :
    (insertOrUpdate context user workflowId fields).Calmly environment before
      fun _ _ => True := by
  rcases form.column with ⟨snapshot, ready⟩
  apply Work.calmly_bind (Work.calmly_fresh .entry)
  rintro _ first ⟨rfl, rfl⟩
  apply Work.calmly_bind Work.calmly_now
  rintro _ second ⟨rfl, rfl⟩
  apply Work.calmly_bind (Work.calmly_storing ready)
  rintro stored third ⟨equal, rfl⟩
  subst stored
  apply Work.calmly_bind
    ((calmly_inserts _).and_prepares (prepares_inserts _))
  rintro inserted fourth ⟨added, -, -, inserting⟩
  have placed := keyed.isSome_addEntry user workflowId fields snapshot
    environment.now
  rcases inserting with ⟨rfl, -⟩ | ⟨rfl, unchanged⟩
  · apply Work.calmly_bind (Work.calmly_log _ _)
    intro _ fifth _
    exact Work.calmly_pure trivial
  · have there : (before.draft.entryByOrigin? workflowId user.id).isNone =
        false := placed.symm.trans added.symm
    apply Work.calmly_bind (Work.calmly_lookup fun draft =>
      draft.entryByOrigin? workflowId user.id)
    rintro found fifth ⟨equal, -⟩
    have same : found = before.draft.entryByOrigin? workflowId user.id :=
      equal.trans (congrArg (Store.entryByOrigin? · workflowId user.id) unchanged)
    rw [← same] at there
    cases found with
    | none => cases there
    | some existing =>
      apply Work.calmly_bind (Work.calmly_log _ _)
      intro _ sixth _
      exact calmly_updateEntry existing form

theorem calmly_placeEntry (keyed : before.draft.Keyed before.counters)
    (form : fields.snapshot.IsJson) :
    (placeEntry context user workflowId fields).Calmly environment before
      fun _ _ => True := by
  apply Work.calmly_bind (Work.calmly_lookup fun draft =>
    draft.entryByOrigin? workflowId user.id)
  rintro found first ⟨rfl, idle⟩
  rcases before.draft.entryByOrigin? workflowId user.id with _ | existing
  · rw [← idle.draft, ← idle.counters] at keyed
    exact calmly_insertOrUpdate keyed form
  · apply Work.calmly_bind (calmly_updateEntry existing form)
    intro entry second _
    apply Work.calmly_bind (Work.calmly_log _ _)
    intro _ third _
    exact Work.calmly_pure trivial

/-! ## There is one way to place an entry -/

theorem Places.unique {moment : Moment} {first second : Session}
    {one two : Entry} {before : Session}
    (keyed : before.draft.Keyed before.counters)
    (places : Places moment user workflowId fields before first one)
    (others : Places moment user workflowId fields before second two) :
    one = two ∧ first.draft = second.draft := by
  have placed (snapshot : Json) := keyed.isSome_addEntry user workflowId fields
    snapshot moment
  cases places with
  | update found ready draft =>
      cases others with
      | update foundAgain readyAgain draftAgain =>
          rw [found] at foundAgain
          cases foundAgain
          rw [ready] at readyAgain
          cases readyAgain
          exact ⟨rfl, draft.trans draftAgain.symm⟩
      | @insert snapshot made readyAgain added =>
          have clash := placed snapshot
          rw [added, found] at clash
          cases clash
  | @insert snapshot made ready added =>
      cases others with
      | update found readyAgain draft =>
          have clash := placed snapshot
          rw [added, found] at clash
          cases clash
      | insert madeAgain readyAgain addedAgain =>
          rw [ready] at readyAgain
          cases readyAgain
          rw [added] at addedAgain
          exact ⟨rfl, Option.some.inj addedAgain⟩

/-! ## The lookup of a lost race -/

/-- The work of placing an entry ends with one that is placed, and no mishap is
left to be met. -/
def IsPlaced (environment : Environment) (context : Log.Context) (user : User)
    (workflowId : String) (fields : EntryFields) (before : Session) : Prop :=
  ∃ entry after,
    (placeEntry context user workflowId fields).outcome environment before =
      (.ok entry, after) ∧
    environment.CalmFrom after.calls ∧
    Places environment.now user workflowId fields before after entry

theorem isPlaced_calm (environment : Environment) (context : Log.Context)
    (user : User) (workflowId : String) {fields : EntryFields}
    (keyed : before.draft.Keyed before.counters)
    (form : fields.snapshot.IsJson) :
    IsPlaced environment.calm context user workflowId fields before := by
  have calmly : (placeEntry context user workflowId fields).Calmly
      environment.calm before _ :=
    (calmly_placeEntry keyed form).and_prepares
      (prepares_placeEntry context user workflowId fields)
  rcases calmly (environment.calmFrom_calm before.calls) with
    ⟨entry, after, outcome, calm, -, -, places⟩
  exact ⟨entry, after, outcome, calm, places⟩

/-- When the lookup is lost, what is there stops the insertion and is updated. -/
theorem isPlaced_losing (environment : Environment) (context : Log.Context)
    (user : User) (workflowId : String) {fields : EntryFields}
    (keyed : before.draft.Keyed before.counters)
    (form : fields.snapshot.IsJson) (first : .findByOrigin ∉ before.calls) :
    IsPlaced environment.losing context user workflowId fields before := by
  have lost : environment.losing.mishap before.calls .findByOrigin =
      some .nothing := if_pos ⟨rfl, first⟩
  have keyedly : (before.noted .findByOrigin).draft.Keyed
      (before.noted .findByOrigin).counters := keyed
  have calmly : (insertOrUpdate context user workflowId fields).Calmly
      environment.losing (before.noted .findByOrigin) _ :=
    (calmly_insertOrUpdate keyedly form).and_prepares
      (prepares_insertOrUpdate context user workflowId fields)
  rcases calmly (environment.calmFrom_losing (List.mem_cons_self ..)) with
    ⟨entry, after, outcome, calm, -, -, places⟩
  refine ⟨entry, after, ?_, calm, ?_⟩
  · rw [placeEntry, Work.entryByOrigin?, Work.outcome_bind, Work.outcome_call,
      lost]
    exact outcome
  · cases places with
    | update found ready draft => exact .update found ready draft
    | insert made ready added => exact .insert made ready added

/-! ## Publishing in a lost race -/

/-- What is placed is saved, and the work ends as showing it does. -/
theorem writeEntry_of_isPlaced
    (placed : IsPlaced environment context user workflowId fields
      before.discarded) :
    ∃ entry last after,
      Places environment.now user workflowId fields before.discarded last
        entry ∧
      (writeEntry context user workflowId fields).outcome environment before =
        ((EntrySummary.ofEntry entry).toExcept, after) ∧
      after.saved = last.draft := by
  rcases placed with ⟨entry, last, outcome, calm, places⟩
  rcases Work.calmly_commit calm with ⟨_, _, ended, -, rfl⟩
  have saved : (saveEntry context user workflowId fields).outcome environment
      before.discarded = (.ok entry, last.committed) := by
    rw [saveEntry, Work.outcome_bind, outcome]
    simp only [Work.outcome_bind, ended, Work.outcome_pure]
  refine ⟨entry, last, last.committed.discarded, places, ?_, rfl⟩
  rw [writeEntry, Work.outcome_transaction, Work.outcome_bind, saved]
  simp only [shown, Work.outcome_ofExcept]
  cases EntrySummary.ofEntry entry <;> rfl

/-- Making a description depends on the generator only. -/
theorem outcome_descriptionFor (before : Session) {one other : Environment}
    (same : one.generator = other.generator) (context : Log.Context)
    (request : PublishRequest) (name : Value) (graph : GraphCopy) :
    (descriptionFor context request name graph).outcome one before =
      (descriptionFor context request name graph).outcome other before := by
  rw [descriptionFor]
  by_cases wanted : request.useAutoDescription.getD false
  · simp only [if_pos wanted, describe, Work.outcome_bind, Work.outcome_read,
      Work.outcome_ofTrial, same]
  · simp only [if_neg wanted, Work.outcome_pure]

/-- What a publication begins with as a description: one that is made, or the one that
the request carries. -/
def wideDescriptionOf (environment : Environment) (request : PublishRequest)
    (name : Value) (graph : GraphCopy) : Except Failure Wide :=
  if request.useAutoDescription.getD false then
    ((environment.generator.generate .empty name graph.toValue).mapError
      .fault).outcome
  else .ok (sentDescription request)

/-- A description is made without using the store. -/
theorem descriptionFor_ends (environment : Environment) (before : Session)
    (context : Log.Context) (request : PublishRequest) (name : Value)
    (graph : GraphCopy) :
    ∃ after, (descriptionFor context request name graph).outcome environment before =
        (wideDescriptionOf environment request name graph, after) ∧
      before.Idle after ∧ after.calls = before.calls := by
  rw [descriptionFor, wideDescriptionOf]
  by_cases wanted : request.useAutoDescription.getD false
  · simp only [if_pos wanted, describe, Work.outcome_bind, Work.outcome_read,
      Work.outcome_ofTrial]
    exact ⟨_, rfl, Work.idle_told_each _ _ _, Work.calls_told_each _ _ _⟩
  · simp only [if_neg wanted, Work.outcome_pure]
    exact ⟨before, rfl, .refl before, rfl⟩

/-- An entry is written the same way in a lost race, or is not, and the same is saved. -/
theorem writeDescribed_losing (environment : Environment) (before : Session)
    (keyed : before.saved.Keyed before.counters)
    (first : .findByOrigin ∉ before.calls) (context : Log.Context) (user : User)
    (request : PublishRequest) {graph : GraphCopy} (form : graph.IsJson)
    (description : Wide) :
    let lost := (writeDescribed context user request graph description).outcome
      environment.losing before
    let won := (writeDescribed context user request graph description).outcome
      environment.calm before
    lost.1 = won.1 ∧ lost.2.saved = won.2.saved := by
  have keyedly : before.discarded.draft.Keyed before.discarded.counters := keyed
  have formed (content : String) :
      (entryFields request content graph).snapshot.IsJson := form.toValue
  rw [writeDescribed]
  cases description.string? with
  | some content =>
      rcases writeEntry_of_isPlaced (isPlaced_losing environment context user
        request.workflowId keyedly (formed content) first) with
          ⟨one, _, _, places, lost, saved⟩
      rcases writeEntry_of_isPlaced (isPlaced_calm environment context user
        request.workflowId keyedly (formed content)) with
          ⟨two, _, _, others, won, savedAgain⟩
      rcases places.unique keyedly others with ⟨rfl, drafts⟩
      simp only [lost, won]
      exact ⟨trivial, saved.trans (drafts.trans savedAgain.symm)⟩
  | none =>
      rcases writeEntry_unbound environment.losing before context user
        request.workflowId (entryFields request description.shown graph) .unencodable with
          ⟨_, _, lost, unsaved, fault⟩
      rcases writeEntry_unbound environment.calm before context user
        request.workflowId (entryFields request description.shown graph) .unencodable with
          ⟨_, _, won, unsavedAgain, faultAgain⟩
      simp only [lost, won, fault environment.gentle_losing (formed _),
        faultAgain environment.gentle_calm (formed _)]
      exact ⟨trivial, unsaved.saved.trans unsavedAgain.saved.symm⟩

/-- Publishing ends the same way in a lost race, and saves the same. -/
theorem finishPublish_losing (environment : Environment) (before : Session)
    (keyed : before.saved.Keyed before.counters)
    (first : .findByOrigin ∉ before.calls) (user : User)
    (request : PublishRequest) (name : Value) {graph : GraphCopy}
    (form : graph.IsJson) :
    let lost := (finishPublish user request name graph).outcome
      environment.losing before
    let won := (finishPublish user request name graph).outcome
      environment.calm before
    lost.1 = won.1 ∧ lost.2.saved = won.2.saved := by
  rw [finishPublish]
  generalize Log.Context.ofCall user.id "publish" = context
  have described := outcome_descriptionFor before
    (show environment.losing.generator = environment.calm.generator from rfl)
    context request name graph
  rcases descriptionFor_ends environment.calm before context request name graph with
    ⟨middle, ended, idle, called⟩
  simp only [Work.outcome_bind]
  rw [described, ended]
  cases wideDescriptionOf environment.calm request name graph with
  | error failure => exact ⟨rfl, rfl⟩
  | ok description =>
      have keyedly : middle.saved.Keyed middle.counters := by
        rw [idle.saved, idle.counters]
        exact keyed
      have early : .findByOrigin ∉ middle.calls := by
        rw [called]
        exact first
      exact writeDescribed_losing environment middle keyedly early context user request
        form description

end Catalog

namespace World

variable {world : World}

/-- A publication that lost a race ends like one that did not, and leaves the
same store. -/
theorem Sound.finish_losing (sound : world.Sound) (environment : Environment)
    (position : Nat) :
    (world.outcome environment.losing (.finish position)).1 =
        (world.outcome environment.calm (.finish position)).1 ∧
      (world.after environment.losing (.finish position)).store =
        (world.after environment.calm (.finish position)).store := by
  simp only [World.after, World.outcome, World.work]
  rcases waits : world.waiting[position]? with _ | publication
  · exact ⟨rfl, rfl⟩
  · have formed := sound.waiting publication (List.mem_of_getElem? waits)
    rcases Catalog.finishPublish_losing environment world.session
      sound.store.keyed List.not_mem_nil publication.user publication.request publication.name
      formed with ⟨ended, saved⟩
    simp only [Publication.finish, Work.outcome_bind]
    generalize (Catalog.finishPublish publication.user publication.request
      publication.name publication.graph).outcome environment.losing
        world.session = lost at ended saved ⊢
    generalize (Catalog.finishPublish publication.user publication.request
      publication.name publication.graph).outcome environment.calm
        world.session = won at ended saved ⊢
    rcases lost with ⟨result, after⟩
    rcases won with ⟨other, last⟩
    cases ended
    cases result with
    | ok summary => exact ⟨rfl, saved⟩
    | error failure => exact ⟨rfl, saved⟩

/-- However publications interleave with each other and with anything else, no two
entries share an origin, and a lost race changes neither how a publication ends
nor what it saves. -/
theorem run_keeps_one_entry (users : List User) (projects : List Project)
    (memberships : List Membership) (counters : Counters)
    (turns : List (Environment × Turn)) :
    let world := (start users projects memberships counters).run turns
    (world.store.entries.map Entry.origin).Nodup ∧
    (world.store.entries.map Entry.id).Nodup ∧
    (∀ entry ∈ world.store.entries,
      entry.authorId = entry.createdByUserId) ∧
    ∀ (environment : Environment) (position : Nat),
      (world.outcome environment.losing (.finish position)).1 =
          (world.outcome environment.calm (.finish position)).1 ∧
        (world.after environment.losing (.finish position)).store =
          (world.after environment.calm (.finish position)).store := by
  have sound := (sound_start users projects memberships counters).run turns
  refine ⟨sound.store.origins, sound.store.ids, ?_, sound.finish_losing⟩
  intro entry member
  exact (sound.store.entries entry member).author

end World

end WorkflowExchange

import WorkflowExchange.Proofs.Exchange.Capacity
import WorkflowExchange.Proofs.Exchange.Decisions
import WorkflowExchange.Proofs.Exchange.Travel

/-!
# What an import brings

Without mishaps an import is refused for the first of three reasons that applies, or
else it is made.  An import that is made adds one workflow and one sharing, counts a
download of someone else's entry, and changes nothing else.  From then on the
importer may do everything with the new workflow, and nobody outside the personal
project of the importer may do anything: `World.import_brings`.
-/

namespace WorkflowExchange

/-! ## Refusals -/

/-- Why a user cannot import an entry, if that is so. -/
def Store.importRefusal? (store : Store) (user : User) (entryId : String) :
    Option Cause :=
  match store.entryWith? entryId with
  | none => some .entryMissing
  | some entry =>
    if entry.isPublic = false ∧ entry.authorId ≠ .text user.id then
      some .importForbidden
    else if (store.personalProject? user.id).isNone then
      some .personalProjectMissing
    else none

namespace Work

theorem outcome_entryWith?_calm (environment : Environment) (before : Session)
    (id : String) :
    (entryWith? id).outcome environment.calm before =
      (.ok (before.draft.entryWith? id), before.noted .getEntry) :=
  outcome_call_calm _ _ _ _ _

/-- Without mishaps only who has no personal project is told so. -/
theorem outcome_personalProject_missing (environment : Environment)
    {before : Session} {userId : String}
    (missing : before.draft.personalProject? userId = none) :
    (personalProject userId).outcome environment.calm before =
      (.error (.because .personalProjectMissing),
        before.noted .personalProject) := by
  rw [personalProject, outcome_bind, outcome_call_calm, outcome_bind,
    outcome_store]
  simp only [outcome_pure]
  rw [show (before.noted .personalProject).draft.personalProject? userId = none
    from missing]
  rfl

end Work

namespace Catalog

variable {environment : Environment} {before after : Session} {user : User}
  {entryId : String} {summary : WorkflowSummary}

theorem isOpenTo_eq_false {entry : Entry} :
    isOpenTo entry user = false ↔
      entry.isPublic = false ∧ entry.authorId ≠ .text user.id := by
  rw [isOpenTo, Bool.or_eq_false_iff, decide_eq_false_iff_not]

/-- An import that fails saves nothing. -/
theorem saved_of_importEntry_error {failure : Failure}
    (failed : ((importEntry user entryId).outcome environment before).1 =
      .error failure) :
    ((importEntry user entryId).outcome environment before).2.saved =
      before.saved := by
  rcases Work.Settles.exists_outcome (importEntry_settles user entryId) with
    ⟨_, _, ended, unsaved⟩ | ⟨_, _, ended, -⟩
  · rw [ended]
    exact unsaved.saved
  · rw [ended] at failed
    cases failed

/-- An entry that is there, is open to a user and finds a personal project is not
refused. -/
theorem importRefusal?_cases (store : Store) (user : User) (entryId : String) :
    store.entryWith? entryId = none ∧
        store.importRefusal? user entryId = some .entryMissing ∨
      ∃ entry, store.entryWith? entryId = some entry ∧
        (isOpenTo entry user = false ∧
            store.importRefusal? user entryId = some .importForbidden ∨
          isOpenTo entry user = true ∧
            (store.personalProject? user.id = none ∧
                store.importRefusal? user entryId =
                  some .personalProjectMissing ∨
              ∃ project, store.personalProject? user.id = some project ∧
                store.importRefusal? user entryId = none)) := by
  rw [Store.importRefusal?]
  cases store.entryWith? entryId with
  | none => exact .inl ⟨rfl, rfl⟩
  | some entry =>
      refine .inr ⟨entry, rfl, ?_⟩
      simp only [← isOpenTo_eq_false]
      cases isOpenTo entry user with
      | false => exact .inl ⟨rfl, rfl⟩
      | true =>
          refine .inr ⟨rfl, ?_⟩
          cases store.personalProject? user.id with
          | none => exact .inl ⟨rfl, rfl⟩
          | some project => exact .inr ⟨project, rfl, rfl⟩

/-- Without mishaps a user who cannot import an entry is told why. -/
theorem importEntry_refused (sound : before.saved.Sound before.counters)
    {cause : Cause}
    (refused : before.saved.importRefusal? user entryId = some cause) :
    ((importEntry user entryId).outcome environment.calm before).1 =
      .error (.because cause) := by
  have looking : (Work.entryWith? entryId).outcome environment.calm
      before.discarded = (.ok (before.saved.entryWith? entryId),
        before.discarded.noted .getEntry) :=
    Work.outcome_entryWith?_calm _ _ _
  rw [importEntry, Work.outcome_transaction, Work.outcome_bind, looking]
  rcases importRefusal?_cases before.saved user entryId with
    ⟨found, missing⟩ | ⟨entry, found, ⟨closed, forbidden⟩ |
      ⟨opened, ⟨lacks, unowned⟩ | ⟨project, owned, allowed⟩⟩⟩
  · cases refused.symm.trans missing
    rw [found]
    rfl
  · cases refused.symm.trans forbidden
    simp only [found, closed, Bool.not_false, ↓reduceIte]
    rfl
  -- The graph is copied before the personal project is looked for.
  · cases refused.symm.trans unowned
    rcases (sound.entries entry (Store.entryWith?_eq_some found).1).snapshot with
      ⟨members, snapshot⟩
    have copies : (copied (.ofCall user.id "import")
        (.ofJson entry.snapshot)).Calmly environment.calm
          (before.discarded.noted .getEntry)
          fun _ after => (before.discarded.noted .getEntry).Idle after := by
      rw [snapshot]
      exact (calmly_copied _ members).mono fun _ _ holds => holds.2.2
    rcases copies (environment.calmFrom_calm _) with ⟨graph, second, copying, -, idle⟩
    have here : second.draft.personalProject? user.id = none := by
      rw [idle.draft]
      exact lacks
    have asking := Work.outcome_personalProject_missing environment here
    simp only [found, opened, Bool.not_true, Bool.false_eq_true, ↓reduceIte,
      Work.outcome_bind, copying, asking]
  · cases refused.symm.trans allowed

/-- Without mishaps an import that is not refused is made. -/
theorem importEntry_allowed (sound : before.saved.Sound before.counters)
    (allowed : before.saved.importRefusal? user entryId = none) :
    ∃ summary after, (importEntry user entryId).outcome environment.calm before =
      (.ok summary, after) := by
  rcases importRefusal?_cases before.saved user entryId with
    ⟨-, missing⟩ | ⟨entry, found, ⟨-, forbidden⟩ |
      ⟨opened, ⟨-, unowned⟩ | ⟨project, owned, -⟩⟩⟩
  · cases allowed.symm.trans missing
  · cases allowed.symm.trans forbidden
  · cases allowed.symm.trans unowned
  · exact (importEntry_calmly sound.keyed found opened owned).exists_ok

/-! ## Effects -/

/-- An import of an entry by a user at a moment adds a workflow to a project, counts a
download if the entry is by someone else, and changes nothing else.  Nothing in any
table has the identifiers of the workflow already. -/
structure Brings (moment : Moment) (user : User) (entry : Entry)
    (project : Project) (row : Workflow) (first last : Store) : Prop where
  id : ∀ present ∈ first.workflows, present.id ≠ row.id
  version : ∀ present ∈ first.workflows, present.versionId ≠ row.versionId
  unshared : ∀ sharing ∈ first.sharings, sharing.workflowId ≠ row.id
  unpublished : ∀ present ∈ first.entries, ∀ userId,
    present.origin ≠ Entry.originOf row.id userId
  name : ∃ content, entry.name = .text content ∧
    row.name = .text (content ++ importedMark)
  inactive : row.active = false
  graph : ∃ copy,
    (Heap.empty.copyGraph (.ofJson entry.snapshot)).outcome = .ok copy ∧
      LiveGraph.ofGraph row.graph = copy.live
  downloads : ∃ count : Nat, entry.downloads = .int count ∧
    (entry.downloaded 1 moment).downloads = .int (count + 1 : Nat)
  tables : ∃ stamps, last = { first with
    workflows := first.workflows ++ [row]
    sharings := first.sharings ++
      [⟨row.id, project.id, Role.workflowOwner, stamps⟩]
    entries :=
      if entry.authorId = .text user.id then first.entries
      else first.entries.map fun present =>
        if present.id = entry.id then entry.downloaded 1 moment else present }

/-- A whole graph is stored as its copy. -/
theorem ofGraph_of_copied {entry : Entry} {graph : Graph} {copy : GraphCopy}
    {stored : Graph} (snapshot : entry.snapshot = graph.toJson)
    (formed : graph.Formed) (distinct : graph.Distinct)
    (copied : (Heap.empty.copyGraph (.ofJson entry.snapshot)).outcome = .ok copy)
    (ready : copy.live.prepared = .ready stored) :
    LiveGraph.ofGraph stored = copy.live := by
  rw [snapshot, Heap.copyGraph_toJson formed] at copied
  cases copied
  rw [formed.cut.live] at ready ⊢
  rw [formed.cut.prepared distinct.cut] at ready
  cases ready
  rfl

/-- However many mishaps it meets, an import that is made brings a workflow. -/
theorem importEntry_brings (sound : before.saved.Sound before.counters)
    (versioned : before.saved.Versioned before.counters)
    (charted : before.saved.Charted) (traced : before.saved.Traced before.counters)
    (counted : ∀ entry ∈ before.saved.entries, entry.Counts)
    (ended : (importEntry user entryId).outcome environment before =
      (.ok summary, after)) :
    ∃ entry project row, before.saved.entryWith? entryId = some entry ∧
      isOpenTo entry user = true ∧
      before.saved.personalProject? user.id = some project ∧
      summary.id = row.id ∧
      Brings environment.now user entry project row before.saved after.saved := by
  have settles : (importEntry user entryId).Settles environment before _ :=
    importEntry_imports user entryId
  rcases settles.of_ok ended with ⟨-, entry, copy, row, middle, found, visible,
    copied, stored, named, ⟨project, stamps, owned, different, rfl⟩, counts⟩
  have member := (Store.entryWith?_eq_some found).1
  have entrySound := sound.entries entry member
  refine ⟨entry, project, row, found, visible, owned, named, ?_⟩
  refine ⟨fun present place => (different present place).symm, ?_, ?_, ?_, ?_, ?_,
    ?_, ?_, stamps, ?_⟩
  · intro present place
    rw [stored.version]
    exact versioned.next_ne place
  · intro sharing shared same
    rcases sound.sharings sharing shared with ⟨number, bound, equal⟩
    have numbers := Identifier.Kind.numbered_injective
      (equal.symm.trans (same.trans stored.id))
    omega
  · intro present place userId
    rw [stored.id]
    exact traced.origin_ne place userId
  · rcases entrySound.name with ⟨content, name⟩
    have shown := stored.name
    rw [importedDraft, name] at shown
    exact ⟨content, name, (Prepared.ready.inj shown).symm⟩
  · have ready : Column.truth.orElse false (.bool false) = .ready false :=
      Column.truth_bool false
    exact Prepared.ready.inj (stored.active.symm.trans ready)
  · rcases charted entry member with ⟨graph, snapshot, formed, distinct⟩
    exact ⟨copy, copied,
      ofGraph_of_copied snapshot formed distinct copied stored.graph⟩
  · exact (counted entry member).downloaded environment.now
  · rcases counts with ⟨own, saved⟩ | ⟨others, saved⟩
    · rw [saved, if_pos own]
    · rw [saved, if_neg others]
      rfl

/-! ## Access -/

namespace Brings

variable {moment : Moment} {entry : Entry} {project : Project} {row : Workflow}
  {first last : Store} {scopes : List Scope}

theorem memberships (brings : Brings moment user entry project row first last) :
    last.memberships = first.memberships := by
  rcases brings.tables with ⟨stamps, rfl⟩
  rfl

/-- The importer has the rights of an owner on the workflow. -/
theorem accessible (brings : Brings moment user entry project row first last)
    (owned : first.personalProject? user.id = some project)
    (owner : (Role.withScopes scopes).contains Role.personalOwner = true) :
    last.accessibleWorkflow? user scopes row.id = some row := by
  rcases brings.tables with ⟨stamps, rfl⟩
  have adopts : first.Adopts user row _ := ⟨project, stamps, owned,
    fun present member => (brings.id present member).symm, rfl⟩
  have found := adopts.accessible owner
  exact found

/-- Who is neither in the project nor an administrator has no right on the
workflow. -/
theorem not_permits (brings : Brings moment user entry project row first last)
    {other : User} (member : other.isGlobalAdmin = false)
    (outside : ∀ membership ∈ last.memberships,
      membership.projectId = project.id → membership.userId ≠ other.id)
    (scopes : List Scope) : ¬last.Permits other scopes row.id := by
  rcases brings.tables with ⟨stamps, rfl⟩
  rintro ⟨-, admin | ⟨sharing, shared, membership, related, same, within, theirs, -⟩⟩
  · rw [member] at admin
    cases admin
  · rcases List.mem_append.mp shared with held | added
    · exact brings.unshared sharing held same
    · rw [List.mem_singleton.mp added] at within
      exact outside membership related within theirs

/-- The entries come from the same workflows as before. -/
theorem unpublished_after (brings : Brings moment user entry project row first last)
    (found : entry ∈ first.entries) {present : Entry}
    (place : present ∈ last.entries) (userId : String) :
    present.origin ≠ Entry.originOf row.id userId := by
  rcases brings.tables with ⟨stamps, rfl⟩
  change present ∈ ite _ _ _ at place
  split at place
  · exact brings.unpublished present place userId
  · rcases List.mem_map.mp place with ⟨old, held, equal⟩
    split at equal
    · rw [← equal]
      exact brings.unpublished entry found userId
    · rw [← equal]
      exact brings.unpublished old held userId

end Brings

end Catalog

/-- A user can read a workflow, update it with any JSON data that fits, and publish it
as often as a description can be made, when no mishap is met. -/
structure Session.Serves (session : Session) (user : User) (row : Workflow) :
    Prop where
  reads : ∀ environment : Environment, ∃ detail after,
    WorkflowDetail.ofLoaded (.ofRow row) = .fits detail ∧
    (Workflows.get user row.id).outcome environment.calm session =
      (.ok detail, after)
  updates : ∀ (environment : Environment) (heap : Heap) (data : Value)
    (request : UpdateRequest), UpdateRequest.read heap data = .fits request →
    request.IsJson → ∃ detail after,
      (Workflows.update user row.id request).outcome environment.calm session =
        (.ok detail, after)
  publishes : ∀ (environment : Environment) (request : PublishRequest)
    (copy : GraphCopy) (description : String), request.workflowId = row.id →
    (Heap.empty.copyGraph (LiveGraph.ofGraph row.graph).toValue).outcome =
      .ok copy →
    Catalog.descriptionOf environment request row.name.toValue copy =
      .ok description → ∃ summary after,
      (Catalog.publish user request).outcome environment.calm session =
        (.ok summary, after)

/-- The importer of an entry can read, update and publish the new workflow. -/
theorem Catalog.Brings.serves {moment : Moment} {user : User} {entry : Entry}
    {project : Project} {row : Workflow} {first : Store} {session : Session}
    (brings : Brings moment user entry project row first session.saved)
    (owned : first.personalProject? user.id = some project)
    (held : entry ∈ first.entries)
    (sound : session.saved.Sound session.counters) : session.Serves user row where
  reads environment := by
    have found : session.saved.accessibleWorkflow? user [Scope.read] row.id =
        some row := brings.accessible owned (by decide)
    have member := Store.mem_of_accessibleWorkflow? found
    rcases WorkflowDetail.fits (sound.workflows row member).1.loaded with
      ⟨detail, fits⟩
    have shows := Workflows.get_shows found fits
    rcases shows.calmly environment with ⟨result, after, ended⟩
    cases shows.always _ _ _ ended
    exact ⟨detail, after, fits, ended⟩
  updates environment heap data request fits form := by
    have found : session.saved.accessibleWorkflow? user [Scope.update] row.id =
        some row := brings.accessible owned (by decide)
    exact (Workflows.update_calmly (UpdateRequest.declared_of_read fits) form
      (fun row found =>
        (sound.workflows row (Store.mem_of_accessibleWorkflow? found)).1)
      (Store.exists_accessibleWorkflow?.mp ⟨row, found⟩)).exists_ok
  publishes environment request copy description same copied described := by
    have found := brings.accessible owned (publishScopes_owner environment.strict)
    rw [← same] at found
    refine publish_calm_of_absent sound.keyed sound.hasDistinctKeys found ?_ copied
      described
    intro present place
    rw [same]
    exact brings.unpublished_after held place user.id

/-! ## All imports -/

namespace World

/-- In every world that a run leads to an import without mishaps is refused because
there is no such entry, because it is private and by someone else, or because the
user has no personal project, whichever comes first; otherwise it is made.  An import
that is made, whatever mishaps it met, adds a workflow with a copy of the snapshot to
the personal project, counts a download of an entry by someone else, and changes
nothing else.  In the state that it leaves the importer can read, update and publish
the workflow, and nobody can read it who is neither in the project nor an
administrator. -/
theorem import_brings (users : List User) (projects : List Project)
    (memberships : List Membership) (counters : Counters)
    (turns : List (Environment × Turn)) (user : User) (entryId : String) :
    let world := (start users projects memberships counters).run turns
    let importing (environment : Environment) :=
      (Catalog.importEntry user entryId).outcome environment world.session
    (∀ environment : Environment,
      (∀ cause, world.store.importRefusal? user entryId = some cause →
        (importing environment.calm).1 = .error (.because cause) ∧
          (importing environment.calm).2.saved = world.store) ∧
      (world.store.importRefusal? user entryId = none → ∃ summary after,
        importing environment.calm = (.ok summary, after))) ∧
    ∀ (environment : Environment) (summary : WorkflowSummary) (after : Session),
      importing environment = (.ok summary, after) →
      ∃ entry project row, world.store.entryWith? entryId = some entry ∧
        world.store.personalProject? user.id = some project ∧
        summary.id = row.id ∧
        Catalog.Brings environment.now user entry project row world.store
          after.saved ∧
        after.next.Serves user row ∧
        ∀ other : User, other.isGlobalAdmin = false →
          (∀ membership ∈ after.saved.memberships,
            membership.projectId = project.id → membership.userId ≠ other.id) →
          (∀ scopes, ¬after.saved.Permits other scopes row.id) ∧
          ∀ later : Environment,
            ((Workflows.get other row.id).outcome later.calm after.next).1 =
              .error (.because .workflowMissing) := by
  intro world importing
  have begun : (start users projects memberships counters).Sound :=
    sound_start users projects memberships counters
  have sound : world.Sound := begun.run turns
  have versioned : world.store.Versioned world.counters :=
    begun.versioned_run nofun turns
  have charted : world.store.Charted := begun.charted_run rfl rfl turns
  have traced : world.store.Traced world.counters := begun.traced_run rfl rfl turns
  have bounded : world.Bounded :=
    (bounded_start users projects memberships counters).run turns
  refine ⟨?_, ?_⟩
  · intro environment
    refine ⟨fun cause refusal => ?_, fun allowed =>
      Catalog.importEntry_allowed sound.store allowed⟩
    have refused : (importing environment.calm).1 = .error (.because cause) :=
      Catalog.importEntry_refused sound.store refusal
    exact ⟨refused, Catalog.saved_of_importEntry_error refused⟩
  · intro environment summary after ended
    rcases Catalog.importEntry_brings sound.store versioned charted traced
      (fun _ member => bounded.counts member) ended with
      ⟨entry, project, row, found, visible, owned, named, brings⟩
    have did : (Catalog.importEntry user entryId).Settles environment world.session
        _ := Catalog.importEntry_settles user entryId
    have soundAfter := (did.of_ok ended).sound sound.store
    refine ⟨entry, project, row, found, owned, named, brings,
      Catalog.Brings.serves brings owned (Store.entryWith?_eq_some found).1
        soundAfter, ?_⟩
    intro other member outside
    have hidden := brings.not_permits member outside
    refine ⟨hidden, fun later => ?_⟩
    have refused : (Workflows.get other row.id).outcome later.calm after.next = _ :=
      Workflows.get_refused (hidden [Scope.read])
    exact congrArg Prod.fst refused

/-- The reader imports the entry of the author, who cannot read the new workflow. -/
theorem reader_import_brings :
    ∃ (entry : Entry) (project : Project) (row : Workflow) (after : Session),
      Catalog.Brings Fair.weather.calm.now (Fair.member "reader") entry project row
        (Fair.start.run Fair.turns).store after.saved ∧
      after.next.Serves (Fair.member "reader") row ∧
      ∀ scopes, ¬after.saved.Permits (Fair.member "author") scopes row.id := by
  have allowed : ((Fair.start.run Fair.turns).store.importRefusal?
      (Fair.member "reader") Fair.entryId).isNone := by decide +kernel
  have owns : ((Fair.start.run Fair.turns).store.personalProject? "reader").map
      (·.id) = some "reader" := by decide +kernel
  have members : (Fair.start.run Fair.turns).store.memberships =
      Fair.memberships := by decide +kernel
  have brings := import_brings Fair.members Fair.projects Fair.memberships {}
    Fair.turns (Fair.member "reader") Fair.entryId
  rcases (brings.1 Fair.weather).2 (Option.isNone_iff_eq_none.mp allowed) with
    ⟨summary, after, ended⟩
  rcases brings.2 _ summary after ended with
    ⟨entry, project, row, -, owned, -, bringing, serves, hidden⟩
  refine ⟨entry, project, row, after, bringing, serves,
    (hidden (Fair.member "author") rfl ?_).1⟩
  rw [show (Fair.start.run Fair.turns).store.personalProject? "reader" =
    some project from owned] at owns
  have named : project.id = "reader" := Option.some.inj owns
  rw [bringing.memberships.trans members, named]
  decide

end World

end WorkflowExchange

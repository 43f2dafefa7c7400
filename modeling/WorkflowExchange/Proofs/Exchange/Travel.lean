import WorkflowExchange.Proofs.Exchange.Publish
import WorkflowExchange.Proofs.Intake.Graphs
import WorkflowExchange.Proofs.Store.Access

/-!
# Graphs on their way

A graph that was accepted is stored as it is when the workflow is created, taken as
it is when the workflow is published for the first time, and stored once more when
the entry is imported.  Wherever it is shown on the way it is the graph of the
request, with nothing cut off, dropped or put in place of something else:
`World.graph_travels_whole`.
-/

namespace WorkflowExchange

/-- The session in which the next call works. -/
def Session.next (session : Session) : Session :=
  .start session.saved session.counters

theorem Session.saved_next (session : Session) :
    session.next.saved = session.saved := rfl

/-- Work ends with results of a kind only, whatever mishaps it meets, and it does
end with one when it meets none. -/
structure Work.Shows {α : Type} (work : Work α) (before : Session)
    (holds : α → Prop) : Prop where
  always : ∀ environment : Environment, work.Returns environment before holds
  calmly : ∀ environment : Environment, ∃ result after,
    work.outcome environment.calm before = (.ok result, after)

theorem Work.Shows.mono {α : Type} {work : Work α} {before : Session}
    {holds other : α → Prop} (shows : work.Shows before holds)
    (weaker : ∀ result, holds result → other result) :
    work.Shows before other where
  always environment result after ended :=
    weaker result (shows.always environment result after ended)
  calmly := shows.calmly

/-! ## Access to what was added -/

namespace Store

variable {first last store : Store} {user other : User} {row new : Workflow}
  {scopes : List Scope} {id : String}

/-- The owner of a personal project is a member of it. -/
theorem exists_membership {project : Project} {userId : String}
    (owned : store.personalProject? userId = some project) :
    ∃ membership ∈ store.memberships, membership.projectId = project.id ∧
      membership.userId = userId ∧ membership.role = Role.personalOwner := by
  rcases List.exists_of_findSome?_eq_some owned with
    ⟨membership, member, found⟩
  split at found
  · rename_i owner
    rw [Bool.and_eq_true, decide_eq_true_iff, decide_eq_true_iff] at owner
    have named := List.find?_some found
    rw [Bool.and_eq_true, decide_eq_true_iff] at named
    exact ⟨membership, member, named.1.symm, owner.1, owner.2⟩
  · cases found

/-- What was added for a user is found. -/
theorem Adopts.workflow?_eq (adopts : first.Adopts user row last) :
    last.workflow? row.id = some row := by
  rcases adopts with ⟨project, stamps, -, different, rfl⟩
  have absent : first.workflows.find? (·.id = row.id) = none := by
    rw [List.find?_eq_none]
    intro present held same
    exact different present held (of_decide_eq_true same).symm
  rw [workflow?, List.find?_append, absent]
  simp

/-- A user has the rights of an owner on what was added for the user. -/
theorem Adopts.accessible (adopts : first.Adopts user row last)
    (owner : (Role.withScopes scopes).contains Role.personalOwner = true) :
    last.accessibleWorkflow? user scopes row.id = some row := by
  refine accessibleWorkflow?_eq_some.mpr ⟨.inr ?_, adopts.workflow?_eq⟩
  rcases adopts with ⟨project, stamps, owned, -, rfl⟩
  rcases exists_membership owned with ⟨membership, member, same, mine, role⟩
  rw [grantsTo, List.any_append, Bool.or_eq_true]
  right
  simp only [List.any_cons, List.any_nil, Bool.or_false, decide_true,
    Bool.true_and, List.any_eq_true]
  refine ⟨membership, member, ?_⟩
  rw [same, mine, role, decide_eq_true rfl, decide_eq_true rfl, owner]
  rfl

/-- What a user has access to stays so when something is added. -/
theorem Adopts.accessible_of (adopts : first.Adopts other new last)
    (found : first.accessibleWorkflow? user scopes id = some row) :
    last.accessibleWorkflow? user scopes id = some row := by
  rcases adopts with ⟨project, stamps, -, -, rfl⟩
  rw [accessibleWorkflow?_eq_some] at found ⊢
  rcases found with ⟨granted, there⟩
  constructor
  · rcases granted with admin | granted
    · exact .inl admin
    · right
      rw [grantsTo] at granted ⊢
      rw [List.any_append, granted, Bool.true_or]
  · rw [workflow?] at there ⊢
    rw [List.find?_append, there]
    rfl

end Store

/-! ## Showing a graph -/

/-- A workflow is shown with exactly the graph that a request carries, what was not
sent included. -/
structure WorkflowDetail.Carries (detail : WorkflowDetail)
    (request : CreateRequest) : Prop where
  nodes : detail.nodes = request.graph.nodes.getD []
  connections : detail.connections =
    request.graph.connections.getD (.plainDict [])
  settings : detail.settings = request.graph.settings.getD none
  staticData : detail.staticData = request.graph.staticData.getD none

/-- A copy of a graph is exactly the graph that a request carries. -/
structure GraphCopy.Carries (graph : GraphCopy) (request : CreateRequest) :
    Prop where
  nodes : graph.nodes = request.graph.nodes.getD []
  connections : graph.connections =
    request.graph.connections.getD (.plainDict [])
  settings : graph.settings = .ofOption (request.graph.settings.getD none)
  staticData : graph.staticData = .ofOption (request.graph.staticData.getD none)

theorem Json.shown?_of_ofOption {json : Json} {sent : Option Value}
    (keyed : ∀ part ∈ sent, part.HasTextKeys)
    (same : .ofOption sent = Value.ofJson json) : json.shown? = sent := by
  cases sent with
  | none =>
      obtain rfl : Json.null = json := Value.ofJson_injective same
      rfl
  | some part =>
      obtain rfl : part = .ofJson json := same
      rcases Json.isObject_of_hasTextKeys (keyed _ rfl) with ⟨members, rfl⟩
      rfl

namespace CreateRequest.Carries

variable {heap : Heap} {data : Value} {request : CreateRequest} {graph : Graph}

theorem toCopy (carries : request.Carries graph) (formed : graph.Formed) :
    graph.toCopy.Carries request where
  nodes := by
    rw [carries.nodes formed, ← Value.ofItems_eq_map]
    rfl
  connections := (congrArg LiveGraph.connections carries.same).symm
  settings := (congrArg LiveGraph.settings carries.same).symm
  staticData := (congrArg LiveGraph.staticData carries.same).symm

/-- A workflow with the graph of a request is shown with exactly that graph. -/
theorem shown (carries : request.Carries graph)
    (fits : read heap data = .fits request) {row : Workflow}
    (declared : row.Declared) (same : row.graph = graph) :
    ∃ detail, WorkflowDetail.ofLoaded (.ofRow row) = .fits detail ∧
      detail.Carries request := by
  have formed := carries.formed fits
  have sent := declared_of_read fits
  have part {given : Sent (Option Value)}
      (keyed : ∀ found ∈ given, ∀ part ∈ found, part.HasTextKeys) :
      ∀ part ∈ given.getD none, part.HasTextKeys := by
    cases given with
    | none => simp
    | some found => exact keyed found rfl
  have loaded := declared.loaded
  rcases WorkflowSummary.fits (.ofRow row) loaded.name loaded.active with
    ⟨summary, summarized⟩
  refine ⟨_, WorkflowDetail.ofLoaded_ofGraph (congrArg LiveGraph.ofGraph same)
    formed carries.distinct summarized, ?_⟩
  exact ⟨(carries.nodes formed).symm,
    (congrArg LiveGraph.connections carries.same).symm,
    Json.shown?_of_ofOption (part sent.settings)
      (congrArg LiveGraph.settings carries.same),
    Json.shown?_of_ofOption (part sent.staticData)
      (congrArg LiveGraph.staticData carries.same)⟩

end CreateRequest.Carries

theorem Workflows.get_shows {before : Session} {user : User} {workflowId : String}
    {row : Workflow} {detail : WorkflowDetail}
    (found : before.saved.accessibleWorkflow? user [Scope.read] workflowId =
      some row)
    (shown : WorkflowDetail.ofLoaded (.ofRow row) = .fits detail) :
    (get user workflowId).Shows before (· = detail) where
  always environment := by
    have prepares : (get user workflowId).Prepares environment before _ :=
      get_prepares user workflowId
    refine Work.returns_of_prepares prepares ?_
    rintro result - ⟨other, foundAgain, shownAgain⟩
    rw [found] at foundAgain
    cases foundAgain
    rw [shown] at shownAgain
    exact (Except.ok.inj shownAgain).symm
  calmly environment := by
    have calmly : (get user workflowId).Calmly environment.calm before
        fun _ _ => True := by
      apply Work.calmly_unit
      apply Work.calmly_bind (Work.calmly_lookup fun draft =>
        draft.accessibleWorkflow? user [Scope.read] workflowId)
      rintro there first ⟨equal, -⟩
      rw [show before.discarded.draft.accessibleWorkflow? user [Scope.read]
        workflowId = some row from found] at equal
      subst there
      exact (Work.calmly_ofExcept (congrArg Fit.toExcept shown)).mono
        fun _ _ _ => trivial
    exact calmly.exists_ok

theorem Catalog.get_shows {before : Session} {user : User} {entryId : String}
    {entry : Entry} {graph : GraphCopy} {summary : EntrySummary}
    (found : before.saved.entryWith? entryId = some entry)
    (visible : isOpenTo entry user = true)
    (copied : (Heap.empty.copyGraph (.ofJson entry.snapshot)).outcome = .ok graph)
    (shown : (EntrySummary.ofEntry entry).toExcept = .ok summary) :
    (get user entryId).Shows before (· = ⟨summary, graph⟩) where
  always environment := by
    have prepares : (get user entryId).Prepares environment before _ :=
      get_prepares user entryId
    refine Work.returns_of_prepares prepares ?_
    rintro ⟨other, copy⟩ - ⟨there, foundAgain, -, copiedAgain, shownAgain⟩
    rw [found] at foundAgain
    cases foundAgain
    rw [copied] at copiedAgain
    rw [shown] at shownAgain
    rw [Except.ok.inj copiedAgain, Except.ok.inj shownAgain]
  calmly environment := by
    have calmly : (get user entryId).Calmly environment.calm before
        fun _ _ => True := by
      apply Work.calmly_transaction
      apply Work.calmly_bind (Work.calmly_lookup fun draft =>
        draft.entryWith? entryId)
      rintro there first ⟨equal, -⟩
      rw [show before.discarded.draft.entryWith? entryId = some entry
        from found] at equal
      subst there
      simp only [visible, ↓reduceIte]
      apply Work.calmly_bind (Work.calmly_ofTrial _ copied)
      rintro _ second -
      apply Work.calmly_bind (Work.calmly_ofExcept shown)
      rintro _ third -
      exact Work.calmly_pure trivial
    exact calmly.exists_ok

/-! ## The way of a graph -/

theorem Session.Did.sound {moment : Moment} {deed : Deed} {before after : Session}
    (did : Session.Did moment deed before after)
    (sound : before.saved.Sound before.counters) :
    after.saved.Sound after.counters :=
  did.does.sound did.counters sound

namespace Store

/-- An entry that is imported is kept, but for its downloads. -/
theorem Does.entryWith?_imported {moment : Moment} {before after : Counters}
    {user : User} {entryId : String} {entry : Entry} {first last : Store}
    (does : Store.Does moment before after (.importEntry user entryId) first last)
    (sound : last.Sound after)
    (found : first.entryWith? entryId = some entry) :
    last.entryWith? entryId = some entry ∨
      last.entryWith? entryId = some (entry.downloaded 1 moment) := by
  by_cases own : entry.authorId = .text user.id
  · left
    cases does with
    | importOwn _ _ deposited =>
        rw [entryWith?, deposited.entries_eq]
        exact found
    | importOther foundAgain others =>
        rw [found] at foundAgain
        cases foundAgain
        exact absurd own others
  · exact .inr (does.entryWith?_eq sound found own)

end Store

/-- A user has the rights of an owner on a workflow with a graph. -/
def Store.Keeps (store : Store) (user : User) (workflowId : String)
    (graph : Graph) : Prop :=
  ∃ row, (∀ scopes, (Role.withScopes scopes).contains Role.personalOwner = true →
    store.accessibleWorkflow? user scopes workflowId = some row) ∧
      row.graph = graph

/-- An entry has a graph as its snapshot, and its downloads can be shown. -/
structure Store.Lists (store : Store) (entryId : String) (graph : Graph)
    (entry : Entry) : Prop where
  found : store.entryWith? entryId = some entry
  snapshot : entry.snapshot = graph.toJson
  downloads : entry.downloads ≠ .overflowed

section Steps

variable {heap : Heap} {data : Value} {request : CreateRequest} {graph : Graph}
  {environment : Environment} {before after : Session} {user : User}
  {workflowId entryId : String}

/-- Copying changes nothing of a graph that was accepted. -/
theorem CreateRequest.Carries.whole (carries : request.Carries graph)
    (settled : heap.Settled) (fits : CreateRequest.read heap data = .fits request) :
    graph.Whole :=
  ⟨carries.formed fits, carries.distinct, carries.cut settled fits⟩

theorem Store.Keeps.shows (carries : request.Carries graph)
    (fits : CreateRequest.read heap data = .fits request)
    (sound : before.saved.Sound before.counters)
    (keeps : before.saved.Keeps user workflowId graph) :
    (Workflows.get user workflowId).Shows before (·.Carries request) := by
  rcases keeps with ⟨row, owned, same⟩
  have found := owned [Scope.read] (by decide)
  have member := Store.mem_of_accessibleWorkflow? found
  rcases carries.shown fits (sound.workflows row member).1 same with
    ⟨detail, shown, whole⟩
  apply (Workflows.get_shows found shown).mono
  rintro _ rfl
  exact whole

/-- An entry with a graph that copying does not change is shown with this graph. -/
theorem Store.Lists.gets (keyed : before.saved.Keyed before.counters)
    (whole : graph.Whole) {entry : Entry}
    (lists : before.saved.Lists entryId graph entry)
    (visible : Catalog.isOpenTo entry user = true) :
    (Catalog.get user entryId).Shows before (·.graph = graph.toCopy) := by
  have member := (Store.entryWith?_eq_some lists.found).1
  rcases EntrySummary.ofEntry_sound (keyed.entries entry member) with
    ⟨overflowed, -⟩ | ⟨-, summary, shown⟩
  · exact absurd overflowed lists.downloads
  · have copied := Heap.copyGraph_of_whole whole .empty
    rw [← lists.snapshot] at copied
    apply (Catalog.get_shows lists.found visible copied
      (congrArg Fit.toExcept shown)).mono
    rintro _ rfl
    rfl

theorem Store.Lists.shows (carries : request.Carries graph)
    (settled : heap.Settled) (fits : CreateRequest.read heap data = .fits request)
    (sound : before.saved.Sound before.counters) {entry : Entry}
    (lists : before.saved.Lists entryId graph entry)
    (visible : Catalog.isOpenTo entry user = true) :
    (Catalog.get user entryId).Shows before (·.graph.Carries request) := by
  refine (lists.gets sound.keyed (carries.whole settled fits) visible).mono ?_
  intro detail same
  rw [same]
  exact carries.toCopy (carries.formed fits)

/-- Without mishaps a user with a personal project can create the workflow of a
request. -/
theorem Workflows.create_calmly_of_keyed (carries : request.Carries graph)
    (fits : CreateRequest.read heap data = .fits request)
    (keyed : before.saved.Keyed before.counters) {project : Project}
    (owned : before.saved.personalProject? user.id = some project) :
    (create user request).Calmly environment before fun _ _ => True := by
  have ready : request.draft.graph.prepared = .ready graph := by
    rw [carries.same, (carries.formed fits).prepared carries.distinct]
  have declared :=
    CreateRequest.declared_draft (CreateRequest.declared_of_read fits)
  apply Work.calmly_transaction
  apply Work.calmly_deposit keyed owned (WorkflowDraft.exists_prepared ready
    request.name (request.active.getD false))
  rintro workflow first made -
  apply Work.calmly_bind Work.calmly_commit
  rintro _ second -
  apply Work.calmly_bind (Work.calmly_log _ _)
  rintro _ third -
  have live : workflow.Declared := by
    rw [made]
    exact ⟨⟨_, rfl⟩, ⟨_, rfl⟩, declared⟩
  rcases WorkflowDetail.fits live with ⟨detail, shown⟩
  exact (Work.calmly_ofExcept (congrArg Fit.toExcept shown)).mono
    fun _ _ _ => trivial

theorem Workflows.create_calmly (carries : request.Carries graph)
    (fits : CreateRequest.read heap data = .fits request)
    (sound : before.saved.Sound before.counters) {project : Project}
    (owned : before.saved.personalProject? user.id = some project) :
    (create user request).Calmly environment before fun _ _ => True :=
  create_calmly_of_keyed carries fits sound.keyed owned

/-- Creating a workflow stores the graph of the request. -/
theorem Workflows.create_keeps (carries : request.Carries graph)
    (fits : CreateRequest.read heap data = .fits request)
    (sound : before.saved.Sound before.counters) {detail : WorkflowDetail}
    (ended : (create user request).outcome environment before =
      (.ok detail, after)) :
    after.next.saved.Sound after.next.counters ∧
      after.next.saved.Keeps user detail.summary.id graph := by
  have settles : (create user request).Settles environment before _ :=
    create_creates user (CreateRequest.declared_of_read fits)
  rcases settles.of_ok ended with ⟨did, row, adopts, named, ready, -⟩
  refine ⟨did.sound sound, row, ?_, ?_⟩
  · intro scopes owner
    rw [named]
    exact adopts.accessible owner
  · rw [carries.same, (carries.formed fits).prepared carries.distinct] at ready
    cases ready
    rfl

/-- The owner of a workflow may publish it. -/
theorem Catalog.publishScopes_owner (strict : Bool) :
    (Role.withScopes (publishScopes strict)).contains Role.personalOwner = true := by
  cases strict <;> decide

/-- However publishing ends, it saves nothing or has published. -/
theorem Catalog.publish_unsaved_or_did {publication : PublishRequest}
    {result : Except Failure EntrySummary}
    (ended : (publish user publication).outcome environment before =
      (result, after)) :
    before.Unsaved after ∨
      Session.Did environment.now (.publish user publication) before after := by
  have publishes : Publishes environment user publication _ before :=
    publish_publishes user publication
  cases publishes with
  | fails failed unsaved =>
      cases congrArg Prod.snd (failed.symm.trans ended)
      exact .inl unsaved
  | shows shown did =>
      cases congrArg Prod.snd (shown.symm.trans ended)
      exact .inr did

theorem Catalog.keyed_publish (keyed : before.saved.Keyed before.counters)
    {publication : PublishRequest} {result : Except Failure EntrySummary}
    (ended : (publish user publication).outcome environment before =
      (result, after)) : after.saved.Keyed after.counters := by
  rcases publish_unsaved_or_did ended with unsaved | did
  · rw [unsaved.saved]
    exact keyed.widen unsaved.counters
  · exact did.does.keyed did.counters keyed

theorem Catalog.sound_publish (sound : before.saved.Sound before.counters)
    {publication : PublishRequest} {result : Except Failure EntrySummary}
    (ended : (publish user publication).outcome environment before =
      (result, after)) : after.saved.Sound after.counters := by
  rcases publish_unsaved_or_did ended with unsaved | did
  · rw [unsaved.saved]
    exact sound.widen unsaved.counters
  · exact did.sound sound

/-- Where a user did not publish a workflow yet an entry is added. -/
theorem Store.Upserts.opened_of_new {moment : Moment} {fields : EntryFields}
    {first last : Store} {entry : Entry}
    (upserts : Store.Upserts moment user workflowId fields first last entry)
    (new : ∀ present ∈ first.entries,
      present.origin ≠ Entry.originOf workflowId user.id) :
    entry.Opened user workflowId fields moment ∧
      last = { first with entries := first.entries ++ [entry] } := by
  cases upserts with
  | renews held origin =>
      refine absurd origin (new _ ?_)
      rw [held]
      exact List.mem_append_right _ List.mem_cons_self
  | adds absent opened saved => exact ⟨opened, saved⟩

/-- Without mishaps a workflow can be published for the first time by who may
publish it. -/
theorem Catalog.publish_calm_of_absent (keyed : before.saved.Keyed before.counters)
    (distinct : before.saved.HasDistinctKeys) {publication : PublishRequest}
    {row : Workflow} {copy : GraphCopy} {description : String}
    (found : before.saved.accessibleWorkflow? user
      (publishScopes environment.strict) publication.workflowId = some row)
    (new : ∀ present ∈ before.saved.entries,
      present.origin ≠ Entry.originOf publication.workflowId user.id)
    (copied : (Heap.empty.copyGraph (LiveGraph.ofGraph row.graph).toValue).outcome =
      .ok copy)
    (described : descriptionOf environment publication row.name.toValue copy =
      .ok description) :
    ∃ summary after, (publish user publication).outcome environment.calm before =
      (.ok summary, after) := by
  rcases publish_calm keyed distinct found copied described with
    ⟨entry, after, ended, upserts⟩
  rcases upserts.opened_of_new new with ⟨opened, saved⟩
  have member : entry ∈ after.saved.entries := by
    rw [saved]
    exact List.mem_append_right _ (List.mem_singleton.mpr rfl)
  rcases EntrySummary.ofEntry_sound
      ((keyed_publish keyed ended).entries entry member) with
    ⟨overflowed, -⟩ | ⟨-, summary, shown⟩
  · rw [opened.downloads] at overflowed
    cases overflowed
  · refine ⟨summary, after, ?_⟩
    rw [ended, shown]
    rfl

/-- Without mishaps the owner of a workflow can publish it for the first time. -/
theorem Catalog.publish_calm_of_new (carries : request.Carries graph)
    (settled : heap.Settled) (fits : CreateRequest.read heap data = .fits request)
    (sound : before.saved.Sound before.counters) {publication : PublishRequest}
    (keeps : before.saved.Keeps user publication.workflowId graph)
    (new : ∀ present ∈ before.saved.entries,
      present.origin ≠ Entry.originOf publication.workflowId user.id)
    {row : Workflow} {description : String}
    (there : before.saved.workflow? publication.workflowId = some row)
    (described : descriptionOf environment publication row.name.toValue
      graph.toCopy = .ok description) :
    ∃ summary after, (publish user publication).outcome environment.calm before =
      (.ok summary, after) := by
  rcases keeps with ⟨kept, owned, same⟩
  have found := owned _ (Catalog.publishScopes_owner environment.strict)
  obtain rfl := Store.eq_of_accessibleWorkflow? found there
  have copied : (Heap.empty.copyGraph (LiveGraph.ofGraph kept.graph).toValue).outcome =
      .ok graph.toCopy := by
    rw [same]
    exact Heap.copyGraph_of_whole (carries.whole settled fits) .empty
  exact publish_calm_of_absent sound.keyed sound.hasDistinctKeys found new copied
    described

/-- The first publication of a workflow with a graph that copying does not change adds
an entry with this graph. -/
theorem Catalog.publish_adds (keyed : before.saved.Keyed before.counters)
    (distinct : before.saved.HasDistinctKeys) {publication : PublishRequest}
    {summary : EntrySummary} {row : Workflow}
    (there : before.saved.workflow? publication.workflowId = some row)
    (whole : row.graph.Whole)
    (new : ∀ present ∈ before.saved.entries,
      present.origin ≠ Entry.originOf publication.workflowId user.id)
    (ended : (publish user publication).outcome environment before =
      (.ok summary, after)) :
    ∃ entry, after.saved.Lists summary.id row.graph entry ∧
      entry.downloads = .int 0 ∧ summary.Shows entry ∧
      entry.createdByUserId = .text user.id ∧
      after.saved = { before.saved with entries := before.saved.entries ++ [entry] } := by
  have keyedAfter := keyed_publish keyed ended
  rcases publish_upserts keyed distinct ended with
    ⟨kept, copy, description, entry, found, copied, -, upserts, shows⟩
  obtain rfl := Store.eq_of_accessibleWorkflow? found there
  have same : (Heap.empty.copyGraph (LiveGraph.ofGraph kept.graph).toValue).outcome =
      .ok kept.graph.toCopy := Heap.copyGraph_of_whole whole .empty
  cases same.symm.trans copied
  rcases upserts.opened_of_new new with ⟨opened, saved⟩
  have snapshot : entry.snapshot = kept.graph.toJson :=
    (Value.ofJson_injective (whole.formed.toValue.symm.trans opened.snapshot)).symm
  have listed : after.saved.entryWith? summary.id = some entry := by
    refine Store.entryWith?_of_mem keyedAfter.ids ?_ shows.id
    rw [saved]
    exact List.mem_append_right _ (List.mem_singleton.mpr rfl)
  refine ⟨entry, ⟨listed, snapshot, ?_⟩, opened.downloads, shows,
    opened.createdByUserId, saved⟩
  rw [opened.downloads]
  exact nofun

/-- The first publication of a workflow keeps it and lists an entry with the same
graph. -/
theorem Catalog.publish_lists (carries : request.Carries graph)
    (settled : heap.Settled) (fits : CreateRequest.read heap data = .fits request)
    (sound : before.saved.Sound before.counters) {publication : PublishRequest}
    {summary : EntrySummary}
    (keeps : before.saved.Keeps user publication.workflowId graph)
    (new : ∀ present ∈ before.saved.entries,
      present.origin ≠ Entry.originOf publication.workflowId user.id)
    (ended : (publish user publication).outcome environment before =
      (.ok summary, after)) :
    after.next.saved.Sound after.next.counters ∧
      after.next.saved.Keeps user publication.workflowId graph ∧
      ∃ entry, after.next.saved.Lists summary.id graph entry ∧
        entry.downloads = .int 0 ∧ summary.Shows entry := by
  rcases keeps with ⟨row, readable, rfl⟩
  have owned := readable _ (Catalog.publishScopes_owner environment.strict)
  rcases publish_adds sound.keyed sound.hasDistinctKeys
      (Store.accessibleWorkflow?_eq_some.mp owned).2 (carries.whole settled fits) new
      ended with ⟨entry, lists, none, shows, -, saved⟩
  have soundAfter := sound_publish sound ended
  refine ⟨soundAfter, ⟨row, ?_, rfl⟩, entry, lists, none, shows⟩
  rw [Session.saved_next, saved]
  exact readable

/-- An import of an entry with a graph that copying does not change stores this
graph. -/
theorem Catalog.importEntry_stores {summary : WorkflowSummary} {entry : Entry}
    (found : before.saved.entryWith? entryId = some entry)
    (snapshot : entry.snapshot = graph.toJson) (whole : graph.Whole)
    (ended : (importEntry user entryId).outcome environment before =
      (.ok summary, after)) :
    ∃ row middle entries, row.id = summary.id ∧
      row.id = Identifier.Kind.workflow.numbered (before.counters.workflows + 1) ∧
      row.name = .text (entry.name.shown ++ importedMark) ∧ row.graph = graph ∧
      before.saved.Adopts user row middle ∧ after.saved = { middle with entries } := by
  have settles : (importEntry user entryId).Settles environment before _ :=
    importEntry_imports user entryId
  rcases settles.of_ok ended with ⟨-, there, copy, row, middle, foundAgain, -, copied,
    stored, named, adopts, counts⟩
  cases found.symm.trans foundAgain
  rw [snapshot, Heap.copyGraph_of_whole whole] at copied
  cases copied
  have ready := stored.graph
  rw [importedDraft, whole.formed.live, whole.formed.prepared whole.distinct] at ready
  have titled := stored.name
  cases ready
  have saved : ∃ entries, after.saved = { middle with entries } := by
    rcases counts with ⟨-, saved⟩ | ⟨-, saved⟩
    · exact ⟨middle.entries, saved⟩
    · exact ⟨_, saved⟩
  rcases saved with ⟨entries, saved⟩
  exact ⟨row, middle, entries, named.symm, stored.id, (Prepared.ready.inj titled).symm,
    rfl, adopts, saved⟩

/-- Importing an entry keeps it and every workflow, and stores a workflow with the
same graph. -/
theorem Catalog.importEntry_keeps (carries : request.Carries graph)
    (settled : heap.Settled) (fits : CreateRequest.read heap data = .fits request)
    (sound : before.saved.Sound before.counters) {summary : WorkflowSummary}
    {entry : Entry} (lists : before.saved.Lists entryId graph entry)
    (none : entry.downloads = .int 0)
    (ended : (importEntry user entryId).outcome environment before =
      (.ok summary, after)) :
    after.next.saved.Sound after.next.counters ∧
      after.next.saved.Keeps user summary.id graph ∧
      (∀ other workflowId, before.saved.Keeps other workflowId graph →
        after.next.saved.Keeps other workflowId graph) ∧
      ∃ counted, after.next.saved.Lists entryId graph counted ∧
        isOpenTo counted user = true := by
  have settles : (importEntry user entryId).Settles environment before _ :=
    importEntry_imports user entryId
  rcases settles.of_ok ended with ⟨did, there, -, -, -, found, visible, -⟩
  rw [lists.found] at found
  cases found
  have soundAfter := did.sound sound
  rcases importEntry_stores lists.found lists.snapshot (carries.whole settled fits)
    ended with ⟨row, middle, entries, named, -, -, rfl, adopts, saved⟩
  refine ⟨soundAfter, ⟨row, ?_, rfl⟩, ?_, ?_⟩
  · intro scopes owner
    rw [Session.saved_next, saved, ← named]
    exact adopts.accessible owner
  · rintro other workflowId ⟨kept, readable, same⟩
    refine ⟨kept, fun scopes owner => ?_, same⟩
    rw [Session.saved_next, saved]
    exact adopts.accessible_of (readable scopes owner)
  -- An entry is shown only while its downloads are an integer of 64 bits, and one
  -- import counts at most one.
  · have once : (CountCell.int 0).plus 1 ≠ .overflowed := by decide +kernel
    rcases did.does.entryWith?_imported soundAfter lists.found with kept | counted
    · exact ⟨entry, ⟨kept, lists.snapshot, lists.downloads⟩, visible⟩
    · refine ⟨_, ⟨counted, lists.snapshot, ?_⟩, visible⟩
      rw [Entry.downloaded, none]
      exact once

end Steps

/-! ## A graph that travels -/

namespace Fair

/-- A workflow with two nodes and with settings that are empty. -/
def drawing : Graph where
  nodes := .array [.object [("id", .text "1")], .object []]
  connections := .object [("1", .array [])]
  settings := .object []
  staticData := .null

/-- The data of a request to create it.  No static data is sent. -/
def creation : Value :=
  .ofJson (.object
    [("name", .text "Name"), ("nodes", drawing.nodes),
      ("connections", drawing.connections), ("settings", drawing.settings)])

/-- The request that the data is read as. -/
def drawn : CreateRequest where
  name := "Name"
  graph :=
    { nodes := some (drawing.nodeList.map .ofJson)
      connections := some (.ofJson drawing.connections)
      settings := some (some (.ofJson drawing.settings))
      staticData := none }
  active := none

theorem reads_drawn : CreateRequest.read .empty creation = .fits drawn := by
  have nodes : Rule.shallowNodes .empty (.ofJson drawing.nodes) =
      .fits (drawing.nodeList.map .ofJson) := Rule.shallowNodes_ofJson rfl
  have connections : Rule.shallowDictionary .empty (.ofJson drawing.connections) =
      .fits (.ofJson drawing.connections) := Rule.shallowDictionary_ofJson rfl
  have settings : Rule.shallowDictionary .empty (.ofJson drawing.settings) =
      .fits (.ofJson drawing.settings) := Rule.shallowDictionary_ofJson rfl
  have fields : CreateRequest.read .empty creation =
      CreateRequest.mk <$> .fits "Name" <*>
        (GraphRequest.mk
          <$> (some <$> (Rule.shallowNodes .empty
            (.ofJson drawing.nodes)).within (.field "nodes"))
          <*> (some <$> (Rule.shallowDictionary .empty
            (.ofJson drawing.connections)).within (.field "connections"))
          <*> (some <$> (some <$> Rule.shallowDictionary .empty
            (.ofJson drawing.settings)).within (.field "settings"))
          <*> .fits none) <*> .fits none := rfl
  rw [fields, nodes, connections, settings]
  rfl

theorem carries_drawn : drawn.Carries drawing := by
  constructor
  · rfl
  · constructor <;> simp [drawing, Json.Distinct, Json.DistinctItems,
      Json.DistinctMembers]

/-- A request of the author to publish the workflow. -/
def first : PublishRequest where
  name := "First"
  description := none
  category := "Category"
  isPublic := none
  useAutoDescription := none
  workflowId := Identifier.Kind.workflow.numbered 1

end Fair

namespace World

/-- Take any world that a run leads to, and a request to create a workflow that was
accepted and whose graph is JSON.  Once the workflow was created, it is shown to
its author with exactly the graph of the request; once it was published for the
first time, the entry is shown with exactly this graph to everyone whom it is open
to; and once the entry was imported, all three are shown so, the workflow that was
made of it included.  Without mishaps each of the three steps can be taken. -/
theorem graph_travels_whole (users : List User) (projects : List Project)
    (memberships : List Membership) (counters : Counters)
    (turns : List (Environment × Turn)) (author importer : User) {heap : Heap}
    {data : Value} {request : CreateRequest} {graph : Graph}
    (settled : heap.Settled) (fits : CreateRequest.read heap data = .fits request)
    (carries : request.Carries graph) :
    let world := (start users projects memberships counters).run turns
    (∀ (environment : Environment) (project : Project),
      world.store.personalProject? author.id = some project →
      ∃ detail first, (Workflows.create author request).outcome environment.calm
        world.session = (.ok detail, first)) ∧
    ∀ (creating : Environment) (detail : WorkflowDetail) (first : Session),
      (Workflows.create author request).outcome creating world.session =
        (.ok detail, first) →
      (Workflows.get author detail.summary.id).Shows first.next
        (·.Carries request) ∧
      ∀ publication : PublishRequest,
        publication.workflowId = detail.summary.id →
        (∀ present ∈ first.saved.entries,
          present.origin ≠ Entry.originOf detail.summary.id author.id) →
        (∀ (environment : Environment) (row : Workflow) (description : String),
          first.saved.workflow? detail.summary.id = some row →
          Catalog.descriptionOf environment publication row.name.toValue
            graph.toCopy = .ok description →
          ∃ entry second, (Catalog.publish author publication).outcome
            environment.calm first.next = (.ok entry, second)) ∧
        ∀ (publishing : Environment) (entry : EntrySummary) (second : Session),
          (Catalog.publish author publication).outcome publishing first.next =
            (.ok entry, second) →
          (Workflows.get author detail.summary.id).Shows second.next
            (·.Carries request) ∧
          (entry.isPublic = true ∨ entry.authorId = importer.id →
            (Catalog.get importer entry.id).Shows second.next
              (·.graph.Carries request) ∧
            ∀ (environment : Environment) (project : Project),
              second.saved.personalProject? importer.id = some project →
              ∃ imported third, (Catalog.importEntry importer entry.id).outcome
                environment.calm second.next = (.ok imported, third)) ∧
          ∀ (importing : Environment) (imported : WorkflowSummary)
            (third : Session),
            (Catalog.importEntry importer entry.id).outcome importing
              second.next = (.ok imported, third) →
            (Workflows.get author detail.summary.id).Shows third.next
              (·.Carries request) ∧
            (Catalog.get importer entry.id).Shows third.next
              (·.graph.Carries request) ∧
            (Workflows.get importer imported.id).Shows third.next
              (·.Carries request) := by
  intro world
  have sound := ((sound_start users projects memberships counters).run turns).store
  refine ⟨fun environment project owned =>
    (Workflows.create_calmly carries fits sound owned).exists_ok, ?_⟩
  intro creating detail first created
  rcases Workflows.create_keeps carries fits sound created with
    ⟨soundFirst, keepsFirst⟩
  refine ⟨keepsFirst.shows carries fits soundFirst, ?_⟩
  intro publication same new
  rw [← same] at keepsFirst new ⊢
  refine ⟨fun environment row description there described =>
    Catalog.publish_calm_of_new carries settled fits soundFirst keepsFirst new
      there described, ?_⟩
  intro publishing entry second published
  rcases Catalog.publish_lists carries settled fits soundFirst keepsFirst new
    published with ⟨soundSecond, keepsSecond, row, lists, none, shows⟩
  refine ⟨keepsSecond.shows carries fits soundSecond, ?_, ?_⟩
  · intro visible
    have opened : Catalog.isOpenTo row importer = true := by
      rw [Catalog.isOpenTo, shows.isPublic, shows.authorId, Bool.or_eq_true]
      rcases visible with isPublic | own
      · exact .inl isPublic
      · exact .inr (decide_eq_true (congrArg TextCell.text own))
    exact ⟨lists.shows carries settled fits soundSecond opened,
      fun environment project owned =>
        (Catalog.importEntry_calmly soundSecond.keyed
        lists.found opened owned).exists_ok⟩
  · intro importing imported third importedOk
    rcases Catalog.importEntry_keeps carries settled fits soundSecond lists none
      importedOk with ⟨soundThird, keepsNew, keepsOther, counted, listed, visible⟩
    exact ⟨(keepsOther author _ keepsSecond).shows carries fits soundThird,
      listed.shows carries settled fits soundThird visible,
      keepsNew.shows carries fits soundThird⟩

/-- The author makes and publishes a workflow, and the reader imports it. -/
theorem fair_graph_travels :
    ∃ workflowId entryId importedId after,
      (Workflows.get (Fair.member "author") workflowId).Shows after
        (·.Carries Fair.drawn) ∧
      (Catalog.get (Fair.member "reader") entryId).Shows after
        (·.graph.Carries Fair.drawn) ∧
      (Workflows.get (Fair.member "reader") importedId).Shows after
        (·.Carries Fair.drawn) := by
  have settled : Heap.empty.Settled := fun _ => rfl
  let creating := (Workflows.create (Fair.member "author") Fair.drawn).outcome
    Fair.weather (Fair.start.run []).session
  let publishing := (Catalog.publish (Fair.member "author") Fair.first).outcome
    Fair.weather creating.2.next
  let importing := (Catalog.importEntry (Fair.member "reader") Fair.entryId).outcome
    Fair.weather publishing.2.next
  have creates : creating.1.toOption.map (·.summary.id) =
      some Fair.first.workflowId := by decide +kernel
  have publishes : publishing.1.toOption.map (·.id) = some Fair.entryId := by
    decide +kernel
  have imports : importing.1.toOption.isSome := by decide +kernel
  have none : creating.2.saved.entries.isEmpty := by decide +kernel
  rcases created : creating with ⟨failure | detail, first⟩
  · rw [created] at creates
    cases creates
  rcases published : publishing with ⟨failure | entry, second⟩
  · rw [published] at publishes
    cases publishes
  rcases imported : importing with ⟨failure | made, third⟩
  · rw [imported] at imports
    cases imports
  have same : creating.2 = first := congrArg Prod.snd created
  have next : publishing.2 = second := congrArg Prod.snd published
  rw [created] at creates
  rw [published] at publishes
  rw [same, List.isEmpty_iff] at none
  simp only [publishing, same] at published
  have named : entry.id = Fair.entryId := Option.some.inj publishes
  simp only [importing, next, ← named] at imported
  have travels := graph_travels_whole Fair.members Fair.projects Fair.memberships {}
    [] (Fair.member "author") (Fair.member "reader") settled Fair.reads_drawn
    Fair.carries_drawn
  rcases (travels.2 Fair.weather detail first created).2 Fair.first
    (Option.some.inj creates).symm (by simp [none]) with ⟨-, travels⟩
  rcases travels Fair.weather entry second published with ⟨-, -, last⟩
  exact ⟨_, _, _, _, last Fair.weather made third imported⟩

end World

end WorkflowExchange

import Mathlib.Data.List.Induction
import WorkflowExchange.Proofs.Exchange.Downloads
import WorkflowExchange.Proofs.Exchange.Upsert

/-!
# The history of the catalog

A call to publish takes a name and a graph from a workflow and later writes an
entry; other turns may come between.  The calls that committed, one after the other,
are the history of an entry: its content is that of the last call, its visibility
the last one that was sent, and the name of its author that of the first call.
Nothing else that happens changes any of these: `World.run_follows_history`.
-/

namespace WorkflowExchange

/-! ## Calls -/

/-- A call to publish that was committed: what it took from a workflow, and the
description that it gave. -/
structure PublishCall where
  publication : Publication
  description : String

namespace PublishCall

/-- The origin of the entry that a call writes. -/
def origin (call : PublishCall) : Option TextCell × TextCell :=
  Entry.originOf call.publication.request.workflowId call.publication.user.id

/-- The visibility that a call sent, if it sent one. -/
def sent? (call : PublishCall) : Option Bool :=
  call.publication.request.isPublic.getD none

/-- What a call gives the entry. -/
def fields (call : PublishCall) : EntryFields :=
  call.publication.fields call.description

/-- The visibility of an entry after some calls: the last one that was sent. -/
def visibility (calls : List PublishCall) : Bool :=
  (calls.filterMap sent?).getLast?.getD true

theorem visibility_concat (calls : List PublishCall) (call : PublishCall) :
    visibility (calls ++ [call]) = call.sent?.getD (visibility calls) := by
  rw [visibility, visibility, List.filterMap_append]
  cases sent : call.sent? with
  | none => simp [sent]
  | some visible => simp [sent]

end PublishCall

namespace World

/-- The publication that a turn is to write, in the second transaction. -/
def finished? (world : World) (environment : Environment) (turn : Turn) :
    Option Publication :=
  match turn with
  | .finish position => world.waiting[position]?
  | .act (.publish _ _ _) => world.taken? environment turn
  | _ => none

/-- The call to publish that a turn commits. -/
def call? (world : World) (environment : Environment) (turn : Turn) :
    Option PublishCall :=
  if world.commits environment turn then do
    let publication ← world.finished? environment turn
    let description ← (Catalog.descriptionOf environment publication.request
      publication.name publication.graph).toOption
    pure ⟨publication, description⟩
  else none

/-- The calls that some turns commit for an entry of an origin, in order. -/
def history (world : World) (origin : Option TextCell × TextCell) :
    List (Environment × Turn) → List PublishCall
  | [] => []
  | (environment, turn) :: rest =>
    (world.call? (world.within environment) turn).toList.filter (·.origin = origin) ++
      (world.step environment turn).history origin rest

theorem history_append (world : World) (origin : Option TextCell × TextCell)
    (first second : List (Environment × Turn)) :
    world.history origin (first ++ second) =
      world.history origin first ++ (world.run first).history origin second := by
  induction first generalizing world with
  | nil => rfl
  | cons turn rest induction =>
      rw [List.cons_append, history, history, induction, List.append_assoc]
      rfl

theorem history_singleton (world : World) (origin : Option TextCell × TextCell)
    (environment : Environment) (turn : Turn) :
    world.history origin [(environment, turn)] =
      (world.call? (world.within environment) turn).toList.filter
        (·.origin = origin) :=
  List.append_nil _

/-- One of some turns took a publication: the name and the graph of a workflow as
they were saved then. -/
def Took (first : World) (turns : List (Environment × Turn))
    (publication : Publication) : Prop :=
  ∃ before environment turn after,
    turns = before ++ (environment, turn) :: after ∧
    (first.run before).taken? ((first.run before).within environment) turn =
      some publication ∧
    Catalog.IsSnapshot (first.run before).store publication.user
      (Catalog.publishScopes environment.strict) publication.request.workflowId
      publication.name publication.graph

theorem Took.append {first : World} {turns : List (Environment × Turn)}
    {publication : Publication} (took : first.Took turns publication)
    (more : List (Environment × Turn)) :
    first.Took (turns ++ more) publication := by
  rcases took with ⟨before, environment, turn, after, rfl, taken⟩
  exact ⟨before, environment, turn, after ++ more, by simp, taken⟩

end World

/-! ## What entries show of their calls -/

/-- An entry is as before but for its downloads and stamps. -/
def Entry.Kept (old new : Entry) : Prop :=
  ∃ downloads stamps, new = { old with downloads, stamps }

/-- The content of an entry is what a call gave it. -/
structure Entry.Written (entry : Entry) (call : PublishCall) : Prop where
  name : entry.name = .text call.publication.request.name
  description : entry.description = .text call.description
  category : entry.category = .text call.publication.request.category
  snapshot : entry.snapshot.Holds call.publication.graph.toValue

/-- An entry is what some calls made it: the first one inserted it, and the last
one wrote its content. -/
structure Entry.Follows (entry : Entry) (calls : List PublishCall) : Prop where
  written : ∃ last, calls.getLast? = some last ∧ entry.Written last
  isPublic : entry.isPublic = PublishCall.visibility calls
  opened : ∃ first, calls.head? = some first ∧
    entry.authorName = .text first.publication.user.displayName ∧
    entry.originalWorkflowId =
      some (.text first.publication.request.workflowId)

namespace Entry

variable {old new : Entry} {calls : List PublishCall} {call : PublishCall}
  {moment : Moment}

theorem Kept.refl (entry : Entry) : entry.Kept entry :=
  ⟨entry.downloads, entry.stamps, rfl⟩

theorem kept_downloaded (entry : Entry) (amount : Int) (moment : Moment) :
    entry.Kept (entry.downloaded amount moment) :=
  ⟨_, _, rfl⟩

theorem exists_kept_of_mem {entries others : List Entry}
    (kept : List.Forall₂ Entry.Kept entries others) (member : new ∈ others) :
    ∃ old ∈ entries, old.Kept new := by
  induction kept with
  | nil => cases member
  | cons first _ hypothesis =>
      rcases List.mem_cons.mp member with rfl | member
      · exact ⟨_, List.mem_cons_self, first⟩
      · rcases hypothesis member with ⟨old, held, kept⟩
        exact ⟨old, List.mem_cons_of_mem _ held, kept⟩

theorem Follows.kept (follows : old.Follows calls) (kept : old.Kept new) :
    new.Follows calls := by
  rcases kept with ⟨downloads, stamps, rfl⟩
  rcases follows with ⟨⟨last, latest, written⟩, isPublic, opened⟩
  exact ⟨⟨last, latest, written.name, written.description, written.category,
    written.snapshot⟩, isPublic, opened⟩

theorem Renewed.origin {fields : EntryFields}
    (renewed : old.Renewed fields moment new) : new.origin = old.origin :=
  Prod.ext renewed.originalWorkflowId renewed.createdByUserId

theorem Opened.origin {user : User} {workflowId : String} {fields : EntryFields}
    (opened : new.Opened user workflowId fields moment) :
    new.origin = originOf workflowId user.id :=
  Prod.ext opened.originalWorkflowId opened.createdByUserId

theorem Renewed.written (renewed : old.Renewed call.fields moment new) :
    new.Written call :=
  ⟨renewed.name, renewed.description, renewed.category, renewed.snapshot⟩

theorem Opened.written {user : User} {workflowId : String}
    (opened : new.Opened user workflowId call.fields moment) :
    new.Written call :=
  ⟨opened.name, opened.description, opened.category, .inl opened.snapshot⟩

theorem Follows.renewed (follows : old.Follows calls)
    (renewed : old.Renewed call.fields moment new) :
    new.Follows (calls ++ [call]) := by
  rcases follows with ⟨-, isPublic, first, earliest, authorName, workflow⟩
  refine ⟨⟨call, List.getLast?_concat, renewed.written⟩, ?_, first, ?_,
    renewed.authorName.trans authorName,
    renewed.originalWorkflowId.trans workflow⟩
  · rw [renewed.isPublic, isPublic, PublishCall.visibility_concat]
    rfl
  · rw [List.head?_append, earliest]
    rfl

theorem Opened.follows
    (opened : new.Opened call.publication.user
      call.publication.request.workflowId call.fields moment) :
    new.Follows [call] := by
  have visible := (PublishCall.visibility_concat [] call).symm
  exact ⟨⟨call, rfl, opened.written⟩, opened.isPublic.trans visible, call, rfl,
    opened.authorName, opened.originalWorkflowId⟩

end Entry

/-! ## Turns that publish -/

namespace World

variable {world : World} {environment : Environment} {turn : Turn}
  {call : PublishCall} {entry : Entry}

/-- A publication without a pause begins and is finished. -/
theorem session_publish {user : User} {heap : Heap} {data : Value}
    {request : PublishRequest}
    (fits : PublishRequest.read heap data = .fits request) :
    (world.outcome environment (.act (.publish user heap data))).2 =
      ((Publication.begin user request >>= Publication.finish).outcome environment
        world.session).2 := by
  rw [← Publication.outcome_publish]
  refine (Work.session_bind_pure _ (fun _ => none) environment _).trans ?_
  rw [Action.perform, fits]
  exact Work.session_bind_pure _ (fun _ => ()) environment _

/-- What a turn that writes a publication does is to finish it, when nothing was
saved yet. -/
theorem session_finished {publication : Publication}
    (finished : world.finished? environment turn = some publication) :
    ∃ middle : Session, world.session.Unsaved middle ∧
      middle.counters = world.counters ∧
      (world.outcome environment turn).2 =
        (publication.finish.outcome environment middle).2 := by
  unfold finished? at finished
  split at finished
  · refine ⟨world.session, .refl _, rfl, ?_⟩
    simp only [outcome, work, finished]
    exact Work.session_bind_pure _ (fun _ => none) environment _
  · next user heap data =>
    cases fits : PublishRequest.read heap data with
    | misfits | breaks => simp [taken?, fits] at finished
    | fits request =>
        have session : (world.outcome environment
          (.act (.publish user heap data))).2 = _ := session_publish fits
        simp only [taken?, fits] at finished
        rw [Work.outcome_bind] at session
        rcases Work.Settles.exists_outcome
            (Publication.begin_takes environment world.session user request) with
          ⟨_, _, ended, -⟩ | ⟨begun, middle, ended, unsaved, -, -, -, counters⟩
        · rw [ended] at finished
          cases finished
        · rw [ended] at finished session
          cases finished
          exact ⟨middle, unsaved, counters, session⟩
  · cases finished

/-- A turn that means to publish and saves something writes a publication. -/
theorem exists_finished {user : User} {request : PublishRequest}
    (means : turn.Means world.waiting (.publish user request))
    (commits : world.commits environment turn = true) :
    ∃ publication, world.finished? environment turn = some publication := by
  cases means with
  | finish waits => exact ⟨_, waits⟩
  | @publish user heap data request fits =>
      rw [World.commits, session_publish fits, Work.outcome_bind] at commits
      simp only [finished?, taken?, fits]
      rcases Work.Settles.exists_outcome
          (Publication.begin_takes environment world.session user request) with
        ⟨_, _, ended, unsaved⟩ | ⟨begun, _, ended, -⟩
      · rw [ended] at commits
        simp only [unsaved.commits] at commits
        cases commits
      · rw [ended]
        exact ⟨begun, rfl⟩

/-- A turn that writes a publication and saves something commits a call, and the
call places an entry. -/
theorem call_of_finished {publication : Publication}
    (finished : world.finished? environment turn = some publication)
    (commits : world.commits environment turn = true) :
    ∃ description last entry,
      world.call? environment turn = some ⟨publication, description⟩ ∧
      Catalog.Places environment.now publication.user
        publication.request.workflowId (publication.fields description)
        world.session last entry ∧
      (world.after environment turn).store = last.draft := by
  rcases session_finished finished with ⟨middle, unsaved, counters, session⟩
  cases publication.finishes environment middle with
  | fails failed more =>
      rw [World.commits, session, failed, more.commits, unsaved.commits]
        at commits
      cases commits
  | @saves description entry last after described places shown saved =>
      have draft : middle.discarded.draft = world.session.draft := unsaved.saved
      have made : middle.discarded.counters = world.session.counters := counters
      refine ⟨description, last, entry, ?_, places.congr draft made, ?_⟩
      · rw [call?, if_pos commits, finished]
        simp only [Option.bind_eq_bind, Option.bind_some, described]
        rfl
      · rw [store_after, session, shown, saved]

theorem call?_eq_some (called : world.call? environment turn = some call) :
    world.commits environment turn = true ∧
      world.finished? environment turn = some call.publication := by
  rw [call?] at called
  split at called
  case isFalse => cases called
  case isTrue commits =>
    rw [Option.bind_eq_bind, Option.bind_eq_some_iff] at called
    rcases called with ⟨publication, finished, called⟩
    rw [Option.bind_eq_bind, Option.bind_eq_some_iff] at called
    rcases called with ⟨description, -, same⟩
    cases same
    exact ⟨commits, finished⟩

/-- A committed call is one upsert of the catalog. -/
theorem Sound.upserts (sound : world.Sound) {graph : Graph}
    (stored : call.publication.graph.IsStored graph)
    (called : world.call? environment turn = some call) :
    ∃ entry, Store.Upserts environment.now call.publication.user
      call.publication.request.workflowId call.fields world.store
      (world.after environment turn).store entry := by
  rcases call?_eq_some called with ⟨commits, finished⟩
  rcases call_of_finished finished commits with
    ⟨description, last, entry, again, places, saved⟩
  have same : call = ⟨call.publication, description⟩ :=
    Option.some.inj (called.symm.trans again)
  have upserts := places.upserts sound.store.keyed stored.distinct.toJson trivial
    stored.toValue
  rw [same, saved]
  exact ⟨entry, upserts⟩

/-- What a call writes stands in the entry of its origin. -/
theorem Sound.exists_written (sound : world.Sound) {graph : Graph}
    (stored : call.publication.graph.IsStored graph)
    (called : world.call? environment turn = some call) :
    ∃ entry ∈ (world.after environment turn).store.entries,
      entry.origin = call.origin ∧ entry.Written call := by
  rcases sound.upserts stored called with ⟨entry, upserts⟩
  refine ⟨entry, ?_⟩
  cases upserts with
  | renews held origin others renewed saved =>
      rw [saved]
      exact ⟨List.mem_append_right _ List.mem_cons_self,
        renewed.origin.trans origin, renewed.written⟩
  | adds absent opened saved =>
      rw [saved]
      exact ⟨List.mem_append_right _ List.mem_cons_self, opened.origin,
        opened.written⟩

end World

/-! ## Turns that do not publish -/

/-- Does a turn write or delete entries of the catalog? -/
def Turn.isOfCatalog : Turn → Bool
  | .act (.publish _ _ _) | .act (.delete _ _) | .finish _ => true
  | _ => false

/-- Does a deed write or delete entries of the catalog? -/
def Deed.isOfCatalog : Deed → Bool
  | .publish _ _ | .delete _ => true
  | _ => false

/-- Does a deed update a workflow? -/
def Deed.isUpdate : Deed → Bool
  | .update => true
  | _ => false

namespace Turn.Means

variable {waiting : List Publication} {turn : Turn} {deed : Deed}

theorem isOfCatalog_eq (means : turn.Means waiting deed) :
    turn.isOfCatalog = deed.isOfCatalog := by
  cases means <;> rfl

theorem isUpdate_eq (means : turn.Means waiting deed) :
    turn.isUpdate = deed.isUpdate := by
  cases means <;> rfl

end Turn.Means

namespace Store

variable {moment : Moment} {before after : Counters} {deed : Deed}
  {first last : Store} {entry : Entry}

/-- Counting a download keeps the entries. -/
theorem forall₂_kept_downloaded (ids : (first.entries.map Entry.id).Nodup)
    (member : entry ∈ first.entries) :
    List.Forall₂ Entry.Kept first.entries
      (first.replaceEntry (entry.downloaded 1 moment)).entries := by
  rw [replaceEntry, List.forall₂_map_right_iff, List.forall₂_same]
  intro present place
  have named : (entry.downloaded 1 moment).id = entry.id := rfl
  rw [named]
  by_cases same : present.id = entry.id
  · rw [if_pos same, eq_of_id_eq ids place member same]
    exact entry.kept_downloaded 1 moment
  · rw [if_neg same]
    exact .refl present

/-- A deed that does not concern the catalog keeps its entries. -/
theorem Does.forall₂_kept
    (does : Store.Does moment before after deed first last)
    (ids : (first.entries.map Entry.id).Nodup) (other : deed.isOfCatalog = false) :
    List.Forall₂ Entry.Kept first.entries last.entries := by
  have same (entries : List Entry) : List.Forall₂ Entry.Kept entries entries :=
    List.forall₂_same.mpr fun entry _ => .refl entry
  cases does with
  | create deposited | importOwn found own deposited =>
      rw [deposited.entries_eq]
      exact same _
  | importOther found others deposited =>
      rcases entryWith?_eq_some found with ⟨member, -⟩
      rw [← deposited.entries_eq] at member ids ⊢
      exact forall₂_kept_downloaded ids member
  | update => exact same _
  | publish | republish | delete | deleteNothing => cases other

/-- Of the entries after a deed that does not publish each was there before and is
kept. -/
theorem Does.exists_kept
    (does : Store.Does moment before after deed first last)
    (ids : (first.entries.map Entry.id).Nodup)
    (other : ∀ user request, deed ≠ .publish user request)
    (member : entry ∈ last.entries) : ∃ old ∈ first.entries, old.Kept entry := by
  cases deed with
  | publish user request => exact absurd rfl (other user request)
  | delete entryId =>
      cases does with
      | delete => exact ⟨entry, List.mem_of_mem_filter member, .refl entry⟩
      | deleteNothing => exact ⟨entry, member, .refl entry⟩
  | create | importEntry | update =>
      exact Entry.exists_kept_of_mem (does.forall₂_kept ids rfl) member

/-- A deed that does not update a workflow keeps the workflows there are. -/
theorem Does.workflows_isPrefix
    (does : Store.Does moment before after deed first last)
    (other : deed.isUpdate = false) : first.workflows <+: last.workflows := by
  have deposits (last : Store) (deposited : first.Deposited before after last) :
      first.workflows <+: last.workflows := by
    rcases deposited with ⟨row, _, -, -, -, -, rfl⟩
    exact List.prefix_append _ _
  cases does with
  | create deposited | importOwn found own deposited =>
      exact deposits _ deposited
  | @importOther _ middle _ _ _ found others deposited =>
      exact deposits middle deposited
  | publish new made object added =>
      rcases addEntry_eq_some.mp added with ⟨-, rfl⟩
      exact List.prefix_rfl
  | republish | delete | deleteNothing => exact List.prefix_rfl
  | update => cases other

end Store

namespace World

variable {world : World} {environment : Environment} {turn : Turn}

/-- Only turns of the catalog change more of an entry than what is counted. -/
theorem Sound.forall₂_kept (sound : world.Sound)
    (other : turn.isOfCatalog = false) :
    List.Forall₂ Entry.Kept world.store.entries
      (world.after environment turn).store.entries := by
  rcases after_cases world environment turn sound.workflowsDeclared with
    ⟨-, ⟨same, -⟩ | ⟨-, deed, means, does⟩⟩
  · rw [same, List.forall₂_same]
    exact fun entry _ => .refl entry
  · exact does.forall₂_kept sound.store.ids (means.isOfCatalog_eq.symm.trans other)

/-- Only updates change workflows. -/
theorem Sound.workflows_isPrefix (sound : world.Sound)
    (other : turn.isUpdate = false) :
    world.store.workflows <+:
      (world.after environment turn).store.workflows := by
  rcases after_cases world environment turn sound.workflowsDeclared with
    ⟨-, ⟨same, -⟩ | ⟨-, deed, means, does⟩⟩
  · simp only [same, List.prefix_rfl]
  · exact does.workflows_isPrefix (means.isUpdate_eq.symm.trans other)

end World

/-! ## One turn -/

/-- Where an entry comes from that is there after a turn: it was there before and
is kept, or the call of the turn renewed it, or the call inserted it. -/
inductive World.Comes (world : World) (environment : Environment) (turn : Turn)
    (entry : Entry) : Prop where
  | kept {old : Entry} (held : old ∈ world.store.entries)
      (kept : old.Kept entry)
      (silent : ∀ call ∈ world.call? environment turn,
        call.origin ≠ entry.origin)
  | renewed {old : Entry} {call : PublishCall}
      (held : old ∈ world.store.entries)
      (called : world.call? environment turn = some call)
      (origin : call.origin = entry.origin)
      (renewed : old.Renewed call.fields environment.now entry)
  | opened {call : PublishCall}
      (absent : ∀ old ∈ world.store.entries, old.id ≠ entry.id)
      (called : world.call? environment turn = some call)
      (origin : call.origin = entry.origin)
      (opened : entry.Opened call.publication.user
        call.publication.request.workflowId call.fields environment.now)

namespace World

variable {world : World} {environment : Environment} {turn : Turn}
  {call : PublishCall} {entry new : Entry}

theorem comes_of_upserts (called : world.call? environment turn = some call)
    (upserts : Store.Upserts environment.now call.publication.user
      call.publication.request.workflowId call.fields world.store
      (world.after environment turn).store new)
    (member : entry ∈ (world.after environment turn).store.entries) :
    world.Comes environment turn entry := by
  have silent (apart : entry.origin ≠ call.origin) :
      ∀ other ∈ world.call? environment turn, other.origin ≠ entry.origin := by
    intro other called'
    rw [called] at called'
    cases called'
    exact apart.symm
  cases upserts with
  | @renews front rear old held origin others renewed saved =>
      rw [saved] at member
      have place := List.perm_middle.mem_iff.mp member
      rcases List.mem_cons.mp place with rfl | other
      · have there : old ∈ world.store.entries := by
          rw [held]
          exact List.mem_append_right _ List.mem_cons_self
        exact .renewed there called (renewed.origin.trans origin).symm renewed
      · refine .kept ?_ (.refl entry) (silent (others entry other).2)
        rw [held]
        exact List.perm_middle.mem_iff.mpr (List.mem_cons_of_mem _ other)
  | adds absent opened saved =>
      rw [saved] at member
      rcases List.mem_append.mp member with place | place
      · exact .kept place (.refl entry) (silent (absent entry place).2)
      · cases List.mem_singleton.mp place
        exact .opened (fun old held => (absent old held).1) called
          opened.origin.symm opened

/-- Every entry that is there after a turn comes from somewhere. -/
theorem Sound.comes (sound : world.Sound)
    (stored : ∀ call ∈ world.call? environment turn,
      ∃ graph, call.publication.graph.IsStored graph)
    (member : entry ∈ (world.after environment turn).store.entries) :
    world.Comes environment turn entry := by
  rcases called : world.call? environment turn with _ | call
  · have silent : ∀ call ∈ world.call? environment turn,
        call.origin ≠ entry.origin := by
      rw [called]
      simp
    rcases after_cases world environment turn sound.workflowsDeclared with
      ⟨-, ⟨same, -⟩ | ⟨commits, deed, means, does⟩⟩
    · rw [same] at member
      exact .kept member (.refl entry) silent
    -- Every publication that is committed has a call.
    · have other (user : User) (request : PublishRequest) :
          deed ≠ .publish user request := by
        rintro rfl
        rcases exists_finished means commits with ⟨publication, finished⟩
        rcases call_of_finished finished commits with ⟨_, _, _, again, -⟩
        cases called.symm.trans again
      rcases does.exists_kept sound.store.ids other member with ⟨old, held, kept⟩
      exact .kept held kept silent
  · rcases stored call called with ⟨graph, stored⟩
    rcases sound.upserts stored called with ⟨new, upserts⟩
    exact comes_of_upserts called upserts member

end World

/-! ## Where calls come from -/

namespace World

variable {first world : World} {environment : Environment} {turn : Turn}
  {turns : List (Environment × Turn)} {call : PublishCall}
  {publication : Publication}

theorem took_of_taken
    (taken : (first.run turns).taken? ((first.run turns).within environment) turn =
      some publication) :
    first.Took (turns ++ [(environment, turn)]) publication := by
  have snapshot := isSnapshot_of_taken taken
  exact ⟨turns, environment, turn, [], rfl, taken, snapshot⟩

/-- What waits was taken. -/
theorem took_of_waiting (idle : first.waiting = [])
    (waits : publication ∈ (first.run turns).waiting) :
    first.Took turns publication := by
  induction turns using List.reverseRecOn with
  | nil =>
      rw [show (first.run []).waiting = [] from idle] at waits
      cases waits
  | append_singleton earlier last hypothesis =>
      rcases last with ⟨environment, turn⟩
      rw [run_append, run_singleton] at waits
      rcases mem_waiting_after waits with still | ⟨_, outcome⟩
      · exact (hypothesis still).append _
      · exact took_of_taken (taken_of_begun outcome)

/-- What a call writes was taken, in the turn itself or before. -/
theorem took_of_call (idle : first.waiting = [])
    (called : (first.run turns).call? ((first.run turns).within environment) turn =
      some call) :
    first.Took (turns ++ [(environment, turn)]) call.publication := by
  rcases call?_eq_some called with ⟨-, finished⟩
  unfold finished? at finished
  split at finished
  · exact (took_of_waiting idle (List.mem_of_getElem? finished)).append _
  · exact took_of_taken finished
  · cases finished

/-- A graph that was taken in a sound run is one that a column gives back. -/
theorem Took.exists_isStored (took : first.Took turns publication)
    (sound : first.Sound) : ∃ graph, publication.graph.IsStored graph := by
  rcases took with ⟨before, _, _, _, -, -, taken⟩
  rcases taken.isStored (sound.run before).store.hasDistinctKeys with
    ⟨row, -, stored⟩
  exact ⟨_, stored⟩

/-- The calls of a history were committed by turns. -/
theorem exists_call_of_mem_history {origin : Option TextCell × TextCell}
    (member : call ∈ first.history origin turns) :
    ∃ before environment turn after,
      turns = before ++ (environment, turn) :: after ∧
      (first.run before).call? ((first.run before).within environment) turn =
        some call ∧
      call.origin = origin := by
  induction turns generalizing first with
  | nil => cases member
  | cons turn rest hypothesis =>
      rcases turn with ⟨environment, turn⟩
      rcases List.mem_append.mp member with here | later
      · rcases List.mem_filter.mp here with ⟨called, same⟩
        exact ⟨[], environment, turn, rest, rfl, Option.mem_toList.mp called,
          of_decide_eq_true same⟩
      · rcases hypothesis later with ⟨before, _, _, after, rfl, called⟩
        exact ⟨(environment, turn) :: before, _, _, after, rfl, called⟩

end World

/-! ## Runs -/

/-- The first of some turns inserts an entry by a call, and the entry is there from
then on. -/
structure World.Inserts (world : World) (turns : List (Environment × Turn))
    (entry : Entry) : Prop where
  absent : ∀ old ∈ world.store.entries, old.id ≠ entry.id
  called : ∃ environment turn rest call, turns = (environment, turn) :: rest ∧
    world.call? (world.within environment) turn = some call ∧
    call.origin = entry.origin
  present : ∀ front, front <+: turns → front ≠ [] →
    ∃ now ∈ (world.run front).store.entries,
      now.id = entry.id ∧ now.origin = entry.origin

namespace World

variable {first world : World} {environment : Environment} {turn : Turn}
  {turns : List (Environment × Turn)} {call : PublishCall} {old new : Entry}

theorem Inserts.append (inserts : world.Inserts turns old)
    (id : new.id = old.id) (origin : new.origin = old.origin)
    (member : new ∈ ((world.run turns).step environment turn).store.entries) :
    world.Inserts (turns ++ [(environment, turn)]) new where
  absent := by
    rw [id]
    exact inserts.absent
  called := by
    rcases inserts.called with ⟨environment, turn, rest, call, rfl, called, same⟩
    exact ⟨environment, turn, rest ++ _, call, rfl, called, same.trans origin.symm⟩
  present := by
    intro front isPrefix nonempty
    rcases List.prefix_concat_iff.mp isPrefix with rfl | isPrefix
    · rw [run_append, run_singleton]
      exact ⟨new, member, rfl, rfl⟩
    · rw [id, origin]
      exact inserts.present front isPrefix nonempty

theorem inserts_singleton (absent : ∀ old ∈ world.store.entries, old.id ≠ new.id)
    (called : world.call? (world.within environment) turn = some call)
    (origin : call.origin = new.origin)
    (member : new ∈ (world.step environment turn).store.entries) :
    world.Inserts [(environment, turn)] new where
  absent := absent
  called := ⟨environment, turn, [], call, rfl, called, origin⟩
  present := by
    intro front isPrefix nonempty
    cases front with
    | nil => exact absurd rfl nonempty
    | cons _ rest =>
        rcases List.cons_prefix_cons.mp isPrefix with ⟨rfl, short⟩
        cases List.prefix_nil.mp short
        exact ⟨new, member, rfl, rfl⟩

/-- A turn continues the history of each entry. -/
theorem history_concat (world : World) (origin : Option TextCell × TextCell)
    (turns : List (Environment × Turn)) (environment : Environment)
    (turn : Turn) :
    world.history origin (turns ++ [(environment, turn)]) =
      world.history origin turns ++
        ((world.run turns).call? ((world.run turns).within environment)
          turn).toList.filter (·.origin = origin) := by
  rw [history_append, history_singleton]

/-- Every entry follows the calls that were committed since a turn inserted it. -/
theorem Sound.follows (sound : first.Sound) (idle : first.waiting = [])
    (none : first.store.entries = [])
    (member : new ∈ (first.run turns).store.entries) :
    ∃ earlier later, turns = earlier ++ later ∧
      (first.run earlier).Inserts later new ∧
      new.Follows ((first.run earlier).history new.origin later) := by
  -- The last turn lengthens the part of the run since an entry was inserted, and
  -- begins one for the entry that it inserts itself.
  induction turns using List.reverseRecOn generalizing new with
  | nil =>
      rw [show (first.run []).store.entries = [] from none] at member
      cases member
  | append_singleton turns last hypothesis =>
      rcases last with ⟨environment, turn⟩
      rw [run_append, run_singleton] at member
      have stored : ∀ call ∈ (first.run turns).call?
          ((first.run turns).within environment) turn, ∃ graph, call.publication.graph.IsStored graph :=
        fun call called => (took_of_call idle called).exists_isStored sound
      cases (sound.run turns).comes stored member with
      | @kept old held kept silent =>
          rcases hypothesis held with ⟨earlier, later, rfl, inserts, follows⟩
          rw [run_append] at member silent
          have same : new.id = old.id ∧ new.origin = old.origin := by
            rcases kept with ⟨downloads, stamps, rfl⟩
            exact ⟨rfl, rfl⟩
          have nothing : (((first.run earlier).run later).call?
              (((first.run earlier).run later).within environment)
              turn).toList.filter (·.origin = new.origin) = [] := by
            rw [List.filter_eq_nil_iff]
            intro call called
            rw [decide_eq_true_iff]
            exact silent call (Option.mem_toList.mp called)
          refine ⟨earlier, later ++ [(environment, turn)],
            List.append_assoc _ _ _, inserts.append same.1 same.2 member, ?_⟩
          rw [history_concat, nothing, List.append_nil, same.2]
          exact follows.kept kept
      | @renewed old call held called origin renewed =>
          rcases hypothesis held with ⟨earlier, later, rfl, inserts, follows⟩
          rw [run_append] at member called
          have same := renewed.origin
          refine ⟨earlier, later ++ [(environment, turn)],
            List.append_assoc _ _ _, inserts.append renewed.id same member, ?_⟩
          rw [history_concat, called, Option.toList_some, List.filter_singleton,
            decide_eq_true origin, same]
          exact follows.renewed renewed
      | @opened call absent called origin opened =>
          refine ⟨turns, [(environment, turn)], rfl,
            inserts_singleton absent called origin member, ?_⟩
          rw [history_singleton, called, Option.toList_some,
            List.filter_singleton, decide_eq_true origin]
          exact opened.follows

/-- In every run each entry follows the calls to publish its workflow as its author
that were committed since it was inserted: its content is that of the last one,
which is also the last one of all, its visibility the last one that was sent, and
the name of its author that of the first one.  Each call wrote what it had taken
from the workflow, in the same turn or before, to the entry of its origin.  No other
turn changes more of an entry than its number of downloads, and only updates change
workflows. -/
theorem run_follows_history (users : List User) (projects : List Project)
    (memberships : List Membership) (counters : Counters)
    (turns : List (Environment × Turn)) :
    let first := start users projects memberships counters
    let world := first.run turns
    (∀ entry ∈ world.store.entries, ∃ earlier later,
      turns = earlier ++ later ∧
      (first.run earlier).Inserts later entry ∧
      entry.Follows ((first.run earlier).history entry.origin later) ∧
      (first.history entry.origin turns).getLast? =
        ((first.run earlier).history entry.origin later).getLast?) ∧
    (∀ origin, ∀ call ∈ first.history origin turns,
      ∃ before environment turn after,
        turns = before ++ (environment, turn) :: after ∧
        (first.run before).call? ((first.run before).within environment) turn =
          some call ∧
        first.Took (before ++ [(environment, turn)]) call.publication ∧
        ∃ entry ∈ ((first.run before).step environment turn).store.entries,
          entry.origin = origin ∧ entry.Written call) ∧
    ∀ (environment : Environment) (turn : Turn),
      (turn.isOfCatalog = false →
        List.Forall₂ Entry.Kept world.store.entries
          (world.after environment turn).store.entries) ∧
      (turn.isUpdate = false →
        world.store.workflows <+:
          (world.after environment turn).store.workflows) := by
  intro first world
  have sound : first.Sound := sound_start users projects memberships counters
  refine ⟨?_, ?_, fun environment turn => ⟨(sound.run turns).forall₂_kept,
    (sound.run turns).workflows_isPrefix⟩⟩
  · intro entry member
    rcases sound.follows rfl rfl member with
      ⟨earlier, later, rfl, inserts, follows⟩
    refine ⟨earlier, later, rfl, inserts, follows, ?_⟩
    rcases follows.written with ⟨last, latest, -⟩
    rw [history_append, List.getLast?_append, latest]
    rfl
  · intro origin call member
    rcases exists_call_of_mem_history member with
      ⟨before, environment, turn, after, rfl, called, rfl⟩
    have took := took_of_call rfl called
    rcases took.exists_isStored sound with ⟨graph, stored⟩
    exact ⟨before, environment, turn, after, rfl, called, took,
      (sound.run before).exists_written stored called⟩

end World

end WorkflowExchange

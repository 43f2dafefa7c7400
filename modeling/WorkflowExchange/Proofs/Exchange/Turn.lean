import WorkflowExchange.Proofs.Exchange.Publishing
import WorkflowExchange.Proofs.Exchange.Workflows

/-!
# What a turn does

Whatever mishaps it meets, a turn saves nothing or commits exactly one deed, the
one that it means: `World.turn_ends`.  A turn that fails after its commit is a
publication whose entry cannot be shown.
-/

namespace WorkflowExchange

/-- The deed that a turn means to do. -/
inductive Turn.Means (waiting : List Publication) : Turn → Deed → Prop where
  | create {user : User} {heap : Heap} {data : Value} :
      Means waiting (.act (.create user heap data)) .create
  | importEntry {user : User} {entryId : String} :
      Means waiting (.act (.importEntry user entryId))
        (.importEntry user entryId)
  | update {user : User} {workflowId : String} {heap : Heap} {data : Value} :
      Means waiting (.act (.update user workflowId heap data)) .update
  | publish {user : User} {heap : Heap} {data : Value}
      {request : PublishRequest}
      (fits : PublishRequest.read heap data = .fits request) :
      Means waiting (.act (.publish user heap data)) (.publish user request)
  | delete {user : User} {entryId : String} :
      Means waiting (.act (.delete user entryId)) (.delete entryId)
  | finish {position : Nat} {publication : Publication}
      (waits : waiting[position]? = some publication) :
      Means waiting (.finish position)
        (.publish publication.user publication.request)

/-- A publication is saved, but its entry cannot be shown. -/
def Deed.Unshown (deed : Deed) (saved : Store) (failure : Failure) : Prop :=
  ∃ user request entry,
    deed = .publish user request ∧ entry ∈ saved.entries ∧
    entry.origin = Entry.originOf request.workflowId user.id ∧
    (EntrySummary.ofEntry entry).toExcept = .error failure

/-- Work saves nothing, or does one deed of some, and fails after that only when
a published entry cannot be shown. -/
inductive Work.Ends {α : Type} (deeds : Deed → Prop) (work : Work α)
    (environment : Environment) (before : Session) : Prop where
  | unsaved {result : Except Failure α} {after : Session}
      (outcome : work.outcome environment before = (result, after))
      (unsaved : before.Unsaved after)
  | did {result : Except Failure α} {after : Session} {deed : Deed}
      (outcome : work.outcome environment before = (result, after))
      (means : deeds deed)
      (did : Session.Did environment.now deed before after)
      (unshown : ∀ failure, result = .error failure →
        deed.Unshown after.saved failure)

namespace Work

variable {α β : Type} {deeds : Deed → Prop} {environment : Environment}
  {before : Session}

theorem ends_of_settles {work : Work α}
    (settles : work.Settles environment before fun _ after =>
      before.Unsaved after ∨
        ∃ deed, deeds deed ∧ Session.Did environment.now deed before after) :
    work.Ends deeds environment before := by
  rcases settles.exists_outcome with
    ⟨_, _, ended, unsaved⟩ | ⟨_, _, ended, unsaved | ⟨deed, means, did⟩⟩
  · exact .unsaved ended unsaved
  · exact .unsaved ended unsaved
  · refine .did ended means did ?_
    intro failure failed
    cases failed

theorem ends_of_prepares {work : Work α} {holds : α → Session → Prop}
    (prepares : work.Prepares environment before holds) :
    work.Ends deeds environment before :=
  ends_of_settles (Settles.mono prepares fun _ _ both => .inl both.1)

theorem ends_of_publishes {work : Work EntrySummary} {user : User}
    {request : PublishRequest}
    (publishes : Catalog.Publishes environment user request work before)
    (means : deeds (.publish user request)) :
    work.Ends deeds environment before := by
  cases publishes with
  | fails outcome unsaved => exact .unsaved outcome unsaved
  | shows outcome did member origin =>
      refine .did outcome means did ?_
      intro failure failed
      exact ⟨user, request, _, rfl, member, origin, failed⟩

/-- The result of work that ends so can be replaced. -/
theorem Ends.andPure {work : Work α} {next : α → β}
    (ends : work.Ends deeds environment before) :
    (work >>= fun result => pure (next result)).Ends deeds environment
      before := by
  have outcome := outcome_bind environment before work fun result =>
    pure (next result)
  cases ends with
  | @unsaved result after ended unsaved =>
      rw [ended] at outcome
      cases result with
      | error failure => exact .unsaved outcome unsaved
      | ok result => exact .unsaved outcome unsaved
  | @did result after deed ended means did unshown =>
      rw [ended] at outcome
      cases result with
      | error failure =>
          refine .did outcome means did ?_
          intro other failed
          cases failed
          exact unshown failure rfl
      | ok result =>
          refine .did outcome means did ?_
          intro failure failed
          cases failed

/-- Data that does not fit ends work before it begins. -/
theorem ends_reading {reading : Fit α} {next : α → Work β}
    (ends : ∀ request, reading = .fits request →
      (next request).Ends deeds environment before) :
    (Work.reading reading >>= next).Ends deeds environment before := by
  have outcome := outcome_bind environment before (Work.reading reading) next
  rw [Work.reading, outcome_ofExcept] at outcome
  cases fits : reading with
  | fits request =>
      rw [fits] at outcome
      cases ends request fits with
      | unsaved ended unsaved => exact .unsaved (outcome.trans ended) unsaved
      | did ended means did unshown =>
          exact .did (outcome.trans ended) means did unshown
  | misfits | breaks =>
      rw [fits] at outcome
      exact .unsaved outcome (.refl before)

/-- Something holds of every result that work ends with. -/
def Returns (work : Work α) (environment : Environment) (before : Session)
    (holds : α → Prop) : Prop :=
  ∀ result after, work.outcome environment before = (.ok result, after) →
    holds result

theorem returns_pure {result : α} {holds : α → Prop} (holding : holds result) :
    (pure result : Work α).Returns environment before holds := by
  intro other after outcome
  cases outcome
  exact holding

theorem returns_bind {first : Work α} {next : α → Work β} {holds : β → Prop}
    (returns : ∀ result middle,
      (next result).Returns environment middle holds) :
    (first >>= next).Returns environment before holds := by
  intro result after outcome
  rw [outcome_bind] at outcome
  rcases ended : first.outcome environment before with ⟨_ | given, middle⟩
  · rw [ended] at outcome
    cases outcome
  · rw [ended] at outcome
    exact returns given middle result after outcome

theorem returns_of_prepares {work : Work α} {holds : α → Session → Prop}
    {other : α → Prop} (prepares : work.Prepares environment before holds)
    (weaker : ∀ result after, holds result after → other result) :
    work.Returns environment before other := by
  intro result after outcome
  exact weaker result after (Settles.of_ok prepares outcome).2

end Work

/-- Does a turn update a workflow? -/
def Turn.isUpdate : Turn → Bool
  | .act (.update _ _ _ _) => true
  | _ => false

/-- What an action does that updates no workflow, whatever is stored. -/
theorem Action.perform_ends_of_other {environment : Environment} {before : Session}
    (waiting : List Publication) (action : Action)
    (other : (Turn.act action).isUpdate = false) :
    action.perform.Ends (Turn.Means waiting (.act action)) environment
      before := by
  cases action with
  | findAll user =>
      exact (Work.ends_of_prepares (Catalog.findAll_prepares user)).andPure
  | showEntry user entryId =>
      exact (Work.ends_of_prepares (Catalog.get_prepares user entryId)).andPure
  | findUserWorkflows user =>
      exact (Work.ends_of_prepares
        (Catalog.findUserWorkflows_prepares user)).andPure
  | preview user workflowId =>
      exact (Work.ends_of_prepares
        (Catalog.preview_prepares user workflowId)).andPure
  | publish user heap data =>
      apply Work.ends_reading
      intro request fits
      exact (Work.ends_of_publishes (Catalog.publish_publishes user request)
        (.publish fits)).andPure
  | importEntry user entryId =>
      apply Work.Ends.andPure
      apply Work.ends_of_settles
      apply Work.Settles.mono (Catalog.importEntry_settles user entryId)
      intro _ after did
      exact .inr ⟨_, .importEntry, did⟩
  | delete user entryId =>
      apply Work.ends_of_settles
      apply Work.Settles.mono (Catalog.delete_settles user entryId)
      intro _ after did
      exact .inr ⟨_, .delete, did⟩
  | create user heap data =>
      apply Work.ends_reading
      intro request fits
      apply Work.Ends.andPure
      apply Work.ends_of_settles
      apply Work.Settles.mono (Workflows.create_settles user
        (CreateRequest.declared_of_read fits))
      intro _ after did
      exact .inr ⟨_, .create, did⟩
  | showWorkflow user workflowId =>
      exact (Work.ends_of_prepares
        (Workflows.get_prepares user workflowId)).andPure
  | update => cases other

theorem Action.perform_ends {environment : Environment} {before : Session}
    (waiting : List Publication) (action : Action)
    (stored : ∀ row ∈ before.saved.workflows, row.Declared) :
    action.perform.Ends (Turn.Means waiting (.act action)) environment
      before := by
  cases action with
  | update user workflowId heap data =>
      apply Work.ends_reading
      intro request fits
      apply Work.Ends.andPure
      apply Work.ends_of_settles
      apply Work.Settles.mono (Workflows.update_settles user workflowId
        (UpdateRequest.declared_of_read fits) stored)
      rintro _ after (unsaved | did)
      · exact .inl unsaved
      · exact .inr ⟨_, .update, did⟩
  | _ => exact perform_ends_of_other waiting _ rfl

/-- The first transaction of a publication copies the graph of a workflow. -/
theorem Publication.begin_takes (environment : Environment) (before : Session)
    (user : User) (request : PublishRequest) :
    (Publication.begin user request).Prepares environment before
      fun publication after =>
        publication.user = user ∧ publication.request = request ∧
        Catalog.IsSnapshot before.saved user
          (Catalog.publishScopes environment.strict) request.workflowId
          publication.name publication.graph ∧
        after.counters = before.counters := by
  apply Work.prepares_bind (Catalog.beginPublish_prepares user request)
  rintro found middle - ⟨taken, counters⟩
  exact Work.prepares_pure ⟨rfl, rfl, taken, counters⟩

namespace World

variable {environment : Environment}

theorem store_after (world : World) (environment : Environment) (turn : Turn) :
    (world.after environment turn).store =
      (world.outcome environment turn).2.saved := rfl

theorem counters_after (world : World) (environment : Environment)
    (turn : Turn) :
    (world.after environment turn).counters =
      (world.outcome environment turn).2.counters := rfl

/-- A turn ends as its action does; a part of a publication ends so in any case. -/
theorem turn_ends_of_performs (world : World) {environment : Environment}
    {turn : Turn} (performs : ∀ action, turn = .act action →
      action.perform.Ends (turn.Means world.waiting) environment world.session) :
    (world.work turn).Ends (turn.Means world.waiting) environment
      world.session := by
  cases turn with
  | act action => exact (performs action rfl).andPure
  | «begin» user heap data =>
      apply Work.ends_reading
      intro request fits
      rw [map_eq_pure_bind]
      exact (Work.ends_of_prepares (Publication.begin_takes _ _ user request)).andPure
  | finish position =>
      simp only [work]
      rcases waits : world.waiting[position]? with _ | publication
      · exact .unsaved (Work.outcome_pure _ _ _) (.refl _)
      · exact (Work.ends_of_publishes
          (Catalog.finishPublish_publishes publication.user
            publication.request publication.name publication.graph)
          (Turn.Means.finish waits)).andPure

theorem turn_ends (world : World) (environment : Environment) (turn : Turn)
    (stored : ∀ row ∈ world.store.workflows, row.Declared) :
    (world.work turn).Ends (turn.Means world.waiting) environment
      world.session := by
  refine world.turn_ends_of_performs ?_
  rintro action rfl
  exact action.perform_ends world.waiting stored

/-- A turn leaves the store as it was and commits nothing, or commits the deed that
it means; in either case identifiers are only used up. -/
def Acts (world : World) (environment : Environment) (turn : Turn) : Prop :=
  world.counters.AtMost (world.after environment turn).counters ∧
    ((world.after environment turn).store = world.store ∧
        world.commits environment turn = false ∨
      world.commits environment turn = true ∧
        ∃ deed, turn.Means world.waiting deed ∧
          Store.Does environment.now world.counters
            (world.after environment turn).counters deed world.store
            (world.after environment turn).store)

theorem acts_of_ends {world : World} {turn : Turn}
    (ends : (world.work turn).Ends (turn.Means world.waiting) environment
      world.session) : world.Acts environment turn := by
  rw [Acts, store_after, counters_after, commits]
  cases ends with
  | @unsaved result session outcome unsaved =>
      change world.outcome environment turn = _ at outcome
      rw [outcome]
      refine ⟨unsaved.counters, .inl ⟨unsaved.saved, ?_⟩⟩
      rw [unsaved.commits]
      rfl
  | @did result session deed outcome means did unshown =>
      change world.outcome environment turn = _ at outcome
      rw [outcome]
      refine ⟨did.counters, .inr ⟨?_, deed, means, did.does⟩⟩
      rw [did.commits]
      rfl

theorem after_cases (world : World) (environment : Environment) (turn : Turn)
    (stored : ∀ row ∈ world.store.workflows, row.Declared) :
    world.Acts environment turn :=
  acts_of_ends (turn_ends world environment turn stored)

/-- A turn that updates no workflow acts so whatever is stored. -/
theorem after_cases_of_other (world : World) (environment : Environment)
    {turn : Turn} (other : turn.isUpdate = false) :
    world.Acts environment turn := by
  refine acts_of_ends (world.turn_ends_of_performs ?_)
  rintro action rfl
  exact action.perform_ends_of_other world.waiting other

/-- A publication that waits after a turn waited before it, or is what the turn
ended with. -/
theorem mem_waiting_after {world : World} {turn : Turn}
    {publication : Publication}
    (member : publication ∈ (world.after environment turn).waiting) :
    publication ∈ world.waiting ∨
      ∃ session, world.outcome environment turn =
        (.ok (some publication), session) := by
  have still : publication ∈ world.stillWaiting turn →
      publication ∈ world.waiting := by
    intro member
    cases turn with
    | finish position => exact List.mem_of_mem_eraseIdx member
    | act | «begin» => exact member
  rcases ended : world.outcome environment turn with
    ⟨_ | _ | begun, session⟩
  · simp only [after, ended] at member
    exact .inl (still member)
  · simp only [after, ended] at member
    exact .inl (still member)
  · simp only [after, ended] at member
    rcases List.mem_append.mp member with member | member
    · exact .inl (still member)
    · rw [List.mem_singleton.mp member]
      exact .inr ⟨session, rfl⟩

/-- The publication that a turn takes from a workflow, in the first transaction of
publishing. -/
def taken? (world : World) (environment : Environment) :
    Turn → Option Publication
  | .begin user heap data | .act (.publish user heap data) =>
    match PublishRequest.read heap data with
    | .fits request =>
      ((Publication.begin user request).outcome environment
        world.session).1.toOption
    | _ => none
  | _ => none

/-- A publication that a turn takes is a snapshot of a workflow of that moment. -/
theorem isSnapshot_of_taken {world : World} {turn : Turn}
    {publication : Publication}
    (taken : world.taken? environment turn = some publication) :
    Catalog.IsSnapshot world.store publication.user
      (Catalog.publishScopes environment.strict) publication.request.workflowId
      publication.name publication.graph := by
  have snapshot (user : User) (request : PublishRequest)
      (begun : ((Publication.begin user request).outcome environment
        world.session).1.toOption = some publication) :
      Catalog.IsSnapshot world.store publication.user
        (Catalog.publishScopes environment.strict)
        publication.request.workflowId publication.name publication.graph := by
    rcases Work.Settles.exists_outcome
        (Publication.begin_takes environment world.session user request) with
      ⟨_, _, ended, -⟩ | ⟨_, _, ended, -, rfl, rfl, taken, -⟩
    · rw [ended] at begun
      cases begun
    · rw [ended] at begun
      cases begun
      exact taken
  unfold taken? at taken
  split at taken
  · split at taken
    · exact snapshot _ _ taken
    · cases taken
  · split at taken
    · exact snapshot _ _ taken
    · cases taken
  · cases taken

/-- What a turn leaves to wait is the publication that it took. -/
theorem taken_of_begun {world : World} {turn : Turn}
    {publication : Publication} {after : Session}
    (outcome : world.outcome environment turn =
      (.ok (some publication), after)) :
    world.taken? environment turn = some publication := by
  suffices returns : (world.work turn).Returns environment world.session
      fun result => ∀ begun ∈ result, world.taken? environment turn = some begun
    from returns (some publication) after outcome publication rfl
  cases turn with
  | act action =>
      apply Work.returns_bind
      intro _ middle
      exact Work.returns_pure (by simp)
  | «begin» user heap data =>
      intro result after outcome
      rw [work, Work.outcome_bind] at outcome
      cases fits : PublishRequest.read heap data with
      | misfits | breaks =>
          rw [fits] at outcome
          cases outcome
      | fits request =>
          rw [fits] at outcome
          have begun : (some <$> Publication.begin user request).outcome
            environment world.session = (.ok result, after) := outcome
          rw [map_eq_pure_bind, Work.outcome_bind] at begun
          simp only [taken?, fits]
          rcases ended : (Publication.begin user request).outcome environment
            world.session with ⟨_ | other, _⟩
          · rw [ended] at begun
            cases begun
          · rw [ended] at begun
            cases begun
            intro publication same
            exact same
  | finish position =>
      simp only [work]
      rcases world.waiting[position]? with _ | waiting
      · exact Work.returns_pure (by simp)
      · apply Work.returns_bind
        intro _ middle
        exact Work.returns_pure (by simp)

end World

end WorkflowExchange

import WorkflowExchange.Proofs.Exchange.Outcome

/-!
# Settling

A small logic for work in an arbitrary environment, where any use of the store
may meet a mishap.

`Work.Settles` says that work either fails with nothing saved, or ends with a
result for which something holds.  `Work.Prepares` says in addition that nothing
is saved when it ends with a result, either.  The work of an operation up to its
commit prepares, and what the operation does is what holds when it settles.
-/

namespace WorkflowExchange

namespace Work

variable {α β : Type} {environment : Environment} {before : Session}

/-- Work fails with nothing saved, or ends with a result for which something
holds. -/
def Settles (work : Work α) (environment : Environment) (before : Session)
    (done : α → Session → Prop) : Prop :=
  match work.outcome environment before with
  | (.ok result, after) => done result after
  | (.error _, after) => before.Unsaved after

/-- Work saves nothing, and something holds when it ends with a result. -/
def Prepares (work : Work α) (environment : Environment) (before : Session)
    (holds : α → Session → Prop) : Prop :=
  work.Settles environment before fun result after =>
    before.Unsaved after ∧ holds result after

/-- Work that settles fails with nothing saved, or ends with a result for which
something holds. -/
theorem Settles.exists_outcome {work : Work α} {done : α → Session → Prop}
    (settles : work.Settles environment before done) :
    (∃ failure after, work.outcome environment before = (.error failure, after) ∧
      before.Unsaved after) ∨
    ∃ result after, work.outcome environment before = (.ok result, after) ∧
      done result after := by
  rw [Settles] at settles
  rcases ended : work.outcome environment before with ⟨failure | result, after⟩ <;>
    rw [ended] at settles
  · exact .inl ⟨failure, after, rfl, settles⟩
  · exact .inr ⟨result, after, rfl, settles⟩

/-- What holds when work settles holds of a result that it ended with. -/
theorem Settles.of_ok {work : Work α} {done : α → Session → Prop} {result : α}
    {after : Session} (settles : work.Settles environment before done)
    (ended : work.outcome environment before = (.ok result, after)) :
    done result after := by
  rw [Settles, ended] at settles
  exact settles

/-! ## Rules for settling -/

theorem Settles.mono {work : Work α} {done other : α → Session → Prop}
    (settles : work.Settles environment before done)
    (weaker : ∀ result after, done result after → other result after) :
    work.Settles environment before other := by
  rw [Settles]
  rcases settles.exists_outcome with ⟨_, _, ended, unsaved⟩ | ⟨_, _, ended, holds⟩
  · simpa only [ended] using unsaved
  · simpa only [ended] using weaker _ _ holds

theorem settles_fail {failure : Failure} {done : α → Session → Prop} :
    (fail failure : Work α).Settles environment before done :=
  Session.Unsaved.refl before

theorem settles_refuse {cause : Cause} {done : α → Session → Prop} :
    (refuse cause : Work α).Settles environment before done :=
  Session.Unsaved.refl before

/-- Work that settles after work that prepares. -/
theorem settles_bind {first : Work α} {next : α → Work β}
    {holds : α → Session → Prop} {done : β → Session → Prop}
    (prepares : first.Prepares environment before holds)
    (settles : ∀ result middle, before.Unsaved middle →
      holds result middle → (next result).Settles environment middle done) :
    (first >>= next).Settles environment before done := by
  rw [Settles, outcome_bind]
  rcases Settles.exists_outcome prepares with
    ⟨_, _, equal, unsaved⟩ | ⟨result, middle, equal, unsaved, holding⟩
  · simpa only [equal] using unsaved
  · rcases (settles result middle unsaved holding).exists_outcome with
      ⟨_, _, ended, later⟩ | ⟨_, _, ended, later⟩
    · simpa only [equal, ended] using unsaved.trans later
    · simpa only [equal, ended] using later

/-- A transaction settles when its work does on a fresh draft. -/
theorem settles_transaction {undone : Undone} {context : Log.Context}
    {work : Work α} {done : α → Session → Prop}
    (settles : work.Settles environment before.discarded
      fun result after => done result after.discarded) :
    (transaction undone context work).Settles environment before done := by
  rw [Settles] at settles ⊢
  rw [outcome_transaction]
  rcases equal : work.outcome environment before.discarded with
    ⟨failure | result, after⟩ <;> rw [equal] at settles
  · have unsaved : before.Unsaved after.discarded :=
      ⟨settles.saved, settles.commits, settles.counters⟩
    cases failure with
    | database error =>
        exact unsaved.trans (Session.idle_told _ _).unsaved
    | because | fault | notUpdatable | misfits => exact unsaved
  · exact settles

/-! ## Rules for preparing -/

theorem Prepares.mono {work : Work α} {holds other : α → Session → Prop}
    (prepares : work.Prepares environment before holds)
    (weaker : ∀ result after, before.Unsaved after → holds result after →
      other result after) :
    work.Prepares environment before other := by
  apply Settles.mono prepares
  rintro result after ⟨unsaved, holding⟩
  exact ⟨unsaved, weaker result after unsaved holding⟩

theorem prepares_pure {result : α} {holds : α → Session → Prop}
    (holding : holds result before) :
    (pure result : Work α).Prepares environment before holds :=
  ⟨.refl before, holding⟩

theorem prepares_fail {failure : Failure} {holds : α → Session → Prop} :
    (fail failure : Work α).Prepares environment before holds :=
  settles_fail

theorem prepares_refuse {cause : Cause} {holds : α → Session → Prop} :
    (refuse cause : Work α).Prepares environment before holds :=
  settles_refuse

theorem prepares_bind {first : Work α} {next : α → Work β}
    {holds : α → Session → Prop} {later : β → Session → Prop}
    (prepares : first.Prepares environment before holds)
    (continues : ∀ result middle, before.Unsaved middle →
      holds result middle → (next result).Prepares environment middle later) :
    (first >>= next).Prepares environment before later := by
  apply settles_bind prepares
  intro result middle unsaved holding
  apply Settles.mono (continues result middle unsaved holding)
  rintro result after ⟨more, holding⟩
  exact ⟨unsaved.trans more, holding⟩

theorem prepares_read :
    (read : Work Environment).Prepares environment before fun found after =>
      found = environment ∧ after = before :=
  ⟨.refl before, rfl, rfl⟩

theorem prepares_now :
    now.Prepares environment before fun moment after =>
      moment = environment.now ∧ after = before :=
  ⟨.refl before, rfl, rfl⟩

theorem prepares_store :
    store.Prepares environment before fun draft after =>
      draft = before.draft ∧ after = before :=
  ⟨.refl before, rfl, rfl⟩

theorem prepares_setStore (draft : Store) :
    (setStore draft).Prepares environment before fun _ after =>
      after = { before with draft } :=
  ⟨⟨rfl, rfl, .refl _⟩, rfl⟩

theorem prepares_log (context : Log.Context) (message : Log.Message) :
    (log context message).Prepares environment before fun _ after =>
      before.Idle after :=
  ⟨(Session.idle_told _ _).unsaved, Session.idle_told _ _⟩

theorem prepares_fresh (kind : Identifier.Kind) :
    (fresh kind).Prepares environment before fun id after =>
      id = kind.numbered (before.counters.count kind + 1) ∧
        after = { before with counters := before.counters.advance kind } := by
  rw [Prepares, Settles]
  rw [outcome_fresh]
  exact ⟨⟨rfl, rfl, .advance _ _⟩, rfl, rfl⟩

theorem prepares_ofExcept (outcome : Except Failure α) :
    (ofExcept outcome).Prepares environment before fun result after =>
      outcome = .ok result ∧ after = before := by
  cases outcome with
  | ok result => exact prepares_pure ⟨rfl, rfl⟩
  | error failure => exact prepares_fail

theorem idle_told_each (context : Log.Context) (messages : List Log.Message)
    (session : Session) :
    session.Idle (messages.foldl (fun current message =>
      current.told (context.bind message)) session) := by
  induction messages generalizing session with
  | nil => exact .refl session
  | cons message rest hypothesis =>
      rw [List.foldl_cons]
      exact (Session.idle_told _ _).trans (hypothesis _)

theorem prepares_ofTrial (context : Log.Context) (trial : Trial Failure α) :
    (ofTrial context trial).Prepares environment before fun result after =>
      trial.outcome = .ok result ∧ before.Idle after := by
  have idle := idle_told_each context trial.messages before
  rw [Prepares, Settles]
  rw [outcome_ofTrial]
  cases trial.outcome with
  | ok result => exact ⟨idle.unsaved, rfl, idle⟩
  | error failure => exact idle.unsaved

theorem prepares_met (call : StoreCall) :
    (met call).Prepares environment before fun _ after =>
      after = before.noted call :=
  ⟨(Session.idle_noted before call).unsaved, rfl⟩

/-- A lookup finds what is there, or nothing. -/
theorem prepares_call {call : StoreCall} {none : α} {work : Work α}
    {holds : α → Session → Prop}
    (nothing : ∀ after, before.Idle after → holds none after)
    (prepares : work.Prepares environment (before.noted call) holds) :
    (Work.call call none work).Prepares environment before holds := by
  apply prepares_bind (prepares_met call)
  rintro mishap middle - rfl
  cases mishap with
  | none => exact prepares
  | some mishap =>
      cases mishap with
      | error error => exact prepares_fail
      | fault found => exact prepares_fail
      | nothing =>
          exact prepares_pure (nothing _ (Session.idle_noted before call))

/-- A change is made, or fails. -/
theorem prepares_change {call : StoreCall} {work : Work α}
    {holds : α → Session → Prop}
    (prepares : work.Prepares environment (before.noted call) holds) :
    (change call work).Prepares environment before holds := by
  apply prepares_bind (prepares_met call)
  rintro mishap middle - rfl
  cases mishap with
  | none => exact prepares
  | some mishap =>
      cases mishap with
      | error error => exact prepares_fail
      | fault found => exact prepares_fail
      | nothing => exact prepares

/-- A transaction whose work prepares saves nothing. -/
theorem prepares_transaction {undone : Undone} {context : Log.Context}
    {work : Work α} {holds : α → Session → Prop}
    (prepares : work.Prepares environment before.discarded
      fun result after => holds result after.discarded) :
    (transaction undone context work).Prepares environment before holds := by
  apply settles_transaction
  apply Settles.mono prepares
  rintro result after ⟨unsaved, holding⟩
  exact ⟨⟨unsaved.saved, unsaved.commits, unsaved.counters⟩, holding⟩

/-- A unit of work saves nothing when its work prepares. -/
theorem prepares_unit {work : Work α} {holds : α → Session → Prop}
    (prepares : work.Prepares environment before.discarded
      fun result after => holds result after.discarded) :
    work.unit.Prepares environment before holds := by
  rw [Prepares, Settles] at prepares ⊢
  rw [outcome_unit]
  rcases equal : work.outcome environment before.discarded with
    ⟨failure | result, after⟩ <;> rw [equal] at prepares
  · exact ⟨prepares.saved, prepares.commits, prepares.counters⟩
  · rcases prepares with ⟨unsaved, holding⟩
    exact ⟨⟨unsaved.saved, unsaved.commits, unsaved.counters⟩, holding⟩

/-- Work on every item of a list saves nothing when it does on each, and every
result is that of an item. -/
theorem prepares_mapM {items : List α} {work : α → Work β}
    {holds : α → β → Prop}
    (prepares : ∀ item session, (work item).Prepares environment session
      fun result _ => holds item result) :
    (items.mapM work).Prepares environment before fun results _ =>
      ∀ result ∈ results, ∃ item ∈ items, holds item result := by
  induction items generalizing before with
  | nil => exact prepares_pure fun _ member => nomatch member
  | cons item rest hypothesis =>
      rw [List.mapM_cons]
      apply prepares_bind (prepares item before)
      intro result middle _ holding
      apply prepares_bind hypothesis
      intro results after _ each
      apply prepares_pure
      rintro other (_ | ⟨_, later⟩)
      · exact ⟨item, List.mem_cons_self, holding⟩
      · rcases each other later with ⟨source, member, held⟩
        exact ⟨source, List.mem_cons_of_mem _ member, held⟩

/-! ## Committing -/

/-- After a commit the draft is saved; work that follows and cannot fail keeps
the commit. -/
theorem settles_commit {next : Unit → Work α} {done : α → Session → Prop}
    (ends : ∃ result after,
      (next ()).outcome environment before.committed = (.ok result, after) ∧
        done result after) :
    (commit >>= next).Settles environment before done := by
  have unsaved := (Session.idle_noted before .commit).unsaved
  rcases ends with ⟨result, after, equal, holding⟩
  rw [Settles]
  rw [outcome_bind, commit, outcome_change]
  have saved : (modify fun session : Session =>
      { session with saved := session.draft, commits := session.commits + 1 } :
        Work Unit).outcome environment (before.noted .commit) =
      (.ok (), before.committed) := rfl
  rcases environment.mishap before.calls .commit with _ | _ | _ | _
  · simpa only [saved, equal] using holding
  · exact unsaved
  · exact unsaved
  · simpa only [saved, equal] using holding

/-- Work that ends with a message and a known result after its commit. -/
theorem settles_reported {context : Log.Context} {message : Log.Message}
    {reading : Except Failure α} {result : α} {done : α → Session → Prop}
    (read : reading = .ok result)
    (holds : ∀ after, before.committed.Idle after → done result after) :
    (do
      commit
      log context message
      ofExcept reading).Settles environment before done := by
  apply settles_commit
  refine ⟨result, before.committed.told (context.bind message), ?_,
    holds _ (Session.idle_told _ _)⟩
  rw [outcome_bind, outcome_log, read]
  rfl

/-! ## Leaving -/

/-- However work ends, something holds of what is saved then and of the identifiers
that were made. -/
def Leaves (work : Work α) (environment : Environment) (before : Session)
    (holds : Store → Counters → Prop) : Prop :=
  holds (work.outcome environment before).2.saved
    (work.outcome environment before).2.counters

theorem leaves_of_settles {work : Work α} {holds : Store → Counters → Prop}
    {done : α → Session → Prop} (settles : work.Settles environment before done)
    (kept : ∀ after, before.Unsaved after → holds after.saved after.counters)
    (made : ∀ result after, done result after →
      holds after.saved after.counters) :
    work.Leaves environment before holds := by
  rw [Leaves]
  rcases settles.exists_outcome with
    ⟨_, after, ended, unsaved⟩ | ⟨result, after, ended, holding⟩ <;> rw [ended]
  · exact kept after unsaved
  · exact made result after holding

theorem leaves_of_prepares {work : Work α} {holds : Store → Counters → Prop}
    {done : α → Session → Prop} (prepares : work.Prepares environment before done)
    (kept : ∀ after, before.Unsaved after → holds after.saved after.counters) :
    work.Leaves environment before holds :=
  leaves_of_settles prepares kept fun _ after both => kept after both.1

theorem leaves_bind {first : Work α} {next : α → Work β}
    {holds : Store → Counters → Prop} {done : α → Session → Prop}
    (prepares : first.Prepares environment before done)
    (kept : ∀ after, before.Unsaved after → holds after.saved after.counters)
    (leaves : ∀ result middle, before.Unsaved middle → done result middle →
      (next result).Leaves environment middle holds) :
    (first >>= next).Leaves environment before holds := by
  rw [Leaves, outcome_bind]
  rcases Settles.exists_outcome prepares with
    ⟨_, after, ended, unsaved⟩ | ⟨result, middle, ended, unsaved, holding⟩ <;>
    rw [ended]
  · exact kept after unsaved
  · exact leaves result middle unsaved holding

/-- The result of work that leaves something can be replaced. -/
theorem Leaves.andPure {work : Work α} {next : α → β}
    {holds : Store → Counters → Prop}
    (leaves : work.Leaves environment before holds) :
    (work >>= fun result => pure (next result)).Leaves environment before holds := by
  rw [Leaves, session_bind_pure]
  exact leaves

theorem leaves_unit {work : Work α} {holds : Store → Counters → Prop}
    (leaves : work.Leaves environment before.discarded holds) :
    work.unit.Leaves environment before holds := by
  rw [Leaves, outcome_unit]
  exact leaves

theorem leaves_transaction {undone : Undone} {context : Log.Context}
    {work : Work α} {holds : Store → Counters → Prop}
    (leaves : work.Leaves environment before.discarded holds) :
    (transaction undone context work).Leaves environment before holds := by
  rw [Leaves] at leaves ⊢
  rw [outcome_transaction]
  rcases ended : work.outcome environment before.discarded with
    ⟨failure | result, after⟩ <;> rw [ended] at leaves
  · cases failure <;> exact leaves
  · exact leaves

theorem leaves_commit {next : Unit → Work α} {holds : Store → Counters → Prop}
    (kept : holds before.saved before.counters)
    (leaves : (next ()).Leaves environment before.committed holds) :
    (commit >>= next).Leaves environment before holds := by
  rw [Leaves, outcome_bind, commit, outcome_change]
  have saved : (modify fun session : Session =>
      { session with saved := session.draft, commits := session.commits + 1 } :
        Work Unit).outcome environment (before.noted .commit) =
      (.ok (), before.committed) := rfl
  rcases environment.mishap before.calls .commit with _ | _ | _ | _
  · simpa only [saved, Leaves] using leaves
  · exact kept
  · exact kept
  · simpa only [saved, Leaves] using leaves

end Work

end WorkflowExchange

import WorkflowExchange.Proofs.Exchange.Publishing

/-!
# Work that meets no mishap

`Work.Calmly` says that work ends with a result when no use of the store meets a
mishap from now on.  What the result is comes from what the work prepares or
settles; here it is only shown that there is one.
-/

namespace WorkflowExchange

namespace Environment

/-- No use of the store meets a mishap after some calls. -/
def CalmFrom (environment : Environment) (calls : List StoreCall) : Prop :=
  ∀ more call, environment.mishap (more ++ calls) call = none

/-- The environment without mishaps. -/
def calm (environment : Environment) : Environment :=
  { environment with mishap := fun _ _ => none }

/-- The environment in which the first lookup of an entry by its origin finds
nothing and there is no other mishap. -/
def losing (environment : Environment) : Environment :=
  { environment with
    mishap := fun calls call =>
      if call = .findByOrigin ∧ .findByOrigin ∉ calls then some .nothing
      else none }

variable {environment : Environment} {calls : List StoreCall}

theorem CalmFrom.here (calm : environment.CalmFrom calls) (call : StoreCall) :
    environment.mishap calls call = none := calm [] call

theorem CalmFrom.noted (calm : environment.CalmFrom calls) (call : StoreCall) :
    environment.CalmFrom (call :: calls) := by
  intro more other
  have shifted := calm (more ++ [call]) other
  rw [List.append_assoc] at shifted
  exact shifted

theorem calmFrom_calm (environment : Environment) (calls : List StoreCall) :
    environment.calm.CalmFrom calls := by
  intro more call
  rfl

theorem calmFrom_losing (environment : Environment) {calls : List StoreCall}
    (lost : .findByOrigin ∈ calls) : environment.losing.CalmFrom calls := by
  intro more call
  apply if_neg
  rintro ⟨-, first⟩
  exact first (List.mem_append_right _ lost)

end Environment

namespace Work

/-- Without mishaps a lookup is work like any other. -/
theorem outcome_call_calm {α : Type} (environment : Environment)
    (before : Session) (call : StoreCall) (none : α) (work : Work α) :
    (Work.call call none work).outcome environment.calm before =
      work.outcome environment.calm (before.noted call) :=
  outcome_call _ _ _ _ _

variable {α β : Type} {environment : Environment} {before : Session}

/-- Work ends with a result when there are no mishaps from now on. -/
def Calmly (work : Work α) (environment : Environment) (before : Session)
    (holds : α → Session → Prop) : Prop :=
  environment.CalmFrom before.calls →
    ∃ result after, work.outcome environment before = (.ok result, after) ∧
      environment.CalmFrom after.calls ∧ holds result after

theorem calmly_pure {result : α} {holds : α → Session → Prop}
    (holding : holds result before) :
    (pure result : Work α).Calmly environment before holds :=
  fun calm => ⟨result, before, rfl, calm, holding⟩

theorem calmly_bind {first : Work α} {next : α → Work β}
    {holds : α → Session → Prop} {later : β → Session → Prop}
    (calmly : first.Calmly environment before holds)
    (continues : ∀ result middle, holds result middle →
      (next result).Calmly environment middle later) :
    (first >>= next).Calmly environment before later := by
  intro calm
  rcases calmly calm with ⟨result, middle, ended, calmed, holding⟩
  rcases continues result middle holding calmed with
    ⟨last, after, outcome, calmer, held⟩
  refine ⟨last, after, ?_, calmer, held⟩
  rw [outcome_bind, ended]
  exact outcome

theorem Calmly.mono {work : Work α} {holds other : α → Session → Prop}
    (calmly : work.Calmly environment before holds)
    (weaker : ∀ result after, holds result after → other result after) :
    work.Calmly environment before other := by
  intro calm
  rcases calmly calm with ⟨result, after, ended, calmed, holding⟩
  exact ⟨result, after, ended, calmed, weaker result after holding⟩

/-- Where no mishap is met at all work ends with a result. -/
theorem Calmly.exists_ok {work : Work α} {holds : α → Session → Prop}
    (calmly : work.Calmly environment.calm before holds) :
    ∃ result after, work.outcome environment.calm before = (.ok result, after) := by
  rcases calmly (environment.calmFrom_calm _) with ⟨result, after, ended, -⟩
  exact ⟨result, after, ended⟩

/-- What work prepares holds of its result. -/
theorem Calmly.and_prepares {work : Work α} {holds other : α → Session → Prop}
    (calmly : work.Calmly environment before holds)
    (prepares : work.Prepares environment before other) :
    work.Calmly environment before fun result after =>
      holds result after ∧ before.Unsaved after ∧ other result after := by
  intro calm
  rcases calmly calm with ⟨result, after, ended, calmed, holding⟩
  exact ⟨result, after, ended, calmed, holding, Settles.of_ok prepares ended⟩

theorem calmly_read :
    (read : Work Environment).Calmly environment before fun found after =>
      found = environment ∧ after = before :=
  fun calm => ⟨environment, before, rfl, calm, rfl, rfl⟩

theorem calmly_now :
    now.Calmly environment before fun moment after =>
      moment = environment.now ∧ after = before :=
  calmly_pure ⟨rfl, rfl⟩

theorem calmly_store :
    store.Calmly environment before fun draft after =>
      draft = before.draft ∧ after = before :=
  calmly_pure ⟨rfl, rfl⟩

theorem calmly_setStore (draft : Store) :
    (setStore draft).Calmly environment before fun _ after =>
      after = { before with draft } :=
  fun calm => ⟨(), _, rfl, calm, rfl⟩

theorem calmly_log (context : Log.Context) (message : Log.Message) :
    (log context message).Calmly environment before fun _ after =>
      before.Idle after :=
  fun calm => ⟨(), _, rfl, calm, Session.idle_told _ _⟩

theorem calmly_fresh (kind : Identifier.Kind) :
    (fresh kind).Calmly environment before fun id after =>
      id = kind.numbered (before.counters.count kind + 1) ∧
        after = { before with counters := before.counters.advance kind } :=
  fun calm => ⟨_, _, outcome_fresh _ _ _, calm, rfl, rfl⟩

theorem calmly_ofExcept {outcome : Except Failure α} {result : α}
    (equal : outcome = .ok result) :
    (ofExcept outcome).Calmly environment before fun found after =>
      found = result ∧ after = before := by
  subst equal
  exact calmly_pure ⟨rfl, rfl⟩

theorem calmly_storing {prepared : Prepared α} {result : α}
    (ready : prepared = .ready result) :
    (storing prepared).Calmly environment before fun found after =>
      found = result ∧ after = before :=
  calmly_ofExcept (Prepared.toExcept_eq_ok.mpr ready)

theorem calls_told_each (context : Log.Context) (messages : List Log.Message)
    (session : Session) :
    (messages.foldl (fun current message =>
      current.told (context.bind message)) session).calls = session.calls := by
  induction messages generalizing session with
  | nil => rfl
  | cons message rest hypothesis =>
      rw [List.foldl_cons]
      exact hypothesis _

theorem calmly_ofTrial (context : Log.Context) {trial : Trial Failure α}
    {result : α} (equal : trial.outcome = .ok result) :
    (ofTrial context trial).Calmly environment before fun found after =>
      found = result ∧ before.Idle after := by
  intro calm
  refine ⟨result, _, ?_, ?_, rfl,
    idle_told_each context trial.messages before⟩
  · rw [outcome_ofTrial, equal]
  · rw [calls_told_each]
    exact calm

theorem calmly_call {call : StoreCall} {none : α} {work : Work α}
    {holds : α → Session → Prop}
    (calmly : work.Calmly environment (before.noted call) holds) :
    (Work.call call none work).Calmly environment before holds := by
  intro calm
  rw [outcome_call, calm.here]
  exact calmly (calm.noted call)

theorem calmly_change {call : StoreCall} {work : Work α}
    {holds : α → Session → Prop}
    (calmly : work.Calmly environment (before.noted call) holds) :
    (change call work).Calmly environment before holds := by
  intro calm
  rw [outcome_change, calm.here]
  exact calmly (calm.noted call)

theorem calmly_commit :
    commit.Calmly environment before fun _ after =>
      after = before.committed := by
  apply calmly_change
  intro calm
  exact ⟨(), _, rfl, calm, rfl⟩

theorem calmly_lookup {call : StoreCall} {none : α} (query : Store → α) :
    (Work.call call none (do pure (query (← store)))).Calmly environment before
      fun found after => found = query before.draft ∧ before.Idle after := by
  apply calmly_call
  intro calm
  exact ⟨_, _, rfl, calm, rfl, Session.idle_noted _ _⟩

theorem calmly_transaction {undone : Undone} {context : Log.Context}
    {work : Work α} {holds : α → Session → Prop}
    (calmly : work.Calmly environment before.discarded
      fun result after => holds result after.discarded) :
    (transaction undone context work).Calmly environment before holds := by
  intro calm
  rcases calmly calm with ⟨result, after, ended, calmed, holding⟩
  refine ⟨result, after.discarded, ?_, calmed, holding⟩
  rw [outcome_transaction, ended]

theorem calmly_unit {work : Work α} {holds : α → Session → Prop}
    (calmly : work.Calmly environment before.discarded
      fun result after => holds result after.discarded) :
    work.unit.Calmly environment before holds := by
  intro calm
  rcases calmly calm with ⟨result, after, ended, calmed, holding⟩
  refine ⟨result, after.discarded, ?_, calmed, holding⟩
  rw [outcome_unit, ended]

end Work

end WorkflowExchange

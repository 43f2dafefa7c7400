import WorkflowExchange.Exchange.Run

/-!
# Outcomes of work

Work is reasoned about by its outcome: what it ends in and the session after it.
There is one equation for each way of making work.

Two relations between sessions tell how little happened from one to the other:
`Session.Idle` when there are only calls and messages, and `Session.Unsaved` when
nothing is saved and identifiers are only used up.
-/

namespace WorkflowExchange

/-! ## Counters -/

/-- No fewer identifiers were made by the time of the other counters. -/
def Counters.AtMost (counters other : Counters) : Prop :=
  ∀ kind, counters.count kind ≤ other.count kind

namespace Counters.AtMost

theorem refl (counters : Counters) : counters.AtMost counters := by
  intro kind
  exact Nat.le_refl _

theorem trans {first second third : Counters} (one : first.AtMost second)
    (other : second.AtMost third) : first.AtMost third := by
  intro kind
  exact Nat.le_trans (one kind) (other kind)

theorem advance (counters : Counters) (kind : Identifier.Kind) :
    counters.AtMost (counters.advance kind) := by
  intro other
  cases kind <;> cases other <;> simp [Counters.advance, Counters.count]

end Counters.AtMost

/-- Making an identifier of a kind counts it. -/
theorem Counters.count_advance (counters : Counters) (kind : Identifier.Kind) :
    (counters.advance kind).count kind = counters.count kind + 1 := by
  cases kind <;> rfl

/-! ## Sessions between which nothing is saved -/

/-- Nothing is saved from one session to another. -/
structure Session.Unsaved (before after : Session) : Prop where
  saved : after.saved = before.saved
  commits : after.commits = before.commits
  counters : before.counters.AtMost after.counters

/-- From one session to another there are only calls and messages. -/
structure Session.Idle (before after : Session) : Prop where
  saved : after.saved = before.saved
  draft : after.draft = before.draft
  counters : after.counters = before.counters
  commits : after.commits = before.commits

namespace Session

variable {first second third : Session}

theorem Unsaved.refl (session : Session) : session.Unsaved session :=
  ⟨rfl, rfl, .refl _⟩

theorem Unsaved.trans (one : first.Unsaved second)
    (other : second.Unsaved third) : first.Unsaved third where
  saved := other.saved.trans one.saved
  commits := other.commits.trans one.commits
  counters := one.counters.trans other.counters

theorem Idle.refl (session : Session) : session.Idle session :=
  ⟨rfl, rfl, rfl, rfl⟩

theorem Idle.trans (one : first.Idle second) (other : second.Idle third) :
    first.Idle third where
  saved := other.saved.trans one.saved
  draft := other.draft.trans one.draft
  counters := other.counters.trans one.counters
  commits := other.commits.trans one.commits

theorem Idle.unsaved (idle : first.Idle second) : first.Unsaved second where
  saved := idle.saved
  commits := idle.commits
  counters := by
    rw [idle.counters]
    exact .refl _

/-- The session without what was not saved. -/
def discarded (session : Session) : Session :=
  { session with draft := session.saved }

/-- The session after one more use of the store. -/
def noted (session : Session) (call : StoreCall) : Session :=
  { session with calls := call :: session.calls }

/-- The session after one more message. -/
def told (session : Session) (message : Log.Message) : Session :=
  { session with messages := session.messages ++ [message] }

/-- The session after its draft was saved. -/
def committed (session : Session) : Session :=
  { session.noted .commit with
    saved := session.draft
    commits := session.commits + 1 }

theorem idle_noted (session : Session) (call : StoreCall) :
    session.Idle (session.noted call) :=
  ⟨rfl, rfl, rfl, rfl⟩

theorem idle_told (session : Session) (message : Log.Message) :
    session.Idle (session.told message) :=
  ⟨rfl, rfl, rfl, rfl⟩

end Session

namespace Work

/-! ## Outcomes -/

variable {α β : Type} (environment : Environment) (session : Session)

@[simp]
theorem outcome_pure (result : α) :
    (pure result : Work α).outcome environment session =
      (.ok result, session) := rfl

@[simp]
theorem outcome_bind (first : Work α) (next : α → Work β) :
    (first >>= next).outcome environment session =
      match first.outcome environment session with
      | (.ok result, after) => (next result).outcome environment after
      | (.error failure, after) => (.error failure, after) := by
  simp only [outcome, ReaderT.run_bind, ExceptT.run_bind, StateT.run_bind]
  rcases (StateT.run (ExceptT.run (ReaderT.run first environment)) session :
    Except Failure α × Session) with ⟨_ | _, after⟩ <;> rfl

@[simp]
theorem outcome_unbound (sends : StoreCall → Bool) (mishap : Mishap)
    (work : Work α) :
    (unbound sends mishap work).outcome environment session =
      work.outcome (environment.sending sends mishap) session := rfl

/-- Replacing the result of work does not change the session after it. -/
theorem session_bind_pure (work : Work α) (next : α → β) (environment : Environment)
    (before : Session) :
    ((work >>= fun result => pure (next result)).outcome environment before).2 =
      (work.outcome environment before).2 := by
  rw [outcome_bind]
  rcases work.outcome environment before with ⟨_ | _, after⟩ <;> rfl

@[simp]
theorem outcome_tryCatch (work : Work α) (handle : Failure → Work α) :
    (tryCatch work handle).outcome environment session =
      match work.outcome environment session with
      | (.ok result, after) => (.ok result, after)
      | (.error failure, after) =>
        (handle failure).outcome environment after := by
  change StateT.run (ExceptT.run (tryCatch (ReaderT.run work environment)
    fun failure => ReaderT.run (handle failure) environment)) session = _
  simp only [outcome, ExceptT.run_tryCatch, StateT.run_bind]
  rcases (StateT.run (ExceptT.run (ReaderT.run work environment)) session :
    Except Failure α × Session) with ⟨_ | _, after⟩ <;> rfl

@[simp]
theorem outcome_fail (failure : Failure) :
    (fail failure : Work α).outcome environment session =
      (.error failure, session) := rfl

@[simp]
theorem outcome_refuse (cause : Cause) :
    (refuse cause : Work α).outcome environment session =
      (.error (.because cause), session) := rfl

@[simp]
theorem outcome_read :
    (read : Work Environment).outcome environment session =
      (.ok environment, session) := rfl

@[simp]
theorem outcome_now :
    now.outcome environment session = (.ok environment.now, session) := rfl

@[simp]
theorem outcome_store :
    store.outcome environment session = (.ok session.draft, session) := rfl

@[simp]
theorem outcome_setStore (draft : Store) :
    (setStore draft).outcome environment session =
      (.ok (), { session with draft }) := rfl

@[simp]
theorem outcome_log (context : Log.Context) (message : Log.Message) :
    (log context message).outcome environment session =
      (.ok (), session.told (context.bind message)) := rfl

@[simp]
theorem outcome_fresh (kind : Identifier.Kind) :
    (fresh kind).outcome environment session =
      (.ok (kind.numbered (session.counters.count kind + 1)),
        { session with counters := session.counters.advance kind }) := by
  rw [← Counters.count_advance]
  rfl

@[simp]
theorem outcome_met (call : StoreCall) :
    (met call).outcome environment session =
      (.ok (environment.mishap session.calls call), session.noted call) := rfl

/-- A lookup finds what is there, or nothing, or fails. -/
theorem outcome_call (call : StoreCall) (none : α) (work : Work α) :
    (Work.call call none work).outcome environment session =
      match environment.mishap session.calls call with
      | .none => work.outcome environment (session.noted call)
      | .some (.error error) => (.error (.database error), session.noted call)
      | .some (.fault found) => (.error (.fault found), session.noted call)
      | .some .nothing => (.ok none, session.noted call) := by
  simp only [Work.call, outcome_bind, outcome_met]
  rcases environment.mishap session.calls call with _ | _ | _ | _ <;> rfl

/-- A change is made, or fails. -/
theorem outcome_change (call : StoreCall) (work : Work α) :
    (change call work).outcome environment session =
      match environment.mishap session.calls call with
      | some (.error error) => (.error (.database error), session.noted call)
      | some (.fault found) => (.error (.fault found), session.noted call)
      | _ => work.outcome environment (session.noted call) := by
  simp only [change, outcome_bind, outcome_met]
  rcases environment.mishap session.calls call with _ | _ | _ | _ <;> rfl

@[simp]
theorem outcome_ofExcept (result : Except Failure α) :
    (ofExcept result).outcome environment session = (result, session) := by
  cases result <;> rfl

/-- A trial logs its messages and ends as it does. -/
theorem outcome_ofTrial (context : Log.Context) (trial : Trial Failure α) :
    (ofTrial context trial).outcome environment session =
      (trial.outcome,
        trial.messages.foldl (fun current message =>
          current.told (context.bind message)) session) := by
  have logged (messages : List Log.Message) (session : Session) :
      (messages.forM (log context)).outcome environment session =
        (.ok (), messages.foldl (fun current message =>
          current.told (context.bind message)) session) := by
    induction messages generalizing session with
    | nil => rfl
    | cons message rest hypothesis =>
      rw [List.foldl_cons]
      exact hypothesis _
  simp only [ofTrial, outcome_bind, logged]
  cases trial.outcome <;> rfl

@[simp]
theorem outcome_discard :
    discard.outcome environment session = (.ok (), session.discarded) := rfl

/-- A unit of work begins and ends without anything that is not saved. -/
theorem outcome_unit (work : Work α) :
    work.unit.outcome environment session =
      ((work.outcome environment session.discarded).1,
        (work.outcome environment session.discarded).2.discarded) := by
  simp only [unit, outcome_bind, outcome_discard, outcome_tryCatch]
  rcases work.outcome environment session.discarded with ⟨_ | _, after⟩ <;> rfl

/-- A transaction reports an error of the database without its detail. -/
theorem outcome_transaction (undone : Undone) (context : Log.Context)
    (work : Work α) :
    (transaction undone context work).outcome environment session =
      match work.outcome environment session.discarded with
      | (.error (.database error), after) =>
        (.error (.because (.notSaved undone)),
          after.discarded.told (context.bind (undoneMessage error)))
      | (result, after) => (result, after.discarded) := by
  simp only [transaction, outcome_tryCatch, outcome_unit]
  rcases work.outcome environment session.discarded with
    ⟨failure | result, after⟩
  · cases failure <;> rfl
  · rfl

/-- A transaction ends as its work does, unless that is in an error of the
database. -/
theorem outcome_transaction_of_ne {undone : Undone} {context : Log.Context}
    {work : Work α} (kept : ∀ error,
      (work.outcome environment session.discarded).1 ≠
        .error (.database error)) :
    (transaction undone context work).outcome environment session =
      ((work.outcome environment session.discarded).1,
        (work.outcome environment session.discarded).2.discarded) := by
  rw [outcome_transaction]
  rcases ended : work.outcome environment session.discarded with
    ⟨failure | result, after⟩
  · cases failure with
    | database error =>
        rw [ended] at kept
        exact absurd rfl (kept error)
    | because | fault | notUpdatable | misfits => rfl
  · rfl

end Work

end WorkflowExchange

import WorkflowExchange.Log.Message

/-!
# Logged computations

A `Trial` is the outcome of a computation together with the messages it logged.
In a sequence of trials the messages add up, and an error ends the sequence but
keeps the messages logged before it.
-/

namespace WorkflowExchange

/-- An outcome with the messages that were logged on the way to it. -/
structure Trial (ε α : Type) where
  outcome : Except ε α
  messages : List Log.Message

namespace Trial

/-- A result without messages. -/
def done {ε α : Type} (result : α) : Trial ε α :=
  ⟨.ok result, []⟩

/-- An error without messages. -/
def fail {ε α : Type} (error : ε) : Trial ε α :=
  ⟨.error error, []⟩

def log {ε : Type} (message : Log.Message) : Trial ε Unit :=
  ⟨.ok (), [message]⟩

/-- An outcome without messages. -/
def ofExcept {ε α : Type} (outcome : Except ε α) : Trial ε α :=
  ⟨outcome, []⟩

def andThen {ε α β : Type} (trial : Trial ε α) (next : α → Trial ε β) :
    Trial ε β :=
  match trial with
  | ⟨.error error, messages⟩ => ⟨.error error, messages⟩
  | ⟨.ok result, messages⟩ =>
    ⟨(next result).outcome, messages ++ (next result).messages⟩

instance {ε : Type} : Monad (Trial ε) where
  pure := done
  bind := andThen

/-- Report the error of a trial as another one. -/
def mapError {ε δ α : Type} (rename : ε → δ) (trial : Trial ε α) : Trial δ α :=
  ⟨trial.outcome.mapError rename, trial.messages⟩

@[simp]
theorem outcome_pure {ε α : Type} (result : α) :
    (pure result : Trial ε α).outcome = .ok result := rfl

@[simp]
theorem outcome_log {ε : Type} (message : Log.Message) :
    (log message : Trial ε Unit).outcome = .ok () := rfl

@[simp]
theorem outcome_ofExcept {ε α : Type} (outcome : Except ε α) :
    (ofExcept outcome).outcome = outcome := rfl

@[simp]
theorem messages_ofExcept {ε α : Type} (outcome : Except ε α) :
    (ofExcept outcome).messages = [] := rfl

@[simp]
theorem outcome_mapError {ε δ α : Type} (rename : ε → δ) (trial : Trial ε α) :
    (trial.mapError rename).outcome = trial.outcome.mapError rename := rfl

@[simp]
theorem messages_mapError {ε δ α : Type} (rename : ε → δ) (trial : Trial ε α) :
    (trial.mapError rename).messages = trial.messages := rfl

theorem outcome_bind {ε α β : Type} (trial : Trial ε α) (next : α → Trial ε β) :
    (trial >>= next).outcome =
      match trial.outcome with
      | .error error => .error error
      | .ok result => (next result).outcome := by
  obtain ⟨outcome, messages⟩ := trial
  cases outcome <;> rfl

theorem messages_bind {ε α β : Type} (trial : Trial ε α) (next : α → Trial ε β) :
    (trial >>= next).messages =
      match trial.outcome with
      | .error _ => trial.messages
      | .ok result => trial.messages ++ (next result).messages := by
  obtain ⟨outcome, messages⟩ := trial
  cases outcome <;> rfl

end Trial

end WorkflowExchange

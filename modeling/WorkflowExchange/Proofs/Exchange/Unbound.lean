import WorkflowExchange.Proofs.Exchange.Calm

/-!
# Descriptions that cannot be sent

A description with a half of a pair in it has no encoding, and so every call that sends it
to the database fails.  An entry is never written with such a description, whichever way
it is placed; where no other call fails, writing it ends in the fault of the encoding:
`Catalog.writeEntry_unbound`.
-/

namespace WorkflowExchange

namespace Environment

/-- No call fails, although a lookup may find nothing. -/
def Gentle (environment : Environment) : Prop :=
  ∀ calls call, environment.mishap calls call = none ∨
    environment.mishap calls call = some .nothing

theorem gentle_calm (environment : Environment) : environment.calm.Gentle :=
  fun _ _ => .inl rfl

theorem gentle_losing (environment : Environment) : environment.losing.Gentle := by
  intro calls call
  simp only [losing]
  split
  · exact .inr rfl
  · exact .inl rfl

end Environment

namespace Work

variable {α β : Type} {environment : Environment} {before : Session}
  {fails : Failure → Prop}

/-- Work ends with a result for which something holds, or fails in a certain way. -/
def Passes (work : Work α) (environment : Environment) (before : Session)
    (fails : Failure → Prop) (holds : α → Prop) : Prop :=
  match (work.outcome environment before).1 with
  | .ok result => holds result
  | .error failure => fails failure

theorem passes_pure {result : α} {holds : α → Prop} (holding : holds result) :
    (pure result : Work α).Passes environment before fails holds :=
  holding

theorem passes_fail {failure : Failure} {holds : α → Prop} (failing : fails failure) :
    (fail failure : Work α).Passes environment before fails holds :=
  failing

theorem passes_bind {first : Work α} {next : α → Work β} {holds : α → Prop}
    {later : β → Prop} (passes : first.Passes environment before fails holds)
    (continues : ∀ result middle, holds result →
      (next result).Passes environment middle fails later) :
    (first >>= next).Passes environment before fails later := by
  rw [Passes] at passes ⊢
  rw [outcome_bind]
  rcases ended : first.outcome environment before with ⟨failure | result, middle⟩ <;>
    rw [ended] at passes
  · exact passes
  · exact continues result middle passes

theorem passes_tryCatch {work : Work α} {handle : Failure → Work α}
    {caught : Failure → Prop} {holds : α → Prop}
    (passes : work.Passes environment before caught holds)
    (handles : ∀ failure after, caught failure →
      (handle failure).Passes environment after fails holds) :
    (tryCatch work handle).Passes environment before fails holds := by
  rw [Passes] at passes ⊢
  rw [outcome_tryCatch]
  rcases ended : work.outcome environment before with ⟨failure | result, middle⟩ <;>
    rw [ended] at passes
  · exact handles failure middle passes
  · exact passes

theorem passes_transaction {undone : Undone} {context : Log.Context} {work : Work α}
    {holds : α → Prop} (passes : work.Passes environment before.discarded fails holds)
    (reports : ∀ error, fails (.database error) → fails (.because (.notSaved undone))) :
    (transaction undone context work).Passes environment before fails holds := by
  rw [Passes] at passes ⊢
  rw [outcome_transaction]
  rcases ended : work.outcome environment before.discarded with
    ⟨failure | result, middle⟩ <;> rw [ended] at passes
  · cases failure with
    | database error => exact reports error passes
    | because | fault | notUpdatable | misfits => exact passes
  · exact passes

/-- Work that ends with no result ends with no result that it prepares. -/
theorem Passes.prepares_nothing {work : Work α} {holds : α → Session → Prop}
    (passes : work.Passes environment before fails fun _ => False)
    (prepares : work.Prepares environment before holds) :
    work.Prepares environment before fun _ _ => False := by
  rcases Settles.exists_outcome prepares with
    ⟨failure, after, ended, unsaved⟩ | ⟨result, after, ended, -⟩ <;>
    rw [Passes, ended] at passes
  · rw [Prepares, Settles, ended]
    exact unsaved
  · exact passes.elim

end Work

namespace Catalog

variable {environment : Environment} {before : Session} {context : Log.Context}
  {user : User} {workflowId : String} {fields : EntryFields} {found : Fault}

/-- Work fails in the fault of what is sent, where nothing else can fail. -/
def FailsFor (environment : Environment) (fields : EntryFields) (found : Fault)
    (failure : Failure) : Prop :=
  environment.Gentle → fields.snapshot.IsJson → failure = .fault found

theorem failsFor_of_rough {failure : Failure} {calls : List StoreCall} {call : StoreCall}
    {mishap : Mishap} (met : environment.mishap calls call = some mishap)
    (rough : mishap ≠ .nothing) : FailsFor environment fields found failure := by
  intro gentle _
  rcases gentle calls call with none | nothing
  · cases met.symm.trans none
  · exact absurd (Option.some.inj (met.symm.trans nothing)) rough

/-- A change that sends the description fails. -/
theorem passes_sending {α : Type} {call : StoreCall} {work : Work α}
    (sends : sendsDescription call = true) :
    (Work.change call work).Passes (environment.sending sendsDescription (.fault found))
      before (FailsFor environment fields found) fun _ => False := by
  rw [Work.Passes, Work.outcome_change]
  simp only [Environment.sending, sends, if_true]
  rcases met : environment.mishap before.calls call with _ | error | other | _
  · exact fun _ _ => rfl
  · exact failsFor_of_rough met (by simp)
  · exact failsFor_of_rough met (by simp)
  · exact fun _ _ => rfl

/-- Other changes are made as before. -/
theorem passes_change {α : Type} {call : StoreCall} {work : Work α} {holds : α → Prop}
    (silent : sendsDescription call = false)
    (passes : ∀ middle, work.Passes (environment.sending sendsDescription (.fault found))
      middle (FailsFor environment fields found) holds) :
    (Work.change call work).Passes (environment.sending sendsDescription (.fault found))
      before (FailsFor environment fields found) holds := by
  rw [Work.Passes, Work.outcome_change]
  simp only [Environment.sending, silent, Bool.false_eq_true, if_false]
  rcases met : environment.mishap before.calls call with _ | error | other | _
  · exact passes _
  · exact failsFor_of_rough met (by simp)
  · exact failsFor_of_rough met (by simp)
  · exact passes _

theorem passes_lookup {α : Type} {call : StoreCall} {none : α} {work : Work α}
    (silent : sendsDescription call = false)
    (passes : ∀ middle, work.Passes (environment.sending sendsDescription (.fault found))
      middle (FailsFor environment fields found) fun _ => True) :
    (Work.call call none work).Passes
      (environment.sending sendsDescription (.fault found)) before
      (FailsFor environment fields found) fun _ => True := by
  rw [Work.Passes, Work.outcome_call]
  simp only [Environment.sending, silent, Bool.false_eq_true, if_false]
  rcases met : environment.mishap before.calls call with _ | error | other | _
  · exact passes _
  · exact failsFor_of_rough met (by simp)
  · exact failsFor_of_rough met (by simp)
  · exact trivial

theorem passes_entryByOrigin? :
    (Work.entryByOrigin? workflowId user.id).Passes
      (environment.sending sendsDescription (.fault found)) before
      (FailsFor environment fields found) fun _ => True :=
  passes_lookup rfl fun _ => trivial

theorem passes_updateEntry (entry : Entry) :
    (Work.updateEntry entry fields).Passes
      (environment.sending sendsDescription (.fault found)) before
      (FailsFor environment fields found) fun _ => False :=
  passes_sending rfl

/-- An insertion breaks a key only where a call fails. -/
theorem passes_inserts (entry : Entry) :
    (inserts entry).Passes (environment.sending sendsDescription (.fault found)) before
      (FailsFor environment fields found) fun inserted =>
        inserted = false ∧
          FailsFor environment fields found (.database .integrity) := by
  have added : (Work.insertEntry entry).Passes
      (environment.sending sendsDescription (.fault found)) before
      (FailsFor environment fields found) fun _ => False := by
    have marked : (Work.change .savepoint (pure ())).Passes
        (environment.sending sendsDescription (.fault found)) before
        (FailsFor environment fields found) fun _ => True :=
      passes_change rfl fun _ => trivial
    exact Work.passes_bind marked fun _ _ _ => passes_sending rfl
  apply Work.passes_tryCatch (Work.passes_bind added fun _ _ never => never.elim)
  intro failure after failing
  cases failure with
  | database error =>
      cases error with
      | integrity => exact Work.passes_pure ⟨rfl, failing⟩
      | operational | statement | programming => exact Work.passes_fail failing
  | because | fault | notUpdatable | misfits => exact Work.passes_fail failing

theorem passes_insertOrUpdate :
    (insertOrUpdate context user workflowId fields).Passes
      (environment.sending sendsDescription (.fault found)) before
      (FailsFor environment fields found) fun _ => False := by
  have numbered : (Work.fresh .entry).Passes
      (environment.sending sendsDescription (.fault found)) before
      (FailsFor environment fields found) fun _ => True := by
    rw [Work.Passes, Work.outcome_fresh]
    trivial
  have prepared (middle : Session) : (Work.storing (Column.json fields.snapshot)).Passes
      (environment.sending sendsDescription (.fault found)) middle
      (FailsFor environment fields found) fun _ => True := by
    rw [Work.Passes, Work.storing, Work.outcome_ofExcept]
    cases stored : (Column.json fields.snapshot).toExcept with
    | ok snapshot => trivial
    | error failure =>
        intro _ form
        rcases form.column with ⟨snapshot, ready⟩
        cases stored.symm.trans (Prepared.toExcept_eq_ok.mpr ready)
  apply Work.passes_bind numbered
  rintro id _ -
  have timed (middle : Session) :
      Work.now.Passes (environment.sending sendsDescription (.fault found)) middle
        (FailsFor environment fields found) fun _ => True := trivial
  apply Work.passes_bind (timed _)
  rintro moment _ -
  apply Work.passes_bind (prepared _)
  rintro snapshot _ -
  apply Work.passes_bind (passes_inserts _)
  rintro _ _ ⟨rfl, failing⟩
  apply Work.passes_bind passes_entryByOrigin?
  rintro present _ -
  cases present with
  | none => exact Work.passes_fail failing
  | some existing =>
      have logged (middle : Session) (message : Log.Message) :
          (Work.log context message).Passes
            (environment.sending sendsDescription (.fault found)) middle
            (FailsFor environment fields found) fun _ => True := trivial
      exact Work.passes_bind (logged _ _) fun _ _ _ => passes_updateEntry existing

theorem passes_placeEntry :
    (placeEntry context user workflowId fields).Passes
      (environment.sending sendsDescription (.fault found)) before
      (FailsFor environment fields found) fun _ => False := by
  apply Work.passes_bind passes_entryByOrigin?
  rintro present _ -
  cases present with
  | none => exact passes_insertOrUpdate
  | some existing =>
      exact Work.passes_bind (passes_updateEntry existing) fun _ _ never => never.elim

/-- An entry whose description has no encoding is not written.  Where no other call fails
this is what is reported. -/
theorem writeEntry_unbound (environment : Environment) (before : Session)
    (context : Log.Context) (user : User) (workflowId : String) (fields : EntryFields)
    (found : Fault) :
    ∃ failure after, (Work.unbound sendsDescription (.fault found)
        (writeEntry context user workflowId fields)).outcome environment before =
          (.error failure, after) ∧
      before.Unsaved after ∧ FailsFor environment fields found failure := by
  have placing : (placeEntry context user workflowId fields).Passes
      (environment.sending sendsDescription (.fault found)) before.discarded
      (FailsFor environment fields found) fun _ => False := passes_placeEntry
  have saves : (saveEntry context user workflowId fields).Passes
      (environment.sending sendsDescription (.fault found)) before.discarded
      (FailsFor environment fields found) fun _ => False :=
    Work.passes_bind placing fun _ _ never => never.elim
  have writes : (writeEntry context user workflowId fields).Passes
      (environment.sending sendsDescription (.fault found)) before
      (FailsFor environment fields found) fun _ => False := by
    apply Work.passes_transaction (Work.passes_bind saves fun _ _ never => never.elim)
    intro error failing gentle form
    cases failing gentle form
  have prepares : (writeEntry context user workflowId fields).Prepares
      (environment.sending sendsDescription (.fault found)) before fun _ _ => False := by
    have places := placing.prepares_nothing
      (prepares_placeEntry context user workflowId fields)
    have stored : (saveEntry context user workflowId fields).Prepares
        (environment.sending sendsDescription (.fault found)) before.discarded
        fun _ _ => False :=
      Work.prepares_bind places fun _ _ _ never => never.elim
    apply Work.prepares_transaction
    exact Work.prepares_bind stored fun _ _ _ never => never.elim
  rw [Work.outcome_unbound]
  rcases Work.Settles.exists_outcome prepares with
    ⟨failure, after, ended, unsaved⟩ | ⟨_, _, _, _, never⟩
  · rw [Work.Passes, ended] at writes
    exact ⟨failure, after, ended, unsaved, writes⟩
  · exact never.elim

end Catalog

end WorkflowExchange

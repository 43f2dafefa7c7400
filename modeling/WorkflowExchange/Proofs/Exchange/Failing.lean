import WorkflowExchange.Exchange.Administration
import WorkflowExchange.Exchange.Workflows
import WorkflowExchange.Proofs.Exchange.Outcome

/-!
# Failures that work can end in

`Work.FailsWith` says which failures work can end in, whatever it meets.  There is one
rule for each way of making work.  A use of the store fails with a fault or an error of
the database, and so does what is prepared for it; a transaction turns the error into a
refusal.

The failure that is looked at here is that of a change of fields that cannot be changed.
Every field that a request can name is known to the store by its label, so that changing
labelled fields is the update without that check: `Administration.changeWorkflow_labelled`.
-/

namespace WorkflowExchange

/-! ## Failures of the store -/

/-- A use of the store can end in a failure. -/
inductive Failure.IsOfStore : Failure → Prop
  | database (error : DatabaseError) : IsOfStore (.database error)
  | fault (found : Fault) : IsOfStore (.fault found)

/-- What is prepared is refused, if at all, like a use of the store. -/
def Prepared.RefusesInStore {α : Type} (prepared : Prepared α) : Prop :=
  ∀ failure, prepared = .refused failure → failure.IsOfStore

namespace Prepared

variable {α β : Type} {failure : Failure}

theorem RefusesInStore.map {prepared : Prepared α} (refuses : prepared.RefusesInStore)
    (change : α → β) : (change <$> prepared).RefusesInStore := by
  intro failure equal
  cases prepared with
  | refused found =>
      cases equal
      exact refuses _ rfl
  | ready | malformed | lacking => cases equal

theorem RefusesInStore.seq {first : Prepared (α → β)} {second : Prepared α}
    (one : first.RefusesInStore) (other : second.RefusesInStore) :
    (first <*> second).RefusesInStore := by
  intro failure equal
  cases first with
  | refused found =>
      cases second <;> cases equal
      all_goals exact one _ rfl
  | malformed => cases equal
  | ready | lacking =>
      cases second <;> cases equal
      exact other _ rfl

theorem RefusesInStore.toExcept {prepared : Prepared α}
    (refuses : prepared.RefusesInStore) (failed : prepared.toExcept = .error failure) :
    failure.IsOfStore := by
  cases prepared with
  | ready => cases failed
  | malformed | lacking =>
      cases failed
      exact .database _
  | refused found =>
      cases failed
      exact refuses _ rfl

end Prepared

namespace Column

variable {α : Type}

theorem refusesInStore_text (value : Value) : (Column.text value).RefusesInStore := by
  intro failure equal
  rw [text, required, text?, keeping, Datum.ofValue] at equal
  split at equal
  case h_4 refused =>
    cases equal
    split at refused
    · cases refused
    · rename_i failed
      cases refused
      split at failed
      case h_3 =>
        split at failed <;> cases failed
        exact .fault _
      all_goals cases failed
      · exact .fault _
      · exact .database _
  all_goals cases equal

theorem refusesInStore_truth (value : Value) : (Column.truth value).RefusesInStore := by
  intro failure equal
  rw [truth] at equal
  split at equal
  case h_3 =>
    split at equal
    · cases equal
    · split at equal <;> cases equal
  all_goals cases equal

theorem refusesInStore_json (value : Value) : (Column.json value).RefusesInStore := by
  intro failure equal
  rw [json] at equal
  split at equal <;> cases equal

/-- A column that is not written is not refused. -/
theorem refusesInStore_changed {column : Column α}
    (refuses : ∀ value, (column value).RefusesInStore) (loaded : Value) (kept : α)
    (change? : Option Value) :
    (column.changed loaded kept change?).RefusesInStore := by
  intro failure equal
  cases change? with
  | none => cases equal
  | some value =>
      rw [changed] at equal
      split at equal
      · cases equal
      · exact refuses value failure equal

end Column

/-- The row that changes prepare is refused, if at all, like a use of the store. -/
theorem Changes.refusesInStore_row (changes : Changes) (workflow : LoadedWorkflow) :
    (changes.row workflow).RefusesInStore := by
  have part (loaded : Value) (kept : Json) (change? : Option Value) :=
    Column.refusesInStore_changed Column.refusesInStore_json loaded kept change?
  have name := Column.refusesInStore_changed Column.refusesInStore_text workflow.name
    workflow.row.name (changes.lookup .name)
  have active := Column.refusesInStore_changed Column.refusesInStore_truth
    workflow.active workflow.row.active (changes.lookup .active)
  have graph : (changes.graph workflow).RefusesInStore :=
    ((((part _ _ _).map _).seq (part _ _ _)).seq (part _ _ _)).seq (part _ _ _)
  exact ((name.map _).seq active).seq graph

/-! ## Rules -/

namespace Work

variable {α β : Type} {allowed : Failure → Prop}

/-- When work ends in a failure, it is an allowed one. -/
def FailsWith (work : Work α) (allowed : Failure → Prop) : Prop :=
  ∀ environment before failure after,
    work.outcome environment before = (.error failure, after) → allowed failure

/-- Work that always ends with a result never fails. -/
theorem failsWith_of_ok {work : Work α}
    (ends : ∀ environment before, ∃ result after,
      work.outcome environment before = (.ok result, after)) :
    work.FailsWith allowed := by
  intro environment before failure after failed
  rcases ends environment before with ⟨result, last, ended⟩
  cases ended.symm.trans failed

theorem failsWith_pure (result : α) : (pure result : Work α).FailsWith allowed :=
  failsWith_of_ok fun _ _ => ⟨_, _, rfl⟩

theorem failsWith_fail {failure : Failure} (known : allowed failure) :
    (fail failure : Work α).FailsWith allowed := by
  rintro environment before _ after ⟨⟩
  exact known

theorem failsWith_ofExcept {outcome : Except Failure α}
    (known : ∀ failure, outcome = .error failure → allowed failure) :
    (ofExcept outcome).FailsWith allowed := by
  intro environment before failure after failed
  rw [outcome_ofExcept] at failed
  exact known failure (congrArg Prod.fst failed)

theorem failsWith_bind {first : Work α} {next : α → Work β}
    (fails : first.FailsWith allowed)
    (continues : ∀ result, (next result).FailsWith allowed) :
    (first >>= next).FailsWith allowed := by
  intro environment before failure after failed
  rw [outcome_bind] at failed
  rcases ended : first.outcome environment before with ⟨found | result, middle⟩ <;>
    rw [ended] at failed
  · cases failed
    exact fails environment before failure after ended
  · exact continues result environment middle failure after failed

theorem failsWith_call {call : StoreCall} {none : α} {work : Work α}
    (store : ∀ failure : Failure, failure.IsOfStore → allowed failure)
    (fails : work.FailsWith allowed) : (Work.call call none work).FailsWith allowed := by
  intro environment before failure after failed
  rw [outcome_call] at failed
  split at failed
  · exact fails environment _ failure after failed
  · cases failed
    exact store _ (.database _)
  · cases failed
    exact store _ (.fault _)
  · cases failed

theorem failsWith_change {call : StoreCall} {work : Work α}
    (store : ∀ failure : Failure, failure.IsOfStore → allowed failure)
    (fails : work.FailsWith allowed) : (change call work).FailsWith allowed := by
  intro environment before failure after failed
  rw [outcome_change] at failed
  split at failed
  · cases failed
    exact store _ (.database _)
  · cases failed
    exact store _ (.fault _)
  · exact fails environment _ failure after failed

/-- A transaction refuses for an error of the database, and otherwise fails as its work
does. -/
theorem failsWith_transaction {undone : Undone} {context : Log.Context} {work : Work α}
    (undoing : allowed (.because (.notSaved undone))) (fails : work.FailsWith allowed) :
    (transaction undone context work).FailsWith allowed := by
  intro environment before failure after failed
  rw [outcome_transaction] at failed
  split at failed
  · cases failed
    exact undoing
  · next result last _ ended =>
      cases failed
      exact fails environment _ failure last ended

theorem failsWith_versionAfter (workflow : LoadedWorkflow) (changes : Changes) :
    (versionAfter workflow changes).FailsWith allowed := by
  rw [versionAfter]
  split
  · exact failsWith_of_ok fun _ _ => ⟨_, _, outcome_fresh _ _ _⟩
  · exact failsWith_pure _

theorem failsWith_updateWorkflow
    (store : ∀ failure : Failure, failure.IsOfStore → allowed failure)
    (workflow : LoadedWorkflow) (changes : Changes) :
    (updateWorkflow workflow changes).FailsWith allowed := by
  apply failsWith_change store
  refine failsWith_bind (failsWith_versionAfter _ _) fun versionId => ?_
  have prepares : (storing (changes.row workflow)).FailsWith allowed :=
    failsWith_ofExcept fun failure failed =>
      store failure ((changes.refusesInStore_row workflow).toExcept failed)
  exact failsWith_bind prepares fun changed => failsWith_of_ok fun _ _ => ⟨_, _, rfl⟩

end Work

/-! ## Fields that can be updated -/

/-- Fields with new values, by their labels. -/
def Changes.labelled (changes : Changes) : List (String × Value) :=
  changes.map fun change => (change.1.label, change.2)

/-- Every field is known by its label. -/
theorem WorkflowField.ofLabel?_label (field : WorkflowField) :
    ofLabel? field.label = some field := by
  cases field <;> decide

/-- Changing labelled fields refuses none of them: it is the update of the workflow that
is there. -/
theorem Administration.changeWorkflow_labelled (workflowId : String) (changes : Changes) :
    changeWorkflow workflowId changes.labelled = (do
      ((← Work.store).workflow? workflowId).elim (.fail (.fault .noAttribute))
        fun row => .updateWorkflow (.ofRow row) changes) := by
  have known : ((changes.labelled.map (·.1)).filter fun name =>
      (WorkflowField.ofLabel? name).isNone) = [] := by
    rw [List.filter_eq_nil_iff, Changes.labelled, List.map_map]
    rintro name held
    rcases List.mem_map.mp held with ⟨change, -, rfl⟩
    simp [WorkflowField.ofLabel?_label]
  have same : (changes.labelled.filterMap fun field =>
      (WorkflowField.ofLabel? field.1).map fun known => (known, field.2)) = changes := by
    rw [Changes.labelled, List.filterMap_map]
    have each (change : WorkflowField × Value) :
        (WorkflowField.ofLabel? change.1.label).map (fun known => (known, change.2)) =
          some change := by
      rw [WorkflowField.ofLabel?_label]
      rfl
    exact (congrArg (List.filterMap · changes) (funext each)).trans List.filterMap_some
  simp only [changeWorkflow, known, same, List.isEmpty_nil, Bool.not_true,
    Bool.false_eq_true, ↓reduceIte]
  refine congrArg (Work.store >>= ·) (funext fun store => ?_)
  cases store.workflow? workflowId <;> rfl

/-- A failure is not that of fields that cannot be updated. -/
def Failure.IsOfUpdate (failure : Failure) : Prop :=
  ∀ fields, failure ≠ .notUpdatable fields

theorem Failure.IsOfStore.isOfUpdate {failure : Failure} (ofStore : failure.IsOfStore) :
    failure.IsOfUpdate := by
  rcases ofStore with ⟨error⟩ | ⟨found⟩ <;> rintro fields ⟨⟩

/-- Changing labelled fields never ends in a refusal of fields. -/
theorem Administration.changeWorkflow_failsWith (workflowId : String) (changes : Changes) :
    (changeWorkflow workflowId changes.labelled).FailsWith Failure.IsOfUpdate := by
  rw [changeWorkflow_labelled]
  refine Work.failsWith_bind (Work.failsWith_of_ok fun _ _ => ⟨_, _, rfl⟩) fun store => ?_
  cases store.workflow? workflowId with
  | none => exact Work.failsWith_fail (Failure.IsOfStore.fault _).isOfUpdate
  | some row => exact Work.failsWith_updateWorkflow (fun _ => (·.isOfUpdate)) _ _

/-- An update never ends in a refusal of fields. -/
theorem Workflows.update_failsWith (user : User) (workflowId : String)
    (request : UpdateRequest) :
    (update user workflowId request).FailsWith Failure.IsOfUpdate := by
  have store : ∀ failure : Failure, failure.IsOfStore → failure.IsOfUpdate :=
    fun _ => (·.isOfUpdate)
  have refuses (cause : Cause) : (Failure.because cause).IsOfUpdate := nofun
  have shows (workflow : LoadedWorkflow) :
      (shown workflow).FailsWith Failure.IsOfUpdate := by
    apply Work.failsWith_ofExcept
    intro failure failed
    cases fit : WorkflowDetail.ofLoaded workflow <;> rw [fit] at failed <;> cases failed <;>
      nofun
  have looks (scopes : List Scope) :
      (Work.accessible? user scopes workflowId).FailsWith Failure.IsOfUpdate :=
    Work.failsWith_call store (Work.failsWith_of_ok fun _ _ => ⟨_, _, rfl⟩)
  have logs (context : Log.Context) (message : Log.Message) :
      (Work.log context message).FailsWith Failure.IsOfUpdate :=
    Work.failsWith_of_ok fun _ _ => ⟨_, _, rfl⟩
  apply Work.failsWith_bind
  · apply Work.failsWith_ofExcept
    intro failure failed
    cases bare : request.bare <;> rw [bare] at failed <;> cases failed
    nofun
  intro bare
  apply Work.failsWith_transaction (refuses _)
  apply Work.failsWith_bind (looks _)
  rintro (_ | row)
  · apply Work.failsWith_bind (looks _)
    rintro (_ | row) <;> exact Work.failsWith_fail (refuses _)
  · dsimp only
    split
    · exact shows _
    · apply Work.failsWith_bind (Work.failsWith_updateWorkflow store _ _)
      intro updated
      apply Work.failsWith_bind
        (Work.failsWith_change store (Work.failsWith_of_ok fun _ _ => ⟨_, _, rfl⟩))
      intro _
      exact Work.failsWith_bind (logs _ _) fun _ => shows _

end WorkflowExchange

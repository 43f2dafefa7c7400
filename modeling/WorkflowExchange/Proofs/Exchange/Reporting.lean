import WorkflowExchange.Proofs.Exchange.Decisions
import WorkflowExchange.Proofs.Exchange.Heeding
import WorkflowExchange.Proofs.Exchange.Listing

/-!
# How errors of the database are reported

A transaction reports every error of the database as one failure, which tells nothing
of the error.  All operations but one are made of transactions, so whichever use of the
store meets an error, they end in that failure: `World.database_errors_are_reported`.
Publishing gets over a key that is broken when it inserts an entry, by updating the one
that is there.  Showing a workflow is no transaction, and lets every error out.
-/

namespace WorkflowExchange

/-! ## Transactions -/

/-- What a transaction makes of a failure. -/
def Failure.reported (undone : Undone) : Failure → Failure
  | .database _ => .because (.notSaved undone)
  | other => other

theorem Failure.reported_ne_database (failure : Failure) (undone : Undone)
    (error : DatabaseError) : failure.reported undone ≠ .database error := by
  cases failure <;> simp [reported]

/-- A key is broken by inserting an entry. -/
def StoreCall.Collides (call : StoreCall) (error : DatabaseError) : Prop :=
  error = .integrity ∧ (call = .savepoint ∨ call = .insertEntry)

/-- An error ends the work as it is, unless an entry is updated because it could not be
inserted. -/
def Consequence.inside : Consequence where
  overcome call error later := call.Collides error ∧ later = .updateEntry
  failures call error failure :=
    failure = .database error ∨
      call.Collides error ∧ ((∃ other, failure = .database other) ∨
        ∃ found, failure = .fault found)

/-- An error is reported, unless an entry is updated because it could not be inserted,
or the host fails on the way to that. -/
def Consequence.outside (undone : Undone) : Consequence where
  overcome call error later := call.Collides error ∧ later = .updateEntry
  failures call error failure :=
    failure = .because (.notSaved undone) ∨
      call.Collides error ∧ ∃ found, failure = .fault found

/-- An error ends the insertion of an entry as it is, and is met by one of its two
calls. -/
def Consequence.inserting : Consequence where
  overcome _ _ _ := False
  failures call error failure :=
    failure = .database error ∧ (call = .savepoint ∨ call = .insertEntry)

theorem Consequence.allowsRaw_inside (call : StoreCall) :
    Consequence.inside.AllowsRaw call :=
  fun _ => .inl rfl

/-- Work never ends in an error of the database, and reports those that it meets. -/
structure Work.Reports {α : Type} (work : Work α) (undone : Undone) : Prop where
  hides : ∀ (environment : Environment) (before : Session) error,
    (work.outcome environment before).1 ≠ .error (.database error)
  heeds : work.Heeds (.outside undone)

namespace Work

variable {α β : Type} {undone : Undone}

theorem outcome_transaction_reported (undone : Undone) (context : Log.Context)
    (work : Work α) (environment : Environment) (before : Session) :
    ((transaction undone context work).outcome environment before).1 =
        (work.outcome environment before.discarded).1.mapError
          (Failure.reported undone) ∧
      ((transaction undone context work).outcome environment before).2.calls =
        (work.outcome environment before.discarded).2.calls := by
  rw [outcome_transaction]
  rcases work.outcome environment before.discarded with ⟨failure | result, after⟩
  · cases failure <;> exact ⟨rfl, rfl⟩
  · exact ⟨rfl, rfl⟩

theorem reports_transaction {context : Log.Context} {work : Work α}
    (heeds : work.Heeds .inside) :
    (transaction undone context work).Reports undone where
  hides := by
    intro environment before error
    rw [(outcome_transaction_reported undone context work environment before).1]
    rcases (work.outcome environment before.discarded).1 with failure | result
    · intro raw
      exact failure.reported_ne_database undone error (Except.error.inj raw)
    · simp [Except.mapError]
  heeds := by
    intro environment before
    rcases outcome_transaction_reported undone context work environment before with
      ⟨result, calls⟩
    rcases heeds environment before.discarded with ⟨grown, comes⟩
    rw [result, calls]
    refine ⟨grown, fun call error meets => ?_⟩
    rcases comes call error meets with overcome | ⟨failure, failed, holds⟩
    · exact .inl overcome
    · rw [failed]
      refine .inr ⟨failure.reported undone, rfl, ?_⟩
      rcases holds with rfl | ⟨collides, ⟨other, rfl⟩ | ⟨found, rfl⟩⟩
      · exact .inl rfl
      · exact .inl rfl
      · exact .inr ⟨collides, found, rfl⟩

theorem reports_pure (result : α) : (pure result : Work α).Reports undone where
  hides := by
    intro environment before error raw
    cases raw
  heeds := heeds_pure result

theorem reports_read : (read : Work Environment).Reports undone where
  hides := by
    intro environment before error raw
    cases raw
  heeds := heeds_read

theorem reports_ofExcept {outcome : Except Failure α}
    (other : ∀ error, outcome ≠ .error (.database error)) :
    (ofExcept outcome).Reports undone where
  hides := by
    intro environment before error
    rw [outcome_ofExcept]
    exact other error
  heeds := heeds_ofExcept outcome

theorem reports_ofTrial {context : Log.Context} {trial : Trial Failure α}
    (other : ∀ error, trial.outcome ≠ .error (.database error)) :
    (ofTrial context trial).Reports undone where
  hides := by
    intro environment before error
    rw [outcome_ofTrial]
    exact other error
  heeds := heeds_ofTrial context trial

theorem Reports.unbound {work : Work α} (reports : work.Reports undone)
    (sends : StoreCall → Bool) (mishap : Mishap) :
    (Work.unbound sends mishap work).Reports undone where
  hides environment := reports.hides (environment.sending sends mishap)
  heeds := reports.heeds.unbound sends mishap

theorem reports_bind {first : Work α} {next : α → Work β}
    (reports : first.Reports undone)
    (continues : ∀ result, (next result).Reports undone) :
    (first >>= next).Reports undone where
  hides := by
    intro environment before error
    rw [outcome_bind]
    rcases ended : first.outcome environment before with ⟨failure | result, middle⟩
    · intro raw
      apply reports.hides environment before error
      rw [ended]
      cases raw
      rfl
    · exact (continues result).hides environment middle error
  heeds := heeds_bind reports.heeds fun result => (continues result).heeds

theorem reports_reading {reading : Fit α} {next : α → Work β}
    (continues : ∀ result, (next result).Reports undone) :
    (Work.reading reading >>= next).Reports undone :=
  reports_bind (reports_ofExcept (Fit.toExcept_ne_database reading)) continues

theorem Reports.done {work : Work α} (reports : work.Reports undone) :
    work.done.Reports undone :=
  reports_bind reports fun _ => reports_pure ()

end Work

/-! ## The catalog -/

namespace Catalog

open Work

variable {undone : Undone}

theorem heeds_copied {consequence : Consequence} (context : Log.Context)
    (source : Value) : (copied context source).Heeds consequence :=
  heeds_ofTrial context _

theorem heeds_shown {consequence : Consequence} (entry : Entry) :
    (shown entry).Heeds consequence :=
  heeds_ofExcept _

theorem findAll_reports (user : User) : (findAll user).Reports .operation := by
  apply reports_transaction
  apply heeds_bind (heeds_lookup Consequence.allowsRaw_inside fun draft =>
    draft.visibleEntries user.id)
  exact fun entries => heeds_mapM heeds_shown

theorem get_reports (user : User) (entryId : String) :
    (get user entryId).Reports .operation := by
  apply reports_transaction
  apply heeds_bind (heeds_entryWith? Consequence.allowsRaw_inside entryId)
  intro found
  cases found with
  | none => exact heeds_refuse _
  | some entry =>
      dsimp only
      split
      · apply heeds_bind (heeds_copied _ _)
        exact fun graph => heeds_bind (heeds_shown entry) fun _ => heeds_pure _
      · exact heeds_refuse _

theorem findUserWorkflows_reports (user : User) :
    (findUserWorkflows user).Reports .operation := by
  apply reports_transaction
  apply heeds_bind (heeds_lookup Consequence.allowsRaw_inside fun draft =>
    draft.accessibleIds user [Scope.read])
  intro ids
  apply heeds_bind (heeds_lookup Consequence.allowsRaw_inside fun draft =>
    draft.workflowsWithIds ids)
  exact fun workflows => heeds_mapM fun workflow => heeds_ofExcept _

theorem heeds_snapshotFor (context : Log.Context) (user : User)
    (scopes : List Scope) (workflowId : String) :
    (snapshotFor context user scopes workflowId).Heeds .inside := by
  apply heeds_bind
    (heeds_accessible? Consequence.allowsRaw_inside user scopes workflowId)
  intro found
  cases found with
  | none => exact heeds_refuse _
  | some workflow => exact heeds_bind (heeds_copied _ _) fun _ => heeds_pure _

theorem describe_reports (context : Log.Context) (name : Value)
    (graph : GraphCopy) : (describe context name graph).Reports undone := by
  apply reports_bind reports_read
  intro environment
  apply reports_ofTrial
  intro error raw
  rcases exists_fault_of_mapError raw with ⟨fault, other⟩
  cases other

theorem preview_reports (user : User) (workflowId : String) :
    (preview user workflowId).Reports .operation := by
  apply reports_bind (reports_transaction (heeds_snapshotFor _ user _ workflowId))
  exact fun taken => describe_reports _ _ _

/-! ## Publishing -/

theorem heeds_insertEntry (entry : Entry) :
    (Work.insertEntry entry).Heeds .inserting := by
  have first : Consequence.inserting.AllowsRaw .savepoint :=
    fun _ => ⟨rfl, .inl rfl⟩
  have second : Consequence.inserting.AllowsRaw .insertEntry :=
    fun _ => ⟨rfl, .inr rfl⟩
  apply heeds_bind (heeds_change first (heeds_pure _))
  intro _
  apply heeds_change second
  exact heeds_bind heeds_store fun _ => heeds_setAdded _

/-- Trying to insert an entry ends in the error that is met, or finds a key to be
broken. -/
theorem inserts_meets (environment : Environment) (before : Session)
    (entry : Entry) :
    let inserting := (inserts entry).outcome environment before
    before.calls <:+ inserting.2.calls ∧
      ∀ call error, environment.Meets before.calls inserting.2.calls call error →
        inserting.1 = .error (.database error) ∨
          call.Collides error ∧ inserting.1 = .ok false := by
  intro inserting
  have heeds : (do Work.insertEntry entry; pure true : Work Bool).Heeds
      .inserting := heeds_bind (heeds_insertEntry entry) fun _ => heeds_pure _
  rcases heeds environment before with ⟨grown, comes⟩
  have equal : inserting = _ := outcome_tryCatch environment before
    (do Work.insertEntry entry; pure true) _
  rcases ended : (do Work.insertEntry entry; pure true : Work Bool).outcome
    environment before with ⟨failure | inserted, after⟩
  · rw [ended] at equal grown comes
    dsimp only at equal
    by_cases broken : failure = .database .integrity
    · subst broken
      rw [equal]
      refine ⟨grown, fun call error meets => .inr ?_⟩
      rcases comes call error meets with ⟨_, -, ⟨⟩⟩ | ⟨_, failed, raw, made⟩
      cases failed
      cases raw
      exact ⟨⟨rfl, made⟩, rfl⟩
    · have thrown : inserting = (.error failure, after) := by
        rw [equal]
        split
        · exact absurd rfl broken
        · rfl
      rw [thrown]
      refine ⟨grown, fun call error meets => .inl ?_⟩
      rcases comes call error meets with ⟨_, -, ⟨⟩⟩ | ⟨_, failed, raw, -⟩
      cases failed
      rw [raw]
  · rw [ended] at equal grown comes
    rw [equal]
    refine ⟨grown, fun call error meets => ?_⟩
    rcases comes call error meets with ⟨_, -, ⟨⟩⟩ | ⟨_, failed, -⟩
    cases failed

/-- Work that comes after an entry could not be inserted fails, or updates an entry. -/
def Recovers {α : Type} (work : Work α) : Prop :=
  ∀ environment before,
    (∃ other, (work.outcome environment before).1 = .error (.database other)) ∨
      (∃ found, (work.outcome environment before).1 = .error (.fault found)) ∨
      .updateEntry ∈ (work.outcome environment before).2.calls

theorem heeds_inserts_bind {α : Type} {entry : Entry} {next : Bool → Work α}
    (heeds : ∀ inserted, (next inserted).Heeds .inside)
    (recovers : Recovers (next false)) :
    (inserts entry >>= next).Heeds .inside := by
  intro environment before
  rw [outcome_bind]
  have tried := inserts_meets environment before entry
  rcases ended : (inserts entry).outcome environment before with
    ⟨failure | inserted, middle⟩
  · rw [ended] at tried
    refine ⟨tried.1, fun call error meets => .inr ⟨failure, rfl, .inl ?_⟩⟩
    rcases tried.2 call error meets with raw | ⟨-, other⟩
    · exact Except.error.inj raw
    · cases other
  · rw [ended] at tried
    rcases tried with ⟨grown, comes⟩
    rcases heeds inserted environment middle with ⟨further, follows⟩
    refine ⟨grown.trans further, fun call error meets => ?_⟩
    rcases meets.split further with early | late
    · rcases comes call error early with raw | ⟨collides, broken⟩
      · cases raw
      · cases broken
        rcases recovers environment middle with
          ⟨other, raw⟩ | ⟨found, faulted⟩ | updated
        · exact .inr ⟨_, raw, .inr ⟨collides, .inl ⟨other, rfl⟩⟩⟩
        · exact .inr ⟨_, faulted, .inr ⟨collides, .inr ⟨found, rfl⟩⟩⟩
        · exact .inl ⟨_, updated, collides, rfl⟩
    · exact follows call error late

/-- Looking for the entry that is there finds one to update, or fails. -/
theorem recovers_entryByOrigin? {α : Type} {workflowId userId : String}
    {next : Option Entry → Work α} (none : Recovers (next none))
    (some : ∀ existing, Recovers (next (some existing))) :
    Recovers (Work.entryByOrigin? workflowId userId >>= next) := by
  intro environment before
  rw [outcome_bind, entryByOrigin?, outcome_call]
  cases environment.mishap before.calls .findByOrigin with
  | none =>
      simp only [outcome_bind, outcome_store, outcome_pure]
      cases (before.noted .findByOrigin).draft.entryByOrigin? workflowId
        userId with
      | none => exact none environment _
      | some existing => exact some existing environment _
  | some mishap =>
      cases mishap with
      | error other => exact .inl ⟨other, rfl⟩
      | fault found => exact .inr (.inl ⟨found, rfl⟩)
      | nothing => exact none environment _

theorem heeds_insertOrUpdate (context : Log.Context) (user : User)
    (workflowId : String) (fields : EntryFields) :
    (insertOrUpdate context user workflowId fields).Heeds .inside := by
  apply heeds_bind (heeds_fresh _)
  intro id
  apply heeds_bind heeds_now
  intro moment
  apply heeds_bind (heeds_storing _)
  intro snapshot
  apply heeds_inserts_bind
  · intro inserted
    cases inserted with
    | true => exact heeds_bind (heeds_log _ _) fun _ => heeds_pure _
    | false =>
        apply heeds_bind (heeds_entryByOrigin? Consequence.allowsRaw_inside _ _)
        intro found
        cases found with
        | none => exact heeds_fail _
        | some existing =>
            apply heeds_bind (heeds_log _ _)
            exact fun _ =>
              heeds_updateEntry Consequence.allowsRaw_inside existing fields
  · apply recovers_entryByOrigin?
    · exact fun _ _ => .inl ⟨_, rfl⟩
    · intro existing environment before
      have heeds : Work.Heeds _ Consequence.inside :=
        heeds_republishing existing fields
      rw [outcome_bind, outcome_log]
      exact .inr (.inr (mem_calls_change heeds _ _))

theorem heeds_placeEntry (context : Log.Context) (user : User)
    (workflowId : String) (fields : EntryFields) :
    (placeEntry context user workflowId fields).Heeds .inside := by
  apply heeds_bind
    (heeds_entryByOrigin? Consequence.allowsRaw_inside workflowId user.id)
  intro found
  cases found with
  | none => exact heeds_insertOrUpdate context user workflowId fields
  | some existing =>
      apply heeds_bind
        (heeds_updateEntry Consequence.allowsRaw_inside existing fields)
      exact fun entry => heeds_bind (heeds_log _ _) fun _ => heeds_pure _

theorem writeEntry_reports (context : Log.Context) (user : User)
    (workflowId : String) (fields : EntryFields) :
    (writeEntry context user workflowId fields).Reports .operation := by
  apply reports_transaction
  refine heeds_bind (heeds_bind
    (heeds_placeEntry context user workflowId fields) fun entry => ?_) heeds_shown
  exact heeds_bind (heeds_commit Consequence.allowsRaw_inside) fun _ => heeds_pure _

theorem writeDescribed_reports (context : Log.Context) (user : User)
    (request : PublishRequest) (graph : GraphCopy) (description : Wide) :
    (writeDescribed context user request graph description).Reports .operation := by
  rw [writeDescribed]
  split
  · exact writeEntry_reports _ user _ _
  · exact (writeEntry_reports _ user _ _).unbound _ _

theorem beginPublish_reports (user : User) (request : PublishRequest) :
    (beginPublish user request).Reports .operation :=
  reports_bind reports_read fun _ =>
    reports_transaction (heeds_snapshotFor _ user _ request.workflowId)

theorem finishPublish_reports (user : User) (request : PublishRequest)
    (name : Value) (graph : GraphCopy) :
    (finishPublish user request name graph).Reports .operation := by
  have describes : (descriptionFor (.ofCall user.id "publish") request name
      graph).Reports .operation := by
    rw [descriptionFor]
    split
    · exact describe_reports _ name graph
    · exact reports_pure _
  exact reports_bind describes fun description =>
    writeDescribed_reports _ user request graph description

theorem publish_reports (user : User) (request : PublishRequest) :
    (publish user request).Reports .operation :=
  reports_bind (beginPublish_reports user request) fun taken =>
    finishPublish_reports user request taken.1 taken.2

/-! ## Importing and deleting -/

theorem heeds_countDownload (user : User) (entryId : String) (entry : Entry) :
    (countDownload user entryId entry).Heeds .inside := by
  rw [countDownload]
  split
  · apply heeds_bind
      (heeds_incrementDownloads Consequence.allowsRaw_inside entryId 1)
    intro affected
    split
    · exact heeds_refuse _
    · exact heeds_pure _
  · exact heeds_pure _

theorem importEntry_reports (user : User) (entryId : String) :
    (importEntry user entryId).Reports .operation := by
  apply reports_transaction
  apply heeds_bind (heeds_entryWith? Consequence.allowsRaw_inside entryId)
  intro found
  cases found with
  | none => exact heeds_refuse _
  | some entry =>
      dsimp only
      split
      · exact heeds_refuse _
      · apply heeds_bind (heeds_copied _ _)
        intro graph
        apply heeds_bind
          (heeds_personalProject Consequence.allowsRaw_inside user.id)
        intro project
        apply heeds_bind (heeds_insertWorkflow Consequence.allowsRaw_inside _)
        intro workflow
        apply heeds_bind (heeds_linkOwner Consequence.allowsRaw_inside _ _)
        intro _
        apply heeds_bind (heeds_countDownload user entryId entry)
        intro _
        apply heeds_bind (heeds_commit Consequence.allowsRaw_inside)
        intro _
        apply heeds_bind (heeds_log _ _)
        exact fun _ => heeds_ofExcept _

theorem delete_reports (user : User) (entryId : String) :
    (delete user entryId).Reports .operation := by
  apply reports_transaction
  apply heeds_bind (heeds_entryWith? Consequence.allowsRaw_inside entryId)
  intro found
  cases found with
  | none => exact heeds_refuse _
  | some entry =>
      dsimp only
      split
      · exact heeds_refuse _
      · apply heeds_bind (heeds_deleteEntry Consequence.allowsRaw_inside entryId)
        intro removed
        apply heeds_bind (heeds_commit Consequence.allowsRaw_inside)
        exact fun _ => heeds_log _ _

end Catalog

/-! ## Workflows -/

namespace Workflows

open Work

theorem create_reports (user : User) (request : CreateRequest) :
    (create user request).Reports .creation := by
  apply reports_transaction
  apply heeds_bind (heeds_personalProject Consequence.allowsRaw_inside user.id)
  intro project
  apply heeds_bind (heeds_insertWorkflow Consequence.allowsRaw_inside _)
  intro workflow
  apply heeds_bind (heeds_linkOwner Consequence.allowsRaw_inside _ _)
  intro _
  apply heeds_bind (heeds_commit Consequence.allowsRaw_inside)
  intro _
  exact heeds_bind (heeds_log _ _) fun _ => heeds_ofExcept _

theorem update_reports (user : User) (workflowId : String)
    (request : UpdateRequest) :
    (update user workflowId request).Reports .update := by
  have bare (error : DatabaseError) :
      request.bare.mapError Failure.fault ≠ .error (.database error) := by
    cases request.bare <;> simp [Except.mapError]
  apply reports_bind (reports_ofExcept bare)
  intro request
  apply reports_transaction
  apply heeds_bind (heeds_accessible? Consequence.allowsRaw_inside user _ _)
  intro found
  cases found with
  | none =>
      apply heeds_bind (heeds_accessible? Consequence.allowsRaw_inside user _ _)
      intro found
      cases found <;> exact heeds_refuse _
  | some row =>
      dsimp only
      split
      · exact heeds_ofExcept _
      · apply heeds_bind (heeds_updateWorkflow Consequence.allowsRaw_inside _ _)
        intro updated
        apply heeds_bind (heeds_commit Consequence.allowsRaw_inside)
        intro _
        exact heeds_bind (heeds_log _ _) fun _ => heeds_ofExcept _

/-- Work fails like its first part when nothing can fail after that. -/
theorem error_bind_pure {α β : Type} (environment : Environment)
    (before : Session) (work : Work α) (next : α → β) (failure : Failure) :
    ((work >>= fun result => pure (next result)).outcome environment before).1 =
        .error failure ↔
      (work.outcome environment before).1 = .error failure := by
  rw [outcome_bind]
  rcases work.outcome environment before with ⟨other | result, after⟩
  · simp
  · simp [outcome_pure]

/-- Showing a workflow ends in just the error that its lookup meets. -/
theorem get_eq_database (environment : Environment) (before : Session)
    (user : User) (workflowId : String) (error : DatabaseError) :
    ((get user workflowId).outcome environment before).1 =
        .error (.database error) ↔
      environment.mishap before.calls .accessibleWorkflow =
        some (.error error) := by
  have calls : before.discarded.calls = before.calls := rfl
  rw [get, outcome_unit, outcome_bind, accessible?, outcome_call, calls]
  cases met : environment.mishap before.calls .accessibleWorkflow with
  | none =>
      simp only [outcome_bind, outcome_store, outcome_pure]
      cases (before.discarded.noted .accessibleWorkflow).draft.accessibleWorkflow?
        user [Scope.read] workflowId with
      | none => simp [outcome_refuse]
      | some row => simp [shown, outcome_ofExcept, Fit.toExcept_ne_database]
  | some mishap =>
      cases mishap with
      | error found => simp
      | fault found => simp
      | nothing => simp [outcome_refuse]

/-- So does showing a workflow whose identifier is sent as what no database takes. -/
theorem get_eq_database_of_refused {id : Value} {error : DatabaseError}
    (refused : Datum.ofValue id = .error (.database error))
    (environment : Environment) (before : Session) (user : User)
    (calm : environment.mishap before.calls .accessibleWorkflow = none) :
    ((withId (· == .accessibleWorkflow) id (get user)).outcome environment
      before).1 = .error (.database error) := by
  simp only [withId, refused, mishapOf, outcome_unbound, get_eq_database,
    Environment.sending, calm]
  rfl

end Workflows

/-! ## Turns -/

/-- What a turn reports as undone when the store meets an error; showing a workflow
reports nothing. -/
def Turn.undone? : Turn → Option Undone
  | .act (.showWorkflow _ _) => none
  | .act (.create _ _ _) => some .creation
  | .act (.update _ _ _ _) => some .update
  | _ => some .operation

/-- An environment in which every use of the store fails. -/
def Fair.storm : Environment :=
  { weather with mishap := fun _ _ => some (.error .operational) }

namespace World

open Work

theorem turn_reports (world : World) {turn : Turn} {undone : Undone}
    (reported : turn.undone? = some undone) :
    (world.work turn).Reports undone := by
  have acts {action : Action} (reports : action.perform.Reports undone) :
      (world.work (.act action)).Reports undone :=
    reports_bind reports fun _ => reports_pure none
  cases turn with
  | act action =>
      apply acts
      cases action with
      | showWorkflow => cases reported
      | findAll user =>
          cases reported
          exact (Catalog.findAll_reports user).done
      | showEntry user entryId =>
          cases reported
          exact (Catalog.get_reports user entryId).done
      | findUserWorkflows user =>
          cases reported
          exact (Catalog.findUserWorkflows_reports user).done
      | preview user workflowId =>
          cases reported
          exact (Catalog.preview_reports user workflowId).done
      | publish user heap data =>
          cases reported
          exact reports_reading fun request =>
            (Catalog.publish_reports user request).done
      | importEntry user entryId =>
          cases reported
          exact (Catalog.importEntry_reports user entryId).done
      | delete user entryId =>
          cases reported
          exact Catalog.delete_reports user entryId
      | create user heap data =>
          cases reported
          exact reports_reading fun request =>
            (Workflows.create_reports user request).done
      | update user workflowId heap data =>
          cases reported
          exact reports_reading fun request =>
            (Workflows.update_reports user workflowId request).done
  | begin user heap data =>
      cases reported
      apply reports_reading
      intro request
      rw [map_eq_pure_bind]
      exact reports_bind (reports_bind (Catalog.beginPublish_reports user request)
        fun taken => reports_pure _) fun publication => reports_pure _
  | finish position =>
      cases reported
      rw [work]
      cases world.waiting[position]? with
      | none => exact reports_pure none
      | some publication =>
          exact reports_bind (Catalog.finishPublish_reports _ _ _ _) fun _ =>
            reports_pure none

/-- In every world and environment a turn that does more than to show a workflow never
ends in an error of the database, and reports each one that its uses of the store meet,
in the same words whatever the error is.  The one exception is a key that is broken by
inserting an entry: then the entry that is there is updated, if the host does not fail
on the way.  Showing a workflow ends in just the error that its lookup meets. -/
theorem database_errors_are_reported (world : World) (environment : Environment)
    (turn : Turn) :
    let result := (world.outcome environment turn).1
    let calls := (world.outcome environment turn).2.calls
    match turn.undone? with
    | some undone =>
      (∀ error, result ≠ .error (.database error)) ∧
      ∀ call error, environment.Meets [] calls call error →
        result = .error (.because (.notSaved undone)) ∨
          call.Collides error ∧
            (.updateEntry ∈ calls ∨ ∃ found, result = .error (.fault found))
    | none =>
      ∃ user workflowId, turn = .act (.showWorkflow user workflowId) ∧
        ∀ error, result = .error (.database error) ↔
          environment.mishap [] .accessibleWorkflow = some (.error error) := by
  intro result calls
  split
  next undone reported =>
    rcases world.turn_reports reported with ⟨hides, heeds⟩
    refine ⟨hides environment world.session, fun call error meets => ?_⟩
    rcases (heeds environment world.session).2 call error meets with
      ⟨_, updated, collides, rfl⟩ | ⟨_, failed, rfl | ⟨collides, found, rfl⟩⟩
    · exact .inr ⟨collides, .inl updated⟩
    · exact .inl failed
    · exact .inr ⟨collides, .inr ⟨found, failed⟩⟩
  next shows =>
    cases turn with
    | begin | finish => cases shows
    | act action =>
        cases action with
        | showWorkflow user workflowId =>
            refine ⟨user, workflowId, rfl, fun error => ?_⟩
            have shown : result = .error (.database error) ↔
                ((Workflows.get user workflowId).done.outcome environment
                  world.session).1 = .error (.database error) :=
              Workflows.error_bind_pure environment world.session _ _ _
            exact (shown.trans
              (Workflows.error_bind_pure environment world.session _ _ _)).trans
              (Workflows.get_eq_database environment world.session user workflowId
                error)
        | _ => cases shows

/-- Not every operation reports the errors that it meets: when the author looks at a
workflow while the store fails, the error comes out as it is. -/
theorem not_every_error_is_reported :
    ¬∀ (users : List User) (projects : List Project)
      (memberships : List Membership) (counters : Counters)
      (turns : List (Environment × Turn)) (environment : Environment)
      (turn : Turn) (call : StoreCall) (error : DatabaseError),
      let world := (start users projects memberships counters).run turns
      environment.Meets [] (world.outcome environment turn).2.calls call error →
        ¬call.Collides error → ∃ undone,
          (world.outcome environment turn).1 =
            .error (.because (.notSaved undone)) := by
  intro always
  have outcome : (Fair.start.outcome Fair.storm (.act (.showWorkflow
      (Fair.member "author") (Identifier.Kind.workflow.numbered 1)))).1 =
      .error (.database .operational) := rfl
  rcases always Fair.members Fair.projects Fair.memberships {} [] Fair.storm
    (.act (.showWorkflow (Fair.member "author")
      (Identifier.Kind.workflow.numbered 1))) .accessibleWorkflow .operational
    ⟨[], List.suffix_refl _, List.suffix_refl _, rfl⟩
    (by rintro ⟨⟨⟩, -⟩) with ⟨undone, reported⟩
  cases outcome.symm.trans reported

end World

end WorkflowExchange

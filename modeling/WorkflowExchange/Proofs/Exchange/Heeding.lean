import WorkflowExchange.Proofs.Exchange.Calm

/-!
# Errors of the database

A use of the store that meets an error of the database breaks off the work that it is
part of.  What is to come of such an error is a `Consequence`, and `Work.Heeds` says
that it does come of it, whichever use of the store meets the error.  There is one rule
for each way of making work, so that every operation is followed along its own lines,
with nothing said about the session.
-/

namespace WorkflowExchange

/-! ## Calls that meet an error -/

namespace Environment

/-- Between some calls and later ones a call meets an error of the database. -/
def Meets (environment : Environment) (before after : List StoreCall)
    (call : StoreCall) (error : DatabaseError) : Prop :=
  ∃ earlier, before <:+ earlier ∧ call :: earlier <:+ after ∧
    environment.mishap earlier call = some (.error error)

variable {environment : Environment} {before middle after : List StoreCall}
  {call made : StoreCall} {error : DatabaseError}

theorem not_meets_self : ¬environment.Meets before before call error := by
  rintro ⟨earlier, grown, ended, -⟩
  have longer := grown.length_le
  have shorter := ended.length_le
  rw [List.length_cons] at shorter
  omega

/-- The only call that is made can meet an error. -/
theorem Meets.of_cons
    (meets : environment.Meets before (made :: before) call error) :
    call = made ∧ environment.mishap before made = some (.error error) := by
  rcases meets with ⟨earlier, grown, ended, met⟩
  rcases List.suffix_cons_iff.mp ended with equal | within
  · cases equal
    exact ⟨rfl, met⟩
  · exact absurd ⟨earlier, grown, within, met⟩ not_meets_self

/-- An error that is met on the way is met on one of its parts. -/
theorem Meets.split (meets : environment.Meets before after call error)
    (further : middle <:+ after) :
    environment.Meets before middle call error ∨
      environment.Meets middle after call error := by
  rcases meets with ⟨earlier, grown, ended, met⟩
  rcases List.suffix_or_suffix_of_suffix ended further with within | beyond
  · exact .inl ⟨earlier, grown, within, met⟩
  · rcases List.suffix_cons_iff.mp beyond with equal | later
    · exact .inl ⟨earlier, grown, equal ▸ List.suffix_refl _, met⟩
    · exact .inr ⟨earlier, later, ended, met⟩

/-- What a call meets it meets also where some calls send what the database does not
take. -/
theorem Meets.sending (meets : environment.Meets before after call error)
    (sends : StoreCall → Bool) (mishap : Mishap) :
    (environment.sending sends mishap).Meets before after call error := by
  rcases meets with ⟨earlier, grown, ended, met⟩
  refine ⟨earlier, grown, ended, ?_⟩
  simp only [Environment.sending, met]

end Environment

/-! ## Consequences -/

/-- What is to come of an error of the database that a call meets: the later calls
after which the work has got over it, and the failures that it ends in otherwise. -/
structure Consequence where
  overcome : StoreCall → DatabaseError → StoreCall → Prop
  failures : StoreCall → DatabaseError → Failure → Prop

/-- An error that a call meets may end the work as it is. -/
def Consequence.AllowsRaw (consequence : Consequence) (call : StoreCall) : Prop :=
  ∀ error, consequence.failures call error (.database error)

namespace Work

variable {α β : Type} {consequence : Consequence}

/-- Whichever call meets an error, the consequence comes of it. -/
def Heeds (work : Work α) (consequence : Consequence) : Prop :=
  ∀ (environment : Environment) (before : Session),
    before.calls <:+ (work.outcome environment before).2.calls ∧
    ∀ call error,
      environment.Meets before.calls (work.outcome environment before).2.calls
        call error →
      (∃ later ∈ (work.outcome environment before).2.calls,
        consequence.overcome call error later) ∨
      ∃ failure, (work.outcome environment before).1 = .error failure ∧
        consequence.failures call error failure

/-- Work heeds errors also where some calls send what the database does not take. -/
theorem Heeds.unbound {work : Work α} (heeds : work.Heeds consequence)
    (sends : StoreCall → Bool) (mishap : Mishap) :
    (Work.unbound sends mishap work).Heeds consequence := by
  intro environment before
  rcases heeds (environment.sending sends mishap) before with ⟨grown, comes⟩
  exact ⟨grown, fun call error meets => comes call error (meets.sending sends mishap)⟩

/-- Work that makes no call meets no error. -/
theorem heeds_of_calls_eq {work : Work α}
    (silent : ∀ environment before,
      (work.outcome environment before).2.calls = before.calls) :
    work.Heeds consequence := by
  intro environment before
  rw [silent]
  exact ⟨List.suffix_refl _, fun _ _ meets => absurd meets Environment.not_meets_self⟩

theorem heeds_pure (result : α) : (pure result : Work α).Heeds consequence :=
  heeds_of_calls_eq fun _ _ => rfl

theorem heeds_fail (failure : Failure) :
    (fail failure : Work α).Heeds consequence :=
  heeds_of_calls_eq fun _ _ => rfl

theorem heeds_refuse (cause : Cause) :
    (refuse cause : Work α).Heeds consequence :=
  heeds_of_calls_eq fun _ _ => rfl

theorem heeds_read : (read : Work Environment).Heeds consequence :=
  heeds_of_calls_eq fun _ _ => rfl

theorem heeds_now : now.Heeds consequence :=
  heeds_of_calls_eq fun _ _ => rfl

theorem heeds_store : store.Heeds consequence :=
  heeds_of_calls_eq fun _ _ => rfl

theorem heeds_setStore (draft : Store) : (setStore draft).Heeds consequence :=
  heeds_of_calls_eq fun _ _ => rfl

theorem heeds_log (context : Log.Context) (message : Log.Message) :
    (log context message).Heeds consequence :=
  heeds_of_calls_eq fun _ _ => rfl

theorem heeds_fresh (kind : Identifier.Kind) :
    (fresh kind).Heeds consequence :=
  heeds_of_calls_eq fun _ _ => by rw [outcome_fresh]

theorem heeds_ofExcept (outcome : Except Failure α) :
    (ofExcept outcome).Heeds consequence :=
  heeds_of_calls_eq fun _ _ => by rw [outcome_ofExcept]

theorem heeds_ofTrial (context : Log.Context) (trial : Trial Failure α) :
    (ofTrial context trial).Heeds consequence :=
  heeds_of_calls_eq fun _ _ => by rw [outcome_ofTrial, calls_told_each]

theorem heeds_storing (prepared : Prepared α) :
    (storing prepared).Heeds consequence :=
  heeds_ofExcept _

theorem heeds_setAdded (store? : Option Store) :
    (setAdded store?).Heeds consequence := by
  cases store? with
  | none => exact heeds_fail _
  | some draft => exact heeds_setStore draft

theorem heeds_bind {first : Work α} {next : α → Work β}
    (heeds : first.Heeds consequence)
    (continues : ∀ result, (next result).Heeds consequence) :
    (first >>= next).Heeds consequence := by
  intro environment before
  rcases heeds environment before with ⟨grown, comes⟩
  rw [outcome_bind]
  rcases ended : first.outcome environment before with ⟨failure | result, middle⟩
  · rw [ended] at grown comes
    refine ⟨grown, fun call error meets => ?_⟩
    rcases comes call error meets with overcome | ⟨_, failed, holds⟩
    · exact .inl overcome
    · cases failed
      exact .inr ⟨failure, rfl, holds⟩
  · rw [ended] at grown comes
    rcases continues result environment middle with ⟨further, follows⟩
    refine ⟨grown.trans further, fun call error meets => ?_⟩
    rcases meets.split further with early | late
    · rcases comes call error early with ⟨later, made, overcome⟩ | ⟨_, failed, -⟩
      · exact .inl ⟨later, further.mem made, overcome⟩
      · cases failed
    · exact follows call error late

theorem heeds_mapM {items : List α} {work : α → Work β}
    (heeds : ∀ item, (work item).Heeds consequence) :
    (items.mapM work).Heeds consequence := by
  induction items with
  | nil => exact heeds_pure []
  | cons item rest hypothesis =>
      rw [List.mapM_cons]
      exact heeds_bind (heeds item) fun _ =>
        heeds_bind hypothesis fun _ => heeds_pure _

/-- A use of the store ends as it is when it meets an error, and otherwise goes on
with its work or stops. -/
theorem heeds_of_noted {call : StoreCall} {work other : Work α}
    (raw : consequence.AllowsRaw call) (heeds : other.Heeds consequence)
    (fails : ∀ environment before error,
      environment.mishap before.calls call = some (.error error) →
        work.outcome environment before =
          (.error (.database error), before.noted call))
    (ends : ∀ environment before,
      (∀ error, environment.mishap before.calls call ≠ some (.error error)) →
        work.outcome environment before =
            other.outcome environment (before.noted call) ∨
          (work.outcome environment before).2 = before.noted call) :
    work.Heeds consequence := by
  intro environment before
  have noted : before.calls <:+ (before.noted call).calls :=
    List.suffix_cons _ _
  by_cases met : ∃ error,
      environment.mishap before.calls call = some (.error error)
  · rcases met with ⟨found, met⟩
    rw [fails environment before found met]
    refine ⟨noted, fun made error meets => .inr ?_⟩
    rcases meets.of_cons with ⟨rfl, again⟩
    cases met.symm.trans again
    exact ⟨_, rfl, raw _⟩
  · have unmet (error : DatabaseError) :
        environment.mishap before.calls call ≠ some (.error error) :=
      fun equal => met ⟨error, equal⟩
    have quiet (made : StoreCall) (error : DatabaseError) :
        ¬environment.Meets before.calls (before.noted call).calls made error :=
      fun meets => unmet error meets.of_cons.2
    rcases ends environment before unmet with same | stopped
    · rw [same]
      rcases heeds environment (before.noted call) with ⟨grown, comes⟩
      refine ⟨noted.trans grown, fun made error meets => ?_⟩
      rcases meets.split grown with early | late
      · exact absurd early (quiet made error)
      · exact comes made error late
    · rw [stopped]
      exact ⟨noted, fun made error meets => absurd meets (quiet made error)⟩

theorem heeds_call {call : StoreCall} {none : α} {work : Work α}
    (raw : consequence.AllowsRaw call) (heeds : work.Heeds consequence) :
    (Work.call call none work).Heeds consequence := by
  apply heeds_of_noted raw heeds
  · intro environment before error met
    rw [outcome_call, met]
  · intro environment before unmet
    rw [outcome_call]
    cases met : environment.mishap before.calls call with
    | none => exact .inl rfl
    | some mishap =>
        cases mishap with
        | error error => exact absurd met (unmet error)
        | fault | nothing => exact .inr rfl

theorem heeds_change {call : StoreCall} {work : Work α}
    (raw : consequence.AllowsRaw call) (heeds : work.Heeds consequence) :
    (change call work).Heeds consequence := by
  apply heeds_of_noted raw heeds
  · intro environment before error met
    rw [outcome_change, met]
  · intro environment before unmet
    rw [outcome_change]
    cases met : environment.mishap before.calls call with
    | none => exact .inl rfl
    | some mishap =>
        cases mishap with
        | error error => exact absurd met (unmet error)
        | fault => exact .inr rfl
        | nothing => exact .inl rfl

/-- A change is noted, whatever it meets. -/
theorem mem_calls_change {call : StoreCall} {work : Work α}
    (heeds : work.Heeds consequence) (environment : Environment)
    (before : Session) :
    call ∈ ((change call work).outcome environment before).2.calls := by
  have made : call ∈ (before.noted call).calls := List.mem_cons_self
  have later := (heeds environment (before.noted call)).1.mem made
  rw [outcome_change]
  split
  · exact made
  · exact made
  · exact later

/-! ## Uses of the store -/

/-- The part of updating an entry that comes after the call was made. -/
theorem heeds_republishing (entry : Entry) (fields : EntryFields) :
    (do
      let snapshot ← storing (Column.json.changed (.ofJson entry.snapshot)
        entry.snapshot (some fields.snapshot))
      let updated := entry.republished fields snapshot (← now)
      setStore ((← store).replaceEntry updated)
      pure updated : Work Entry).Heeds consequence := by
  apply heeds_bind (heeds_storing _)
  intro snapshot
  apply heeds_bind heeds_now
  intro moment
  apply heeds_bind heeds_store
  intro present
  exact heeds_bind (heeds_setStore _) fun _ => heeds_pure _

section Calls

variable (raw : ∀ call, consequence.AllowsRaw call)

include raw

theorem heeds_lookup {call : StoreCall} {none : α} (query : Store → α) :
    (Work.call call none (do pure (query (← store)))).Heeds consequence :=
  heeds_call (raw call) (heeds_bind heeds_store fun _ => heeds_pure _)

theorem heeds_commit : commit.Heeds consequence :=
  heeds_change (raw .commit) (heeds_of_calls_eq fun _ _ => rfl)

theorem heeds_personalProject (userId : String) :
    (personalProject userId).Heeds consequence := by
  apply heeds_bind (heeds_lookup raw fun draft => draft.personalProject? userId)
  intro found
  cases found with
  | none => exact heeds_refuse _
  | some project => exact heeds_pure project

theorem heeds_accessible? (user : User) (scopes : List Scope)
    (workflowId : String) :
    (accessible? user scopes workflowId).Heeds consequence :=
  heeds_lookup raw fun draft => draft.accessibleWorkflow? user scopes workflowId

theorem heeds_insertWorkflow (draft : WorkflowDraft) :
    (insertWorkflow draft).Heeds consequence := by
  apply heeds_bind (heeds_fresh _)
  intro id
  apply heeds_bind (heeds_fresh _)
  intro versionId
  apply heeds_bind heeds_now
  intro moment
  apply heeds_change (raw .insertWorkflow)
  apply heeds_bind (heeds_storing _)
  intro row
  apply heeds_bind heeds_store
  intro present
  exact heeds_bind (heeds_setAdded _) fun _ => heeds_pure _

theorem heeds_linkOwner (workflowId projectId : String) :
    (linkOwner workflowId projectId).Heeds consequence := by
  apply heeds_change (raw .linkOwner)
  apply heeds_bind heeds_store
  intro present
  exact heeds_bind heeds_now fun _ => heeds_setAdded _

theorem heeds_updateWorkflow (workflow : LoadedWorkflow) (changes : Changes) :
    (updateWorkflow workflow changes).Heeds consequence := by
  have versions : (versionAfter workflow changes).Heeds consequence := by
    rw [versionAfter]
    split
    · exact heeds_fresh _
    · exact heeds_pure _
  apply heeds_change (raw .updateWorkflow)
  apply heeds_bind versions
  intro versionId
  apply heeds_bind (heeds_storing _)
  intro changed
  apply heeds_bind heeds_now
  intro moment
  apply heeds_bind heeds_store
  intro present
  exact heeds_bind (heeds_setStore _) fun _ => heeds_pure _

theorem heeds_entryWith? (id : String) : (entryWith? id).Heeds consequence :=
  heeds_lookup raw fun draft => draft.entryWith? id

theorem heeds_entryByOrigin? (workflowId userId : String) :
    (entryByOrigin? workflowId userId).Heeds consequence :=
  heeds_lookup raw fun draft => draft.entryByOrigin? workflowId userId

theorem heeds_updateEntry (entry : Entry) (fields : EntryFields) :
    (updateEntry entry fields).Heeds consequence :=
  heeds_change (raw .updateEntry) (heeds_republishing entry fields)

theorem heeds_incrementDownloads (id : String) (amount : Int) :
    (incrementDownloads id amount).Heeds consequence := by
  apply heeds_call (raw .incrementDownloads)
  split
  · exact heeds_of_calls_eq fun _ _ => rfl
  · apply heeds_bind heeds_store
    intro present
    split
    · exact heeds_pure _
    · apply heeds_bind heeds_now
      intro moment
      apply heeds_bind heeds_store
      intro present
      exact heeds_bind (heeds_setStore _) fun _ => heeds_pure _

theorem heeds_deleteEntry (id : String) :
    (deleteEntry id).Heeds consequence := by
  apply heeds_call (raw .deleteEntry)
  apply heeds_bind heeds_store
  intro present
  split
  · exact heeds_pure _
  · apply heeds_bind heeds_store
    intro present
    exact heeds_bind (heeds_setStore _) fun _ => heeds_pure _

end Calls

end Work

end WorkflowExchange

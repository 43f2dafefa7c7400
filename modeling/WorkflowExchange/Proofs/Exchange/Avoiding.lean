import WorkflowExchange.Proofs.Exchange.Sound

/-!
# Causes that work avoids

Work that fails for a cause refuses on purpose.  Uses of the store fail with faults and
errors of the database, and what is prepared for the store fails so, too; so a cause
comes from the places only where the work refuses for it.  There is one rule for each
way of making work.

The cause that is looked at here is that a user has no personal project.  Creating a
workflow and importing an entry avoid it for a user who has one, whatever mishaps they
meet: a lookup can fail then, but what is there is found.
-/

namespace WorkflowExchange

/-- A lookup that does not fail finds what is there. -/
def Environment.Finds (environment : Environment) (call : StoreCall) : Prop :=
  ∀ calls, environment.mishap calls call ≠ some .nothing

/-! ## What is prepared -/

/-- Nothing that was prepared is refused for a cause. -/
def Prepared.Blameless {α : Type} (prepared : Prepared α) : Prop :=
  ∀ cause, prepared ≠ .refused (.because cause)

namespace Prepared

variable {α β : Type}

theorem Blameless.map {prepared : Prepared α} (blameless : prepared.Blameless)
    (change : α → β) : (change <$> prepared).Blameless := by
  intro cause equal
  cases prepared with
  | refused failure =>
      cases equal
      exact blameless cause rfl
  | ready | malformed | lacking => cases equal

theorem Blameless.seq {first : Prepared (α → β)} {second : Prepared α}
    (one : first.Blameless) (other : second.Blameless) :
    (first <*> second).Blameless := by
  intro cause equal
  cases first with
  | refused failure =>
      cases second <;> cases equal
      all_goals exact one cause rfl
  | malformed => cases equal
  | ready | lacking =>
      cases second <;> cases equal
      exact other cause rfl

theorem Blameless.toExcept_ne {prepared : Prepared α} (blameless : prepared.Blameless)
    (cause : Cause) : prepared.toExcept ≠ .error (.because cause) := by
  intro equal
  cases prepared with
  | refused failure =>
      cases equal
      exact blameless cause rfl
  | ready | malformed | lacking => cases equal

end Prepared

/-- Whatever a column is given, it is not refused for a cause. -/
def Column.Blameless {α : Type} (column : Column α) : Prop :=
  ∀ value, (column value).Blameless

namespace Column

variable {α : Type}

/-- A value that no column takes is one that the database does not take. -/
theorem blameless_keeping (keep : Datum → Option α) :
    (Column.keeping keep).Blameless := by
  intro value cause equal
  rw [keeping, Datum.ofValue] at equal
  split at equal
  · cases equal
  · rename_i failure failed
    cases equal
    split at failed
    case h_3 => split at failed <;> cases failed
    all_goals cases failed

theorem Blameless.required {column : Column (Option α)} (blameless : column.Blameless) :
    column.required.Blameless := by
  intro value cause equal
  rw [Column.required] at equal
  split at equal
  case h_4 failure refused =>
    cases equal
    exact blameless value cause refused
  all_goals cases equal

theorem Blameless.orElse {column : Column α} (blameless : column.Blameless)
    (default : α) : (column.orElse default).Blameless := by
  intro value cause equal
  unfold Column.orElse at equal
  split at equal
  · cases equal
  · exact blameless _ cause equal

theorem blameless_truth : Column.truth.Blameless := by
  intro value cause equal
  rw [truth] at equal
  split at equal
  case h_3 =>
    split at equal
    · cases equal
    · split at equal <;> cases equal
  all_goals cases equal

theorem blameless_moment : Column.moment.Blameless := by
  intro value cause equal
  unfold moment at equal
  split at equal
  · split at equal
    · split at equal <;> cases equal
    · cases equal
  · cases equal

theorem blameless_json : Column.json.Blameless := by
  intro value cause equal
  rw [json] at equal
  split at equal <;> cases equal

end Column

theorem WorkflowDraft.blameless_prepared (draft : WorkflowDraft) (id versionId : String)
    (moment : Moment) : (draft.prepared id versionId moment).Blameless := by
  have name : (Column.text draft.name).Blameless :=
    (Column.blameless_keeping _).required _
  have active := (Column.blameless_truth.orElse false) draft.active
  have graph : draft.graph.prepared.Blameless :=
    (((Column.blameless_json _).map _).seq (Column.blameless_json _)
      |>.seq (Column.blameless_json _)).seq (Column.blameless_json _)
  have stamps : (Stamps.prepared moment draft.createdAt draft.updatedAt).Blameless :=
    (Prepared.Blameless.map (Column.blameless_moment.orElse moment _) _).seq
      (Column.blameless_moment.orElse moment _)
  exact (((name.map _).seq active).seq graph).seq stamps

/-! ## Rules -/

namespace Work

variable {α β : Type} {cause : Cause} {environment : Environment} {before : Session}

/-- However work ends, it does not end for a cause. -/
def Avoids (work : Work α) (cause : Cause) (environment : Environment)
    (before : Session) : Prop :=
  (work.outcome environment before).1 ≠ .error (.because cause)

/-- Work that ends with a result avoids everything. -/
theorem avoids_of_ok {work : Work α} {result : α} {after : Session}
    (ended : work.outcome environment before = (.ok result, after)) :
    work.Avoids cause environment before := by
  intro failed
  rw [ended] at failed
  cases failed

theorem avoids_fail {failure : Failure} (other : failure ≠ .because cause) :
    (fail failure : Work α).Avoids cause environment before :=
  fun failed => other (Except.error.inj failed)

theorem avoids_refuse {given : Cause} (other : given ≠ cause) :
    (refuse given : Work α).Avoids cause environment before :=
  fun failed => other (Failure.because.inj (Except.error.inj failed))

theorem avoids_ofExcept {outcome : Except Failure α}
    (other : outcome ≠ .error (.because cause)) :
    (ofExcept outcome).Avoids cause environment before := by
  rw [Avoids, outcome_ofExcept]
  exact other

theorem avoids_fitting (reading : Fit α) :
    (ofExcept reading.toExcept).Avoids cause environment before :=
  avoids_ofExcept (by cases reading <;> rintro ⟨⟩)

theorem avoids_ofTrial {context : Log.Context} {trial : Trial Failure α}
    (other : trial.outcome ≠ .error (.because cause)) :
    (ofTrial context trial).Avoids cause environment before := by
  rw [Avoids, outcome_ofTrial]
  exact other

theorem avoids_bind {first : Work α} {next : α → Work β}
    (avoids : first.Avoids cause environment before)
    (continues : ∀ result middle,
      first.outcome environment before = (.ok result, middle) →
        (next result).Avoids cause environment middle) :
    (first >>= next).Avoids cause environment before := by
  rw [Avoids] at avoids ⊢
  rw [outcome_bind]
  rcases ended : first.outcome environment before with ⟨failure | result, middle⟩
  · rw [ended] at avoids
    intro failed
    cases failed
    exact avoids rfl
  · exact continues result middle ended

theorem avoids_call {call : StoreCall} {none : α} {work : Work α}
    (avoids : work.Avoids cause environment (before.noted call)) :
    (Work.call call none work).Avoids cause environment before := by
  rw [Avoids, outcome_call]
  split
  · exact avoids
  all_goals rintro ⟨⟩

theorem avoids_change {call : StoreCall} {work : Work α}
    (avoids : work.Avoids cause environment (before.noted call)) :
    (change call work).Avoids cause environment before := by
  rw [Avoids, outcome_change]
  split
  · rintro ⟨⟩
  · rintro ⟨⟩
  · exact avoids

theorem avoids_transaction {undone : Undone} {context : Log.Context} {work : Work α}
    (other : cause ≠ .notSaved undone)
    (avoids : work.Avoids cause environment before.discarded) :
    (transaction undone context work).Avoids cause environment before := by
  rw [Avoids] at avoids ⊢
  rw [outcome_transaction]
  split
  · intro failed
    cases failed
    exact other rfl
  · rename_i result after _ ended
    rw [ended] at avoids
    exact avoids

/-! ## Uses of the store -/

theorem avoids_setAdded (store? : Option Store) :
    (setAdded store?).Avoids cause environment before := by
  cases store? with
  | none => exact avoids_fail (by rintro ⟨⟩)
  | some store => exact avoids_of_ok rfl

theorem avoids_commit : commit.Avoids cause environment before :=
  avoids_change (avoids_of_ok rfl)

theorem avoids_insertWorkflow (draft : WorkflowDraft) :
    (insertWorkflow draft).Avoids cause environment before := by
  apply avoids_bind (avoids_of_ok (outcome_fresh _ _ _))
  intro id first _
  apply avoids_bind (avoids_of_ok (outcome_fresh _ _ _))
  intro versionId second _
  apply avoids_bind (avoids_of_ok (outcome_now _ _))
  intro moment third _
  apply avoids_change
  apply avoids_bind
    (avoids_ofExcept ((draft.blameless_prepared id versionId moment).toExcept_ne cause))
  intro row fourth _
  apply avoids_bind (avoids_of_ok (outcome_store _ _))
  intro present fifth _
  exact avoids_bind (avoids_setAdded _) fun _ _ _ => avoids_of_ok (outcome_pure _ _ _)

theorem avoids_linkOwner (workflowId projectId : String) :
    (linkOwner workflowId projectId).Avoids cause environment before := by
  apply avoids_change
  apply avoids_bind (avoids_of_ok (outcome_store _ _))
  intro present first _
  exact avoids_bind (avoids_of_ok (outcome_now _ _)) fun _ _ _ => avoids_setAdded _

theorem avoids_entryWith? (id : String) :
    (entryWith? id).Avoids cause environment before :=
  avoids_call (avoids_of_ok rfl)

theorem avoids_incrementDownloads (id : String) (amount : Int) :
    (incrementDownloads id amount).Avoids cause environment before := by
  apply avoids_call
  split
  · refine avoids_bind (avoids_fail (by rintro ⟨⟩)) fun _ _ ended => ?_
    cases ended
  · apply avoids_bind (avoids_of_ok (outcome_store _ _))
    intro present middle _
    split
    · exact avoids_of_ok (outcome_pure _ _ _)
    · exact avoids_of_ok rfl

/-- The personal project that a user has is found, or the lookup fails. -/
theorem avoids_personalProject {userId : String}
    (finds : environment.Finds .personalProject)
    (owned : (before.draft.personalProject? userId).isSome) :
    (personalProject userId).Avoids cause environment before := by
  rcases Option.isSome_iff_exists.mp owned with ⟨project, found⟩
  have kept : (before.noted .personalProject).draft.personalProject? userId =
      some project := found
  rw [Avoids, personalProject, outcome_bind, outcome_call]
  rcases met : environment.mishap before.calls .personalProject with _ | _ | _ | _
  · simp only [outcome_bind, outcome_store, outcome_pure, kept]
    rintro ⟨⟩
  · rintro ⟨⟩
  · rintro ⟨⟩
  · exact absurd met (finds _)

end Work

/-! ## Creating and importing -/

/-- A user with a personal project is never told that there is none when a workflow is
created, whatever is asked for. -/
theorem Workflows.create_avoids {environment : Environment} {before : Session}
    {user : User} (finds : environment.Finds .personalProject)
    (owned : (before.saved.personalProject? user.id).isSome) (request : CreateRequest) :
    (create user request).Avoids .personalProjectMissing environment before := by
  refine Work.avoids_transaction (by rintro ⟨⟩) ?_
  apply Work.avoids_bind (Work.avoids_personalProject finds owned)
  intro project first _
  apply Work.avoids_bind (Work.avoids_insertWorkflow _)
  intro workflow second _
  apply Work.avoids_bind (Work.avoids_linkOwner _ _)
  intro _ third _
  apply Work.avoids_bind Work.avoids_commit
  intro _ fourth _
  apply Work.avoids_bind (Work.avoids_of_ok (Work.outcome_log _ _ _ _))
  intro _ fifth _
  exact Work.avoids_fitting _

namespace Catalog

variable {environment : Environment} {before : Session} {user : User}

theorem avoids_copied (context : Log.Context) (members : List (String × Json)) :
    (copied context (.ofJson (.object members))).Avoids .personalProjectMissing
      environment before := by
  rcases Heap.copyGraph_ofJson .empty members with ⟨graph, copies, -⟩
  apply Work.avoids_ofTrial
  rw [copies]
  rintro ⟨⟩

theorem avoids_countDownload (entryId : String) (entry : Entry) :
    (countDownload user entryId entry).Avoids .personalProjectMissing environment
      before := by
  rw [countDownload]
  split
  · apply Work.avoids_bind (Work.avoids_incrementDownloads _ _)
    intro affected middle _
    split
    · exact Work.avoids_refuse (by rintro ⟨⟩)
    · exact Work.avoids_of_ok (Work.outcome_pure _ _ _)
  · exact Work.avoids_of_ok (Work.outcome_pure _ _ _)

/-- A user with a personal project is never told that there is none when an entry is
imported. -/
theorem importEntry_avoids (finds : environment.Finds .personalProject)
    (owned : (before.saved.personalProject? user.id).isSome)
    (objects : ∀ entry ∈ before.saved.entries, entry.snapshot.IsObject)
    (entryId : String) :
    (importEntry user entryId).Avoids .personalProjectMissing environment before := by
  refine Work.avoids_transaction (by rintro ⟨⟩) ?_
  apply Work.avoids_bind (Work.avoids_entryWith? entryId)
  intro found first finding
  rcases (Work.prepares_entryWith? entryId).of_ok finding with ⟨-, present, idle⟩
  cases found with
  | none => exact Work.avoids_refuse (by rintro ⟨⟩)
  | some entry =>
      by_cases closed : !isOpenTo entry user
      · simp only [closed, ↓reduceIte]
        exact Work.avoids_refuse (by rintro ⟨⟩)
      · simp only [closed, Bool.false_eq_true, ↓reduceIte]
        have held := (Store.entryWith?_eq_some (present entry rfl)).1
        rcases objects entry held with ⟨members, object⟩
        rw [object]
        apply Work.avoids_bind (avoids_copied _ members)
        intro graph second copying
        rcases (prepares_copied _ _).of_ok copying with ⟨-, -, secondIdle⟩
        have kept : second.draft = before.saved :=
          secondIdle.draft.trans idle.draft
        apply Work.avoids_bind
          (Work.avoids_personalProject finds (by rw [kept]; exact owned))
        intro project third _
        apply Work.avoids_bind (Work.avoids_insertWorkflow _)
        intro workflow fourth _
        apply Work.avoids_bind (Work.avoids_linkOwner _ _)
        intro _ fifth _
        apply Work.avoids_bind (avoids_countDownload _ _)
        intro _ sixth _
        apply Work.avoids_bind Work.avoids_commit
        intro _ seventh _
        apply Work.avoids_bind (Work.avoids_of_ok (Work.outcome_log _ _ _ _))
        intro _ eighth _
        exact Work.avoids_fitting _

end Catalog

end WorkflowExchange

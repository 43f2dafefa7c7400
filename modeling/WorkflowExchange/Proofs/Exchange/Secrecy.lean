import WorkflowExchange.Proofs.Exchange.Lockstep
import WorkflowExchange.Proofs.Exchange.Travel

/-!
# What is hidden stays hidden

A user who is no administrator learns nothing about workflows that the user may not
read and about private entries by someone else.  In two worlds that look alike to the
user every operation has the same result or the same error, and leaves worlds that look
alike, so that no sequence of calls tells them apart:
`World.answers_hide_foreign_content`.
-/

namespace WorkflowExchange

/-! ## Rights that include reading -/

namespace Role

variable {role : String}

theorem Grants.read_of_update (grants : Grants role [Scope.update]) :
    Grants role [Scope.read] :=
  grants.reading.mono (by decide)

theorem Grants.read_of_publish {strict : Bool}
    (grants : Grants role (Catalog.publishScopes strict)) :
    Grants role [Scope.read] := by
  cases strict with
  | false => exact grants
  | true => exact grants.mono (by decide)

end Role

/-- A user who is no administrator may read the workflows that are listed for
reading. -/
theorem Store.shares_of_mem_accessibleIds {store : Store} {user : User}
    {scopes : List Scope} {workflowId : String}
    (member : user.isGlobalAdmin = false)
    (listed : workflowId ∈ store.accessibleIds user scopes) :
    store.Shares user.id scopes workflowId := by
  simp only [accessibleIds, member, Bool.false_eq_true, ↓reduceIte, mem_distinct,
    List.mem_map, List.mem_filter, List.any_eq_true, Bool.and_eq_true,
    decide_eq_true_iff, List.contains_iff_mem, Role.mem_withScopes,
    and_assoc] at listed
  rcases listed with ⟨sharing, shared, ⟨membership, related, rest⟩, same⟩
  exact ⟨sharing, shared, membership, related, same, rest⟩

theorem Entry.Akin.isOpenTo_eq {entry twin : Entry} (akin : entry.Akin twin)
    (user : User) : Catalog.isOpenTo twin user = Catalog.isOpenTo entry user := by
  rw [Catalog.isOpenTo, Catalog.isOpenTo, akin.isPublic, akin.authorId]

/-! ## The catalog -/

namespace Catalog

open Work

variable {user : User} {environment : Environment} {one other : Session}

theorem repeats_copied (context : Log.Context) (source : Value)
    (twins : one.Twins user other) :
    (copied context source).Repeats user environment one other :=
  repeats_ofTrial _ _ twins

theorem repeats_shown (entry : Entry) (twins : one.Twins user other) :
    (shown entry).Repeats user environment one other :=
  repeats_ofExcept _ twins

theorem findAll_repeats (twins : one.Twins user other) :
    (findAll user).Repeats user environment one other := by
  apply repeats_transaction twins
  intro one other twins
  apply repeats_bind (repeats_lookup (fun draft => draft.visibleEntries user.id) twins
    twins.draft.visibleEntries_eq)
  intro entries after later twins
  exact repeats_mapM (fun entry _ _ twins => repeats_shown entry twins) entries twins

/-- A private entry by someone else is reported as missing, like one that is not
there. -/
theorem get_repeats (entryId : String) (twins : one.Twins user other) :
    (get user entryId).Repeats user environment one other := by
  apply repeats_transaction twins
  intro one other twins
  apply agrees_bind (agrees_entryWith? entryId twins)
  rintro _ _ after later twins (⟨rfl, rfl⟩ | ⟨entry, same, rfl, rfl, akin, equal⟩)
  · exact agrees_refuse twins
  simp only [akin.isOpenTo_eq]
  by_cases visible : isOpenTo entry user
  · obtain rfl := equal (.inl visible)
    simp only [visible, ↓reduceIte]
    apply repeats_bind (repeats_copied _ _ twins)
    intro graph after later twins
    apply repeats_bind (repeats_shown _ twins)
    intro summary after later twins
    exact agrees_pure twins rfl
  · simp only [visible, Bool.false_eq_true, ↓reduceIte]
    exact agrees_refuse twins

theorem findUserWorkflows_repeats (member : user.isGlobalAdmin = false)
    (twins : one.Twins user other) :
    (findUserWorkflows user).Repeats user environment one other := by
  apply repeats_transaction twins
  intro one other twins
  have listing : (Work.call .accessibleIds [] do
      pure ((← Work.store).accessibleIds user [Scope.read])).Agrees user environment
        (Work.call .accessibleIds [] do
          pure ((← Work.store).accessibleIds user [Scope.read])) one other
        fun ids twin after _ => twin = ids ∧
          ∀ id ∈ ids, after.draft.Shares user.id [Scope.read] id := by
    apply agrees_lookup (fun draft => draft.accessibleIds user [Scope.read]) twins
    · exact ⟨rfl, nofun⟩
    · exact ⟨twins.draft.accessibleIds_eq member _,
        fun id => Store.shares_of_mem_accessibleIds member⟩
  apply agrees_bind listing
  rintro _ ids after later twins ⟨rfl, readable⟩
  apply repeats_bind (repeats_lookup (fun draft => draft.workflowsWithIds ids) twins
    (twins.draft.workflowsWithIds_eq readable))
  intro workflows after later twins
  exact repeats_mapM (fun _ _ _ twins => repeats_ofExcept _ twins) workflows twins

/-! ### Publishing -/

theorem repeats_snapshotFor (context : Log.Context) {scopes : List Scope}
    (member : user.isGlobalAdmin = false)
    (reading : ∀ role, Role.Grants role scopes → Role.Grants role [Scope.read])
    (workflowId : String) (twins : one.Twins user other) :
    (snapshotFor context user scopes workflowId).Repeats user environment one
      other := by
  apply repeats_bind (repeats_accessible? member reading workflowId twins)
  intro found after later twins
  cases found with
  | none => exact agrees_refuse twins
  | some workflow =>
      apply repeats_bind (repeats_copied _ _ twins)
      intro graph after later twins
      exact agrees_pure twins rfl

theorem repeats_describe (context : Log.Context) (name : Value) (graph : GraphCopy)
    (twins : one.Twins user other) :
    (describe context name graph).Repeats user environment one other := by
  apply agrees_bind (agrees_read twins)
  rintro _ _ after later twins ⟨rfl, rfl⟩
  exact repeats_ofTrial _ _ twins

theorem preview_repeats (member : user.isGlobalAdmin = false) (workflowId : String)
    (twins : one.Twins user other) :
    (preview user workflowId).Repeats user environment one other := by
  apply repeats_bind (repeats_transaction twins fun _ _ twins =>
    repeats_snapshotFor _ member (fun _ grants => grants) workflowId twins)
  intro found after later twins
  exact repeats_describe _ _ _ twins

theorem beginPublish_repeats (member : user.isGlobalAdmin = false)
    (request : PublishRequest) (twins : one.Twins user other) :
    (beginPublish user request).Repeats user environment one other := by
  apply agrees_bind (agrees_read twins)
  rintro _ _ after later twins ⟨rfl, rfl⟩
  exact repeats_transaction twins fun _ _ twins =>
    repeats_snapshotFor _ member (fun _ => Role.Grants.read_of_publish)
      request.workflowId twins

theorem repeats_inserts (entry : Entry) (twins : one.Twins user other) :
    (inserts entry).Repeats user environment one other := by
  apply agrees_tryCatch
  · apply repeats_bind (repeats_insertEntry entry twins)
    intro _ after later twins
    exact agrees_pure twins rfl
  · intro failure after later twins
    split
    · exact agrees_pure twins rfl
    · exact agrees_fail twins

theorem repeats_insertOrUpdate (context : Log.Context) (workflowId : String)
    (fields : EntryFields) (twins : one.Twins user other) :
    (insertOrUpdate context user workflowId fields).Repeats user environment one
      other := by
  apply repeats_bind (repeats_fresh .entry twins)
  intro id after later twins
  apply repeats_bind (repeats_now twins)
  intro moment after later twins
  apply repeats_bind (repeats_ofExcept _ twins)
  intro snapshot after later twins
  apply repeats_bind (repeats_inserts _ twins)
  intro inserted after later twins
  cases inserted with
  | true =>
      apply repeats_bind (repeats_log _ _ twins)
      intro _ after later twins
      exact agrees_pure twins rfl
  | false =>
      apply repeats_bind (repeats_entryByOrigin? workflowId twins)
      intro found after later twins
      cases found with
      | none => exact agrees_fail twins
      | some existing =>
          apply repeats_bind (repeats_log _ _ twins)
          intro _ after later twins
          exact repeats_updateEntry existing fields twins

theorem repeats_placeEntry (context : Log.Context) (workflowId : String)
    (fields : EntryFields) (twins : one.Twins user other) :
    (placeEntry context user workflowId fields).Repeats user environment one
      other := by
  apply repeats_bind (repeats_entryByOrigin? workflowId twins)
  intro found after later twins
  cases found with
  | none => exact repeats_insertOrUpdate context workflowId fields twins
  | some existing =>
      apply repeats_bind (repeats_updateEntry existing fields twins)
      intro entry after later twins
      apply repeats_bind (repeats_log _ _ twins)
      intro _ after later twins
      exact agrees_pure twins rfl

theorem repeats_writeEntry (context : Log.Context) (workflowId : String)
    (fields : EntryFields) (twins : one.Twins user other) :
    (writeEntry context user workflowId fields).Repeats user environment one
      other := by
  apply repeats_transaction twins
  intro one other twins
  have saves : (saveEntry context user workflowId fields).Repeats user environment
      one other := by
    apply repeats_bind (repeats_placeEntry context workflowId fields twins)
    intro entry after later twins
    apply repeats_bind (repeats_commit twins)
    intro _ after later twins
    exact agrees_pure twins rfl
  apply repeats_bind saves
  intro entry after later twins
  exact repeats_shown entry twins

theorem repeats_writeDescribed (context : Log.Context) (request : PublishRequest)
    (graph : GraphCopy) (description : Wide) (twins : one.Twins user other) :
    (writeDescribed context user request graph description).Repeats user environment one
      other := by
  rw [writeDescribed]
  split
  · exact repeats_writeEntry _ _ _ twins
  · exact (repeats_writeEntry _ _ _ twins).unbound

theorem finishPublish_repeats (request : PublishRequest) (name : Value)
    (graph : GraphCopy) (twins : one.Twins user other) :
    (finishPublish user request name graph).Repeats user environment one other := by
  have describes : (descriptionFor (.ofCall user.id "publish") request name
      graph).Repeats user environment one other := by
    rw [descriptionFor]
    split
    · exact repeats_describe _ _ _ twins
    · exact agrees_pure twins rfl
  apply repeats_bind describes
  intro description after later twins
  exact repeats_writeDescribed _ _ _ _ twins

theorem publish_repeats (member : user.isGlobalAdmin = false)
    (request : PublishRequest) (twins : one.Twins user other) :
    (publish user request).Repeats user environment one other := by
  apply repeats_bind (beginPublish_repeats member request twins)
  intro found after later twins
  exact finishPublish_repeats request _ _ twins

/-! ### Importing and deleting -/

theorem repeats_countDownload (entryId : String) (entry : Entry)
    (twins : one.Twins user other) :
    (countDownload user entryId entry).Repeats user environment one other := by
  rw [countDownload]
  split
  · apply repeats_bind (repeats_incrementDownloads entryId 1 twins)
    intro affected after later twins
    split
    · exact agrees_refuse twins
    · exact agrees_pure twins rfl
  · exact agrees_pure twins rfl

theorem importEntry_repeats (entryId : String) (twins : one.Twins user other) :
    (importEntry user entryId).Repeats user environment one other := by
  apply repeats_transaction twins
  intro one other twins
  apply agrees_bind (agrees_entryWith? entryId twins)
  rintro _ _ after later twins (⟨rfl, rfl⟩ | ⟨entry, same, rfl, rfl, akin, equal⟩)
  · exact agrees_refuse twins
  simp only [akin.isOpenTo_eq]
  by_cases visible : isOpenTo entry user
  · obtain rfl := equal (.inl visible)
    simp only [visible, Bool.not_true, Bool.false_eq_true, ↓reduceIte]
    apply repeats_bind (repeats_copied _ _ twins)
    intro graph after later twins
    apply repeats_bind (repeats_personalProject user.id twins)
    intro project after later twins
    apply agrees_bind (agrees_insertWorkflow _ twins)
    rintro _ workflow after later twins ⟨rfl, added⟩
    apply repeats_bind (repeats_linkOwner project.id twins added)
    intro _ after later twins
    apply repeats_bind (repeats_countDownload entryId _ twins)
    intro _ after later twins
    apply repeats_bind (repeats_commit twins)
    intro _ after later twins
    apply repeats_bind (repeats_log _ _ twins)
    intro _ after later twins
    exact repeats_ofExcept _ twins
  · simp only [visible, Bool.not_false, ↓reduceIte]
    exact agrees_refuse twins

/-- Who may delete an entry depends on who made it, which is no secret. -/
theorem delete_repeats (entryId : String) (twins : one.Twins user other) :
    (delete user entryId).Repeats user environment one other := by
  apply repeats_transaction twins
  intro one other twins
  apply agrees_bind (agrees_entryWith? entryId twins)
  rintro _ _ after later twins (⟨rfl, rfl⟩ | ⟨entry, same, rfl, rfl, akin, -⟩)
  · exact agrees_refuse twins
  dsimp only
  rw [akin.createdByUserId]
  split
  · exact agrees_refuse twins
  · apply repeats_bind (repeats_deleteEntry entryId twins)
    intro _ after later twins
    apply repeats_bind (repeats_commit twins)
    intro _ after later twins
    exact repeats_log _ _ twins

end Catalog

/-! ## Workflows -/

namespace Workflows

open Work

variable {user : User} {environment : Environment} {one other : Session}

theorem repeats_shown (workflow : LoadedWorkflow) (twins : one.Twins user other) :
    (shown workflow).Repeats user environment one other :=
  repeats_ofExcept _ twins

theorem create_repeats (request : CreateRequest) (twins : one.Twins user other) :
    (create user request).Repeats user environment one other := by
  apply repeats_transaction twins
  intro one other twins
  apply repeats_bind (repeats_personalProject user.id twins)
  intro project after later twins
  apply agrees_bind (agrees_insertWorkflow _ twins)
  rintro _ workflow after later twins ⟨rfl, added⟩
  apply repeats_bind (repeats_linkOwner project.id twins added)
  intro _ after later twins
  apply repeats_bind (repeats_commit twins)
  intro _ after later twins
  apply repeats_bind (repeats_log _ _ twins)
  intro _ after later twins
  exact repeats_shown _ twins

theorem get_repeats (member : user.isGlobalAdmin = false) (workflowId : String)
    (twins : one.Twins user other) :
    (get user workflowId).Repeats user environment one other := by
  apply repeats_unit twins
  intro one other twins
  apply repeats_bind (repeats_accessible? member (fun _ grants => grants) workflowId
    twins)
  intro found after later twins
  cases found with
  | none => exact agrees_refuse twins
  | some workflow => exact repeats_shown _ twins

/-- Only who may read a workflow can update it, and is told so otherwise. -/
theorem update_repeats (member : user.isGlobalAdmin = false) (workflowId : String)
    (request : UpdateRequest) (twins : one.Twins user other) :
    (update user workflowId request).Repeats user environment one other := by
  apply repeats_bind (repeats_ofExcept _ twins)
  intro given after later twins
  apply repeats_transaction twins
  intro one other twins
  apply repeats_bind (repeats_accessible? member
    (fun _ => Role.Grants.read_of_update) workflowId twins)
  intro found after later twins
  cases found with
  | none =>
      apply repeats_bind (repeats_accessible? member (fun _ grants => grants)
        workflowId twins)
      intro found after later twins
      cases found with
      | none => exact agrees_refuse twins
      | some workflow => exact agrees_refuse twins
  | some row =>
      dsimp only
      split
      · exact repeats_shown _ twins
      · apply repeats_bind (repeats_updateWorkflow _ _ twins)
        intro updated after later twins
        apply repeats_bind (repeats_commit twins)
        intro _ after later twins
        apply repeats_bind (repeats_log _ _ twins)
        intro _ after later twins
        exact repeats_shown updated twins

end Workflows

/-! ## Calls -/

/-- A call of one of the operations by a user. -/
inductive UserCall where
  | findAll
  | showEntry (entryId : String)
  | findUserWorkflows
  | preview (workflowId : String)
  | publish (request : PublishRequest)
  | importEntry (entryId : String)
  | delete (entryId : String)
  | create (request : CreateRequest)
  | showWorkflow (workflowId : String)
  | update (workflowId : String) (request : UpdateRequest)

/-- What a call gives back. -/
inductive Answer where
  | entries (shown : List EntrySummary)
  | entry (shown : EntryDetail)
  | workflows (shown : List WorkflowSummary)
  | description (made : Wide)
  | published (shown : EntrySummary)
  | imported (shown : WorkflowSummary)
  | deleted
  | workflow (shown : WorkflowDetail)

/-- What a user does with a call. -/
def UserCall.answer (user : User) : UserCall → Work Answer
  | findAll => .entries <$> Catalog.findAll user
  | showEntry entryId => .entry <$> Catalog.get user entryId
  | findUserWorkflows => .workflows <$> Catalog.findUserWorkflows user
  | preview workflowId => .description <$> Catalog.preview user workflowId
  | publish request => .published <$> Catalog.publish user request
  | importEntry entryId => .imported <$> Catalog.importEntry user entryId
  | delete entryId => (fun _ => .deleted) <$> Catalog.delete user entryId
  | create request => .workflow <$> Workflows.create user request
  | showWorkflow workflowId => .workflow <$> Workflows.get user workflowId
  | update workflowId request =>
    .workflow <$> Workflows.update user workflowId request

/-- The answers to some calls of a user, each in its environment, and the session after
the last one. -/
def Session.answers (user : User) (session : Session) :
    List (Environment × UserCall) → List (Except Failure Answer) × Session
  | [] => ([], session)
  | (environment, call) :: rest =>
    let (answer, after) := (call.answer user).outcome environment session
    let (answers, last) := after.next.answers user rest
    (answer :: answers, last)

variable {user : User} {one other : Session}

theorem Work.repeats_map {α β : Type} {work : Work α} {environment : Environment}
    (change : α → β) (repeats : work.Repeats user environment one other) :
    (change <$> work).Repeats user environment one other := by
  rw [map_eq_pure_bind]
  apply repeats_bind repeats
  intro result after later twins
  exact agrees_pure twins rfl

/-- Every call of a user who is no administrator has the same answer in twins, and
leaves twins. -/
theorem UserCall.answer_repeats (member : user.isGlobalAdmin = false)
    (environment : Environment) (call : UserCall) (twins : one.Twins user other) :
    (call.answer user).Repeats user environment one other := by
  cases call with
  | findAll => exact Work.repeats_map _ (Catalog.findAll_repeats twins)
  | showEntry entryId =>
      exact Work.repeats_map _ (Catalog.get_repeats entryId twins)
  | findUserWorkflows =>
      exact Work.repeats_map _ (Catalog.findUserWorkflows_repeats member twins)
  | preview workflowId =>
      exact Work.repeats_map _ (Catalog.preview_repeats member workflowId twins)
  | publish request =>
      exact Work.repeats_map _ (Catalog.publish_repeats member request twins)
  | importEntry entryId =>
      exact Work.repeats_map _ (Catalog.importEntry_repeats entryId twins)
  | delete entryId =>
      exact Work.repeats_map _ (Catalog.delete_repeats entryId twins)
  | create request =>
      exact Work.repeats_map _ (Workflows.create_repeats request twins)
  | showWorkflow workflowId =>
      exact Work.repeats_map _ (Workflows.get_repeats member workflowId twins)
  | update workflowId request =>
      exact Work.repeats_map _
        (Workflows.update_repeats member workflowId request twins)

theorem Session.Twins.next (twins : one.Twins user other) :
    one.next.Twins user other.next :=
  ⟨twins.saved, twins.saved, twins.counters, rfl, rfl, rfl⟩

/-- The calls of a user who is no administrator have the same answers in twins. -/
theorem Session.Twins.answers (member : user.isGlobalAdmin = false)
    (calls : List (Environment × UserCall)) (twins : one.Twins user other) :
    (other.answers user calls).1 = (one.answers user calls).1 ∧
      (one.answers user calls).2.Twins user (other.answers user calls).2 := by
  induction calls generalizing one other with
  | nil => exact ⟨rfl, twins⟩
  | cons first rest hypothesis =>
      rcases first with ⟨environment, call⟩
      rcases (call.answer_repeats member environment twins).outcome with
        ⟨same, after⟩
      rcases hypothesis after.next with ⟨others, last⟩
      exact ⟨congrArg₂ List.cons same others, last⟩

/-! ## All calls -/

namespace World

/-- Take two worlds that runs lead to, in which as many identifiers were made and which
look alike to a user who is no administrator.  Every call of the user has the same
answer in both, whatever mishaps it meets, and leaves stores that look alike; and so
has every sequence of such calls. -/
theorem answers_hide_foreign_content (users users' : List User)
    (projects projects' : List Project) (memberships memberships' : List Membership)
    (counters counters' : Counters) (turns turns' : List (Environment × Turn))
    {user : User} (member : user.isGlobalAdmin = false) :
    let one := (start users projects memberships counters).run turns
    let other := (start users' projects' memberships' counters').run turns'
    other.counters = one.counters → one.store.Alike user other.store →
    (∀ (environment : Environment) (call : UserCall),
      let first := (call.answer user).outcome environment one.session
      let second := (call.answer user).outcome environment other.session
      second.1 = first.1 ∧ first.2.saved.Alike user second.2.saved) ∧
    ∀ calls : List (Environment × UserCall),
      (other.session.answers user calls).1 = (one.session.answers user calls).1 ∧
        (one.session.answers user calls).2.saved.Alike user
          (other.session.answers user calls).2.saved := by
  intro one other counted alike
  have sound : one.Sound :=
    (sound_start users projects memberships counters).run turns
  have stores : one.store.Twins user other.store :=
    alike.twins fun entry held => (sound.store.entries entry held).author
  have twins : one.session.Twins user other.session :=
    ⟨stores, stores, counted, rfl, rfl, rfl⟩
  constructor
  · intro environment call
    rcases (call.answer_repeats member environment twins).outcome with
      ⟨same, after⟩
    exact ⟨same, after.saved.alike member⟩
  · intro calls
    rcases twins.answers member calls with ⟨same, last⟩
    exact ⟨same, last.saved.alike member⟩

end World

namespace Fair

/-- The author makes a workflow under a name and publishes it under that name for the
author alone. -/
def secret (name : String) : List (Environment × Turn) :=
  let author := member "author"
  [(weather, .act (.create author .empty (.ofFields [("name", .text name)]))),
    (weather, .act (.publish author .empty (.ofFields
      [("name", .text name), ("description", .text "Description"),
        ("category", .text "Category"), ("isPublic", .bool false),
        ("workflowId", .text (Identifier.Kind.workflow.numbered 1))])))]

/-- Nothing of what is secret is for the reader. -/
theorem secret_alike : (start.run (secret "One")).store.Alike (member "reader")
    (start.run (secret "Other")).store := by
  have same : (start.run (secret "One")).store.AlikeWhere (fun _ => False)
      (fun _ => False) (start.run (secret "Other")).store := by
    refine ⟨by decide +kernel, by decide +kernel, by decide +kernel,
      by decide +kernel, ?_, ?_⟩
    · have ids : (start.run (secret "Other")).store.workflows.map (·.id) =
          (start.run (secret "One")).store.workflows.map (·.id) := by decide +kernel
      exact (forall₂_of_map_eq ids).imp fun _ _ equal => ⟨equal, False.elim⟩
    · let view (entry : Entry) := ((entry.id, entry.authorId, entry.authorName),
        entry.isPublic, entry.origin)
      have shown : (start.run (secret "Other")).store.entries.map view =
          (start.run (secret "One")).store.entries.map view := by decide +kernel
      refine (forall₂_of_map_eq shown).imp fun entry twin equal => ⟨?_, False.elim⟩
      simp only [view, Entry.origin, Prod.mk.injEq] at equal
      rcases equal with ⟨⟨id, authorId, authorName⟩, isPublic, workflow, creator⟩
      exact ⟨id, authorId, authorName, isPublic, workflow, creator⟩
  refine same.mono ?_ ?_
  · have hidden : ∀ row ∈ (start.run (secret "One")).store.workflows,
        ((start.run (secret "One")).store.accessibleWorkflow? (member "reader")
          [Scope.read] row.id).isNone := by decide +kernel
    intro row held permits
    rcases Store.exists_accessibleWorkflow?.mpr permits with ⟨_, found⟩
    have none := hidden row held
    rw [found] at none
    cases none
  · have closed : ∀ entry ∈ (start.run (secret "One")).store.entries,
        Catalog.isOpenTo entry (member "reader") = false := by decide +kernel
    intro entry held visible
    rw [closed entry held] at visible
    cases visible

end Fair

namespace World

/-- The reader cannot tell under which name the author made and published a workflow
in private. -/
theorem reader_sees_no_secret :
    let one := Fair.start.run (Fair.secret "One")
    let other := Fair.start.run (Fair.secret "Other")
    other.store.workflows.map (·.name) ≠ one.store.workflows.map (·.name) ∧
    other.store.entries.map (·.name) ≠ one.store.entries.map (·.name) ∧
    ∀ calls : List (Environment × UserCall),
      (other.session.answers (Fair.member "reader") calls).1 =
        (one.session.answers (Fair.member "reader") calls).1 := by
  have counted : (Fair.start.run (Fair.secret "Other")).counters =
      (Fair.start.run (Fair.secret "One")).counters := by decide +kernel
  have hides := answers_hide_foreign_content Fair.members Fair.members Fair.projects
    Fair.projects Fair.memberships Fair.memberships {} {} (Fair.secret "One")
    (Fair.secret "Other") (by decide : (Fair.member "reader").isGlobalAdmin = false)
    counted Fair.secret_alike
  exact ⟨by decide +kernel, by decide +kernel, fun calls => (hides.2 calls).1⟩

end World

end WorkflowExchange

import WorkflowExchange.Proofs.Exchange.Alike
import WorkflowExchange.Proofs.Exchange.Outcome

/-!
# Work in lockstep

A small logic for two runs in the same environment, from sessions that are twins for a
user: their stores are, and nothing else differs.  `Work.Agrees` says that both runs end
with the same failure, or with results for which something holds, and leave twins
behind.  There is a rule for each way of making work and for each use of the store.
-/

namespace WorkflowExchange

/-- Two sessions are twins for a user: their stores are, and all else is the same. -/
structure Session.Twins (user : User) (one other : Session) : Prop where
  saved : one.saved.Twins user other.saved
  draft : one.draft.Twins user other.draft
  counters : other.counters = one.counters
  calls : other.calls = one.calls
  messages : other.messages = one.messages
  commits : other.commits = one.commits

namespace Session.Twins

variable {user : User} {one other : Session}

theorem noted (twins : one.Twins user other) (call : StoreCall) :
    (one.noted call).Twins user (other.noted call) :=
  { twins with calls := congrArg (call :: ·) twins.calls }

theorem told (twins : one.Twins user other) (message : Log.Message) :
    (one.told message).Twins user (other.told message) :=
  { twins with messages := congrArg (· ++ [message]) twins.messages }

theorem toldEach (twins : one.Twins user other) (context : Log.Context)
    (messages : List Log.Message) :
    (messages.foldl (fun current message =>
      current.told (context.bind message)) one).Twins user
        (messages.foldl (fun current message =>
          current.told (context.bind message)) other) := by
  induction messages generalizing one other with
  | nil => exact twins
  | cons message rest hypothesis =>
      rw [List.foldl_cons, List.foldl_cons]
      exact hypothesis (twins.told _)

theorem discarded (twins : one.Twins user other) :
    one.discarded.Twins user other.discarded :=
  { twins with draft := twins.saved }

theorem committed (twins : one.Twins user other) :
    one.committed.Twins user other.committed where
  saved := twins.draft
  draft := twins.draft
  counters := twins.counters
  calls := congrArg (StoreCall.commit :: ·) twins.calls
  messages := twins.messages
  commits := congrArg (· + 1) twins.commits

theorem withDraft (twins : one.Twins user other) {draft twin : Store}
    (alike : draft.Twins user twin) :
    Session.Twins user { one with draft } { other with draft := twin } :=
  { twins with draft := alike }

theorem advanced (twins : one.Twins user other) (kind : Identifier.Kind) :
    Session.Twins user { one with counters := one.counters.advance kind }
      { other with counters := other.counters.advance kind } :=
  { twins with counters := congrArg (·.advance kind) twins.counters }

end Session.Twins

namespace Work

variable {α β γ δ : Type} {user : User} {environment : Environment}
  {one other : Session}

/-- Two runs end with the same failure, or with results for which something holds, and
in twin sessions. -/
inductive Agrees (user : User) (environment : Environment) (first : Work α)
    (second : Work β) (one other : Session)
    (holds : α → β → Session → Session → Prop) : Prop where
  | fails {failure : Failure} {after later : Session}
      (ended : first.outcome environment one = (.error failure, after))
      (likewise : second.outcome environment other = (.error failure, later))
      (twins : after.Twins user later)
  | ends {result : α} {twin : β} {after later : Session}
      (ended : first.outcome environment one = (.ok result, after))
      (likewise : second.outcome environment other = (.ok twin, later))
      (twins : after.Twins user later)
      (holding : holds result twin after later)

/-- Two runs of work end alike, and with the same result if there is one. -/
def Repeats (user : User) (environment : Environment) (work : Work α)
    (one other : Session) : Prop :=
  work.Agrees user environment work one other fun result twin _ _ => twin = result

/-- Work repeats as it does where some calls send what the database does not take. -/
theorem Repeats.unbound {work : Work α} {sends : StoreCall → Bool} {mishap : Mishap}
    (repeats : work.Repeats user (environment.sending sends mishap) one other) :
    (Work.unbound sends mishap work).Repeats user environment one other := by
  cases repeats with
  | fails ended likewise twins => exact .fails ended likewise twins
  | ends ended likewise twins same => exact .ends ended likewise twins same

theorem Repeats.outcome {work : Work α}
    (repeats : work.Repeats user environment one other) :
    (work.outcome environment other).1 = (work.outcome environment one).1 ∧
      (work.outcome environment one).2.Twins user
        (work.outcome environment other).2 := by
  cases repeats with
  | fails ended likewise twins =>
      rw [ended, likewise]
      exact ⟨rfl, twins⟩
  | ends ended likewise twins same =>
      rw [ended, likewise, same]
      exact ⟨rfl, twins⟩

/-! ## Rules -/

theorem Agrees.mono {first : Work α} {second : Work β}
    {holds weaker : α → β → Session → Session → Prop}
    (agrees : first.Agrees user environment second one other holds)
    (implies : ∀ result twin after later, after.Twins user later →
      holds result twin after later → weaker result twin after later) :
    first.Agrees user environment second one other weaker := by
  cases agrees with
  | fails ended likewise twins => exact .fails ended likewise twins
  | ends ended likewise twins holding =>
      exact .ends ended likewise twins (implies _ _ _ _ twins holding)

/-- Runs that end as others do agree when those do. -/
theorem Agrees.congr {first before : Work α} {second past : Work β}
    {start begun : Session} {holds : α → β → Session → Session → Prop}
    (agrees : before.Agrees user environment past start begun holds)
    (ended : first.outcome environment one = before.outcome environment start)
    (likewise : second.outcome environment other = past.outcome environment begun) :
    first.Agrees user environment second one other holds := by
  cases agrees with
  | fails last same twins =>
      exact .fails (ended.trans last) (likewise.trans same) twins
  | ends last same twins holding =>
      exact .ends (ended.trans last) (likewise.trans same) twins holding

theorem agrees_pure {result : α} {twin : β}
    {holds : α → β → Session → Session → Prop} (twins : one.Twins user other)
    (holding : holds result twin one other) :
    (pure result : Work α).Agrees user environment (pure twin : Work β) one other
      holds :=
  .ends rfl rfl twins holding

theorem agrees_fail {failure : Failure}
    {holds : α → β → Session → Session → Prop} (twins : one.Twins user other) :
    (fail failure : Work α).Agrees user environment (fail failure : Work β) one other
      holds :=
  .fails rfl rfl twins

theorem agrees_refuse {cause : Cause}
    {holds : α → β → Session → Session → Prop} (twins : one.Twins user other) :
    (refuse cause : Work α).Agrees user environment (refuse cause : Work β) one other
      holds :=
  .fails rfl rfl twins

theorem agrees_bind {first : Work α} {second : Work β} {next : α → Work γ}
    {likewise : β → Work δ} {holds : α → β → Session → Session → Prop}
    {done : γ → δ → Session → Session → Prop}
    (agrees : first.Agrees user environment second one other holds)
    (continues : ∀ result twin after later, after.Twins user later →
      holds result twin after later →
      (next result).Agrees user environment (likewise twin) after later done) :
    (first >>= next).Agrees user environment (second >>= likewise) one other
      done := by
  have outcome := outcome_bind environment one first next
  have same := outcome_bind environment other second likewise
  cases agrees with
  | fails ended twin twins =>
      rw [ended] at outcome
      rw [twin] at same
      exact .fails outcome same twins
  | ends ended twin twins holding =>
      rw [ended] at outcome
      rw [twin] at same
      exact (continues _ _ _ _ twins holding).congr outcome same

/-- Work goes on in the same way after the same result. -/
theorem repeats_bind {first : Work α} {next : α → Work β}
    (repeats : first.Repeats user environment one other)
    (continues : ∀ result after later, after.Twins user later →
      (next result).Repeats user environment after later) :
    (first >>= next).Repeats user environment one other := by
  apply agrees_bind repeats
  rintro _ result after later twins rfl
  exact continues result after later twins

theorem agrees_read (twins : one.Twins user other) :
    (read : Work Environment).Agrees user environment read one other
      fun found twin _ _ => found = environment ∧ twin = environment :=
  .ends rfl rfl twins ⟨rfl, rfl⟩

theorem repeats_now (twins : one.Twins user other) :
    now.Repeats user environment one other :=
  .ends rfl rfl twins rfl

theorem agrees_store (twins : one.Twins user other) :
    store.Agrees user environment store one other
      fun draft twin _ _ => draft.Twins user twin :=
  .ends rfl rfl twins twins.draft

theorem agrees_setStore {draft twin : Store} (twins : one.Twins user other)
    (alike : draft.Twins user twin) :
    (setStore draft).Agrees user environment (setStore twin) one other
      fun _ _ after later => after.draft = draft ∧ later.draft = twin :=
  .ends rfl rfl (twins.withDraft alike) ⟨rfl, rfl⟩

theorem repeats_log (context : Log.Context) (message : Log.Message)
    (twins : one.Twins user other) :
    (log context message).Repeats user environment one other :=
  .ends rfl rfl (twins.told _) rfl

theorem repeats_fresh (kind : Identifier.Kind) (twins : one.Twins user other) :
    (fresh kind).Repeats user environment one other := by
  refine .ends (outcome_fresh _ _ _) (outcome_fresh _ _ _) (twins.advanced kind) ?_
  rw [twins.counters]

theorem repeats_ofExcept (outcome : Except Failure α)
    (twins : one.Twins user other) :
    (ofExcept outcome).Repeats user environment one other := by
  cases outcome with
  | ok result => exact agrees_pure twins rfl
  | error failure => exact agrees_fail twins

theorem repeats_ofTrial (context : Log.Context) (trial : Trial Failure α)
    (twins : one.Twins user other) :
    (ofTrial context trial).Repeats user environment one other := by
  have ended := outcome_ofTrial environment one context trial
  have likewise := outcome_ofTrial environment other context trial
  cases result : trial.outcome with
  | ok result =>
      rw [result] at ended likewise
      exact .ends ended likewise (twins.toldEach context _) rfl
  | error failure =>
      rw [result] at ended likewise
      exact .fails ended likewise (twins.toldEach context _)

theorem repeats_mapM {work : α → Work β}
    (each : ∀ item one other, Session.Twins user one other →
      (work item).Repeats user environment one other)
    (items : List α) (twins : one.Twins user other) :
    (items.mapM work).Repeats user environment one other := by
  induction items generalizing one other with
  | nil => exact agrees_pure twins rfl
  | cons item rest hypothesis =>
      rw [List.mapM_cons]
      apply repeats_bind (each item _ _ twins)
      intro first after later twins
      apply repeats_bind (hypothesis twins)
      intro others after later twins
      exact agrees_pure twins rfl

/-- Both runs meet the same mishap, since they made the same calls. -/
theorem agrees_call {call : StoreCall} {none : α} {nothing : β} {work : Work α}
    {likewise : Work β} {holds : α → β → Session → Session → Prop}
    (twins : one.Twins user other)
    (missing : holds none nothing (one.noted call) (other.noted call))
    (agrees : work.Agrees user environment likewise (one.noted call)
      (other.noted call) holds) :
    (Work.call call none work).Agrees user environment
      (Work.call call nothing likewise) one other holds := by
  have ended := outcome_call environment one call none work
  have same := outcome_call environment other call nothing likewise
  have noted := twins.noted call
  rw [twins.calls] at same
  rcases mishap : environment.mishap one.calls call with
    _ | error | found | _ <;> rw [mishap] at ended same
  · exact agrees.congr ended same
  · exact .fails ended same noted
  · exact .fails ended same noted
  · exact .ends ended same noted missing

theorem agrees_change {call : StoreCall} {work : Work α} {likewise : Work β}
    {holds : α → β → Session → Session → Prop} (twins : one.Twins user other)
    (agrees : work.Agrees user environment likewise (one.noted call)
      (other.noted call) holds) :
    (change call work).Agrees user environment (change call likewise) one other
      holds := by
  have ended := outcome_change environment one call work
  have same := outcome_change environment other call likewise
  have noted := twins.noted call
  rw [twins.calls] at same
  rcases mishap : environment.mishap one.calls call with
    _ | error | found | _ <;> rw [mishap] at ended same
  · exact agrees.congr ended same
  · exact .fails ended same noted
  · exact .fails ended same noted
  · exact agrees.congr ended same

theorem repeats_commit (twins : one.Twins user other) :
    commit.Repeats user environment one other := by
  apply agrees_change twins
  exact .ends rfl rfl twins.committed rfl

theorem agrees_tryCatch {first : Work α} {second : Work β}
    {handle : Failure → Work α} {likewise : Failure → Work β}
    {holds : α → β → Session → Session → Prop}
    (agrees : first.Agrees user environment second one other holds)
    (handles : ∀ failure after later, after.Twins user later →
      (handle failure).Agrees user environment (likewise failure) after later
        holds) :
    (tryCatch first handle).Agrees user environment (tryCatch second likewise) one
      other holds := by
  have outcome := outcome_tryCatch environment one first handle
  have same := outcome_tryCatch environment other second likewise
  cases agrees with
  | ends ended twin twins holding =>
      rw [ended] at outcome
      rw [twin] at same
      exact .ends outcome same twins holding
  | fails ended twin twins =>
      rw [ended] at outcome
      rw [twin] at same
      exact (handles _ _ _ twins).congr outcome same

theorem repeats_unit {work : Work α} (twins : one.Twins user other)
    (repeats : ∀ one other, Session.Twins user one other →
      work.Repeats user environment one other) :
    work.unit.Repeats user environment one other := by
  have outcome := outcome_unit environment one work
  have same := outcome_unit environment other work
  cases repeats _ _ twins.discarded with
  | fails ended likewise twins =>
      rw [ended] at outcome
      rw [likewise] at same
      exact .fails outcome same twins.discarded
  | ends ended likewise twins equal =>
      rw [ended] at outcome
      rw [likewise] at same
      exact .ends outcome same twins.discarded equal

theorem repeats_transaction {undone : Undone} {context : Log.Context}
    {work : Work α} (twins : one.Twins user other)
    (repeats : ∀ one other, Session.Twins user one other →
      work.Repeats user environment one other) :
    (transaction undone context work).Repeats user environment one other := by
  apply agrees_tryCatch (repeats_unit twins repeats)
  intro failure after later twins
  cases failure with
  | database error =>
      apply agrees_bind (repeats_log _ _ twins)
      rintro _ _ after later twins -
      exact agrees_refuse twins
  | because | fault | notUpdatable | misfits => exact agrees_fail twins

/-! ## Uses of the store -/

theorem agrees_lookup {call : StoreCall} {none : α} (query : Store → α)
    {holds : α → α → Session → Session → Prop} (twins : one.Twins user other)
    (missing : holds none none (one.noted call) (other.noted call))
    (found : holds (query one.draft) (query other.draft) (one.noted call)
      (other.noted call)) :
    (Work.call call none (do pure (query (← store)))).Agrees user environment
      (Work.call call none (do pure (query (← store)))) one other holds := by
  apply agrees_call twins missing
  exact .ends rfl rfl (twins.noted call) found

/-- A lookup that has the same answer in both stores. -/
theorem repeats_lookup {call : StoreCall} {none : α} (query : Store → α)
    (twins : one.Twins user other)
    (same : query other.draft = query one.draft) :
    (Work.call call none (do pure (query (← store)))).Repeats user environment one
      other :=
  agrees_lookup query twins rfl same

theorem agrees_setAdded {store? other? : Option Store}
    {alike : Store → Store → Prop} (twins : one.Twins user other)
    (implies : ∀ next twin, alike next twin → next.Twins user twin)
    (added : store? = none ∧ other? = none ∨ ∃ next twin,
      store? = some next ∧ other? = some twin ∧ alike next twin) :
    (setAdded store?).Agrees user environment (setAdded other?) one other
      fun _ _ after later => alike after.draft later.draft := by
  rcases added with ⟨rfl, rfl⟩ | ⟨next, twin, rfl, rfl, related⟩
  · exact agrees_fail twins
  · apply (agrees_setStore twins (implies _ _ related)).mono
    rintro _ _ after later - ⟨rfl, rfl⟩
    exact related

theorem repeats_personalProject (userId : String) (twins : one.Twins user other) :
    (personalProject userId).Repeats user environment one other := by
  apply repeats_bind (repeats_lookup (fun draft => draft.personalProject? userId)
    twins (twins.draft.personalProject?_eq userId))
  intro found after later twins
  cases found with
  | none => exact agrees_refuse twins
  | some project => exact agrees_pure twins rfl

theorem repeats_accessible? {scopes : List Scope}
    (member : user.isGlobalAdmin = false)
    (reading : ∀ role, Role.Grants role scopes → Role.Grants role [Scope.read])
    (workflowId : String) (twins : one.Twins user other) :
    (accessible? user scopes workflowId).Repeats user environment one other :=
  repeats_lookup (fun draft => draft.accessibleWorkflow? user scopes workflowId)
    twins (twins.draft.accessibleWorkflow?_eq member reading workflowId)

/-- A workflow that was just added is the same in both stores. -/
theorem agrees_insertWorkflow (draft : WorkflowDraft)
    (twins : one.Twins user other) :
    (insertWorkflow draft).Agrees user environment (insertWorkflow draft) one other
      fun workflow twin after later => twin = workflow ∧
        after.draft.AlikeWhere
          (fun id => id = workflow.row.id ∨
            after.draft.Shares user.id [Scope.read] id)
          (Store.Concerns user) later.draft := by
  apply agrees_bind (repeats_fresh .workflow twins)
  rintro _ id after later twins rfl
  apply agrees_bind (repeats_fresh .version twins)
  rintro _ versionId after later twins rfl
  apply agrees_bind (repeats_now twins)
  rintro _ moment after later twins rfl
  apply agrees_change twins
  apply agrees_bind (repeats_ofExcept _ (twins.noted _))
  rintro _ row after later twins rfl
  apply agrees_bind (agrees_store twins)
  intro held twin after later twins alike
  have narrowed (next twin : Store) (both : next.AlikeWhere
      (fun id => id = row.id ∨ next.Shares user.id [Scope.read] id)
      (Store.Concerns user) twin) : next.Twins user twin :=
    both.mono (fun _ _ => .inr) fun _ _ concerns => concerns
  apply agrees_bind (agrees_setAdded twins narrowed (alike.addWorkflow_cases row))
  intro _ _ after later twins added
  exact agrees_pure twins ⟨rfl, added⟩

theorem repeats_linkOwner {workflowId : String} (projectId : String)
    (twins : one.Twins user other)
    (alike : one.draft.AlikeWhere
      (fun id => id = workflowId ∨ one.draft.Shares user.id [Scope.read] id)
      (Store.Concerns user) other.draft) :
    (linkOwner workflowId projectId).Repeats user environment one other := by
  let sharing : Sharing :=
    ⟨workflowId, projectId, Role.workflowOwner, .at environment.now⟩
  have linked : one.draft.addSharing sharing = none ∧
      other.draft.addSharing sharing = none ∨ ∃ next twin,
        one.draft.addSharing sharing = some next ∧
        other.draft.addSharing sharing = some twin ∧ next.Twins user twin :=
    Store.AlikeWhere.addSharing_cases alike
  have sharing : (setAdded (one.draft.addSharing sharing)).Agrees user environment
      (setAdded (other.draft.addSharing sharing)) (one.noted .linkOwner)
      (other.noted .linkOwner) fun _ _ _ _ => True :=
    (agrees_setAdded (twins.noted _) (fun _ _ both => both) linked).mono
      fun _ _ _ _ _ _ => trivial
  apply agrees_change twins
  exact (sharing.mono fun _ _ _ _ _ _ => rfl).congr rfl rfl

theorem repeats_updateWorkflow (workflow : LoadedWorkflow) (changes : Changes)
    (twins : one.Twins user other) :
    (updateWorkflow workflow changes).Repeats user environment one other := by
  have versions {one other : Session} (twins : one.Twins user other) :
      (versionAfter workflow changes).Repeats user environment one other := by
    rw [versionAfter]
    split
    · exact repeats_fresh .version twins
    · exact agrees_pure twins rfl
  apply agrees_change twins
  apply agrees_bind (versions (twins.noted _))
  rintro _ versionId after later twins rfl
  apply agrees_bind (repeats_ofExcept _ twins)
  rintro _ changed after later twins rfl
  apply agrees_bind (repeats_now twins)
  rintro _ moment after later twins rfl
  apply agrees_bind (agrees_store twins)
  intro held twin after later twins alike
  apply agrees_bind (agrees_setStore twins (alike.replaceWorkflow _))
  rintro _ _ after later twins -
  exact agrees_pure twins rfl

/-- An entry is found in both stores, and it is the same one where it concerns the
user. -/
theorem agrees_entryWith? (id : String) (twins : one.Twins user other) :
    (entryWith? id).Agrees user environment (entryWith? id) one other
      fun found twin _ _ => found = none ∧ twin = none ∨
        ∃ entry same, found = some entry ∧ twin = some same ∧
          entry.Akin same ∧ (Store.Concerns user entry → same = entry) :=
  agrees_lookup (fun draft => draft.entryWith? id) twins (.inl ⟨rfl, rfl⟩)
    (twins.draft.entryWith?_cases id)

theorem repeats_entryByOrigin? (workflowId : String)
    (twins : one.Twins user other) :
    (entryByOrigin? workflowId user.id).Repeats user environment one other :=
  repeats_lookup (fun draft => draft.entryByOrigin? workflowId user.id) twins
    (twins.draft.entryByOrigin?_eq workflowId)

theorem repeats_insertEntry (entry : Entry) (twins : one.Twins user other) :
    (insertEntry entry).Repeats user environment one other := by
  have saved : (change .savepoint (pure ())).Repeats user environment one other :=
    agrees_change twins (agrees_pure (twins.noted _) rfl)
  apply agrees_bind saved
  rintro _ _ after later twins -
  apply agrees_change twins
  apply agrees_bind (agrees_store (twins.noted _))
  intro held twin after later twins alike
  exact (agrees_setAdded twins (fun _ _ both => both)
    (alike.addEntry_cases entry)).mono fun _ _ _ _ _ _ => rfl

theorem repeats_updateEntry (entry : Entry) (fields : EntryFields)
    (twins : one.Twins user other) :
    (updateEntry entry fields).Repeats user environment one other := by
  apply agrees_change twins
  apply agrees_bind (repeats_ofExcept _ (twins.noted _))
  rintro _ snapshot after later twins rfl
  apply agrees_bind (repeats_now twins)
  rintro _ moment after later twins rfl
  apply agrees_bind (agrees_store twins)
  intro held twin after later twins alike
  apply agrees_bind (agrees_setStore twins
    (alike.replaceEntry (.refl _) fun _ => rfl))
  rintro _ _ after later twins -
  exact agrees_pure twins rfl

/-- Downloads are counted in both stores, of entries that may differ. -/
theorem repeats_incrementDownloads (id : String) (amount : Int)
    (twins : one.Twins user other) :
    (incrementDownloads id amount).Repeats user environment one other := by
  apply agrees_call twins rfl
  by_cases fits : !Datum.isInt amount
  · simp only [fits, ↓reduceIte]
    exact .fails rfl rfl (twins.noted _)
  simp only [fits]
  apply agrees_bind (agrees_store (twins.noted _))
  intro held twin after later twins alike
  rcases alike.entryWith?_cases id with
    ⟨first, second⟩ | ⟨entry, same, first, second, akin, equal⟩
  · rw [first, second]
    exact agrees_pure twins rfl
  · rw [first, second]
    apply agrees_bind (repeats_now twins)
    rintro _ moment after later twins rfl
    apply agrees_bind (agrees_store twins)
    intro held twin after later twins alike
    have counted : (entry.downloaded amount moment).Akin
        (same.downloaded amount moment) :=
      ⟨akin.id, akin.authorId, akin.authorName, akin.isPublic,
        akin.originalWorkflowId, akin.createdByUserId⟩
    apply agrees_bind (agrees_setStore twins (alike.replaceEntry counted
      fun concerns => congrArg (·.downloaded amount moment) (equal concerns)))
    rintro _ _ after later twins -
    exact agrees_pure twins rfl

theorem repeats_deleteEntry (id : String) (twins : one.Twins user other) :
    (deleteEntry id).Repeats user environment one other := by
  apply agrees_call twins rfl
  apply agrees_bind (agrees_store (twins.noted _))
  intro held twin after later twins alike
  rcases alike.entryWith?_cases id with
    ⟨first, second⟩ | ⟨entry, same, first, second, -⟩
  · rw [first, second]
    exact agrees_pure twins rfl
  · rw [first, second]
    apply agrees_bind (agrees_store twins)
    intro held twin after later twins alike
    apply agrees_bind (agrees_setStore twins (alike.removeEntry id))
    rintro _ _ after later twins -
    exact agrees_pure twins rfl

end Work

end WorkflowExchange

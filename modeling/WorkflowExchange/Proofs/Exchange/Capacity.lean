import WorkflowExchange.Proofs.Exchange.Rewriting

/-!
# Full tables

In a run a full table takes no more rows.  No turn takes a workflow away, a new entry
comes from a workflow that is there, and an import that is counted adds a workflow.  So
an entry has fewer downloads than there are workflows, the number is always an integer
of 64 bits (`World.Bounded.counts`), and the imports are counted exactly:
`World.run_counts_imports`.

`World.Covered` compares downloads and workflows after any turn.  `World.Bounded` says
in addition that the workflows fit into their table, which the turns of a run keep.
-/

namespace WorkflowExchange

/-! ## Uses of the store that are not refused -/

/-- The database does not refuse a use of the store after some calls. -/
def Environment.Allows (environment : Environment) (call : StoreCall) : Prop :=
  ∃ calls, ∀ error, environment.mishap calls call ≠ some (.error error)

/-- In a run the database refuses a row for a full table. -/
theorem World.isFullFor_of_allows {world : World} {environment : Environment}
    {call : StoreCall} (allows : (world.within environment).Allows call) :
    world.store.isFullFor call = false := by
  rcases allows with ⟨calls, allowed⟩
  by_contra full
  rw [Bool.not_eq_false] at full
  exact allowed .operational (if_pos full)

/-- Does every table take one more row? -/
def Store.hasRoom (store : Store) : Bool :=
  !isFull store.workflows && !isFull store.sharings && !isFull store.entries

/-- No mishap is added where no table is full. -/
theorem World.within_of_hasRoom {world : World} (room : world.store.hasRoom = true)
    (environment : Environment) : world.within environment = environment := by
  simp only [Store.hasRoom, Bool.and_eq_true, Bool.not_eq_true'] at room
  rcases room with ⟨⟨workflows, sharings⟩, entries⟩
  have never (call : StoreCall) : world.store.isFullFor call = false := by
    cases call <;> first | assumption | rfl
  simp only [within, never, Bool.false_eq_true, ↓reduceIte]

namespace Work

variable {α β : Type} {environment : Environment} {before : Session} {holds : Prop}

/-- What a first part of work cannot do without, the work cannot do without. -/
theorem returns_bind_of_first {first : Work α} {next : α → Work β}
    (returns : first.Returns environment before fun _ => holds) :
    (first >>= next).Returns environment before fun _ => holds := by
  intro result after outcome
  rw [outcome_bind] at outcome
  rcases ended : first.outcome environment before with ⟨_ | given, middle⟩ <;>
    rw [ended] at outcome
  · cases outcome
  · exact returns given middle ended

theorem returns_transaction {undone : Undone} {context : Log.Context} {work : Work α}
    (returns : work.Returns environment before.discarded fun _ => holds) :
    (transaction undone context work).Returns environment before fun _ => holds := by
  intro result after outcome
  rw [outcome_transaction] at outcome
  rcases ended : work.outcome environment before.discarded with
    ⟨failure | given, middle⟩ <;> rw [ended] at outcome
  · cases failure <;> cases outcome
  · exact returns given middle ended

/-- A change is made only when the database does not refuse it. -/
theorem returns_change {call : StoreCall} {work : Work α} :
    (change call work).Returns environment before fun _ => environment.Allows call := by
  intro result after outcome
  refine ⟨before.calls, fun error refused => ?_⟩
  rw [outcome_change, refused] at outcome
  cases outcome

theorem insertWorkflow_returns (draft : WorkflowDraft) :
    (insertWorkflow draft).Returns environment before fun _ =>
      environment.Allows .insertWorkflow := by
  apply returns_bind
  intro id first
  apply returns_bind
  intro versionId second
  apply returns_bind
  intro moment third
  exact returns_change

end Work

theorem Workflows.create_returns {environment : Environment} {before : Session}
    (user : User) (request : CreateRequest) :
    (create user request).Returns environment before fun _ =>
      environment.Allows .insertWorkflow := by
  apply Work.returns_transaction
  apply Work.returns_bind
  intro project middle
  exact Work.returns_bind_of_first (Work.insertWorkflow_returns _)

theorem Catalog.importEntry_returns {environment : Environment} {before : Session}
    (user : User) (entryId : String) :
    (importEntry user entryId).Returns environment before fun _ =>
      environment.Allows .insertWorkflow := by
  apply Work.returns_transaction
  apply Work.returns_bind
  rintro (_ | entry) first
  · intro result after outcome
    cases outcome
  · by_cases closed : !isOpenTo entry user
    · simp only [closed, ↓reduceIte]
      intro result after outcome
      cases outcome
    · simp only [closed, Bool.false_eq_true, ↓reduceIte]
      apply Work.returns_bind
      intro graph second
      apply Work.returns_bind
      intro project third
      exact Work.returns_bind_of_first (Work.insertWorkflow_returns _)

/-! ## What a deed does to the tables -/

/-- Does a deed add a workflow? -/
def Deed.addsWorkflow : Deed → Bool
  | .create | .importEntry _ _ => true
  | .update | .publish _ _ | .delete _ => false

namespace Store

variable {moment : Moment} {before after : Counters} {deed : Deed}
  {first last : Store}

theorem Deposited.length_workflows (deposited : first.Deposited before after last) :
    last.workflows.length = first.workflows.length + 1 := by
  rcases deposited with ⟨row, sharing, -, -, -, -, rfl⟩
  exact List.length_append

theorem length_replaceWorkflow (store : Store) (workflow : Workflow) :
    (store.replaceWorkflow workflow).workflows.length = store.workflows.length :=
  List.length_map _

theorem Does.length_workflows
    (does : Store.Does moment before after deed first last) :
    last.workflows.length = first.workflows.length + deed.addsWorkflow.toNat := by
  cases does with
  | create deposited | importOwn found own deposited => exact deposited.length_workflows
  | @importOther _ middle _ _ _ found others deposited =>
      have length : middle.workflows.length = _ := deposited.length_workflows
      exact length
  | update => exact length_replaceWorkflow _ _
  | publish new made object added =>
      rcases addEntry_eq_some.mp added with ⟨-, rfl⟩
      rfl
  | republish | delete | deleteNothing => rfl

/-- Every entry has fewer downloads than there are workflows. -/
def Covers (store : Store) : Prop :=
  ∀ entry ∈ store.entries, ∃ count < store.workflows.length,
    entry.downloads = .counted count

/-- A deed keeps it so, as long as an entry is published from a workflow. -/
theorem Does.covers (does : Store.Does moment before after deed first last)
    (stocked : ∀ user request, deed = .publish user request → first.workflows ≠ [])
    (covers : first.Covers) : last.Covers := by
  have longer := does.length_workflows
  have kept {entry : Entry} (held : entry ∈ first.entries) :
      ∃ count < last.workflows.length, entry.downloads = .counted count := by
    rcases covers entry held with ⟨count, fewer, counted⟩
    exact ⟨count, by omega, counted⟩
  intro entry member
  cases does with
  | create deposited | importOwn found own deposited =>
      rw [deposited.entries_eq] at member
      exact kept member
  | @importOther _ middle _ _ present found others deposited =>
      rcases mem_replaceEntry member with ⟨held, -⟩ | rfl
      · rw [deposited.entries_eq] at held
        exact kept held
      · -- The download that is counted is covered by the workflow that is added.
        rcases covers present (entryWith?_eq_some found).1 with ⟨count, fewer, counted⟩
        refine ⟨count + 1, ?_, ?_⟩
        · rw [longer]
          exact Nat.succ_lt_succ fewer
        · rw [← CountCell.counted_plus, ← counted]
          rfl
  | update => exact kept member
  | publish new made object added =>
      rcases addEntry_eq_some.mp added with ⟨-, rfl⟩
      rcases List.mem_append.mp member with held | new
      · exact kept held
      · rw [List.mem_singleton.mp new]
        exact ⟨0, List.length_pos_of_ne_nil (stocked _ _ rfl),
          (CountCell.counted_of_lt (by decide)).symm⟩
  | @republish _ _ _ _ _ _ present found object =>
      rcases mem_replaceEntry member with ⟨held, -⟩ | rfl
      · exact kept held
      · have counted := kept (entryByOrigin?_eq_some found).1
        exact counted
  | delete => exact kept (List.mem_of_mem_filter member)
  | deleteNothing => exact kept member

theorem Rewrites.length_workflows (rewrites : first.Rewrites last) :
    last.workflows.length = first.workflows.length := by
  rcases rewrites with ⟨old, changed, -, -, -, -, rfl⟩
  exact length_replaceWorkflow _ _

theorem Rewrites.covers (rewrites : first.Rewrites last) (covers : first.Covers) :
    last.Covers := by
  intro entry member
  rw [rewrites.entries_eq] at member
  rw [rewrites.length_workflows]
  exact covers entry member

end Store

/-! ## Turns -/

namespace World

variable {world : World} {environment : Environment} {turn : Turn} {deed : Deed}

/-- Every entry has fewer downloads than there are workflows, and nothing waits to be
published where there is no workflow. -/
structure Covered (world : World) : Prop where
  entries : world.store.Covers
  stocked : world.waiting ≠ [] → world.store.workflows ≠ []

/-- What is taken to be published is taken from a workflow. -/
theorem workflows_ne_nil_of_taken {publication : Publication}
    (taken : world.taken? environment turn = some publication) :
    world.store.workflows ≠ [] := by
  rcases isSnapshot_of_taken taken with ⟨row, found, -⟩
  exact List.ne_nil_of_mem (Store.mem_of_accessibleWorkflow? found)

/-- There is a workflow where something is published. -/
theorem Covered.workflows_ne_nil (covered : world.Covered) {user : User}
    {request : PublishRequest} (means : turn.Means world.waiting (.publish user request))
    (commits : world.commits environment turn = true) :
    world.store.workflows ≠ [] := by
  rcases exists_finished means commits with ⟨publication, finished⟩
  unfold finished? at finished
  split at finished
  · exact covered.stocked (List.ne_nil_of_mem (List.mem_of_getElem? finished))
  · exact workflows_ne_nil_of_taken finished
  · cases finished

/-- What a turn does to the store: nothing, the deed that it means, or an update. -/
theorem store_after_cases (world : World) (environment : Environment) (turn : Turn) :
    (world.after environment turn).store = world.store ∨
      world.store.Rewrites (world.after environment turn).store ∨
      world.commits environment turn = true ∧
        ∃ deed after, turn.Means world.waiting deed ∧
          Store.Does environment.now world.counters after deed world.store
            (world.after environment turn).store := by
  by_cases other : turn.isUpdate = false
  · rcases after_cases_of_other world environment other with
      ⟨-, ⟨same, -⟩ | ⟨commits, deed, means, does⟩⟩
    · exact .inl same
    · exact .inr (.inr ⟨commits, deed, _, means, does⟩)
  · rw [Bool.not_eq_false] at other
    rcases (after_of_update world environment other).2 with same | rewrites
    · exact .inl same
    · exact .inr (.inl rewrites)

/-- A turn takes no workflow away. -/
theorem length_workflows_after (world : World) (environment : Environment)
    (turn : Turn) : world.store.workflows.length ≤
      (world.after environment turn).store.workflows.length := by
  rcases store_after_cases world environment turn with
    same | rewrites | ⟨-, deed, after, -, does⟩
  · exact same ▸ Nat.le_refl _
  · exact Nat.le_of_eq rewrites.length_workflows.symm
  · rw [does.length_workflows]
    exact Nat.le_add_right _ _

theorem Covered.after (covered : world.Covered) (environment : Environment)
    (turn : Turn) : (world.after environment turn).Covered where
  entries := by
    rcases store_after_cases world environment turn with
      same | rewrites | ⟨commits, deed, after, means, does⟩
    · rw [same]
      exact covered.entries
    · exact rewrites.covers covered.entries
    · refine does.covers ?_ covered.entries
      rintro user request rfl
      exact covered.workflows_ne_nil means commits
  stocked waits := by
    have longer := length_workflows_after world environment turn
    have stocked : world.store.workflows ≠ [] := by
      rcases List.exists_mem_of_ne_nil _ waits with ⟨publication, member⟩
      rcases mem_waiting_after member with held | ⟨session, begun⟩
      · exact covered.stocked (List.ne_nil_of_mem held)
      · exact workflows_ne_nil_of_taken (taken_of_begun begun)
    rw [← List.length_pos_iff] at stocked ⊢
    exact Nat.lt_of_lt_of_le stocked longer

/-- A turn that adds a workflow was not refused a row for it. -/
theorem allows_of_adds {after : Session} {result : Option Publication}
    (means : turn.Means world.waiting deed) (adds : deed.addsWorkflow = true)
    (ended : world.outcome environment turn = (.ok result, after)) :
    environment.Allows .insertWorkflow := by
  suffices returns : (world.work turn).Returns environment world.session fun _ =>
      environment.Allows .insertWorkflow from returns result after ended
  cases means with
  | create =>
      apply Work.returns_bind_of_first
      apply Work.returns_bind
      intro request middle
      exact Work.returns_bind_of_first (Workflows.create_returns _ request)
  | importEntry =>
      apply Work.returns_bind_of_first
      exact Work.returns_bind_of_first (Catalog.importEntry_returns _ _)
  | update | publish | delete | finish => cases adds

/-- A turn adds a workflow only when it is not refused a row for it. -/
theorem length_workflows_of_refused
    (refused : ¬environment.Allows .insertWorkflow) :
    (world.after environment turn).store.workflows.length =
      world.store.workflows.length := by
  by_cases other : turn.isUpdate = false
  · have ends : (world.work turn).Ends (turn.Means world.waiting) environment
        world.session := by
      refine world.turn_ends_of_performs ?_
      rintro action rfl
      exact action.perform_ends_of_other world.waiting other
    rw [store_after]
    cases ends with
    | unsaved outcome unsaved =>
        change world.outcome environment turn = _ at outcome
        rw [outcome, unsaved.saved]
        rfl
    | @did result after deed outcome means did unshown =>
        change world.outcome environment turn = _ at outcome
        rw [outcome]
        have length := did.does.length_workflows
        -- Of the deeds only a publication may fail after its commit.
        have keeps : deed.addsWorkflow = false := by
          by_contra adds
          rw [Bool.not_eq_false] at adds
          cases result with
          | ok result => exact refused (allows_of_adds means adds outcome)
          | error failure =>
              rcases unshown failure rfl with ⟨user, request, entry, rfl, -⟩
              cases adds
        rw [keeps] at length
        exact length
  · rw [Bool.not_eq_false] at other
    rcases (after_of_update world environment other).2 with same | rewrites
    · rw [same]
    · exact rewrites.length_workflows

/-! ## Runs -/

/-- What holds of every world that a run leads to: entries have fewer downloads than
there are workflows, and the workflows fit into their table. -/
structure Bounded (world : World) : Prop where
  covered : world.Covered
  fits : world.store.workflows.length ≤ Store.capacity

theorem bounded_start (users : List User) (projects : List Project)
    (memberships : List Membership) (counters : Counters) :
    (start users projects memberships counters).Bounded where
  covered := ⟨fun _ member => absurd member List.not_mem_nil, fun waits => absurd rfl waits⟩
  fits := Nat.zero_le _

/-- One turn adds at most one workflow. -/
theorem length_workflows_after_le (world : World) (environment : Environment)
    (turn : Turn) : (world.after environment turn).store.workflows.length ≤
      world.store.workflows.length + 1 := by
  rcases store_after_cases world environment turn with
    same | rewrites | ⟨-, deed, after, -, does⟩
  · rw [same]
    exact Nat.le_succ _
  · rw [rewrites.length_workflows]
    exact Nat.le_succ _
  · rw [does.length_workflows]
    exact Nat.add_le_add_left (Bool.toNat_le _) _

theorem Bounded.step (bounded : world.Bounded) (environment : Environment)
    (turn : Turn) : (world.step environment turn).Bounded where
  covered := bounded.covered.after _ turn
  fits := by
    by_cases full : Store.isFull world.store.workflows
    · have refused : ¬(world.within environment).Allows .insertWorkflow := by
        intro allows
        exact absurd full (Bool.not_eq_true _ ▸ isFullFor_of_allows allows)
      rw [World.step, length_workflows_of_refused refused]
      exact bounded.fits
    · rw [Store.isFull, decide_eq_true_iff, Nat.not_le] at full
      exact Nat.le_trans (length_workflows_after_le world _ turn) full

theorem Bounded.next (bounded : world.Bounded) (event : Event) :
    (world.next event).Bounded := by
  cases event with
  | turn environment turn => exact bounded.step environment turn
  | written workflowId graph distinct =>
      rw [World.next]
      cases found : world.store.workflow? workflowId with
      | none => exact bounded
      | some row =>
          have length := Store.length_replaceWorkflow world.store { row with graph }
          refine ⟨⟨fun entry member => ?_, fun waits => ?_⟩, length ▸ bounded.fits⟩
          · rw [length]
            exact bounded.covered.entries entry member
          · rw [← List.length_pos_iff, length, List.length_pos_iff]
            exact bounded.covered.stocked waits

/-- Whatever happens leads from a bounded world to a bounded one. -/
theorem Bounded.happen (bounded : world.Bounded) (events : List Event) :
    (world.happen events).Bounded := by
  induction events generalizing world with
  | nil => exact bounded
  | cons event rest hypothesis => exact hypothesis (bounded.next event)

theorem Bounded.run (bounded : world.Bounded) (turns : List (Environment × Turn)) :
    (world.run turns).Bounded := by
  rw [run_eq_happen]
  exact bounded.happen _

end World

/-! ## Downloads that are integers -/

/-- The number of downloads of an entry is an integer of 64 bits, and so it is after one
more. -/
def Entry.Counts (entry : Entry) : Prop :=
  ∃ count : Nat, entry.downloads = .int count ∧
    ((count + 1 : Nat) : Int) < Datum.intBound

theorem Entry.Counts.downloaded {entry : Entry} (counts : entry.Counts)
    (moment : Moment) : ∃ count : Nat, entry.downloads = .int count ∧
      (entry.downloaded 1 moment).downloads = .int (count + 1 : Nat) := by
  rcases counts with ⟨count, counted, small⟩
  refine ⟨count, counted, ?_⟩
  rw [← CountCell.counted_of_lt small, ← CountCell.counted_plus,
    CountCell.counted_of_lt (by omega), ← counted]
  rfl

theorem World.Bounded.counts {world : World} (bounded : world.Bounded) {entry : Entry}
    (member : entry ∈ world.store.entries) : entry.Counts := by
  rcases bounded.covered.entries entry member with ⟨count, fewer, counted⟩
  have small : ((count + 1 : Nat) : Int) < Datum.intBound := by
    have bound : Datum.intBound = ((Store.capacity + 1 : Nat) : Int) := by decide +kernel
    have fits := bounded.fits
    omega
  refine ⟨count, ?_, small⟩
  rw [counted, CountCell.counted_of_lt (by omega)]

/-- The downloads of all entries are integers. -/
def Store.HasCounts (store : Store) : Prop :=
  ∀ entry ∈ store.entries, ∃ count : Nat, entry.downloads = .int count

theorem World.Bounded.hasCounts {world : World} (bounded : world.Bounded) :
    world.store.HasCounts := by
  intro entry member
  rcases bounded.counts member with ⟨count, counted, -⟩
  exact ⟨count, counted⟩

/-- A sound entry whose downloads are an integer is shown. -/
theorem EntrySummary.exists_fits {counters : Counters} {entry : Entry}
    (sound : entry.Sound counters) (counted : ∃ count : Nat, entry.downloads = .int count) :
    ∃ summary, EntrySummary.ofEntry entry = .fits summary := by
  rcases EntrySummary.ofEntry_sound sound with ⟨overflowed, -⟩ | ⟨-, fits⟩
  · rcases counted with ⟨count, counted⟩
    cases overflowed.symm.trans counted
  · exact fits

/-! ## Exact counts -/

/-- The reader imports the author's entry. -/
def Fair.borrowing : Environment × Turn :=
  (weather.calm, .act (.importEntry (member "reader") entryId))

namespace World

variable {world : World} {entry : Entry}

/-- What the downloads of an entry are counted as is the integer itself. -/
theorem Bounded.downloads_eq (bounded : world.Bounded)
    (member : entry ∈ world.store.entries) {count : Nat}
    (counted : entry.downloads = .counted count) : entry.downloads = .int count := by
  rcases bounded.counts member with ⟨number, same, -⟩
  have equal := CountCell.eq_of_counted_eq_int (counted.symm.trans same)
  rw [same, equal]

/-- Take any part of a run.  An entry that was there before it has since been
counted one download for each committed import by someone other than its author,
and for nothing else; an entry that was inserted since has just these. -/
theorem run_counts_imports (users : List User) (projects : List Project)
    (memberships : List Membership) (counters : Counters)
    (earlier later : List (Environment × Turn)) (entry : Entry)
    (member : entry ∈ (((start users projects memberships counters).run
      earlier).run later).store.entries) :
    let world := (start users projects memberships counters).run earlier
    (∃ old ∈ world.store.entries, old.id = entry.id ∧
      old.authorId = entry.authorId ∧
      ∃ count : Nat, old.downloads = .int count ∧
        entry.downloads = .int (count + world.importCount entry later : Nat)) ∨
    (∀ old ∈ world.store.entries, old.id ≠ entry.id) ∧
      entry.downloads = .int (world.importCount entry later) := by
  have sound := (sound_start users projects memberships counters).run earlier
  have bounded := (bounded_start users projects memberships counters).run earlier
  have boundedLast := bounded.run later
  rcases sound.counted_run later member with
    ⟨old, held, grew⟩ | ⟨unmade, downloads⟩
  · rcases (sound.store.entries old held).downloads with ⟨count, counted⟩
    exact .inl ⟨old, held, grew.id, grew.author, count,
      bounded.downloads_eq held counted,
      boundedLast.downloads_eq member (grew.downloads count counted)⟩
  · exact .inr ⟨fun _ held => sound.store.ne_of_unmade unmade held,
      boundedLast.downloads_eq member downloads⟩

/-- An entry that was there is imported once. -/
theorem fair_counts_imports :
    ∃ entry ∈ (((start Fair.members Fair.projects Fair.memberships {}).run
      Fair.turns).run [Fair.borrowing]).store.entries,
    let world := (start Fair.members Fair.projects Fair.memberships {}).run Fair.turns
    (∃ old ∈ world.store.entries, old.id = entry.id ∧
      old.authorId = entry.authorId ∧
      ∃ count : Nat, old.downloads = .int count ∧
        entry.downloads =
          .int (count + world.importCount entry [Fair.borrowing] : Nat)) ∨
    (∀ old ∈ world.store.entries, old.id ≠ entry.id) ∧
      entry.downloads = .int (world.importCount entry [Fair.borrowing]) := by
  have there : ((((start Fair.members Fair.projects Fair.memberships {}).run
      Fair.turns).run [Fair.borrowing]).store.entryWith? Fair.entryId).isSome := by
    decide +kernel
  rcases Option.isSome_iff_exists.mp there with ⟨entry, found⟩
  have member := (Store.entryWith?_eq_some found).1
  refine ⟨entry, member, ?_⟩
  exact run_counts_imports Fair.members Fair.projects Fair.memberships {} Fair.turns
    [Fair.borrowing] entry member

end World

end WorkflowExchange

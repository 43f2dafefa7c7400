import WorkflowExchange.Proofs.Copy.Loop
import WorkflowExchange.Proofs.Exchange.Rewriting
import WorkflowExchange.Proofs.Exchange.Travel
import WorkflowExchange.Proofs.Exchange.Visibility

/-!
# Rounds of importing and publishing

A snapshot was copied once, from whatever graph its workflow had.  It is copied again
when it is shown, when it is imported, and when the imported copy is published as an
entry of its own, any number of times.  None of these copies differs from it:
`World.copies_do_not_drift`.
-/

namespace WorkflowExchange

/-- The snapshot of the entry with an identifier. -/
def Store.snapshot? (store : Store) (entryId : String) : Option Json :=
  (store.entryWith? entryId).map (·.snapshot)

/-- The graph of the workflow with an identifier. -/
def Store.graph? (store : Store) (workflowId : String) : Option Graph :=
  (store.workflow? workflowId).map (·.graph)

namespace World

/-- A user imports an entry, and a workflow is made of it. -/
structure Imports (world : World) (environment : Environment) (user : User)
    (entryId : String) (last : World) (workflowId : String) : Prop where
  ends : ∃ summary after, (Catalog.importEntry user entryId).outcome environment
    world.session = (.ok summary, after) ∧ summary.id = workflowId
  last : last = world.after environment (.act (.importEntry user entryId))

/-- A user publishes a workflow for the first time, and an entry is made of it. -/
structure Publishes (world : World) (environment : Environment) (user : User)
    (request : PublishRequest) (last : World) (entryId : String) : Prop where
  new : world.store.entryByOrigin? request.workflowId user.id = none
  ends : ∃ summary after, (Catalog.publish user request).outcome environment
    world.session = (.ok summary, after) ∧ summary.id = entryId
  last : ∃ heap data, PublishRequest.read heap data = .fits request ∧
    last = world.after environment (.act (.publish user heap data))

/-- Without mishaps an entry is shown to everyone to whom it is open. -/
def IsShown (world : World) (entryId : String) : Prop :=
  ∀ (environment : Environment) (user : User), world.store.Opens user entryId →
    ∃ detail after, (Catalog.get user entryId).outcome environment.calm
      world.session = (.ok detail, after)

/-- From an entry of one world to an entry of a later one: any number of times the
entry is imported, and the copy is published as a new entry, as turns of a run.
Meanwhile anything may happen that leaves the snapshot of the entry, and the graph of
the copy until it is published. -/
inductive Rounds (first : World) (entryId : String) : World → String → Prop where
  | none : Rounds first entryId first entryId
  | meanwhile {world : World} {reached : String} (events : List Event)
      (rounds : Rounds first entryId world reached)
      (kept : (world.happen events).store.snapshot? reached =
        world.store.snapshot? reached) :
      Rounds first entryId (world.happen events) reached
  | round {world copied last : World} {reached workflowId newId : String}
      {importing publishing : Environment} {importer publisher : User}
      {request : PublishRequest} (events : List Event)
      (rounds : Rounds first entryId world reached)
      (imports : world.Imports (world.within importing) importer reached copied
        workflowId)
      (kept : (copied.happen events).store.graph? workflowId =
        copied.store.graph? workflowId)
      (same : request.workflowId = workflowId)
      (publishes : (copied.happen events).Publishes
        ((copied.happen events).within publishing) publisher request last newId) :
      Rounds first entryId last newId

/-- An entry gives its snapshot back exactly, wherever it is shown or stored again. -/
structure GivesBack (world : World) (entryId : String) (snapshot : Json) : Prop where
  stored : world.store.snapshot? entryId = some snapshot
  shown : ∀ (environment : Environment) (user : User),
    (Catalog.get user entryId).Returns environment world.session
      (·.graph.toValue = .ofJson snapshot)
  opened : world.IsShown entryId
  imported : ∀ (environment : Environment) (user : User) (last : World)
    (workflowId : String), world.Imports environment user entryId last workflowId →
      (last.store.graph? workflowId).map Graph.toJson = some snapshot
  /-- Who has a personal project can import an entry that is open, and publish the
  copy with any request that gives it a description as a new entry, which is open and
  shown again. -/
  carried : ∀ (environment : Environment) (user : User),
    world.store.Opens user entryId →
      (world.store.personalProject? user.id).isSome →
      ∃ copied workflowId,
        world.Imports environment.calm user entryId copied workflowId ∧
        ∀ (publishing : Environment) (heap : Heap) (data : Value)
          (request : PublishRequest), PublishRequest.read heap data = .fits request →
            Catalog.CanDescribe publishing copied.store user request →
            request.workflowId = workflowId →
            ∃ last newId,
              copied.Publishes publishing.calm user request last newId ∧
              last.store.Opens user newId ∧ last.IsShown newId

variable {world copied last : World} {environment : Environment} {user : User}
  {request : PublishRequest} {entryId workflowId : String} {snapshot : Json}

/-! ## The worlds on the way -/

/-- A turn that is an action leaves what the action leaves. -/
theorem session_act (world : World) (environment : Environment) (action : Action) :
    (world.outcome environment (.act action)).2 =
      (action.perform.outcome environment world.session).2 :=
  Work.session_bind_pure _ (fun _ => none) environment _

/-- A turn that reads a request leaves what is done with the request. -/
theorem session_reading {α β : Type} (world : World) (environment : Environment)
    {action : Action} {reading : Fit α} {next : α → Work β} {given : α}
    (performs : action.perform = do
      let given ← .reading reading
      (next given).done)
    (fits : reading = .fits given) :
    (world.outcome environment (.act action)).2 =
      ((next given).outcome environment world.session).2 := by
  rw [session_act, performs, Work.outcome_bind, Work.reading, Work.outcome_ofExcept,
    fits]
  exact Work.session_bind_pure _ (fun _ => ()) environment _

/-- A turn begins with what the one before it saved. -/
theorem session_after (world : World) (environment : Environment) (turn : Turn) :
    (world.after environment turn).session =
      (world.outcome environment turn).2.next := rfl

theorem Imports.exists_session
    (imports : world.Imports environment user entryId last workflowId) :
    ∃ summary after, (Catalog.importEntry user entryId).outcome environment
        world.session = (.ok summary, after) ∧ summary.id = workflowId ∧
      last.store = after.saved ∧ last.counters = after.counters := by
  rcases imports with ⟨⟨summary, after, ended, named⟩, rfl⟩
  have session : (world.outcome environment
      (.act (.importEntry user entryId))).2 = after := by
    rw [session_act]
    refine (Work.session_bind_pure _ (fun _ => ()) environment _).trans ?_
    rw [ended]
  refine ⟨summary, after, ended, named, ?_, ?_⟩
  · rw [store_after, session]
  · rw [counters_after, session]

theorem Publishes.exists_session
    (publishes : world.Publishes environment user request last entryId) :
    ∃ summary after, (Catalog.publish user request).outcome environment
        world.session = (.ok summary, after) ∧ summary.id = entryId ∧
      last.store = after.saved := by
  rcases publishes with ⟨-, ⟨summary, after, ended, named⟩, heap, data, fits, rfl⟩
  refine ⟨summary, after, ended, named, ?_⟩
  rw [store_after, session_publish fits, ← Publication.outcome_publish, ended]

theorem Steady.imports (steady : world.Steady)
    (imports : world.Imports environment user entryId last workflowId) :
    last.Steady := by
  rw [imports.last]
  exact steady.after environment _

theorem Steady.publishes (steady : world.Steady)
    (publishes : world.Publishes environment user request last entryId) :
    last.Steady := by
  rcases publishes.last with ⟨heap, data, -, same⟩
  rw [same]
  exact steady.after environment _

/-! ## One step -/

/-- An entry with a snapshot has it as a graph of which copying changes nothing. -/
theorem Steady.exists_entry (steady : world.Steady)
    (stored : world.store.snapshot? entryId = some snapshot) :
    ∃ (entry : Entry) (graph : Graph), world.store.entryWith? entryId = some entry ∧
      entry.snapshot = graph.toJson ∧ graph.toJson = snapshot ∧ graph.Whole := by
  rcases Option.map_eq_some_iff.mp stored with ⟨entry, found, rfl⟩
  rcases steady.store.whole entry (Store.entryWith?_eq_some found).1 with
    ⟨graph, same, whole⟩
  exact ⟨entry, graph, found, same, same.symm, whole⟩

/-- What was imported is stored as it was, for a user who never published it. -/
theorem Steady.stores (steady : world.Steady)
    (stored : world.store.snapshot? entryId = some snapshot)
    (imports : world.Imports environment user entryId last workflowId) :
    ∃ row content, last.store.workflow? workflowId = some row ∧
      row.name = .text content ∧ row.graph.Whole ∧ row.graph.toJson = snapshot ∧
      (∀ scopes, (Role.withScopes scopes).contains Role.personalOwner = true →
        last.store.accessibleWorkflow? user scopes workflowId = some row) ∧
      last.store.entryByOrigin? workflowId user.id = none := by
  rcases steady.exists_entry stored with ⟨entry, graph, found, held, rfl, whole⟩
  rcases imports.exists_session with ⟨summary, after, ended, rfl, saved, -⟩
  rcases Catalog.importEntry_stores found held whole ended with
    ⟨row, middle, entries, named, numbered, titled, rfl, adopts, savedAfter⟩
  have settles : (Catalog.importEntry user entryId).Settles environment world.session
      _ := Catalog.importEntry_settles user entryId
  have kept := (settles.of_ok ended).does.forall₂_kept steady.store.keyed.ids rfl
  rw [saved]
  refine ⟨row, _, ?_, titled, whole, rfl, ?_, ?_⟩
  · rw [savedAfter, ← named]
    exact adopts.workflow?_eq
  · intro scopes owner
    rw [savedAfter, ← named]
    exact adopts.accessible owner
  · rw [Store.entryByOrigin?_eq_none, ← named, numbered]
    intro present member same
    rcases Entry.exists_kept_of_mem kept member with ⟨old, place, _, _, rfl⟩
    exact steady.store.traced.origin_ne place user.id same

/-- An entry of which the downloads are an integer is shown. -/
theorem Steady.isShown (steady : world.Steady)
    (stored : world.store.snapshot? entryId = some snapshot)
    (counted : ∀ entry, world.store.entryWith? entryId = some entry →
      entry.downloads ≠ .overflowed) : world.IsShown entryId := by
  intro environment user opens
  rcases steady.exists_entry stored with ⟨other, graph, there, held, -, whole⟩
  rcases (steady.store.keyed.opens_iff user entryId).mp opens with
    ⟨entry, found, visible⟩
  cases there.symm.trans found
  have lists : world.session.saved.Lists entryId graph other :=
    ⟨found, held, counted other found⟩
  exact (lists.gets steady.keyed_session whole visible).calmly environment

/-- A new entry has the graph of the workflow that was published. -/
theorem Steady.snapshot_of_publishes (steady : world.Steady) {graph : Graph}
    (held : world.store.graph? request.workflowId = some graph) (whole : graph.Whole)
    (publishes : world.Publishes environment user request last entryId) :
    last.store.snapshot? entryId = some graph.toJson ∧
      last.store.Opens user entryId ∧ last.IsShown entryId := by
  have steadyLast := steady.publishes publishes
  rcases Option.map_eq_some_iff.mp held with ⟨row, there, rfl⟩
  rcases publishes.exists_session with ⟨summary, after, ended, rfl, saved⟩
  rcases Catalog.publish_adds steady.store.keyed steady.store.distinct there whole
    (Store.entryByOrigin?_eq_none.mp publishes.new) ended with
    ⟨entry, lists, none, -, created, -⟩
  rw [← saved] at lists
  have stored : last.store.snapshot? summary.id = some row.graph.toJson := by
    rw [Store.snapshot?, lists.found]
    exact congrArg some lists.snapshot
  refine ⟨stored, ⟨entry, lists.found, .inr created⟩, steadyLast.isShown stored ?_⟩
  intro other found
  cases lists.found.symm.trans found
  exact lists.downloads

/-- Without mishaps a user with a personal project can import an entry that is open to
the user. -/
theorem Steady.exists_imports (steady : world.Steady)
    (opens : world.store.Opens user entryId)
    (owned : (world.store.personalProject? user.id).isSome)
    (environment : Environment) :
    ∃ last workflowId, world.Imports environment.calm user entryId last workflowId := by
  rcases (steady.store.keyed.opens_iff user entryId).mp opens with
    ⟨entry, found, visible⟩
  rcases Option.isSome_iff_exists.mp owned with ⟨project, owned⟩
  have calmly : (Catalog.importEntry user entryId).Calmly environment.calm world.session
      _ := Catalog.importEntry_calmly steady.keyed_session found visible owned
  rcases calmly.exists_ok with ⟨summary, after, ended⟩
  exact ⟨_, summary.id, ⟨summary, after, ended, rfl⟩, rfl⟩

/-- Without mishaps who may publish a workflow can do so for the first time. -/
theorem Steady.exists_publishes (steady : world.Steady) {heap : Heap} {data : Value}
    (fits : PublishRequest.read heap data = .fits request)
    (describes : Catalog.CanDescribe environment world.store user request) {row : Workflow}
    (found : world.session.saved.accessibleWorkflow? user
      (Catalog.publishScopes environment.strict) request.workflowId = some row)
    (whole : row.graph.Whole)
    (new : world.store.entryByOrigin? request.workflowId user.id = none) :
    ∃ last newId, world.Publishes environment.calm user request last newId := by
  have copies := Heap.copyGraph_of_whole whole .empty
  rcases describes _ _ ⟨row, found, rfl, copies⟩ with ⟨description, described⟩
  rcases Catalog.publish_calm_of_absent steady.keyed_session steady.store.distinct found
    (Store.entryByOrigin?_eq_none.mp new) copies described with
    ⟨summary, after, ended⟩
  exact ⟨_, summary.id, new, ⟨summary, after, ended, rfl⟩, heap, data, fits, rfl⟩

/-! ## Any number of steps -/

/-- Every entry of a steady world that is bounded gives its snapshot back. -/
theorem Steady.givesBack (steady : world.Steady) (bounded : world.Bounded)
    (stored : world.store.snapshot? entryId = some snapshot) :
    world.GivesBack entryId snapshot where
  stored := stored
  shown environment user := by
    rcases steady.exists_entry stored with ⟨entry, graph, found, held, rfl, whole⟩
    have prepares : (Catalog.get user entryId).Prepares environment world.session _ :=
      Catalog.get_prepares user entryId
    refine Work.returns_of_prepares prepares ?_
    rintro detail - ⟨there, foundAgain, -, copied, -⟩
    cases found.symm.trans foundAgain
    rw [held, Heap.copyGraph_of_whole whole] at copied
    rw [← Except.ok.inj copied]
    exact whole.formed.toValue
  opened := by
    refine steady.isShown stored fun entry found overflowed => ?_
    rcases bounded.counts (Store.entryWith?_eq_some found).1 with ⟨count, counted, -⟩
    cases overflowed.symm.trans counted
  imported environment user last workflowId imports := by
    rcases steady.stores stored imports with ⟨row, _, there, -, -, same, -⟩
    rw [Store.graph?, there]
    exact congrArg some same
  carried environment user opens owned := by
    rcases steady.exists_imports opens owned environment with
      ⟨copied, workflowId, imports⟩
    refine ⟨copied, workflowId, imports, ?_⟩
    rintro publishing heap data request fits describes rfl
    rcases steady.stores stored imports with
      ⟨row, content, there, -, whole, -, readable, new⟩
    have found := readable _ (Catalog.publishScopes_owner publishing.strict)
    rcases (steady.imports imports).exists_publishes fits describes found whole new
      with ⟨last, newId, publishes⟩
    have held : copied.store.graph? request.workflowId = some row.graph := by
      rw [Store.graph?, there]
      rfl
    have listed := (steady.imports imports).snapshot_of_publishes held whole publishes
    exact ⟨last, newId, publishes, listed.2⟩

/-- A round leads to a new entry with the same snapshot. -/
theorem Steady.round {importing publishing : Environment} {importer publisher : User}
    {newId : String} (steady : world.Steady)
    (stored : world.store.snapshot? entryId = some snapshot) (events : List Event)
    (imports : world.Imports importing importer entryId copied workflowId)
    (kept : (copied.happen events).store.graph? workflowId =
      copied.store.graph? workflowId)
    (same : request.workflowId = workflowId)
    (publishes : (copied.happen events).Publishes publishing publisher request last
      newId) :
    last.Steady ∧ last.store.snapshot? newId = some snapshot := by
  rcases steady.stores stored imports with ⟨row, _, there, -, whole, rfl, -⟩
  have later := (steady.imports imports).happen events
  have held : (copied.happen events).store.graph? request.workflowId =
      some row.graph := by
    rw [same, kept, Store.graph?, there]
    rfl
  exact ⟨later.publishes publishes, (later.snapshot_of_publishes held whole publishes).1⟩

/-- Rounds lead to bounded worlds. -/
theorem Bounded.rounds {newId : String} (bounded : world.Bounded)
    (rounds : world.Rounds entryId last newId) : last.Bounded := by
  induction rounds with
  | none => exact bounded
  | meanwhile events rounds kept hypothesis => exact hypothesis.happen events
  | @round _ copied _ _ _ _ _ _ _ _ _ events rounds imports kept same publishes
      hypothesis =>
      have bounded : copied.Bounded := by
        rw [imports.last]
        exact hypothesis.step _ _
      rcases publishes.last with ⟨heap, data, -, published⟩
      rw [published]
      exact (bounded.happen events).step _ _

/-- Rounds lead to steady worlds, and to entries with the same snapshot. -/
theorem Steady.rounds {newId : String} (steady : world.Steady)
    (stored : world.store.snapshot? entryId = some snapshot)
    (rounds : world.Rounds entryId last newId) :
    last.Steady ∧ last.store.snapshot? newId = some snapshot := by
  induction rounds with
  | none => exact ⟨steady, stored⟩
  | meanwhile events rounds kept hypothesis =>
      exact ⟨hypothesis.1.happen events, kept.trans hypothesis.2⟩
  | round events rounds imports kept same publishes hypothesis =>
      exact hypothesis.1.round hypothesis.2 events imports kept same publishes

end World

/-! ## Copies of copies -/

namespace Fair

/-- Lists within each other, on so many levels. -/
def nested : Nat → Json
  | 0 => .null
  | depth + 1 => .array [nested depth]

theorem distinct_nested (depth : Nat) : (nested depth).Distinct := by
  induction depth with
  | zero => trivial
  | succ depth hypothesis => exact ⟨hypothesis, trivial⟩

/-- A graph with a node that is no object, a node that is nested on so many levels,
and other parts that are no objects, either. -/
def legacy (depth : Nat) : Graph where
  nodes := .array [.null, .object [("parameters", nested depth)]]
  connections := .array []
  settings := .object []
  staticData := .int 1

theorem distinct_legacy (depth : Nat) : (legacy depth).Distinct := by
  constructor <;>
    simp [legacy, Json.Distinct, Json.DistinctItems, Json.DistinctMembers,
      distinct_nested]

/-- The author makes a workflow, someone writes a graph into it that is nested too
deeply, and the author publishes it. -/
def worn : List World.Event :=
  [.turn weather (.act (.create (member "author") .empty
      (.ofFields [("name", .text "Name")]))),
    .written (Identifier.Kind.workflow.numbered 1) (legacy 70) (distinct_legacy 70),
    .turn weather (.act (.publish (member "author") .empty (publication "First")))]

/-- A request of the reader to publish the second workflow. -/
def secondRequest : PublishRequest where
  name := "Second"
  description := some (some "Description")
  category := "Category"
  isPublic := none
  useAutoDescription := none
  workflowId := Identifier.Kind.workflow.numbered 2

/-- The data of the request. -/
def secondPublication : Value :=
  .ofFields
    [("name", .text "Second"), ("description", .text "Description"),
      ("category", .text "Category"),
      ("workflowId", .text (Identifier.Kind.workflow.numbered 2))]

end Fair

namespace World

/-- Copies of copies do not drift.  Whatever was copied down to a limit, the copy is not
nested beyond the limit, and it is its own copy; the loops of both end.  Whatever
graph was copied without a fallback, the copy is its own copy, and nothing is logged.
And whatever happened, with any JSON written to the graphs of workflows: an entry
gives back the snapshot that it has exactly, and after any number of rounds of
importing an entry and publishing the copy as a new one the last entry does so with
the snapshot of the first. -/
theorem copies_do_not_drift :
    (∀ (heap other : Heap) (limit : Nat) (source copied : Value), heap.Settled →
      0 < limit → heap.copy limit source = .ok copied →
      NestingLoop.Leads other limit (.start copied) (.ended (.ok false)) ∧
      other.isNestedBeyond limit copied = .ok false ∧
      CopyLoop.Leads other limit (.start other copied) (.ended (.ok copied)) ∧
      other.copy limit copied = .ok copied) ∧
    (∀ (heap other : Heap) (source : Value) (graph : GraphCopy), heap.Settled →
      Heap.Undegraded (heap.copyGraph source) graph →
      other.copyGraph graph.toValue = pure graph) ∧
    ∀ (users : List User) (projects : List Project) (memberships : List Membership)
      (counters : Counters) (events : List Event),
      let world := (start users projects memberships counters).happen events
      ∀ (entryId : String) (snapshot : Json),
        world.store.snapshot? entryId = some snapshot →
        ∀ (last : World) (newId : String), world.Rounds entryId last newId →
          last.GivesBack newId snapshot := by
  refine ⟨?_, ?_, ?_⟩
  · intro heap other limit source copied settled positive made
    have tree := Heap.tree_of_copy settled positive made
    have shallow := Heap.isNestedBeyond_of_tree tree other
    have again := Heap.copy_of_tree positive tree other
    refine ⟨?_, shallow, ?_, again⟩
    · rw [← shallow]
      exact NestingLoop.ends_with_check other limit copied
    · rw [← again]
      exact CopyLoop.ends_with_copy other limit copied
  · intro heap other source graph settled made
    exact Heap.copyGraph_toValue (Heap.declared_of_copyGraph made.outcome)
      (Heap.shallow_of_copyGraph settled made) other
  · intro users projects memberships counters events world entryId snapshot stored last
      newId rounds
    have steady : world.Steady :=
      (steady_start users projects memberships counters).happen events
    have bounded : world.Bounded :=
      (bounded_start users projects memberships counters).happen events
    rcases steady.rounds stored rounds with ⟨lastSteady, reached⟩
    exact lastSteady.givesBack (bounded.rounds rounds) reached

/-- A list of lists is cut off at two levels, a graph that is not of the declared kinds
is tidied, and an entry that has such a graph is imported and published by a reader. -/
theorem legacy_copies_do_not_drift :
    let pile := Value.plainList [.plainList [.plainList []]]
    let piled := Value.plainList [.plainList [.text (Value.truncatedText "list")]]
    let sparse := Fair.legacy 0
    let world := Fair.start.happen Fair.worn
    (Heap.empty.copy 2 pile = .ok piled ∧ Heap.empty.copy 2 piled = .ok piled) ∧
      (Heap.Undegraded (Heap.empty.copyGraph (.ofJson sparse.toJson))
          sparse.tidy.toCopy ∧
        Heap.empty.copyGraph sparse.tidy.toCopy.toValue = pure sparse.tidy.toCopy) ∧
      ∃ (snapshot : Json) (copied last : World) (newId : String),
        world.store.snapshot? Fair.entryId = some snapshot ∧
        copied.Publishes Fair.weather.calm (Fair.member "reader") Fair.secondRequest
          last newId ∧
        world.Rounds Fair.entryId last newId ∧ last.GivesBack newId snapshot := by
  intro pile piled sparse world
  have settled : Heap.empty.Settled := fun _ => rfl
  have made : Heap.empty.copy 2 pile = .ok piled := rfl
  have undegraded : Heap.Undegraded (Heap.empty.copyGraph (.ofJson sparse.toJson))
      sparse.tidy.toCopy := by
    refine ⟨Heap.copyGraph_eq_tidy _ _, fun fault held => ?_⟩
    have told : (Heap.empty.copyGraph (.ofJson sparse.toJson)).messages =
        [Heap.dropWarning "NoneType"] := rfl
    rw [told, List.mem_singleton] at held
    simp [Heap.fallbackWarning, Heap.dropWarning] at held
  refine ⟨⟨made, ?_⟩, ⟨undegraded, ?_⟩, ?_⟩
  · exact (copies_do_not_drift.1 .empty .empty 2 pile piled settled (by decide)
      made).2.2.2
  · exact copies_do_not_drift.2.1 .empty .empty _ _ settled undegraded
  -- The reader may import the entry, and the copy is the second workflow.
  have isPublic : (world.store.entryWith? Fair.entryId).map (·.isPublic) =
      some true := by decide +kernel
  have owned : (world.store.personalProject? "reader").isSome := by decide +kernel
  have second : ((Catalog.importEntry (Fair.member "reader") Fair.entryId).outcome
      Fair.weather.calm world.session).1.toOption.map (·.id) =
        some Fair.secondRequest.workflowId := by decide +kernel
  rcases Option.map_eq_some_iff.mp isPublic with ⟨entry, found, visible⟩
  have opens : world.store.Opens (Fair.member "reader") Fair.entryId :=
    ⟨entry, found, .inl visible⟩
  have stored : world.store.snapshot? Fair.entryId = some entry.snapshot := by
    rw [Store.snapshot?, found]
    rfl
  have first := copies_do_not_drift.2.2 Fair.members Fair.projects Fair.memberships {}
    Fair.worn Fair.entryId entry.snapshot stored world Fair.entryId .none
  rcases first.carried Fair.weather (Fair.member "reader") opens owned with
    ⟨copied, workflowId, imports, publishes⟩
  rcases imports.ends with ⟨summary, after, ended, named⟩
  rw [ended] at second
  have same : Fair.secondRequest.workflowId = workflowId :=
    (Option.some.inj second).symm.trans named
  rcases publishes Fair.weather .empty Fair.secondPublication Fair.secondRequest
    rfl (Catalog.canDescribe_of_sent rfl _ _ _) same with ⟨last, newId, published, -⟩
  have roomy : world.within Fair.weather.calm = Fair.weather.calm :=
    within_of_hasRoom (by decide +kernel) _
  have room : copied.within Fair.weather.calm = Fair.weather.calm := by
    rw [imports.last]
    exact within_of_hasRoom (by decide +kernel) _
  have rounds : world.Rounds Fair.entryId last newId :=
    .round [] .none (roomy.symm ▸ imports) rfl same (room.symm ▸ published)
  exact ⟨entry.snapshot, copied, last, newId, stored, published, rounds,
    copies_do_not_drift.2.2 Fair.members Fair.projects Fair.memberships {} Fair.worn
      Fair.entryId entry.snapshot stored last newId rounds⟩

end World

end WorkflowExchange

import WorkflowExchange.Proofs.Exchange.Failing
import WorkflowExchange.Proofs.Exchange.Provenance
import WorkflowExchange.Proofs.Exchange.Updating

/-!
# Partial updates

An update asks for the fields that were sent, a null for a field that has to have a
value aside.  It changes these fields and no other, neither of the workflow nor of any
other row.  The version is a new one exactly when a part of the graph is asked for, and
when nothing is asked for, nothing changes: `World.update_changes_what_was_sent`.
-/

namespace WorkflowExchange

/-! ## What is asked for -/

namespace UpdateRequest

variable {request bare : UpdateRequest}

theorem mem_change {field other : WorkflowField} {value? : Option Value} {value : Value} :
    (other, value) ∈ (value?.map fun value => (field, value)).toList ↔
      other = field ∧ value? = some value := by
  cases value? <;> simp [eq_comm, and_comm]

theorem mem_changes {field : WorkflowField} {value : Value} :
    (field, value) ∈ request.changes ↔ request.new? field = some value := by
  simp only [changes, List.mem_append, mem_change]
  cases field <;> simp [new?]

theorem changes_eq_nil_iff :
    request.changes = [] ↔ ∀ field, request.new? field = none := by
  constructor
  · intro nothing field
    rw [← lookup_changes, nothing]
    rfl
  · intro nothing
    refine List.eq_nil_iff_forall_not_mem.mpr ?_
    rintro ⟨field, value⟩ asked
    cases (nothing field).symm.trans (mem_changes.mp asked)

/-- A part of the graph is asked for. -/
def AsksForGraph (request : UpdateRequest) : Prop :=
  ∃ field, field.isOfGraph = true ∧ request.new? field ≠ none

theorem any_isOfGraph_iff :
    request.changes.any (·.1.isOfGraph) = true ↔ request.AsksForGraph := by
  rw [List.any_eq_true]
  constructor
  · rintro ⟨⟨field, value⟩, asked, graph⟩
    refine ⟨field, graph, ?_⟩
    rw [mem_changes.mp asked]
    nofun
  · rintro ⟨field, graph, asked⟩
    rcases Option.ne_none_iff_exists'.mp asked with ⟨value, sent⟩
    exact ⟨(field, value), mem_changes.mpr sent, graph⟩

end UpdateRequest

/-! ## What is bare -/

/-- A value is made bare: it stays as it is if it is JSON. -/
def Value.Strips (sent bare : Value) : Prop :=
  sent.IsJson → bare = sent

theorem Value.strips_self (value? : Option Value) : Option.Rel Strips value? value? := by
  cases value? with
  | none => exact .none
  | some value => exact .some fun _ => rfl

theorem Value.strips_of_bare {sent? bare? : Option Value}
    (changed : sent?.mapM bare = .ok bare?) : Option.Rel Strips sent? bare? := by
  cases sent? with
  | none =>
      cases changed
      exact .none
  | some sent =>
      rcases Except.map_eq_ok.mp changed with ⟨result, equal, rfl⟩
      exact .some fun form => Except.ok.inj (equal.symm.trans form.bare)

theorem Value.strips_ofOption {sent? bare? : Option Value}
    (strips : Option.Rel Strips sent? bare?) :
    Strips (.ofOption sent?) (.ofOption bare?) := by
  cases strips with
  | none => exact fun _ => rfl
  | some kept => exact kept

namespace UpdateRequest

variable {request bare : UpdateRequest}

/-- A request that is made bare asks for the same fields. -/
theorem strips_new? (isBare : request.bare = .ok bare) (field : WorkflowField) :
    Option.Rel Value.Strips (request.new? field) (bare.new? field) := by
  have optional {sent bare : Sent (Option Value)}
      (changed : sent.mapM (Option.mapM Value.bare) = .ok bare) :
      Option.Rel Value.Strips (sent.map .ofOption) (bare.map .ofOption) := by
    cases sent with
    | none =>
        cases changed
        exact .none
    | some value? =>
        rcases Except.map_eq_ok.mp changed with ⟨result?, equal, rfl⟩
        exact .some (Value.strips_ofOption (Value.strips_of_bare equal))
  rw [UpdateRequest.bare] at isBare
  rcases Except.bind_eq_ok.mp isBare with ⟨nodes, nodesBare, isBare⟩
  rcases Except.bind_eq_ok.mp isBare with ⟨connections, connectionsBare, isBare⟩
  rcases Except.bind_eq_ok.mp isBare with ⟨settings, settingsBare, isBare⟩
  rcases Except.bind_eq_ok.mp isBare with ⟨staticData, staticBare, isBare⟩
  cases isBare
  cases field with
  | name | active => exact Value.strips_self _
  | settings => exact optional settingsBare
  | staticData => exact optional staticBare
  | connections =>
      change Option.Rel Value.Strips request.connections.join connections.join
      rcases sent : request.connections with _ | value?
      · rw [sent] at connectionsBare
        cases connectionsBare
        exact .none
      · rw [sent] at connectionsBare
        rcases Except.map_eq_ok.mp connectionsBare with ⟨result?, equal, rfl⟩
        exact Value.strips_of_bare equal
  | nodes =>
      change Option.Rel Value.Strips (request.nodes.join.map .plainList)
        (nodes.join.map .plainList)
      rcases sent : request.nodes with _ | _ | found <;> rw [sent] at nodesBare
      · cases nodesBare
        exact .none
      · cases nodesBare
        exact .none
      · rcases Except.map_eq_ok.mp nodesBare with ⟨_, changed, rfl⟩
        rcases Except.map_eq_ok.mp changed with ⟨shown, equal, rfl⟩
        refine .some fun form => ?_
        have each := listMapM_eq_self fun node member =>
          (Value.isJson_of_mem_plainList form member).bare
        cases equal.symm.trans each
        rfl

/-- A request that is made bare asks for nothing where it asked for nothing. -/
theorem new?_bare_eq_none (isBare : request.bare = .ok bare) {field : WorkflowField} :
    bare.new? field = none ↔ request.new? field = none := by
  have strips := strips_new? isBare field
  generalize request.new? field = sent? at strips
  generalize bare.new? field = bare? at strips
  cases strips <;> simp

theorem asksForGraph_bare (isBare : request.bare = .ok bare) :
    bare.AsksForGraph ↔ request.AsksForGraph := by
  simp only [AsksForGraph, ne_eq, new?_bare_eq_none isBare]

theorem new?_bare (isBare : request.bare = .ok bare) {field : WorkflowField}
    {value : Value} (asked : request.new? field = some value) (form : value.IsJson) :
    bare.new? field = some value := by
  have strips := strips_new? isBare field
  rw [asked] at strips
  generalize bare.new? field = bare? at strips
  cases strips with
  | some kept => rw [kept form]

end UpdateRequest

/-! ## What is kept and what is written -/

namespace Changes

variable {changes : Changes} {old changed : Workflow} {field : WorkflowField}

/-- A field that is not changed has the value that it had. -/
theorem value_of_unchanged (ready : changes.row (.ofRow old) = .ready changed)
    (unchanged : changes.lookup field = none) :
    (LoadedWorkflow.ofRow changed).value field = (LoadedWorkflow.ofRow old).value field := by
  have kept := value_of_row ready field
  rw [unchanged] at kept
  exact (Prepared.ready.inj kept).symm

/-- A field that is changed has what its column makes of the new value, unless that
agrees with the value that it had. -/
theorem value_of_changed (ready : changes.row (.ofRow old) = .ready changed)
    {value : Value} (new : changes.lookup field = some value) :
    value.agrees ((LoadedWorkflow.ofRow old).value field) = true ∧
        (LoadedWorkflow.ofRow changed).value field =
          (LoadedWorkflow.ofRow old).value field ∨
      field.column value = .ready ((LoadedWorkflow.ofRow changed).value field) := by
  have kept := value_of_row ready field
  rw [new] at kept
  rcases Column.changed_eq_ready.mp kept with ⟨agree, same⟩ | ⟨_, sent, -, stored⟩
  · exact .inl ⟨agree value rfl, same.symm⟩
  · cases sent
    exact .inr stored

end Changes

/-- Null agrees with nothing but null. -/
theorem Value.eq_null_of_agrees {json : Json}
    (agrees : Value.null.agrees (.ofJson json) = true) : Value.ofJson json = .null := by
  cases json with
  | null => rfl
  | bool | int | float | text | halves | array | object => cases agrees

namespace Store

/-- The tables are the same in two stores, but for one row of the workflows. -/
structure ChangesOnly (before after : Store) (workflowId : String) : Prop where
  users : after.users = before.users
  projects : after.projects = before.projects
  memberships : after.memberships = before.memberships
  sharings : after.sharings = before.sharings
  entries : after.entries = before.entries
  workflows : List.Forall₂
    (fun old new => new.id = old.id ∧ (old.id ≠ workflowId → new = old))
    before.workflows after.workflows

theorem changesOnly_replaceWorkflow (store : Store) (row : Workflow) :
    store.ChangesOnly (store.replaceWorkflow row) row.id where
  users := rfl
  projects := rfl
  memberships := rfl
  sharings := rfl
  entries := rfl
  workflows := by
    rw [replaceWorkflow, List.forall₂_map_right_iff, List.forall₂_same]
    intro other _
    by_cases same : other.id = row.id
    · rw [if_pos same]
      exact ⟨same.symm, fun different => absurd same different⟩
    · rw [if_neg same]
      exact ⟨rfl, fun _ => rfl⟩

end Store

/-! ## The row after an update -/

/-- A row is what a request makes of another one at a moment.  Each field that is not
asked for is as it was.  A field that is asked for has what its column makes of the bare
value, or the old value if that agrees with it; what was sent as JSON is there as it was
sent or agrees with what is there, and a null clears the field.  The version is that of no
workflow in the store if a part of the graph is asked for, and otherwise the old one. -/
structure Workflow.Updated (old new : Workflow) (request bare : UpdateRequest)
    (store : Store) (moment : Moment) : Prop where
  id : new.id = old.id
  stamps : new.stamps = old.stamps.touched moment
  unasked : ∀ field, request.new? field = none →
    (LoadedWorkflow.ofRow new).value field = (LoadedWorkflow.ofRow old).value field
  asked : ∀ field value, bare.new? field = some value →
    value.agrees ((LoadedWorkflow.ofRow old).value field) = true ∧
        (LoadedWorkflow.ofRow new).value field = (LoadedWorkflow.ofRow old).value field ∨
      field.column value = .ready ((LoadedWorkflow.ofRow new).value field)
  storable : ∀ field value, request.new? field = some value → value.Storable →
    (LoadedWorkflow.ofRow new).value field = value ∨
      value.agrees ((LoadedWorkflow.ofRow new).value field) = true
  cleared : ∀ field, request.new? field = some .null →
    (LoadedWorkflow.ofRow new).value field = .null
  renewed : request.AsksForGraph → ∀ row ∈ store.workflows, new.versionId ≠ row.versionId
  kept : ¬request.AsksForGraph → new.versionId = old.versionId

namespace Changes

variable {request bare : UpdateRequest} {old changed : Workflow} {field : WorkflowField}
  {value : Value}

/-- What is sent as JSON is written as it is, or agrees with what was there. -/
theorem value_of_storable (declared : bare.changes.Declared)
    (isBare : request.bare = .ok bare)
    (ready : bare.changes.row (.ofRow old) = .ready changed)
    (asked : request.new? field = some value) (storable : value.Storable) :
    (LoadedWorkflow.ofRow changed).value field = value ∨
      value.agrees ((LoadedWorkflow.ofRow old).value field) = true ∧
        (LoadedWorkflow.ofRow changed).value field =
          (LoadedWorkflow.ofRow old).value field := by
  have form : value.IsJson := storable.imp fun _ both => both.2
  have sent : bare.changes.lookup field = some value := by
    rw [UpdateRequest.lookup_changes, UpdateRequest.new?_bare isBare asked form]
  rcases value_of_changed ready sent with agrees | stored
  · exact .inr agrees
  · left
    have same := WorkflowField.column_eq_ready (declared field value sent) storable
    exact Prepared.ready.inj (stored.symm.trans same)

/-- Null is written where it is sent. -/
theorem value_of_null (declared : bare.changes.Declared) (held : old.Declared)
    (isBare : request.bare = .ok bare)
    (ready : bare.changes.row (.ofRow old) = .ready changed)
    (asked : request.new? field = some .null) :
    (LoadedWorkflow.ofRow changed).value field = .null := by
  have null : Value.null.Storable := ⟨.null, trivial, rfl⟩
  rcases value_of_storable declared isBare ready asked null with stored | ⟨agrees, same⟩
  · exact stored
  · rcases held.storable field with ⟨json, -, equal⟩
    rw [equal] at agrees
    rw [same, equal, Value.eq_null_of_agrees agrees]

end Changes

namespace Workflows

variable {environment : Environment} {before after : Session} {old : Workflow}
  {request bare : UpdateRequest} {detail : WorkflowDetail}

/-- An update that is asked for nothing saves nothing. -/
theorem Updates.saved_of_nothing
    (updates : Updates environment before old bare.changes detail after)
    (isBare : request.bare = .ok bare) (nothing : ∀ field, request.new? field = none) :
    after.saved = before.saved := by
  have empty : bare.changes = [] := UpdateRequest.changes_eq_nil_iff.mpr fun field =>
    (UpdateRequest.new?_bare_eq_none isBare).mpr (nothing field)
  cases updates with
  | nothing _ _ unsaved => exact unsaved.saved
  | replaced asked => exact absurd empty asked

/-- An update that is asked for something makes of the row what was sent, and changes
no other row. -/
theorem Updates.exists_updated
    (updates : Updates environment before old bare.changes detail after)
    (isBare : request.bare = .ok bare) (requested : request.Declared)
    (held : old.Declared) (found : before.saved.workflow? old.id = some old)
    (versioned : before.saved.Versioned before.counters)
    {field : WorkflowField} (asks : request.new? field ≠ none) :
    ∃ new, after.saved.workflow? old.id = some new ∧
      before.saved.ChangesOnly after.saved old.id ∧
      old.Updated new request bare before.saved environment.now := by
  have declared := (requested.bare isBare).changes
  cases updates with
  | nothing empty shown unsaved =>
      have nothing := UpdateRequest.changes_eq_nil_iff.mp empty field
      exact absurd ((UpdateRequest.new?_bare_eq_none isBare).mp nothing) asks
  | @replaced changed versionId stamps asked ready version stamped shown saved did =>
      have same := (Changes.row_keeps ready).1
      have graph : bare.changes.any (·.1.isOfGraph) = true ↔ request.AsksForGraph :=
        UpdateRequest.any_isOfGraph_iff.trans (UpdateRequest.asksForGraph_bare isBare)
      have value (field : WorkflowField) :
          (LoadedWorkflow.ofRow { changed with versionId, stamps }).value field =
            (LoadedWorkflow.ofRow changed).value field := by
        cases field <;> rfl
      refine ⟨{ changed with versionId, stamps }, ?_, ?_, ?_⟩
      · rw [saved]
        exact Store.workflow?_replaceWorkflow found same
      · rw [saved, ← same]
        exact Store.changesOnly_replaceWorkflow _ _
      · constructor
        case id => exact same
        case stamps => exact stamped
        case unasked =>
          intro field unasked
          rw [value]
          apply Changes.value_of_unchanged ready
          rw [UpdateRequest.lookup_changes]
          exact (UpdateRequest.new?_bare_eq_none isBare).mpr unasked
        case asked =>
          intro field sent asked
          rw [value]
          exact Changes.value_of_changed ready
            ((UpdateRequest.lookup_changes _ _).trans asked)
        case storable =>
          intro field sent asked storable
          rw [value]
          rcases Changes.value_of_storable declared isBare ready asked storable with
            stored | ⟨agrees, kept⟩
          · exact .inl stored
          · rw [kept]
            exact .inr agrees
        case cleared =>
          intro field asked
          rw [value]
          exact Changes.value_of_null declared held isBare ready asked
        case renewed =>
          intro asked row member same
          rw [Changes.version, if_pos (graph.mpr asked)] at version
          exact versioned.next_ne member (same.symm.trans version)
        case kept =>
          intro unasked
          rw [Changes.version, if_neg fun changes => unasked (graph.mp changes)] at version
          exact version

end Workflows

/-! ## A date in a node -/

namespace Fair

/-- A node that holds a date. -/
def dating : Value := .ofFields [("at", .scalar (.date "2024-01-01"))]

/-- The data of an update to this node. -/
def updateToDate : Value := .ofFields [("nodes", .plainList [dating])]

/-- The request that the data is read as. -/
def date : UpdateRequest where
  name := none
  nodes := some (some [dating])
  connections := none
  settings := none
  staticData := none
  active := none

theorem closed_dating : Heap.empty.closed dating = dating := by
  simp [Heap.closed, Heap.unfold, dating, Value.ofFields, Value.plainDict, Value.text,
    Heap.unfoldAt, Heap.unfoldEntries]

theorem reads_date : UpdateRequest.read .empty updateToDate = .fits date := by
  have shallow : Rule.shallow .plainList Rule.nodes .empty (.plainList [dating]) =
      .fits [dating] := rfl
  have nodes : Rule.shallowNodes .empty (.plainList [dating]) = .fits [dating] := by
    rw [Rule.shallowNodes, Rule.closed, shallow]
    exact congrArg (fun node => Fit.fits [node]) closed_dating
  have fields : UpdateRequest.read .empty updateToDate =
      UpdateRequest.mk <$> .fits none
        <*> (some <$> (some <$> Rule.shallowNodes .empty
          (.plainList [dating])).within (.field "nodes"))
        <*> .fits none <*> .fits none <*> .fits none <*> .fits none := rfl
  rw [fields, nodes]
  rfl

/-- No JSON is a list with a date. -/
theorem ofJson_ne_dating (json : Json) : .ofJson json ≠ Value.plainList [dating] := by
  intro same
  have node := Value.isJson_of_mem_plainList ⟨json, same.symm⟩ (List.mem_singleton_self dating)
  rcases node with ⟨node, equal⟩
  cases node with
  | object members =>
      rcases members with _ | ⟨⟨key, value⟩, rest⟩
      · cases equal
      · cases value <;> cases equal
  | null | bool | int | float | text | halves | array => cases equal

end Fair

namespace World

/-- Take any world that a run leads to, and an update that succeeds.  It is of a workflow
that the user may update.  If nothing is asked for, nothing changes in the store.
Otherwise the row of the workflow is what the request makes of it, and no other row of any
table changes.  An update with JSON data by a user who may update the workflow succeeds
where there are no mishaps, and no update fails because of fields that cannot be changed. -/
theorem update_changes_what_was_sent (users : List User) (projects : List Project)
    (memberships : List Membership) (counters : Counters)
    (turns : List (Environment × Turn)) (environment : Environment) (user : User)
    (workflowId : String) {heap : Heap} {data : Value} {request : UpdateRequest}
    (fits : UpdateRequest.read heap data = .fits request) :
    let world := (start users projects memberships counters).run turns
    let update := Workflows.update user workflowId request
    (∀ (detail : WorkflowDetail) (after : Session),
      update.outcome environment world.session = (.ok detail, after) →
        ∃ (bare : UpdateRequest) (old : Workflow), request.bare = .ok bare ∧
          world.store.accessibleWorkflow? user [Scope.update] workflowId = some old ∧
          ((∀ field, request.new? field = none) → after.saved = world.store) ∧
          ∀ field, request.new? field ≠ none → ∃ new,
            after.saved.workflow? workflowId = some new ∧
            world.store.ChangesOnly after.saved workflowId ∧
            old.Updated new request bare world.store environment.now) ∧
    (request.IsJson → world.store.Permits user [Scope.update] workflowId →
      ∃ detail after, update.outcome environment.calm world.session =
        (.ok detail, after)) ∧
    update.FailsWith Failure.IsOfUpdate ∧
    ∀ bare, request.bare = .ok bare →
      (Administration.changeWorkflow workflowId bare.changes.labelled).FailsWith
        Failure.IsOfUpdate := by
  intro world update
  have sound : world.Sound := (sound_start users projects memberships counters).run turns
  have versioned : world.store.Versioned world.counters :=
    (sound_start users projects memberships counters).versioned_run nofun turns
  have declared := UpdateRequest.declared_of_read fits
  have held (row : Workflow)
      (found : world.store.accessibleWorkflow? user [Scope.update] workflowId = some row) :
      row.Declared :=
    sound.workflowsDeclared row (Store.mem_of_accessibleWorkflow? found)
  refine ⟨?_, ?_, Workflows.update_failsWith user workflowId request,
    fun bare _ => Administration.changeWorkflow_failsWith workflowId bare.changes⟩
  · intro detail after ended
    have settles : update.Settles environment world.session _ :=
      Workflows.update_updates user workflowId declared held
    rcases settles.of_ok ended with ⟨bare, old, isBare, accessible, updates⟩
    have found := (Store.accessibleWorkflow?_eq_some.mp accessible).2
    obtain rfl := (Store.workflow?_eq_some found).2
    exact ⟨bare, old, isBare, accessible, updates.saved_of_nothing isBare,
      fun field asks => updates.exists_updated isBare declared (held old accessible) found
        versioned asks⟩
  · intro form permits
    exact (Workflows.update_calmly declared form held permits).exists_ok

/-- The author's update to the truth value makes a new version with the old nodes, which
agree with what was sent. -/
theorem flag_changes_what_was_sent :
    let world := Fair.start.run Fair.counted
    let workflowId := Identifier.Kind.workflow.numbered 1
    ∃ (old new : Workflow) (detail : WorkflowDetail) (after : Session),
      (Workflows.update (Fair.member "author") workflowId Fair.flag).outcome
        Fair.weather world.session = (.ok detail, after) ∧
      after.saved.workflow? workflowId = some new ∧
      world.store.ChangesOnly after.saved workflowId ∧
      old.Updated new Fair.flag Fair.flag world.store Fair.weather.now := by
  intro world workflowId
  have updates : ((Workflows.update (Fair.member "author") workflowId
      Fair.flag).outcome Fair.weather world.session).1.toOption.isSome := by
    simp only [world, Fair.session_counted]
    decide +kernel
  rcases ended : (Workflows.update (Fair.member "author") workflowId
    Fair.flag).outcome Fair.weather world.session with ⟨_ | detail, after⟩
  · rw [ended] at updates
    cases updates
  rcases (update_changes_what_was_sent Fair.members Fair.projects Fair.memberships {}
    Fair.counted Fair.weather (Fair.member "author") workflowId Fair.reads_flag).1
    detail after ended with ⟨bare, old, isBare, -, -, changes⟩
  cases Fair.storable_flag.form.bare.symm.trans isBare
  rcases changes .nodes nofun with ⟨new, found, only, updated⟩
  exact ⟨old, new, detail, after, rfl, found, only, updated⟩

/-- A date in a node is stored as a text, which does not agree with it. -/
theorem not_every_update_keeps_what_was_sent :
    ¬∀ (users : List User) (projects : List Project)
      (memberships : List Membership) (counters : Counters)
      (turns : List (Environment × Turn)) (environment : Environment) (user : User)
      (workflowId : String) (heap : Heap) (data : Value) (request : UpdateRequest),
      UpdateRequest.read heap data = .fits request →
      let world := (start users projects memberships counters).run turns
      ∀ (detail : WorkflowDetail) (after : Session),
        (Workflows.update user workflowId request).outcome environment world.session =
          (.ok detail, after) →
        ∀ field value, request.new? field = some value →
          ∃ new, after.saved.workflow? workflowId = some new ∧
            ((LoadedWorkflow.ofRow new).value field = value ∨
              value.agrees ((LoadedWorkflow.ofRow new).value field) = true) := by
  intro always
  have stores : (((Workflows.update (Fair.member "author")
      (Identifier.Kind.workflow.numbered 1) Fair.date).outcome Fair.weather
      (Fair.start.run Fair.counted).session).2.saved.workflow?
        (Identifier.Kind.workflow.numbered 1)).map (fun row =>
          (Value.plainList [Fair.dating]).agrees (.ofJson row.graph.nodes)) =
        some false := by
    rw [Fair.session_counted]
    decide +kernel
  have shows : ((Workflows.update (Fair.member "author")
      (Identifier.Kind.workflow.numbered 1) Fair.date).outcome Fair.weather
      (Fair.start.run Fair.counted).session).1.toOption.isSome := by
    rw [Fair.session_counted]
    decide +kernel
  rcases updated : (Workflows.update (Fair.member "author")
    (Identifier.Kind.workflow.numbered 1) Fair.date).outcome Fair.weather
    (Fair.start.run Fair.counted).session with ⟨_ | detail, after⟩
  · rw [updated] at shows
    cases shows
  rcases always Fair.members Fair.projects Fair.memberships {} Fair.counted Fair.weather
    (Fair.member "author") _ .empty Fair.updateToDate Fair.date Fair.reads_date detail
    after updated .nodes (.plainList [Fair.dating]) rfl with ⟨new, found, same | agrees⟩
  · exact Fair.ofJson_ne_dating new.graph.nodes same
  · rw [updated, found] at stores
    cases agrees.symm.trans (Option.some.inj stores)

end World

end WorkflowExchange

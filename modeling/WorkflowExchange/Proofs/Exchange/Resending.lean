import WorkflowExchange.Proofs.Exchange.Updating
import WorkflowExchange.Proofs.Intake.Levels

/-!
# Graphs that are sent back

A graph that was copied is shown, and who was shown it may send it back.  Its
connections, settings and static data pass the checks of a request, however deeply the
source was nested.  Its nodes do not always: a copied node may have one level more than
the checks let pass.  When no node has, the graph is accepted and nothing of it is
changed: `World.copies_are_taken_back`.
-/

namespace WorkflowExchange

/-! ## Copies of any graph -/

namespace Graph

/-- The graph that the members of an object make.  What is not there is null. -/
def ofMembers (members : List (String × Json)) : Graph where
  nodes := (members.lookup "nodes").getD .null
  connections := (members.lookup "connections").getD .null
  settings := (members.lookup "settings").getD .null
  staticData := (members.lookup "staticData").getD .null

theorem distinct_ofMembers {members : List (String × Json)}
    (distinct : (Json.object members).Distinct) : (ofMembers members).Distinct := by
  have part (key : String) : ((members.lookup key).getD .null).Distinct := by
    cases found : members.lookup key with
    | none => trivial
    | some json =>
        rcases List.lookup_eq_some_iff.mp found with ⟨front, rear, rfl, -⟩
        exact Json.distinctMembers_iff.mp distinct.2 (key, json) (by simp)
  exact ⟨part "nodes", part "connections", part "settings", part "staticData"⟩

/-- Every node of a graph has fewer levels than a copy keeps. -/
def Acceptable (graph : Graph) : Prop :=
  ∀ node ∈ graph.nodeList, node.levels < Heap.graphDepth

theorem acceptable_iff_levels (graph : Graph) : graph.Acceptable ↔
    ∀ levels ∈ graph.nodeList.map Json.levels, levels < Heap.graphDepth := by
  rw [List.forall_mem_map, Acceptable]

theorem acceptable_tidy (graph : Graph) : graph.tidy.Acceptable ↔
    ∀ node ∈ graph.nodeList, node.IsObject → node.levels < Heap.graphDepth := by
  have levels (json : Json) : (json.cut Heap.graphDepth).levels < Heap.graphDepth ↔
      json.levels < Heap.graphDepth := by
    rw [Json.levels_cut]
    omega
  have nodes : graph.tidy.nodeList =
      (graph.nodeList.filter Json.isObject).map (Json.cut Heap.graphDepth) :=
    Json.cutItems_eq_map _ _
  simp only [Acceptable, nodes, List.forall_mem_map, levels, List.mem_filter,
    Json.isObject_iff, and_imp]

end Graph

namespace Heap

theorem get_ofMembers (heap : Heap) (members : List (String × Json)) (key : String) :
    (heap.resolve (.ofJson (.object members))).get key =
      .ok (.ofJson ((members.lookup key).getD .null)) := by
  change Except.ok ((Value.lookup? (Value.ofMembers members) key).getD .null) = _
  congr 1
  induction members with
  | nil => rfl
  | cons member rest hypothesis =>
      rcases member with ⟨name, json⟩
      by_cases here : name = key
      · simp [Value.lookup?, Value.ofMembers, Value.asText?, Value.plain, here]
      · have other : (key == name) = false := beq_eq_false_iff_ne.mpr (Ne.symm here)
        rw [List.lookup_cons, other, ← hypothesis]
        simp [Value.lookup?, Value.ofMembers, Value.asText?, Value.plain, here]

/-- Whatever members an object has, its copy is the graph that they make, tidied. -/
theorem copyGraph_ofMembers (heap : Heap) (members : List (String × Json)) :
    (heap.copyGraph (.ofJson (.object members))).outcome =
      .ok (Graph.ofMembers members).tidy.toCopy := by
  rw [← copyGraph_eq_tidy heap]
  simp only [copyGraph, Graph.toJson, get_ofMembers]
  rfl

end Heap

/-! ## The checks of requests -/

/-- A graph is read as it is, part by part, when no node has as many levels as a copy
keeps.  When one has, only the nodes are refused. -/
structure Graph.Passes (graph : Graph) : Prop where
  nodes : graph.Acceptable → Rule.shallowNodes .empty (.ofJson graph.nodes) =
    .fits (graph.nodeList.map .ofJson)
  refused : ¬graph.Acceptable → Rule.shallowNodes .empty (.ofJson graph.nodes) =
    .misfit "value_error" "Value error, Graph data is nested deeper than 64 levels"
  connections : Rule.shallowDictionary .empty (.ofJson graph.connections) =
    .fits (.ofJson graph.connections)
  settings : Rule.shallowDictionary.optional .empty (.ofJson graph.settings) =
    .fits graph.settings.shown?
  staticData : Rule.shallowDictionary.optional .empty (.ofJson graph.staticData) =
    .fits graph.staticData.shown?

/-- The parts of a graph by their keys. -/
def Graph.fields (graph : Graph) : List (String × Value) :=
  [("nodes", .ofJson graph.nodes), ("connections", .ofJson graph.connections),
    ("settings", .ofJson graph.settings), ("staticData", .ofJson graph.staticData)]

/-- The request to create a workflow with a graph. -/
def Graph.creation (graph : Graph) (name : String) : CreateRequest where
  name := name
  graph :=
    { nodes := some (graph.nodeList.map .ofJson)
      connections := some (.ofJson graph.connections)
      settings := some graph.settings.shown?
      staticData := some graph.staticData.shown? }
  active := none

/-- The request to replace a graph by another one. -/
def Graph.update (graph : Graph) : UpdateRequest where
  name := none
  nodes := some (some (graph.nodeList.map .ofJson))
  connections := some (some (.ofJson graph.connections))
  settings := some graph.settings.shown?
  staticData := some graph.staticData.shown?
  active := none

namespace Graph.Whole

variable {graph : Graph}

theorem passes (whole : graph.Whole) : graph.Passes := by
  rcases whole with ⟨formed, distinct, uncut⟩
  have connections := Json.levels_le_of_cut (congrArg Graph.connections uncut)
  have settings := Json.levels_le_of_cut (congrArg Graph.settings uncut)
  have staticData := Json.levels_le_of_cut (congrArg Graph.staticData uncut)
  constructor
  · intro acceptable
    rw [formed.ofJson_nodes]
    exact Rule.shallowNodes_of_levels formed.each distinct.nodeList acceptable
  · intro deep
    rw [formed.ofJson_nodes]
    refine Rule.shallowNodes_of_deep formed.each distinct.nodeList ?_
    simpa only [Acceptable, not_forall, Nat.not_lt, exists_prop] using deep
  · exact Rule.shallowDictionary_of_levels formed.connections distinct.connections
      connections
  · exact Rule.shallowOptional_of_levels formed.settings distinct.settings settings
  · exact Rule.shallowOptional_of_levels formed.staticData distinct.staticData staticData

/-- Whether an update with the parts of a graph is read depends on the nodes only. -/
theorem read_update (whole : graph.Whole) :
    UpdateRequest.read .empty (.ofFields graph.fields) =
      (fun nodes => { graph.update with nodes := some (some nodes) }) <$>
        (Rule.shallowNodes .empty (.ofJson graph.nodes)).within (.field "nodes") := by
  have fields : UpdateRequest.read .empty (.ofFields graph.fields) =
      UpdateRequest.mk <$> .fits none
        <*> (some <$> (Rule.shallowNodes.optional .empty
          (.ofJson graph.nodes)).within (.field "nodes"))
        <*> (some <$> (Rule.shallowDictionary.optional .empty
          (.ofJson graph.connections)).within (.field "connections"))
        <*> (some <$> (Rule.shallowDictionary.optional .empty
          (.ofJson graph.settings)).within (.field "settings"))
        <*> (some <$> (Rule.shallowDictionary.optional .empty
          (.ofJson graph.staticData)).within (.field "staticData"))
        <*> .fits none := rfl
  have nodes : Rule.shallowNodes.optional .empty (.ofJson graph.nodes) =
      some <$> Rule.shallowNodes .empty (.ofJson graph.nodes) := by
    rw [whole.formed.nodes]
    rfl
  have connections : Rule.shallowDictionary.optional .empty
      (.ofJson graph.connections) = .fits (some (.ofJson graph.connections)) := by
    have read := whole.passes.connections
    rcases whole.formed.connections with ⟨members, same⟩
    rw [same] at read ⊢
    exact congrArg (some <$> ·) read
  rw [fields, nodes, connections, whole.passes.settings, whole.passes.staticData]
  cases Rule.shallowNodes .empty (.ofJson graph.nodes) <;> rfl

theorem read_creation (whole : graph.Whole) {name : String} (named : name ≠ "") :
    CreateRequest.read .empty (.ofFields (("name", .text name) :: graph.fields)) =
      (fun nodes => { graph.creation name with
        graph := { (graph.creation name).graph with nodes := some nodes } }) <$>
        (Rule.shallowNodes .empty (.ofJson graph.nodes)).within (.field "nodes") := by
  have fields : CreateRequest.read .empty
      (.ofFields (("name", .text name) :: graph.fields)) =
      CreateRequest.mk
        <$> (Rule.nonEmptyText .empty (.text name)).within (.field "name")
        <*> (GraphRequest.mk
          <$> (some <$> (Rule.shallowNodes .empty
            (.ofJson graph.nodes)).within (.field "nodes"))
          <*> (some <$> (Rule.shallowDictionary .empty
            (.ofJson graph.connections)).within (.field "connections"))
          <*> (some <$> (Rule.shallowDictionary.optional .empty
            (.ofJson graph.settings)).within (.field "settings"))
          <*> (some <$> (Rule.shallowDictionary.optional .empty
            (.ofJson graph.staticData)).within (.field "staticData")))
        <*> .fits none := rfl
  have filled : Rule.nonEmptyText .empty (.text name) = .fits name := by
    change (if name.isEmpty then _ else Fit.fits name) = _
    rw [if_neg (by simpa using named)]
  rw [fields, filled, whole.passes.connections, whole.passes.settings,
    whole.passes.staticData]
  cases Rule.shallowNodes .empty (.ofJson graph.nodes) <;> rfl

end Graph.Whole

/-- What the nesting check says of a copy in a heap: only the list of the nodes can be
nested too deeply. -/
structure GraphCopy.Checked (copy : GraphCopy) (heap : Heap) : Prop where
  nodes : heap.isNestedBeyond Heap.graphDepth (.plainList copy.nodes) = .ok false ↔
    ∀ node ∈ copy.nodes, heap.isNestedBeyond (Heap.graphDepth - 1) node = .ok false
  each : ∀ node ∈ copy.nodes, heap.isNestedBeyond Heap.graphDepth node = .ok false
  connections : heap.isNestedBeyond Heap.graphDepth copy.connections = .ok false
  settings : heap.isNestedBeyond Heap.graphDepth copy.settings = .ok false
  staticData : heap.isNestedBeyond Heap.graphDepth copy.staticData = .ok false

theorem GraphCopy.Shallow.checked {copy : GraphCopy} (shallow : copy.Shallow)
    (heap : Heap) : copy.Checked heap where
  nodes := by
    have list : heap.isNestedBeyond Heap.graphDepth (.plainList copy.nodes) =
        anyChecked (heap.isNestedBeyond (Heap.graphDepth - 1)) copy.nodes.reverse := rfl
    rw [list, Heap.anyChecked_eq_false]
    simp only [List.mem_reverse]
  each node held := Heap.isNestedBeyond_of_tree (shallow.nodes node held) heap
  connections := Heap.isNestedBeyond_of_tree shallow.connections heap
  settings := Heap.isNestedBeyond_of_tree shallow.settings heap
  staticData := Heap.isNestedBeyond_of_tree shallow.staticData heap

/-- The graph of a request that was accepted is acceptable. -/
theorem CreateRequest.Carries.acceptable {heap : Heap} {data : Value}
    {request : CreateRequest} {graph : Graph} (carries : request.Carries graph)
    (settled : heap.Settled) (fits : CreateRequest.read heap data = .fits request) :
    graph.Acceptable := by
  have levels := Json.levels_le_of_cut (carries.cut_nodes settled fits)
  rw [(carries.formed fits).nodes, Json.levels] at levels
  intro node held
  exact Nat.lt_of_le_of_lt (Json.levelsOfItems_le_iff.mp (Nat.le_refl _) node held) levels

/-! ## Showing -/

/-- The graph that is shown, by its keys. -/
def WorkflowDetail.graphFields (detail : WorkflowDetail) : List (String × Value) :=
  [("nodes", detail.value .nodes), ("connections", detail.value .connections),
    ("settings", detail.value .settings), ("staticData", detail.value .staticData)]

theorem Graph.Formed.declared {graph : Graph} (formed : graph.Formed) :
    (LiveGraph.ofGraph graph).Declared := by
  have part {json : Json} (declared : json.IsObject ∨ json = .null) :
      (Value.ofJson json).HasTextKeys ∨ Value.ofJson json = .null := by
    rcases declared with object | rfl
    · exact .inl object.hasTextKeys
    · exact .inr rfl
  refine ⟨⟨Value.ofItems graph.nodeList, ?_, ?_⟩, formed.connections.hasTextKeys,
    part formed.settings, part formed.staticData⟩
  · change Value.ofJson graph.nodes = _
    rw [formed.nodes]
    rfl
  · exact Value.hasTextKeys_of_mem_ofItems formed.each

theorem Workflow.Titled.declared {row : Workflow} (titled : row.Titled)
    (whole : row.graph.Whole) : row.Declared where
  name := by
    rcases titled with ⟨content, named⟩
    exact ⟨content, congrArg TextCell.toValue named⟩
  active := ⟨row.active, rfl⟩
  graph := whole.formed.declared
  distinct := whole.distinct

/-- A workflow with a graph that a store gave back is shown with the fields of the
graph. -/
theorem WorkflowDetail.graphFields_of_ofLoaded {workflow : LoadedWorkflow}
    {graph : Graph} {summary : WorkflowSummary} {detail : WorkflowDetail}
    (same : workflow.graph = .ofGraph graph) (formed : graph.Formed)
    (distinct : graph.Distinct)
    (summarized : WorkflowSummary.ofLoaded workflow = .fits summary)
    (shown : ofLoaded workflow = .fits detail) : detail.graphFields = graph.fields := by
  rw [ofLoaded_ofGraph same formed distinct summarized] at shown
  cases shown
  simp only [graphFields, value, ← formed.ofJson_nodes,
    Json.ofOption_shown? formed.settings, Json.ofOption_shown? formed.staticData]
  rfl

/-! ## Taking back -/

section Steps

variable {environment : Environment} {before after : Session} {user : User}
  {workflowId name : String} {row : Workflow} {graph : Graph} {detail : WorkflowDetail}

theorem Graph.Whole.fits_update (whole : graph.Whole) (acceptable : graph.Acceptable) :
    UpdateRequest.read .empty (.ofFields graph.fields) = .fits graph.update := by
  rw [whole.read_update, whole.passes.nodes acceptable]
  rfl

theorem Graph.Whole.fits_creation (whole : graph.Whole) (acceptable : graph.Acceptable)
    (named : name ≠ "") :
    CreateRequest.read .empty (.ofFields (("name", .text name) :: graph.fields)) =
      .fits (graph.creation name) := by
  rw [whole.read_creation named, whole.passes.nodes acceptable]
  rfl

theorem Graph.isJson_update (graph : Graph) : graph.update.IsJson := by
  have part {json : Json} (sent : Option Value) (shown : sent = json.shown?) :
      ∀ value ∈ sent, value.IsJson := by
    intro value member
    rw [shown] at member
    cases json with
    | null => cases member
    | bool | int | float | text | halves | array | object =>
        cases member
        exact Value.isJson_ofJson _
  constructor
  · rintro _ ⟨⟩ _ ⟨⟩ node member
    rcases List.mem_map.mp member with ⟨json, -, rfl⟩
    exact Value.isJson_ofJson json
  · rintro _ ⟨⟩ _ ⟨⟩
    exact Value.isJson_ofJson _
  · rintro _ ⟨⟩ value member
    exact part _ rfl value member
  · rintro _ ⟨⟩ value member
    exact part _ rfl value member

/-- An update to the graph that a workflow has asks for the values that are there. -/
theorem Graph.Whole.lookup_update (whole : row.graph.Whole) {field : WorkflowField}
    {value : Value} (sent : row.graph.update.changes.lookup field = some value) :
    value = (LoadedWorkflow.ofRow row).value field := by
  rw [UpdateRequest.lookup_changes] at sent
  cases field with
  | name | active => cases sent
  | nodes =>
      cases sent
      exact whole.formed.ofJson_nodes.symm
  | connections =>
      cases sent
      rfl
  | settings =>
      cases sent
      exact Json.ofOption_shown? whole.formed.settings
  | staticData =>
      cases sent
      exact Json.ofOption_shown? whole.formed.staticData

theorem Graph.Whole.getD_update (whole : row.graph.Whole) (field : WorkflowField) :
    (row.graph.update.changes.lookup field).getD ((LoadedWorkflow.ofRow row).value field) =
      (LoadedWorkflow.ofRow row).value field := by
  cases sent : row.graph.update.changes.lookup field with
  | none => rfl
  | some value => exact whole.lookup_update sent

theorem Workflow.graph_eq_of_value {one other : Workflow}
    (values : ∀ field, (LoadedWorkflow.ofRow one).value field =
      (LoadedWorkflow.ofRow other).value field) : one.graph = other.graph := by
  have nodes := Value.ofJson_injective (values .nodes)
  have connections := Value.ofJson_injective (values .connections)
  have settings := Value.ofJson_injective (values .settings)
  have staticData := Value.ofJson_injective (values .staticData)
  exact (Graph.mk.injEq ..).mpr ⟨nodes, connections, settings, staticData⟩

/-- An update with JSON data makes the changes that it asks for in the workflow that is
there. -/
theorem Workflows.update_updates_found {request : UpdateRequest} (form : request.IsJson)
    (requested : request.Declared)
    (found : before.saved.workflow? workflowId = some row) (held : row.Declared) :
    (update user workflowId request).Settles environment before
      (Updates environment before row request.changes) := by
  refine (update_updates user workflowId requested fun other there => ?_).mono ?_
  · rw [Store.eq_of_accessibleWorkflow? there found]
    exact held
  · rintro detail after ⟨bare, old, same, there, updates⟩
    rw [form.bare] at same
    cases same
    rwa [Store.eq_of_accessibleWorkflow? there found] at updates

/-- Sending back the graph of a workflow shows it and keeps it. -/
theorem Workflows.update_keeps (found : before.saved.workflow? workflowId = some row)
    (titled : row.Titled) (whole : row.graph.Whole) (acceptable : row.graph.Acceptable)
    (ended : (update user workflowId row.graph.update).outcome environment before =
      (.ok detail, after)) :
    detail.graphFields = row.graph.fields ∧
      after.saved.graph? workflowId = some row.graph := by
  have declared := UpdateRequest.declared_of_read (whole.fits_update acceptable)
  have held := titled.declared whole
  have settles : (update user workflowId row.graph.update).Settles environment before
      _ := update_updates_found row.graph.isJson_update declared found held
  have updates := settles.of_ok ended
  obtain rfl := (Store.workflow?_eq_some found).2
  have storable : row.graph.update.changes.Storable := by
    intro field value sent
    rw [whole.lookup_update sent]
    exact held.storable field
  rcases updates.exists_row storable declared.changes held found with
    ⟨last, stored, -, kept, told, -⟩
  -- What is sent is what is there, so that the row keeps all its values.
  have values (field : WorkflowField) : (LoadedWorkflow.ofRow last).value field =
      (LoadedWorkflow.ofRow row).value field := by
    rw [kept, Changes.kept_eq_of_same fun value sent _ => whole.lookup_update sent,
      whole.getD_update]
  constructor
  · simp only [WorkflowDetail.graphFields, told, whole.getD_update]
    rfl
  · rw [Store.graph?, stored, Option.map_some, Workflow.graph_eq_of_value values]

theorem Graph.Whole.carries (whole : graph.Whole) (name : String) :
    (graph.creation name).Carries graph := by
  refine ⟨?_, whole.distinct⟩
  have nodes : Value.plainList (graph.nodeList.map .ofJson) = .ofJson graph.nodes :=
    whole.formed.ofJson_nodes.symm
  have settings := Json.ofOption_shown? whole.formed.settings
  have staticData := Json.ofOption_shown? whole.formed.staticData
  exact (LiveGraph.mk.injEq ..).mpr ⟨nodes, rfl, settings, staticData⟩

/-- Creating a workflow with a graph shows it and keeps it. -/
theorem Workflows.create_keeps_graph (whole : graph.Whole)
    (acceptable : graph.Acceptable) (named : name ≠ "")
    (ended : (create user (graph.creation name)).outcome environment before =
      (.ok detail, after)) :
    detail.graphFields = graph.fields ∧
      after.saved.graph? detail.summary.id = some graph := by
  have carries := whole.carries name
  have settles : (create user (graph.creation name)).Settles environment before _ :=
    create_creates user (CreateRequest.declared_of_read
      (whole.fits_creation acceptable named))
  rcases (settles.of_ok ended).adopts with ⟨row, adopts, id, ready, shown⟩
  rw [carries.same, whole.formed.prepared whole.distinct] at ready
  cases ready
  constructor
  · exact WorkflowDetail.graphFields_of_ofLoaded carries.same whole.formed whole.distinct
      rfl shown
  · rw [Store.graph?, id, adopts.workflow?_eq]
    rfl

end Steps

/-! ## What happens to a copy -/

/-- Nothing is cut off of a value that is kept or replaced, when nothing is of the old
and of the new one. -/
theorem Value.cut_of_changed {room : Nat} {old new : Json} {sent : Option Value}
    (held : old.cut room = old)
    (asked : ∀ json, sent = some (.ofJson json) → json.cut room = json)
    (kept : .ofJson new = (ofJson old).changed sent) : new.cut room = new := by
  cases sent with
  | none =>
      obtain rfl : new = old := ofJson_injective kept
      exact held
  | some value =>
      rw [changed] at kept
      by_cases agrees : value.agrees (ofJson old)
      · rw [if_pos agrees] at kept
        obtain rfl : new = old := ofJson_injective kept
        exact held
      · rw [if_neg agrees] at kept
        exact asked new (congrArg some kept.symm)

/-- Copying changes nothing of a graph after an update that was accepted, if it changed
nothing before. -/
theorem Graph.Whole.kept {changes : Changes} {old row : Workflow}
    (whole : old.graph.Whole) (declared : row.Declared)
    (asked : ∀ field json, changes.lookup field = some (.ofJson json) →
      json.cut Heap.graphDepth = json)
    (kept : ∀ field, (LoadedWorkflow.ofRow row).value field =
      changes.kept (.ofRow old) field) : row.graph.Whole := by
  refine ⟨Graph.formed_of_declared declared.graph, declared.distinct, ?_⟩
  have nodes : row.graph.nodes.cut (Heap.graphDepth + 1) = row.graph.nodes :=
    Value.cut_of_changed (congrArg Graph.nodes whole.uncut)
      (fun json sent => Json.cut_succ _ (asked .nodes json sent)) (kept .nodes)
  have connections := Value.cut_of_changed (congrArg Graph.connections whole.uncut)
    (asked .connections) (kept .connections)
  have settings := Value.cut_of_changed (congrArg Graph.settings whole.uncut)
    (asked .settings) (kept .settings)
  have staticData := Value.cut_of_changed (congrArg Graph.staticData whole.uncut)
    (asked .staticData) (kept .staticData)
  exact (Graph.mk.injEq ..).mpr ⟨nodes, connections, settings, staticData⟩

namespace World

variable {world : World} {workflowId : String} {graph : Graph} {event : Event}

/-- An update of a workflow with data that is JSON. -/
inductive Event.Edits (workflowId : String) : Event → Prop where
  | update (environment : Environment) (user : User) {heap : Heap} {data : Value}
      {request : UpdateRequest} (settled : heap.Settled)
      (fits : UpdateRequest.read heap data = .fits request)
      (storable : request.Storable) :
      Edits workflowId (.turn environment (.act (.update user workflowId heap data)))

/-- Each of some events leaves the graph of a workflow, or is an update of it with data
that is JSON. -/
def Tends (workflowId : String) : World → List Event → Prop
  | _, [] => True
  | world, event :: later =>
    (event.Edits workflowId ∨
      (world.next event).store.graph? workflowId = world.store.graph? workflowId) ∧
      Tends workflowId (world.next event) later

theorem Steady.whole_next (steady : world.Steady)
    (held : world.store.graph? workflowId = some graph) (whole : graph.Whole)
    (tends : event.Edits workflowId ∨
      (world.next event).store.graph? workflowId = world.store.graph? workflowId) :
    ∃ later, (world.next event).store.graph? workflowId = some later ∧ later.Whole := by
  rcases tends with edits | same
  · cases edits with
    | @update environment user heap data request settled fits storable =>
        rcases Option.map_eq_some_iff.mp held with ⟨row, found, rfl⟩
        have declared := (steady.store.titled row
          (Store.workflow?_eq_some found).1).declared whole
        have kept (after : Session) (unsaved : world.session.Unsaved after) :
            ∃ later, after.saved.graph? workflowId = some later ∧ later.Whole := by
          rw [unsaved.saved]
          exact ⟨row.graph, held, whole⟩
        -- An update that is not made leaves the row, and one that is made writes values
        -- of which nothing is cut off.
        change (world.work (.act (.update user workflowId heap data))).Leaves
          (world.within environment) world.session fun store _ =>
            ∃ later, store.graph? workflowId = some later ∧ later.Whole
        apply Work.Leaves.andPure
        apply Work.leaves_bind (Work.prepares_ofExcept _) kept
        rintro given _ - ⟨read, rfl⟩
        cases fits.symm.trans (Fit.toExcept_eq_ok.mp read)
        have requested := UpdateRequest.declared_of_read fits
        apply Work.Leaves.andPure
        apply Work.leaves_of_settles (Workflows.update_updates_found storable.form
          requested found declared) kept
        rintro detail after updates
        obtain rfl := (Store.workflow?_eq_some found).2
        rcases updates.exists_row storable.changes requested.changes declared found with
          ⟨later, stored, laterDeclared, values, -⟩
        refine ⟨later.graph, ?_, whole.kept laterDeclared
          (fun _ _ => UpdateRequest.cut_of_read settled fits) values⟩
        rw [Store.graph?, stored]
        rfl
  · exact ⟨graph, same.trans held, whole⟩

/-- Copying changes nothing of the graph of a workflow, whatever tends to it. -/
theorem Steady.whole_happen (steady : world.Steady)
    (held : world.store.graph? workflowId = some graph) (whole : graph.Whole)
    {later : List Event} (tends : Tends workflowId world later) :
    ∃ last, (world.happen later).store.graph? workflowId = some last ∧ last.Whole := by
  induction later generalizing world graph with
  | nil => exact ⟨graph, held, whole⟩
  | cons event rest hypothesis =>
      rcases steady.whole_next held whole tends.1 with ⟨next, held, whole⟩
      exact hypothesis (steady.next event) held whole tends.2

/-! ## Sending back -/

/-- A graph that was shown is accepted when it is sent back, in an update of the workflow
as well as with a name for a new one.  Nothing of it is changed, and without mishaps
both are done for everyone who may. -/
structure TakesBack (world : World) (workflowId : String) (detail : WorkflowDetail) :
    Prop where
  update : ∃ request,
    UpdateRequest.read .empty (.ofFields detail.graphFields) = .fits request ∧
      ∀ (environment : Environment) (user : User),
        (∀ (again : WorkflowDetail) (after : Session),
          (Workflows.update user workflowId request).outcome environment
              world.session = (.ok again, after) →
            again.graphFields = detail.graphFields ∧
              after.saved.graph? workflowId = world.store.graph? workflowId) ∧
        (world.store.Permits user [Scope.update] workflowId →
          ∃ again after, (Workflows.update user workflowId request).outcome
            environment.calm world.session = (.ok again, after))
  creation : ∀ name, name ≠ "" → ∃ request,
    CreateRequest.read .empty
        (.ofFields (("name", .text name) :: detail.graphFields)) = .fits request ∧
      ∀ (environment : Environment) (user : User),
        (∀ (made : WorkflowDetail) (after : Session),
          (Workflows.create user request).outcome environment world.session =
              (.ok made, after) →
            made.graphFields = detail.graphFields ∧
              after.saved.graph? made.summary.id = world.store.graph? workflowId) ∧
        ((world.store.personalProject? user.id).isSome →
          ∃ made after, (Workflows.create user request).outcome environment.calm
            world.session = (.ok made, after))

end World

/-- A graph that was shown is refused for its nodes when it is sent back. -/
structure WorkflowDetail.Refused (detail : WorkflowDetail) : Prop where
  update : UpdateRequest.read .empty (.ofFields detail.graphFields) =
    .misfits [⟨[.field "nodes"], "value_error",
      "Value error, Graph data is nested deeper than 64 levels"⟩]
  creation : ∀ name, name ≠ "" → CreateRequest.read .empty
      (.ofFields (("name", .text name) :: detail.graphFields)) =
    .misfits [⟨[.field "nodes"], "value_error",
      "Value error, Graph data is nested deeper than 64 levels"⟩]

theorem Graph.Whole.refused {graph : Graph} {detail : WorkflowDetail}
    (whole : graph.Whole) (deep : ¬graph.Acceptable)
    (shown : detail.graphFields = graph.fields) : detail.Refused where
  update := by
    rw [shown, whole.read_update, whole.passes.refused deep]
    rfl
  creation name named := by
    rw [shown, whole.read_creation named, whole.passes.refused deep]
    rfl

namespace World

variable {world : World} {workflowId : String} {graph : Graph}

theorem Steady.takes_back (steady : world.Steady)
    (held : world.store.graph? workflowId = some graph) (whole : graph.Whole)
    (acceptable : graph.Acceptable) {detail : WorkflowDetail}
    (shown : detail.graphFields = graph.fields) :
    world.TakesBack workflowId detail where
  update := by
    rcases Option.map_eq_some_iff.mp held with ⟨row, found, rfl⟩
    have fits := whole.fits_update acceptable
    have titled := steady.store.titled row (Store.workflow?_eq_some found).1
    refine ⟨row.graph.update, ?_, fun environment user => ⟨?_, ?_⟩⟩
    · rw [shown]
      exact fits
    · intro again after ended
      rcases Workflows.update_keeps found titled whole acceptable ended with
        ⟨same, kept⟩
      exact ⟨same.trans shown.symm, kept.trans held.symm⟩
    · intro permits
      have calmly : (Workflows.update user workflowId row.graph.update).Calmly
          environment.calm world.session _ :=
        Workflows.update_calmly (UpdateRequest.declared_of_read fits)
          row.graph.isJson_update (fun other there => by
            rw [Store.eq_of_accessibleWorkflow? there found]
            exact titled.declared whole) permits
      exact calmly.exists_ok
  creation name named := by
    have fits := whole.fits_creation acceptable named
    refine ⟨graph.creation name, ?_, fun environment user => ⟨?_, ?_⟩⟩
    · rw [shown]
      exact fits
    · intro made after ended
      rcases Workflows.create_keeps_graph whole acceptable named ended with
        ⟨same, kept⟩
      exact ⟨same.trans shown.symm, kept.trans held.symm⟩
    · intro owned
      rcases Option.isSome_iff_exists.mp owned with ⟨project, owned⟩
      have calmly : (Workflows.create user (graph.creation name)).Calmly
          environment.calm world.session _ :=
        Workflows.create_calmly_of_keyed (whole.carries name) fits steady.keyed_session
          owned
      exact calmly.exists_ok

/-- A workflow with a graph of which copying changes nothing is shown with the graph. -/
theorem Steady.shows_graph (steady : world.Steady)
    (held : world.store.graph? workflowId = some graph) (whole : graph.Whole)
    {reader : User} (permits : world.store.Permits reader [Scope.read] workflowId) :
    (Workflows.get reader workflowId).Shows world.session
      (·.graphFields = graph.fields) := by
  rcases Option.map_eq_some_iff.mp held with ⟨row, found, rfl⟩
  rcases Store.exists_accessibleWorkflow?.mpr permits with ⟨other, readable⟩
  obtain rfl := Store.eq_of_accessibleWorkflow? readable found
  have loaded := ((steady.store.titled other
    (Store.workflow?_eq_some found).1).declared whole).loaded
  rcases WorkflowDetail.fits loaded with ⟨detail, shown⟩
  rcases WorkflowSummary.fits _ loaded.name loaded.active with ⟨summary, summarized⟩
  refine (Workflows.get_shows readable shown).mono ?_
  rintro _ rfl
  exact WorkflowDetail.graphFields_of_ofLoaded rfl whole.formed whole.distinct summarized
    shown

/-- An entry that was imported has a snapshot. -/
theorem Imports.exists_snapshot {environment : Environment} {user : User}
    {entryId : String} {last : World}
    (imports : world.Imports environment user entryId last workflowId) :
    ∃ snapshot, world.store.snapshot? entryId = some snapshot := by
  rcases imports.ends with ⟨summary, after, ended, -⟩
  have settles : (Catalog.importEntry user entryId).Settles environment world.session
      _ := Catalog.importEntry_imports user entryId
  rcases settles.of_ok ended with ⟨-, entry, -, -, -, found, -⟩
  exact ⟨entry.snapshot, Option.map_eq_some_iff.mpr ⟨entry, found, rfl⟩⟩

/-- An imported workflow has a graph of which copying changes nothing, whatever tends to
it. -/
theorem Steady.exists_graph (steady : world.Steady) {importing : Environment}
    {importer : User} {entryId : String} {copied : World}
    (imports : world.Imports importing importer entryId copied workflowId)
    {later : List Event} (tends : Tends workflowId copied later) :
    ∃ graph, (copied.happen later).store.graph? workflowId = some graph ∧
      graph.Whole := by
  rcases imports.exists_snapshot with ⟨snapshot, stored⟩
  rcases steady.stores stored imports with ⟨row, -, there, -, whole, -⟩
  have held : copied.store.graph? workflowId = some row.graph := by
    rw [Store.graph?, there]
    rfl
  exact (steady.imports imports).whole_happen held whole tends

end World

/-! ## A copy that is not taken back -/

namespace Fair

/-- The identifier of the workflow that the reader imports. -/
def importedId : String := Identifier.Kind.workflow.numbered 2

/-- The reader imports the entry with the graph that was nested too deeply. -/
def taken : World :=
  (start.happen worn).after weather.calm (.act (.importEntry (member "reader") entryId))

theorem imports_worn : (start.happen worn).Imports weather.calm (member "reader") entryId
    taken importedId := by
  have imports : ((Catalog.importEntry (member "reader") entryId).outcome weather.calm
      (start.happen worn).session).1.toOption.map (·.id) = some importedId := by
    decide +kernel
  rcases ended : (Catalog.importEntry (member "reader") entryId).outcome weather.calm
    (start.happen worn).session with ⟨failure | summary, after⟩
  · rw [ended] at imports
    cases imports
  · rw [ended] at imports
    exact ⟨⟨summary, after, ended, Option.some.inj imports⟩, rfl⟩

/-- The node of the imported workflow has as many levels as a copy keeps. -/
theorem not_acceptable_taken {graph : Graph}
    (held : taken.store.graph? importedId = some graph) : ¬graph.Acceptable := by
  have levels : (taken.store.graph? importedId).map
      (fun graph => graph.nodeList.map Json.levels) = some [64] := by decide +kernel
  rw [held, Option.map_some] at levels
  rw [Graph.acceptable_iff_levels, Option.some.inj levels]
  decide

theorem permits_taken :
    taken.store.Permits (member "reader") [Scope.read] importedId := by
  rw [← Store.exists_accessibleWorkflow?, ← Option.isSome_iff_exists]
  decide +kernel

/-- The reader replaces the node by one with a truth value. -/
def flagged : World.Event :=
  .turn weather (.act (.update (member "reader") importedId .empty updateToFlag))

theorem store_flagged : (taken.happen [flagged]).store =
    ((Workflows.update (member "reader") importedId flag).outcome weather
      taken.session).2.saved := by
  have last : taken.happen [flagged] = taken.step weather (.act (.update
      (member "reader") importedId .empty updateToFlag)) := rfl
  rw [last, World.step, World.within_of_hasRoom (by decide +kernel), World.store_after,
    World.session_reading taken weather rfl reads_flag]

theorem acceptable_flagged {graph : Graph}
    (held : (taken.happen [flagged]).store.graph? importedId = some graph) :
    graph.Acceptable := by
  have levels : ((taken.happen [flagged]).store.graph? importedId).map
      (fun graph => graph.nodeList.map Json.levels) = some [1] := by
    rw [store_flagged]
    decide +kernel
  rw [held, Option.map_some] at levels
  rw [Graph.acceptable_iff_levels, Option.some.inj levels]
  decide

theorem permits_flagged :
    (taken.happen [flagged]).store.Permits (member "reader") [Scope.read]
      importedId := by
  rw [← Store.exists_accessibleWorkflow?, ← Option.isSome_iff_exists, store_flagged]
  decide +kernel

theorem tends_flagged : World.Tends importedId taken [flagged] :=
  ⟨.inl (.update weather (member "reader") (fun _ => rfl) reads_flag storable_flag),
    trivial⟩

end Fair

namespace World

/-- Whatever is copied without a fallback, only the list of its nodes can be nested too
deeply.  The connections, settings and static data of the copy of a JSON object are read
as they are; its nodes are, too, exactly when no node that is an object has as many
levels as a copy keeps.  The graph of a request that was accepted has no such node.

Take any world that whatever happened leads to, with any JSON written to the graphs of
workflows, and any import of an entry.  From then on, as long as the graph of the new
workflow stays or is updated with JSON data, it is shown to everyone who may read it.
When no node has as many levels as a copy keeps, the graph is accepted when it is sent
back, and nothing of it is changed; when one has, the graph is refused for its nodes. -/
theorem copies_are_taken_back (heap : Heap) (settled : heap.Settled) (users : List User)
    (projects : List Project) (memberships : List Membership) (counters : Counters)
    (events : List Event) :
    let world := (start users projects memberships counters).happen events
    (∀ (other : Heap) (source : Value) (copy : GraphCopy),
      Heap.Undegraded (heap.copyGraph source) copy → copy.Checked other) ∧
    (∀ members : List (String × Json), (Json.object members).Distinct →
      ∃ graph : Graph,
        (heap.copyGraph (.ofJson (.object members))).outcome = .ok graph.toCopy ∧
        graph.Passes ∧
        (graph.Acceptable ↔ ∀ node ∈ (Graph.ofMembers members).nodeList,
          node.IsObject → node.levels < Heap.graphDepth)) ∧
    (∀ (data : Value) (request : CreateRequest) (graph : Graph),
      CreateRequest.read heap data = .fits request → request.Carries graph →
      graph.Acceptable) ∧
    ∀ (importing : Environment) (importer : User) (entryId : String) (copied : World)
      (workflowId : String),
      world.Imports importing importer entryId copied workflowId →
      ∀ later : List Event, Tends workflowId copied later →
        let last := copied.happen later
        ∃ graph, last.store.graph? workflowId = some graph ∧
          ∀ reader : User, last.store.Permits reader [Scope.read] workflowId →
            (Workflows.get reader workflowId).Shows last.session fun detail =>
              detail.graphFields = graph.fields ∧
              (graph.Acceptable → last.TakesBack workflowId detail) ∧
              (¬graph.Acceptable → detail.Refused) := by
  intro world
  refine ⟨?_, ?_, ?_, ?_⟩
  · intro other source copy made
    exact (Heap.shallow_of_copyGraph settled made).checked other
  · intro members distinct
    exact ⟨_, heap.copyGraph_ofMembers members,
      (Graph.distinct_ofMembers distinct).whole_tidy.passes, Graph.acceptable_tidy _⟩
  · intro data request graph fits carries
    exact carries.acceptable settled fits
  · intro importing importer entryId copied workflowId imports later tends last
    have steady : world.Steady :=
      (steady_start users projects memberships counters).happen events
    rcases steady.exists_graph imports tends with ⟨graph, held, whole⟩
    have lastSteady : last.Steady := (steady.imports imports).happen later
    refine ⟨graph, held, fun reader permits => ?_⟩
    refine (lastSteady.shows_graph held whole permits).mono fun detail shown => ?_
    exact ⟨shown, fun acceptable => lastSteady.takes_back held whole acceptable shown,
      fun deep => whole.refused deep shown⟩

/-- A graph is copied without a fallback, another one with a shallow node, and a third one
is accepted; the reader imports a copy that is refused, replaces the node, and then the
copy is taken back. -/
theorem flagged_copy_is_taken_back :
    let shallow := (Fair.legacy 3).toJson
    let last := Fair.taken.happen [Fair.flagged]
    Fair.drawing.tidy.toCopy.Checked .empty ∧
      (∃ graph : Graph, (Heap.empty.copyGraph (.ofJson shallow)).outcome =
        .ok graph.toCopy ∧ graph.Acceptable) ∧
      Fair.drawing.Acceptable ∧
      (∃ detail after, (Workflows.get (Fair.member "reader") Fair.importedId).outcome
        Fair.weather.calm Fair.taken.session = (.ok detail, after) ∧ detail.Refused) ∧
      ∃ detail after, (Workflows.get (Fair.member "reader") Fair.importedId).outcome
        Fair.weather.calm last.session = (.ok detail, after) ∧
        last.TakesBack Fair.importedId detail := by
  intro shallow last
  have settled : Heap.empty.Settled := fun _ => rfl
  have undegraded : Heap.Undegraded (Heap.empty.copyGraph (.ofJson Fair.drawing.toJson))
      Fair.drawing.tidy.toCopy := by
    refine ⟨Heap.copyGraph_eq_tidy _ _, fun fault held => ?_⟩
    have told : (Heap.empty.copyGraph (.ofJson Fair.drawing.toJson)).messages = [] := rfl
    rw [told] at held
    cases held
  rcases copies_are_taken_back .empty settled Fair.members Fair.projects
    Fair.memberships {} Fair.worn with ⟨checked, copies, accepted, shows⟩
  refine ⟨checked .empty _ _ undegraded, ?_,
    accepted Fair.creation Fair.drawn Fair.drawing Fair.reads_drawn Fair.carries_drawn,
    ?_, ?_⟩
  · rcases copies _ (Fair.distinct_legacy 3).toJson with ⟨graph, copied, -, acceptable⟩
    refine ⟨graph, copied, acceptable.mpr fun node held _ => ?_⟩
    have levels : ∀ node ∈ (Fair.legacy 3).nodeList, node.levels < Heap.graphDepth := by
      decide
    exact levels node held
  · rcases shows Fair.weather.calm (Fair.member "reader") Fair.entryId Fair.taken
      Fair.importedId Fair.imports_worn [] trivial with ⟨graph, held, shows⟩
    have reads := shows (Fair.member "reader") Fair.permits_taken
    rcases reads.calmly Fair.weather with ⟨detail, after, ended⟩
    exact ⟨detail, after, ended, (reads.always _ detail after ended).2.2
      (Fair.not_acceptable_taken held)⟩
  · rcases shows Fair.weather.calm (Fair.member "reader") Fair.entryId Fair.taken
      Fair.importedId Fair.imports_worn _ Fair.tends_flagged with ⟨graph, held, shows⟩
    have reads := shows (Fair.member "reader") Fair.permits_flagged
    rcases reads.calmly Fair.weather with ⟨detail, after, ended⟩
    exact ⟨detail, after, ended, (reads.always _ detail after ended).2.1
      (Fair.acceptable_flagged held)⟩

/-- The graph of an imported workflow is shown to the reader and refused when the reader
sends it back. -/
theorem not_every_copy_is_taken_back :
    ¬∀ (users : List User) (projects : List Project) (memberships : List Membership)
      (counters : Counters) (events : List Event),
      let world := (start users projects memberships counters).happen events
      ∀ (importing : Environment) (importer : User) (entryId : String) (copied : World)
        (workflowId : String),
        world.Imports importing importer entryId copied workflowId →
        ∀ (reader : User) (environment : Environment),
          (Workflows.get reader workflowId).Returns environment copied.session
            fun detail => ∃ request,
              UpdateRequest.read .empty (.ofFields detail.graphFields) =
                .fits request := by
  intro always
  have steady : (Fair.start.happen Fair.worn).Steady :=
    (steady_start Fair.members Fair.projects Fair.memberships {}).happen Fair.worn
  have tends : Tends Fair.importedId Fair.taken [] := trivial
  rcases steady.exists_graph Fair.imports_worn tends with ⟨graph, held, whole⟩
  have shows := (steady.imports Fair.imports_worn).shows_graph held whole
    Fair.permits_taken
  rcases shows.calmly Fair.weather with ⟨detail, after, ended⟩
  have refused := whole.refused (Fair.not_acceptable_taken held)
    (shows.always _ detail after ended)
  rcases always Fair.members Fair.projects Fair.memberships {} Fair.worn
    Fair.weather.calm (Fair.member "reader") Fair.entryId Fair.taken Fair.importedId
    Fair.imports_worn (Fair.member "reader") Fair.weather.calm detail after ended with
    ⟨request, fits⟩
  cases refused.update.symm.trans fits

end World

end WorkflowExchange

import WorkflowExchange.Exchange.Workflows
import WorkflowExchange.Proofs.Copy.Graph
import WorkflowExchange.Proofs.Intake.Request
import WorkflowExchange.Proofs.Json.Distinct

/-!
# Workflows of declared kinds

A workflow that a request made, or that was imported, has fields of the declared
kinds, in the session that makes it and in the store alike.  Changes that a
request asks for keep it so.  A workflow with such fields can always be shown.
-/

namespace WorkflowExchange

namespace WorkflowField

/-- Is a value of the kind that is declared for a field? -/
def Declares : WorkflowField → Value → Prop
  | .name, value => ∃ content, value = .text content
  | .active, value => ∃ content, value = .bool content
  | .nodes, value => ∃ items, value = .plainList items ∧
      ∀ item ∈ items, item.HasTextKeys
  | .connections, value => value.HasTextKeys
  | .settings, value => value.HasTextKeys ∨ value = .null
  | .staticData, value => value.HasTextKeys ∨ value = .null

/-- Is a value of the declared kind but for the keys of its dictionaries? -/
def Admits : WorkflowField → Value → Prop
  | .name, value => ∃ content, value = .text content
  | .active, value => ∃ content, value = .bool content
  | .nodes, value => ∃ items, value = .plainList items ∧
      ∀ item ∈ items, item.isDict
  | .connections, value => value.isDict
  | .settings, value => value.isDict ∨ value = .null
  | .staticData, value => value.isDict ∨ value = .null

theorem Declares.admits {field : WorkflowField} {value : Value}
    (declares : field.Declares value) : field.Admits value := by
  cases field with
  | name | active => exact declares
  | nodes =>
      rcases declares with ⟨items, rfl, keyed⟩
      exact ⟨items, rfl, fun item member => (keyed item member).isDict⟩
  | connections => exact Value.HasTextKeys.isDict declares
  | settings | staticData =>
      rcases declares with keyed | rfl
      · exact .inl keyed.isDict
      · exact .inr rfl

end WorkflowField

/-- The parts of a graph are of the declared kinds. -/
structure LiveGraph.Declared (graph : LiveGraph) : Prop where
  nodes : WorkflowField.nodes.Declares graph.nodes
  connections : WorkflowField.connections.Declares graph.connections
  settings : WorkflowField.settings.Declares graph.settings
  staticData : WorkflowField.staticData.Declares graph.staticData

/-- The parts of a graph are of the declared kinds but for the keys of their
dictionaries. -/
structure LiveGraph.Admitted (graph : LiveGraph) : Prop where
  nodes : WorkflowField.nodes.Admits graph.nodes
  connections : WorkflowField.connections.Admits graph.connections
  settings : WorkflowField.settings.Admits graph.settings
  staticData : WorkflowField.staticData.Admits graph.staticData

theorem LiveGraph.Declared.admitted {graph : LiveGraph}
    (declared : graph.Declared) : graph.Admitted :=
  ⟨declared.nodes.admits, declared.connections.admits,
    declared.settings.admits, declared.staticData.admits⟩

theorem GraphCopy.Declared.admitted {graph : GraphCopy}
    (declared : graph.Declared) : graph.live.Admitted :=
  ⟨⟨graph.nodes, rfl, declared.nodes⟩, declared.connections,
    declared.settings, declared.staticData⟩

/-- The fields of a workflow are of the declared kinds as the work sees them. -/
structure LoadedWorkflow.Declared (workflow : LoadedWorkflow) : Prop where
  name : WorkflowField.name.Declares workflow.name
  active : WorkflowField.active.Declares workflow.active
  graph : workflow.graph.Declared

/-- The objects in the parts of a graph have different keys. -/
structure Graph.Distinct (graph : Graph) : Prop where
  nodes : graph.nodes.Distinct
  connections : graph.connections.Distinct
  settings : graph.settings.Distinct
  staticData : graph.staticData.Distinct

/-- The fields of a stored workflow are of the declared kinds, and its graph is
read back as it was stored. -/
structure Workflow.Declared (row : Workflow) : Prop where
  name : WorkflowField.name.Declares row.name.toValue
  active : WorkflowField.active.Declares (.bool row.active)
  graph : (LiveGraph.ofGraph row.graph).Declared
  distinct : row.graph.Distinct

theorem Workflow.Declared.loaded {row : Workflow} (declared : row.Declared) :
    (LoadedWorkflow.ofRow row).Declared :=
  ⟨declared.name, declared.active, declared.graph⟩

/-! ## Showing -/

theorem WorkflowSummary.fits (workflow : LoadedWorkflow)
    (name : WorkflowField.name.Declares workflow.name)
    (active : WorkflowField.active.Declares workflow.active) :
    ∃ summary, ofLoaded workflow = .fits summary := by
  rcases name with ⟨content, name⟩
  rcases active with ⟨truth, active⟩
  refine ⟨⟨workflow.row.id, content, truth, workflow.row.stamps⟩, ?_⟩
  rw [ofLoaded, name, active]
  rfl

theorem Rule.dictionary_optional_fits {value : Value}
    (declares : value.HasTextKeys ∨ value = .null) :
    ∃ read, Rule.dictionary.optional .empty value = .fits read := by
  rcases declares with keyed | rfl
  · rcases Rule.dictionary_fits keyed with ⟨read, fits⟩
    rcases keyed with ⟨_, _, _, rfl, -⟩
    refine ⟨some read, ?_⟩
    exact Fit.map_eq_fits.mpr ⟨read, fits, rfl⟩
  · exact ⟨none, rfl⟩

/-- A workflow with fields of the declared kinds can be shown. -/
theorem WorkflowDetail.fits {workflow : LoadedWorkflow}
    (declared : workflow.Declared) :
    ∃ detail, ofLoaded workflow = .fits detail := by
  rcases declared with ⟨name, active,
    ⟨items, nodesEqual, keyed⟩, connections, settings, staticData⟩
  rcases WorkflowSummary.fits workflow name active with ⟨summary, summarized⟩
  rcases Rule.nodes_fits keyed with ⟨nodes, nodesFit⟩
  rcases Rule.dictionary_fits connections with ⟨part, connectionsFit⟩
  rcases Rule.dictionary_optional_fits settings with ⟨setting, settingsFit⟩
  rcases Rule.dictionary_optional_fits staticData with ⟨static, staticFit⟩
  refine ⟨⟨summary, workflow.row.versionId, nodes, part, setting, static⟩, ?_⟩
  rw [ofLoaded, summarized, nodesEqual, nodesFit, connectionsFit, settingsFit,
    staticFit]
  rfl

/-- A workflow is shown under its identifier. -/
theorem WorkflowSummary.id_of_ofLoaded {workflow : LoadedWorkflow}
    {summary : WorkflowSummary} (fits : ofLoaded workflow = .fits summary) :
    summary.id = workflow.row.id := by
  simp only [ofLoaded, Fit.seq_eq_fits, Fit.map_eq_fits] at fits
  rcases fits with ⟨_, _, ⟨_, -, rfl⟩, -, rfl⟩
  rfl

theorem WorkflowDetail.id_of_ofLoaded {workflow : LoadedWorkflow}
    {detail : WorkflowDetail} (fits : ofLoaded workflow = .fits detail) :
    detail.summary.id = workflow.row.id := by
  simp only [ofLoaded, Fit.seq_eq_fits, Fit.map_eq_fits] at fits
  rcases fits with ⟨_, _, ⟨_, _, ⟨_, _, ⟨_, _, ⟨_, summarized, rfl⟩, -, rfl⟩, -,
    rfl⟩, -, rfl⟩, -, rfl⟩
  exact WorkflowSummary.id_of_ofLoaded summarized

/-! ## Storing -/

namespace Prepared

variable {α β : Type}

theorem map_eq_ready {change : α → β} {prepared : Prepared α} {result : β} :
    (change <$> prepared) = .ready result ↔
      ∃ given, prepared = .ready given ∧ change given = result := by
  constructor
  · intro equal
    cases prepared <;> cases equal
    exact ⟨_, rfl, rfl⟩
  · rintro ⟨_, rfl, rfl⟩
    rfl

theorem seq_eq_ready {first : Prepared (α → β)} {second : Prepared α}
    {result : β} :
    (first <*> second) = .ready result ↔
      ∃ change given, first = .ready change ∧ second = .ready given ∧
        change given = result := by
  constructor
  · intro equal
    cases first <;> cases second <;> cases equal
    exact ⟨_, _, rfl, rfl, rfl⟩
  · rintro ⟨_, _, rfl, rfl, rfl⟩
    rfl

end Prepared

namespace Json

/-- Is the value an object? -/
def IsObject (json : Json) : Prop :=
  ∃ members, json = .object members

theorem IsObject.hasTextKeys {json : Json} (object : json.IsObject) :
    (Value.ofJson json).HasTextKeys := by
  rcases object with ⟨members, rfl⟩
  refine ⟨_, _, _, rfl, ?_⟩
  induction members with
  | nil => simp [Value.ofMembers]
  | cons member rest hypothesis =>
      exact List.forall_mem_cons.mpr ⟨⟨member.1, rfl⟩, hypothesis⟩

end Json

namespace Value

variable {manner : Manner} {rule : Value → Except Fault Json}

theorem isObject_of_serialize {value : Value} {json : Json}
    (dictionary : value.isDict)
    (serialized : value.serialize manner rule = .ok json) : json.IsObject := by
  cases value with
  | dict type failure entries =>
      have formed (outcome : Except Fault (List (String × Json)))
          (mapped : outcome.map Json.object = .ok json) : json.IsObject := by
        rcases outcome with fault | members
        · cases mapped
        · cases mapped
          exact ⟨members, rfl⟩
      simp only [serialize] at serialized
      split at serialized
      · cases serialized
      · exact formed _ serialized
  | scalar | member | foreign | set | list | tuple | record | shared | loop =>
      cases dictionary

theorem isObject_of_serializeItems {items : List Value} {values : List Json}
    (dictionaries : ∀ item ∈ items, item.isDict)
    (serialized : serializeItems manner rule items = .ok values) :
    ∀ value ∈ values, value.IsObject := by
  induction items generalizing values with
  | nil =>
      cases serialized
      simp
  | cons item rest hypothesis =>
      rcases List.forall_mem_cons.mp dictionaries with ⟨headed, rested⟩
      simp only [serializeItems] at serialized
      rcases first : item.serialize manner rule with _ | shown
      · rw [first] at serialized
        cases serialized
      · rcases others : serializeItems manner rule rest with _ | shownRest
        · rw [first, others] at serialized
          cases serialized
        · rw [first, others] at serialized
          cases serialized
          exact List.forall_mem_cons.mpr
            ⟨isObject_of_serialize headed first, hypothesis rested others⟩

theorem isObject_of_rereadItems {values : List Json}
    (objects : ∀ value ∈ values, value.IsObject) :
    ∀ value ∈ Json.rereadItems values, value.IsObject := by
  induction values with
  | nil => simp [Json.rereadItems]
  | cons value rest hypothesis =>
      rcases List.forall_mem_cons.mp objects with ⟨⟨members, rfl⟩, rested⟩
      exact List.forall_mem_cons.mpr
        ⟨⟨Json.merged (Json.rereadMembers members), rfl⟩, hypothesis rested⟩

theorem hasTextKeys_of_mem_ofItems {values : List Json}
    (objects : ∀ value ∈ values, value.IsObject) :
    ∀ item ∈ ofItems values, item.HasTextKeys := by
  induction values with
  | nil => simp [ofItems]
  | cons value rest hypothesis =>
      rcases List.forall_mem_cons.mp objects with ⟨object, rested⟩
      exact List.forall_mem_cons.mpr ⟨object.hasTextKeys, hypothesis rested⟩

end Value

namespace Column

/-- What a column of JSON takes was serialized, and it gives that back as a
reader would. -/
theorem json_eq_ready {value : Value} {json : Json}
    (ready : Column.json value = .ready json) :
    ∃ given, value.columnForm = .ok given ∧ json = given.reread.kept := by
  rw [Column.json, Value.stored] at ready
  rcases form : value.columnForm with _ | given
  · rw [form] at ready
    cases ready
  · rw [form] at ready
    cases ready
    exact ⟨given, rfl, rfl⟩

/-- What a column of JSON holds has different keys. -/
theorem distinct_of_json {value : Value} {json : Json}
    (ready : Column.json value = .ready json) : json.Distinct := by
  rcases json_eq_ready ready with ⟨given, -, rfl⟩
  exact (Json.distinct_reread given).kept

/-- A column keeps what it holds unless it takes a new value. -/
theorem changed_eq_ready {α : Type} {column : Column α} {loaded : Value}
    {kept stored : α} {change? : Option Value} :
    column.changed loaded kept change? = .ready stored ↔
      (∀ value ∈ change?, value.agrees loaded) ∧ kept = stored ∨
      ∃ value ∈ change?, ¬value.agrees loaded ∧ column value = .ready stored := by
  cases change? with
  | none => simp [changed]
  | some value =>
      by_cases agrees : value.agrees loaded <;> simp [changed, agrees]

/-- A column is changed when it takes the new value. -/
theorem exists_changed {α : Type} {column : Column α} {change? : Option Value}
    (loaded : Value) (kept : α)
    (takes : ∀ value ∈ change?, ∃ stored, column value = .ready stored) :
    ∃ stored, column.changed loaded kept change? = .ready stored := by
  by_cases agree : ∀ value ∈ change?, value.agrees loaded
  · exact ⟨kept, changed_eq_ready.mpr (.inl ⟨agree, rfl⟩)⟩
  · push Not at agree
    rcases agree with ⟨value, given, differs⟩
    rcases takes value given with ⟨stored, ready⟩
    exact ⟨stored, changed_eq_ready.mpr (.inr ⟨value, given, differs, ready⟩)⟩

theorem distinct_of_changed {loaded : Value} {held json : Json}
    {change? : Option Value} (distinct : held.Distinct)
    (ready : Column.json.changed loaded held change? = .ready json) :
    json.Distinct := by
  rcases changed_eq_ready.mp ready with ⟨-, rfl⟩ | ⟨_, -, -, stored⟩
  · exact distinct
  · exact distinct_of_json stored

theorem isObject_of_json {value : Value} {json : Json}
    (dictionary : value.isDict) (ready : Column.json value = .ready json) :
    json.IsObject := by
  rcases json_eq_ready ready with ⟨given, serialized, rfl⟩
  rcases Value.isObject_of_serialize dictionary serialized with ⟨members, rfl⟩
  exact ⟨_, rfl⟩

theorem declares_of_json_nodes {items : List Value} {json : Json}
    (dictionaries : ∀ item ∈ items, item.isDict)
    (ready : Column.json (.plainList items) = .ready json) :
    WorkflowField.nodes.Declares (.ofJson json) := by
  rcases json_eq_ready ready with ⟨given, serialized, rfl⟩
  change (Value.serializeItems _ _ items).map Json.array = .ok given
    at serialized
  rcases formed : Value.serializeItems ⟨.eager, none⟩ _ items with _ | values
  · rw [formed] at serialized
    cases serialized
  · rw [formed] at serialized
    cases serialized
    refine ⟨_, rfl, Value.hasTextKeys_of_mem_ofItems ?_⟩
    exact Value.isObject_of_rereadItems
      (Value.isObject_of_serializeItems dictionaries formed)

theorem declares_of_json_part {value : Value} {json : Json}
    (admits : value.isDict ∨ value = .null)
    (ready : Column.json value = .ready json) :
    (Value.ofJson json).HasTextKeys ∨ Value.ofJson json = .null := by
  rcases admits with dictionary | rfl
  · exact .inl (isObject_of_json dictionary ready).hasTextKeys
  · cases ready
    exact .inr rfl

end Column

/-- The parts of a graph that was stored are of the declared kinds. -/
theorem LiveGraph.declared_of_prepared {graph : LiveGraph} {stored : Graph}
    (admitted : graph.Admitted) (ready : graph.prepared = .ready stored) :
    (LiveGraph.ofGraph stored).Declared := by
  simp only [prepared, Prepared.seq_eq_ready, Prepared.map_eq_ready] at ready
  rcases ready with ⟨_, staticData, ⟨_, settings, ⟨_, connections,
    ⟨nodes, nodesReady, rfl⟩, connectionsReady, rfl⟩, settingsReady, rfl⟩,
    staticReady, rfl⟩
  rcases admitted.nodes with ⟨items, nodesEqual, dictionaries⟩
  rw [nodesEqual] at nodesReady
  exact ⟨Column.declares_of_json_nodes dictionaries nodesReady,
    (Column.isObject_of_json admitted.connections connectionsReady).hasTextKeys,
    Column.declares_of_json_part admitted.settings settingsReady,
    Column.declares_of_json_part admitted.staticData staticReady⟩

theorem LiveGraph.distinct_of_prepared {graph : LiveGraph} {stored : Graph}
    (ready : graph.prepared = .ready stored) : stored.Distinct := by
  simp only [prepared, Prepared.seq_eq_ready, Prepared.map_eq_ready] at ready
  rcases ready with ⟨_, staticData, ⟨_, settings, ⟨_, connections,
    ⟨nodes, nodesReady, rfl⟩, connectionsReady, rfl⟩, settingsReady, rfl⟩,
    staticReady, rfl⟩
  exact ⟨Column.distinct_of_json nodesReady,
    Column.distinct_of_json connectionsReady,
    Column.distinct_of_json settingsReady, Column.distinct_of_json staticReady⟩

/-- A workflow that was stored with a text for its name has fields of the declared
kinds. -/
theorem WorkflowDraft.declared_of_prepared {draft : WorkflowDraft}
    {id versionId : String} {moment : Moment} {row : Workflow}
    (named : WorkflowField.name.Admits draft.name)
    (admitted : draft.graph.Admitted)
    (ready : draft.prepared id versionId moment = .ready row) :
    row.Declared ∧ row.id = id := by
  simp only [prepared, Prepared.seq_eq_ready, Prepared.map_eq_ready] at ready
  rcases ready with ⟨_, stamps, ⟨_, graph, ⟨_, active, ⟨name, nameReady, rfl⟩,
    -, rfl⟩, graphReady, rfl⟩, -, rfl⟩
  rcases named with ⟨content, nameEqual⟩
  rw [nameEqual] at nameReady
  cases nameReady
  exact ⟨⟨⟨content, rfl⟩, ⟨active, rfl⟩,
    LiveGraph.declared_of_prepared admitted graphReady,
    LiveGraph.distinct_of_prepared graphReady⟩, rfl⟩

/-- What was prepared of a workflow that was stored: its columns are those of the
draft, and its identifiers are those that were given. -/
structure WorkflowDraft.Stored (draft : WorkflowDraft) (id versionId : String)
    (row : Workflow) : Prop where
  id : row.id = id
  name : Column.text draft.name = .ready row.name
  active : Column.truth.orElse false draft.active = .ready row.active
  graph : draft.graph.prepared = .ready row.graph
  version : row.versionId = versionId

theorem WorkflowDraft.stored_of_prepared {draft : WorkflowDraft}
    {id versionId : String} {moment : Moment} {row : Workflow}
    (ready : draft.prepared id versionId moment = .ready row) :
    draft.Stored id versionId row := by
  simp only [prepared, Prepared.seq_eq_ready, Prepared.map_eq_ready] at ready
  rcases ready with ⟨_, stamps, ⟨_, graph, ⟨_, active, ⟨name, nameReady, rfl⟩,
    activeReady, rfl⟩, graphReady, rfl⟩, -, rfl⟩
  exact ⟨rfl, nameReady, activeReady, graphReady, rfl⟩

/-! ## Changing -/

/-- New values of the declared kinds. -/
def Changes.Declared (changes : Changes) : Prop :=
  ∀ field value, changes.lookup field = some value → field.Declares value

namespace Changes

variable {changes : Changes}

/-- The fields of a workflow are of the declared kinds after such changes, as the
work sees them. -/
theorem Declared.seen {workflow : LoadedWorkflow} (declared : changes.Declared)
    (loaded : workflow.Declared) : (changes.seen workflow).Declared := by
  have current (field : WorkflowField) (value : Value)
      (declares : field.Declares value) :
      field.Declares ((changes.lookup field).getD value) := by
    rcases found : changes.lookup field with _ | new
    · exact declares
    · exact declared field new found
  exact ⟨current .name _ loaded.name, current .active _ loaded.active,
    current .nodes _ loaded.graph.nodes,
    current .connections _ loaded.graph.connections,
    current .settings _ loaded.graph.settings,
    current .staticData _ loaded.graph.staticData⟩

/-- A column of JSON keeps a value of the declared kind. -/
theorem Declared.column (declared : changes.Declared) {field : WorkflowField}
    {held json : Json} (declares : field.Declares (.ofJson held))
    (keeps : ∀ value stored, field.Admits value →
      Column.json value = .ready stored → field.Declares (.ofJson stored))
    (ready : Column.json.changed (.ofJson held) held (changes.lookup field) =
      .ready json) :
    field.Declares (.ofJson json) := by
  rcases Column.changed_eq_ready.mp ready with ⟨-, rfl⟩ | ⟨value, found, -, stored⟩
  · exact declares
  · exact keeps value json (declared field value found).admits stored

/-- Changes keep the identifier of a row, and the keys of its graph different. -/
theorem row_keeps {old changed : Workflow}
    (ready : changes.row (.ofRow old) = .ready changed) :
    changed.id = old.id ∧ (old.graph.Distinct → changed.graph.Distinct) := by
  simp only [Changes.row, Changes.graph, Prepared.seq_eq_ready,
    Prepared.map_eq_ready] at ready
  rcases ready with ⟨_, _, ⟨_, active, ⟨name, nameReady, rfl⟩, -, rfl⟩,
    ⟨_, staticData, ⟨_, settings, ⟨_, connections, ⟨nodes, nodesReady, rfl⟩,
      connectionsReady, rfl⟩, settingsReady, rfl⟩, staticReady, rfl⟩, rfl⟩
  exact ⟨rfl, fun held =>
    ⟨Column.distinct_of_changed held.nodes nodesReady,
      Column.distinct_of_changed held.connections connectionsReady,
      Column.distinct_of_changed held.settings settingsReady,
      Column.distinct_of_changed held.staticData staticReady⟩⟩

/-- The fields of the row are of the declared kinds after such changes. -/
theorem Declared.row {old changed : Workflow} (declared : changes.Declared)
    (held : old.Declared)
    (ready : changes.row (.ofRow old) = .ready changed) :
    changed.Declared ∧ changed.id = old.id := by
  rcases row_keeps ready with ⟨same, distinct⟩
  refine ⟨?_, same⟩
  simp only [Changes.row, Changes.graph, Prepared.seq_eq_ready,
    Prepared.map_eq_ready] at ready
  rcases ready with ⟨_, _, ⟨_, active, ⟨name, nameReady, rfl⟩, -, rfl⟩,
    ⟨_, staticData, ⟨_, settings, ⟨_, connections, ⟨nodes, nodesReady, rfl⟩,
      connectionsReady, rfl⟩, settingsReady, rfl⟩, staticReady, rfl⟩, rfl⟩
  refine ⟨?_, ⟨active, rfl⟩, ⟨?_, ?_, ?_, ?_⟩, distinct held.distinct⟩
  · rcases Column.changed_eq_ready.mp nameReady with
      ⟨-, rfl⟩ | ⟨value, found, -, stored⟩
    · exact held.name
    · rcases declared .name value found with ⟨content, rfl⟩
      cases stored
      exact ⟨content, rfl⟩
  · apply declared.column held.graph.nodes ?_ nodesReady
    rintro _ stored ⟨items, rfl, dictionaries⟩ ready
    exact Column.declares_of_json_nodes dictionaries ready
  · apply declared.column held.graph.connections ?_ connectionsReady
    intro value stored dictionary ready
    exact (Column.isObject_of_json dictionary ready).hasTextKeys
  · apply declared.column held.graph.settings ?_ settingsReady
    intro value stored admits ready
    exact Column.declares_of_json_part admits ready
  · apply declared.column held.graph.staticData ?_ staticReady
    intro value stored admits ready
    exact Column.declares_of_json_part admits ready

end Changes

end WorkflowExchange

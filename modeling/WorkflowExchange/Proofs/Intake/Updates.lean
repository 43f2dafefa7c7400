import WorkflowExchange.Proofs.Exchange.Imports

/-!
# Updates with JSON data

The parts of a graph that come from JSON are bare already, and every column takes
them.  So the changes that a request with JSON data asks for can be made.
-/

namespace WorkflowExchange

/-! ## Bare forms -/

namespace Value

mutual
/-- A value with a JSON form is bare. -/
theorem bareWithin_ofJson (room : Nat) (json : Json) :
    bareWithin room (ofJson json) = .ok (ofJson json) := by
  match room, json with
  | 0, _ => rw [bareWithin]
  | _ + 1, .null | _ + 1, .bool _ | _ + 1, .int _ | _ + 1, .float _
  | _ + 1, .text _ | _ + 1, .halves _ => rfl
  | room + 1, .array items =>
      have parts := bareItems_ofItems room items
      simp only [ofJson, plainList, bareWithin, parts]
      rfl
  | room + 1, .object members =>
      have parts := bareEntries_ofMembers room members
      simp only [ofJson, plainDict, bareWithin, parts]
      rfl
termination_by structural json

theorem bareItems_ofItems (room : Nat) (items : List Json) :
    bareItems room (ofItems items) = .ok (ofItems items) := by
  match items with
  | [] => rfl
  | item :: rest =>
      have first := bareWithin_ofJson room item
      have others := bareItems_ofItems room rest
      simp only [ofItems, bareItems, first, others]
      rfl
termination_by structural items

theorem bareEntries_ofMembers (room : Nat) (members : List (String × Json)) :
    bareEntries room (ofMembers members) = .ok (ofMembers members) := by
  match members with
  | [] => rfl
  | (key, value) :: rest =>
      have first := bareWithin_ofJson room value
      have others := bareEntries_ofMembers room rest
      simp only [ofMembers, bareEntries, first, others]
      rfl
termination_by structural members
end

theorem IsJson.bare {value : Value} (form : value.IsJson) :
    value.bare = .ok value := by
  rcases form with ⟨json, rfl⟩
  cases json with
  | object members =>
      change (bareEntries bareDepth (ofMembers members)).map plainDict = _
      rw [bareEntries_ofMembers]
      rfl
  | null | bool | int | float | text | halves | array => rfl

end Value

/-- What changes nothing in an optional value keeps it. -/
theorem optionMapM_eq_self {α : Type} {change : α → Except Fault α}
    {given : Option α} (keeps : ∀ value ∈ given, change value = .ok value) :
    given.mapM change = .ok given := by
  cases given with
  | none => rfl
  | some value =>
      change some <$> change value = _
      rw [keeps value rfl]
      rfl

theorem listMapM_eq_self {α : Type} {change : α → Except Fault α}
    {given : List α} (keeps : ∀ value ∈ given, change value = .ok value) :
    given.mapM change = .ok given := by
  induction given with
  | nil => rfl
  | cons first rest hypothesis =>
      rcases List.forall_mem_cons.mp keeps with ⟨headed, rested⟩
      rw [List.mapM_cons, headed, hypothesis rested]
      rfl

/-! ## Requests -/

/-- The parts of a graph that were sent have JSON forms. -/
structure UpdateRequest.IsJson (request : UpdateRequest) : Prop where
  nodes : ∀ sent ∈ request.nodes, ∀ found ∈ sent, ∀ node ∈ found, node.IsJson
  connections : ∀ sent ∈ request.connections, ∀ part ∈ sent, part.IsJson
  settings : ∀ sent ∈ request.settings, ∀ part ∈ sent, part.IsJson
  staticData : ∀ sent ∈ request.staticData, ∀ part ∈ sent, part.IsJson

namespace UpdateRequest

variable {request : UpdateRequest}

/-- A request with JSON data is bare. -/
theorem IsJson.bare (form : request.IsJson) : request.bare = .ok request := by
  have part {sent : Sent (Option Value)}
      (parts : ∀ given ∈ sent, ∀ value ∈ given, value.IsJson) :
      sent.mapM (Option.mapM Value.bare) = .ok sent :=
    optionMapM_eq_self fun given member =>
      optionMapM_eq_self fun value place => (parts given member value place).bare
  have nodes : request.nodes.mapM (Option.mapM (List.mapM Value.bare)) =
      .ok request.nodes :=
    optionMapM_eq_self fun given member =>
      optionMapM_eq_self fun found place =>
        listMapM_eq_self fun node inside =>
          (form.nodes given member found place node inside).bare
  rw [UpdateRequest.bare, nodes, part form.connections, part form.settings,
    part form.staticData]
  rfl

/-- Every change that a request with JSON data asks for has a JSON form. -/
theorem IsJson.changes (form : request.IsJson) {field : WorkflowField}
    {value : Value} (found : request.changes.lookup field = some value) :
    value.IsJson := by
  rw [lookup_changes] at found
  cases field with
  | name =>
      rcases Option.map_eq_some_iff.mp found with ⟨name, -, rfl⟩
      exact ⟨.text name, rfl⟩
  | active =>
      rcases Option.map_eq_some_iff.mp found with ⟨truth, -, rfl⟩
      exact ⟨.bool truth, rfl⟩
  | nodes =>
      rcases Option.map_eq_some_iff.mp found with ⟨nodes, sent, rfl⟩
      exact Value.isJson_plainList
        (form.nodes _ (Option.join_eq_some_iff.mp sent) nodes rfl)
  | connections =>
      exact form.connections _ (Option.join_eq_some_iff.mp found) value rfl
  | settings =>
      rcases Option.map_eq_some_iff.mp found with ⟨_ | part, sent, rfl⟩
      · exact ⟨.null, rfl⟩
      · exact form.settings _ sent part rfl
  | staticData =>
      rcases Option.map_eq_some_iff.mp found with ⟨_ | part, sent, rfl⟩
      · exact ⟨.null, rfl⟩
      · exact form.staticData _ sent part rfl

end UpdateRequest

/-! ## Changes that can be made -/

/-- Declared changes with JSON forms can be stored. -/
theorem Changes.Declared.exists_row {changes : Changes}
    (declared : changes.Declared)
    (form : ∀ field value, changes.lookup field = some value → value.IsJson)
    (workflow : LoadedWorkflow) :
    ∃ row, changes.row workflow = .ready row := by
  have part (field : WorkflowField) (loaded : Value) (kept : Json) :
      ∃ stored, Column.json.changed loaded kept (changes.lookup field) =
        .ready stored :=
    Column.exists_changed loaded kept fun value found =>
      (form field value found).column
  have text : ∀ value ∈ changes.lookup .name, ∃ stored,
      Column.text value = .ready stored := by
    intro value found
    rcases declared .name value found with ⟨content, rfl⟩
    exact ⟨.text content, rfl⟩
  have truth : ∀ value ∈ changes.lookup .active, ∃ stored,
      Column.truth value = .ready stored := by
    intro value found
    rcases declared .active value found with ⟨truth, rfl⟩
    exact ⟨truth, Column.truth_bool truth⟩
  rcases Column.exists_changed workflow.name workflow.row.name text with
    ⟨name, nameReady⟩
  rcases Column.exists_changed workflow.active workflow.row.active truth with
    ⟨active, activeReady⟩
  rcases part .nodes workflow.graph.nodes workflow.row.graph.nodes with
    ⟨nodes, nodesReady⟩
  rcases part .connections workflow.graph.connections
    workflow.row.graph.connections with ⟨connections, connectionsReady⟩
  rcases part .settings workflow.graph.settings workflow.row.graph.settings with
    ⟨settings, settingsReady⟩
  rcases part .staticData workflow.graph.staticData
    workflow.row.graph.staticData with ⟨staticData, staticReady⟩
  refine ⟨{ workflow.row with
    name, active, graph := ⟨nodes, connections, settings, staticData⟩ }, ?_⟩
  rw [Changes.row, Changes.graph, nameReady, activeReady, nodesReady,
    connectionsReady, settingsReady, staticReady]
  rfl

end WorkflowExchange

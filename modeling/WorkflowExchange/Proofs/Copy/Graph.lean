import WorkflowExchange.Proofs.Copy.Json

/-!
# Parts of copied graphs

Whatever a graph is copied from, the nodes of the copy and its connections are
dictionaries, and so are its settings and static data unless they are null.
Copying a graph that a store gave back never fails.
-/

namespace WorkflowExchange

theorem Trial.outcome_bind_eq_ok {ε α β : Type} {trial : Trial ε α}
    {next : α → Trial ε β} {result : β} :
    (trial >>= next).outcome = .ok result ↔
      ∃ middle, trial.outcome = .ok middle ∧
        (next middle).outcome = .ok result := by
  rw [Trial.outcome_bind]
  cases trial.outcome with
  | error failure => simp
  | ok middle => simp

namespace GraphCopy

/-- The parts of a graph are of the declared kinds. -/
structure Declared (graph : GraphCopy) : Prop where
  nodes : ∀ node ∈ graph.nodes, node.isDict
  connections : graph.connections.isDict
  settings : graph.settings.isDict ∨ graph.settings = .null
  staticData : graph.staticData.isDict ∨ graph.staticData = .null

/-- The parts of a graph have JSON forms. -/
structure IsJson (graph : GraphCopy) : Prop where
  nodes : ∀ node ∈ graph.nodes, node.IsJson
  connections : graph.connections.IsJson
  settings : graph.settings.IsJson
  staticData : graph.staticData.IsJson

theorem IsJson.toValue {graph : GraphCopy} (form : graph.IsJson) :
    graph.toValue.IsJson := by
  apply Value.isJson_plainDict
  simp only [List.forall_mem_cons]
  exact ⟨Value.isJson_plainList form.nodes, form.connections, form.settings,
    form.staticData, by simp⟩

end GraphCopy

namespace Heap

variable {heap : Heap}

theorem isDict_dictOr (other value : Value) :
    (dictOr other value).isDict ∨ dictOr other value = other := by
  rw [dictOr]
  by_cases dictionary : value.isDict
  · rw [if_pos dictionary]
    exact .inl dictionary
  · rw [if_neg dictionary]
    exact .inr rfl

theorem isJson_dictOr {other value : Value} (first : other.IsJson)
    (second : value.IsJson) : (dictOr other value).IsJson := by
  rw [dictOr]
  by_cases dictionary : value.isDict
  · rw [if_pos dictionary]
    exact second
  · rw [if_neg dictionary]
    exact first

theorem isDict_of_copyNodes {nodes copies : List Value}
    (copied : (heap.copyNodes nodes).outcome = .ok copies) :
    ∀ copy ∈ copies, copy.isDict := by
  induction nodes generalizing copies with
  | nil =>
      cases copied
      simp
  | cons node rest hypothesis =>
      rw [copyNodes] at copied
      by_cases dictionary : (heap.resolve node).isDict
      · rw [if_pos dictionary, Trial.outcome_bind_eq_ok] at copied
        rcases copied with ⟨first, -, copied⟩
        rw [Trial.outcome_bind_eq_ok] at copied
        rcases copied with ⟨others, rested, copied⟩
        have dictionaries := hypothesis rested
        by_cases kept : first.isDict
        · rw [if_pos kept] at copied
          cases copied
          exact List.forall_mem_cons.mpr ⟨kept, dictionaries⟩
        · rw [if_neg kept] at copied
          cases copied
          exact dictionaries
      · rw [if_neg dictionary, Trial.outcome_bind_eq_ok] at copied
        rcases copied with ⟨_, -, copied⟩
        exact hypothesis copied

/-- The parts of a copied graph are of the declared kinds. -/
theorem declared_of_copyGraph {source : Value} {graph : GraphCopy}
    (copied : (heap.copyGraph source).outcome = .ok graph) :
    graph.Declared := by
  simp only [copyGraph, Trial.outcome_bind_eq_ok] at copied
  rcases copied with
    ⟨_, -, nodes, nodesCopied, _, -, _, -, connections, -, _, -, settings, -, _,
    -, staticData, -, built⟩
  cases built
  refine ⟨isDict_of_copyNodes nodesCopied, ?_, isDict_dictOr _ _,
    isDict_dictOr _ _⟩
  rcases isDict_dictOr (.plainDict []) connections with
    dictionary | equal
  · exact dictionary
  · rw [equal]
    rfl

/-- When all nodes of a graph can be read, these are the nodes. -/
theorem readableNodes_of_nodeItems {nodes : Value} {items : List Value}
    (read : heap.nodeItems nodes = .ok items) : heap.readableNodes nodes = items := by
  rw [nodeItems] at read
  rw [readableNodes]
  cases resolved : heap.resolve nodes with
  | list type failing parts | tuple cls failing parts =>
      rw [resolved] at read
      cases failing with
      | none => exact Except.ok.inj read
      | some failing => cases read
  | scalar | member | foreign | set | dict | record | shared | loop =>
      rw [resolved] at read
      exact Except.ok.inj read

/-! ## Graphs that a store gave back -/

theorem copyPart_of_isJson (heap : Heap) {value : Value} (form : value.IsJson) :
    ∃ copied, heap.copyPart value = ⟨.ok copied, []⟩ ∧ copied.IsJson := by
  rcases safeCopy_of_isJson heap form with ⟨copied, equal, formed⟩
  refine ⟨copied, ?_, formed⟩
  rw [copyPart, equal]
  rfl

theorem copyNodes_of_isJson (heap : Heap) {nodes : List Value}
    (forms : ∀ node ∈ nodes, node.IsJson) :
    ∃ copies, (heap.copyNodes nodes).outcome = .ok copies ∧
      ∀ copy ∈ copies, copy.IsJson := by
  induction nodes with
  | nil => exact ⟨[], rfl, by simp⟩
  | cons node rest hypothesis =>
      rcases List.forall_mem_cons.mp forms with ⟨formed, forms⟩
      rcases hypothesis forms with ⟨others, rested, formedOthers⟩
      rcases copyPart_of_isJson heap formed with ⟨copied, equal, formedCopy⟩
      rw [copyNodes]
      by_cases dictionary : (heap.resolve node).isDict
      · refine ⟨if copied.isDict then copied :: others else others, ?_, ?_⟩
        · simp only [dictionary, ↓reduceIte, Trial.outcome_bind, equal, rested]
          rfl
        · by_cases kept : copied.isDict
          · rw [if_pos kept]
            exact List.forall_mem_cons.mpr ⟨formedCopy, formedOthers⟩
          · rw [if_neg kept]
            exact formedOthers
      · refine ⟨others, ?_, formedOthers⟩
        simp only [dictionary, Bool.false_eq_true, ↓reduceIte,
          Trial.outcome_bind, Trial.outcome_log, rested]

/-- A graph that a store gave back is copied, and the parts of the copy have JSON
forms. -/
theorem copyGraph_ofJson (heap : Heap) (members : List (String × Json)) :
    ∃ graph, (heap.copyGraph (.ofJson (.object members))).outcome = .ok graph ∧
      graph.IsJson := by
  have part (key : String) : ∃ value,
      (heap.resolve (.ofJson (.object members))).get key = .ok value ∧
        value.IsJson := by
    refine ⟨_, rfl, ?_⟩
    rcases found : Value.lookup? (Value.ofMembers members) key with _ | value
    · exact Value.isJson_ofJson .null
    · exact Value.isJson_of_lookup? found
  rcases part "nodes" with ⟨nodeList, nodesFound, nodesFormed⟩
  rcases part "connections" with
    ⟨connections, connectionsFound, connectionsFormed⟩
  rcases part "settings" with ⟨settings, settingsFound, settingsFormed⟩
  rcases part "staticData" with ⟨staticData, staticFound, staticFormed⟩
  have items : ∃ items, heap.nodeItems nodeList = .ok items ∧
      ∀ item ∈ items, item.IsJson := by
    rcases nodesFormed with ⟨json, rfl⟩
    cases json with
    | array items =>
        exact ⟨Value.ofItems items, rfl, fun _ => Value.isJson_of_mem_ofItems⟩
    | null | bool | int | float | text | halves | object =>
        exact ⟨[], rfl, by simp⟩
  rcases items with ⟨items, itemsRead, itemsFormed⟩
  rcases copyNodes_of_isJson heap itemsFormed with
    ⟨nodes, nodesCopied, nodesJson⟩
  have given : (if (heap.resolve connections).isEmpty then .plainDict []
      else connections : Value).IsJson := by
    by_cases empty : (heap.resolve connections).isEmpty
    · rw [if_pos empty]
      exact Value.isJson_ofJson (.object [])
    · rw [if_neg empty]
      exact connectionsFormed
  rcases copyPart_of_isJson heap given with
    ⟨connectionsCopy, connectionsCopied, connectionsJson⟩
  rcases copyPart_of_isJson heap settingsFormed with
    ⟨settingsCopy, settingsCopied, settingsJson⟩
  rcases copyPart_of_isJson heap staticFormed with
    ⟨staticCopy, staticCopied, staticJson⟩
  refine ⟨⟨nodes, dictOr (.plainDict []) connectionsCopy,
    dictOr .null settingsCopy, dictOr .null staticCopy⟩, ?_,
    nodesJson, isJson_dictOr (Value.isJson_ofJson (.object [])) connectionsJson,
    isJson_dictOr (Value.isJson_ofJson .null) settingsJson,
    isJson_dictOr (Value.isJson_ofJson .null) staticJson⟩
  have kept {α : Type} (given : α) :
      (Except.ok given : Except Fault α).mapError Failure.fault = .ok given := rfl
  simp only [copyGraph, Trial.outcome_bind, Trial.outcome_ofExcept,
    Trial.outcome_pure, nodesFound, connectionsFound, settingsFound,
    staticFound, itemsRead, readableNodes_of_nodeItems itemsRead, nodesCopied,
    connectionsCopied, settingsCopied, staticCopied, kept]

end Heap

end WorkflowExchange

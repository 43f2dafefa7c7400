import WorkflowExchange.Proofs.Copy.Stable
import WorkflowExchange.Proofs.Exchange.Catalog

/-!
# Snapshots of stored graphs

Whatever JSON the parts of a stored graph are, its copy is the graph tidied: nodes
that are no objects are dropped, other parts that are none are replaced, and each
part is cut off at the depth that copies keep (`Heap.copyGraph_eq_tidy`).  A graph
with parts of the declared kinds is cut off and not changed otherwise, and one that
was tidied before is its own copy (`Graph.whole_tidy`).

A column of JSON that is given the copy gives it back as it is, and the column of an
entry that holds an agreeing snapshot already is not written:
`Json.holds_of_changed`.
-/

namespace WorkflowExchange

namespace Json

def isObject : Json → Bool
  | .object _ => true
  | _ => false

theorem isObject_iff {json : Json} : json.isObject = true ↔ json.IsObject := by
  cases json <;> simp [isObject, IsObject]

/-- The value when it is an object, or another one. -/
def objectOr (other json : Json) : Json :=
  if json.isObject then json else other

theorem objectOr_of_isObject {json : Json} (object : json.IsObject) (other : Json) :
    objectOr other json = json := by
  rw [objectOr, if_pos (isObject_iff.mpr object)]

theorem isObject_objectOr (other json : Json) :
    (objectOr other json).IsObject ∨ objectOr other json = other := by
  rw [objectOr]
  by_cases object : json.isObject
  · rw [if_pos object]
    exact .inl (isObject_iff.mp object)
  · rw [if_neg object]
    exact .inr rfl

theorem objectOr_cases (other json : Json) :
    objectOr other json = json ∨ objectOr other json = other := by
  rw [objectOr]
  by_cases object : json.isObject
  · rw [if_pos object]
    exact .inl rfl
  · rw [if_neg object]
    exact .inr rfl

end Json

namespace Graph

/-- The graph as one JSON value with its four stored keys. -/
def toJson (graph : Graph) : Json :=
  .object
    [("nodes", graph.nodes), ("connections", graph.connections),
      ("settings", graph.settings), ("staticData", graph.staticData)]

/-- The graph with its parts cut off at the depth that copies keep.  The nodes are
parts of their own. -/
def cut (graph : Graph) : Graph where
  nodes := graph.nodes.cut (Heap.graphDepth + 1)
  connections := graph.connections.cut Heap.graphDepth
  settings := graph.settings.cut Heap.graphDepth
  staticData := graph.staticData.cut Heap.graphDepth

/-- The nodes of a graph that has a list of them. -/
def nodeList (graph : Graph) : List Json :=
  match graph.nodes with
  | .array items => items
  | _ => []

/-- The graph as copying leaves it. -/
def tidy (graph : Graph) : Graph where
  nodes := .array (Json.cutItems Heap.graphDepth (graph.nodeList.filter Json.isObject))
  connections := .objectOr (.object []) (graph.connections.cut Heap.graphDepth)
  settings := .objectOr .null (graph.settings.cut Heap.graphDepth)
  staticData := .objectOr .null (graph.staticData.cut Heap.graphDepth)

/-- The parts of a graph as a copy of it has them. -/
def toCopy (graph : Graph) : GraphCopy where
  nodes := Value.ofItems graph.nodeList
  connections := .ofJson graph.connections
  settings := .ofJson graph.settings
  staticData := .ofJson graph.staticData

/-- A graph has a list of objects as nodes, and objects as its other parts, of
which two can be null. -/
structure Formed (graph : Graph) : Prop where
  nodes : graph.nodes = .array graph.nodeList
  each : ∀ node ∈ graph.nodeList, node.IsObject
  connections : graph.connections.IsObject
  settings : graph.settings.IsObject ∨ graph.settings = .null
  staticData : graph.staticData.IsObject ∨ graph.staticData = .null

/-- A graph of which copying changes nothing. -/
structure Whole (graph : Graph) : Prop where
  formed : graph.Formed
  distinct : graph.Distinct
  uncut : graph.cut = graph

end Graph

/-! ## Parts of the declared kinds -/

theorem Json.isObject_of_hasTextKeys {json : Json}
    (keyed : (Value.ofJson json).HasTextKeys) : json.IsObject := by
  rcases keyed with ⟨_, _, _, equal, -⟩
  cases json with
  | object members => exact ⟨members, rfl⟩
  | null | bool | int | float | text | halves | array => cases equal

theorem Json.isObject_or_null {json : Json}
    (keyed : (Value.ofJson json).HasTextKeys ∨ Value.ofJson json = .null) :
    json.IsObject ∨ json = .null := by
  rcases keyed with keyed | equal
  · exact .inl (Json.isObject_of_hasTextKeys keyed)
  · cases json with
    | null => exact .inr rfl
    | bool | int | float | text | halves | array | object => cases equal

theorem Json.IsObject.cut {json : Json} (object : json.IsObject) (room : Nat) :
    (json.cut (room + 1)).IsObject := by
  rcases object with ⟨members, rfl⟩
  exact ⟨_, rfl⟩

theorem Json.IsObject.isPart {json : Json} (object : json.IsObject) :
    json.IsPart := by
  rcases object with ⟨members, rfl⟩
  trivial

theorem Json.isObject_of_mem_cutItems {room : Nat} {items : List Json}
    (objects : ∀ item ∈ items, item.IsObject) :
    ∀ item ∈ Json.cutItems (room + 1) items, item.IsObject := by
  induction items with
  | nil => simp [Json.cutItems]
  | cons item rest induction =>
      rcases List.forall_mem_cons.mp objects with ⟨object, objects⟩
      exact List.forall_mem_cons.mpr ⟨object.cut room, induction objects⟩

namespace Graph

variable {graph : Graph}

theorem formed_of_declared (declared : (LiveGraph.ofGraph graph).Declared) :
    graph.Formed := by
  have listed : ∃ items, graph.nodes = .array items ∧
      ∀ item ∈ items, item.IsObject := by
    rcases declared.nodes with ⟨values, equal, keyed⟩
    cases nodes : graph.nodes with
    | array items =>
        rw [LiveGraph.ofGraph, nodes] at equal
        cases equal
        refine ⟨items, rfl, ?_⟩
        clear nodes
        induction items with
        | nil => simp
        | cons item rest induction =>
            rcases List.forall_mem_cons.mp keyed with ⟨first, others⟩
            exact List.forall_mem_cons.mpr
              ⟨Json.isObject_of_hasTextKeys first, induction others⟩
    | null | bool | int | float | text | halves | object =>
        rw [LiveGraph.ofGraph, nodes] at equal
        cases equal
  rcases listed with ⟨items, nodes, each⟩
  have same : graph.nodeList = items := by rw [nodeList, nodes]
  refine ⟨by rw [same, nodes], by rw [same]; exact each,
    Json.isObject_of_hasTextKeys declared.connections,
    Json.isObject_or_null declared.settings,
    Json.isObject_or_null declared.staticData⟩

theorem Formed.cut_nodes (formed : graph.Formed) :
    graph.cut.nodes = .array (Json.cutItems Heap.graphDepth graph.nodeList) := by
  rw [Graph.cut, formed.nodes]
  rfl

theorem Formed.cut_nodeList (formed : graph.Formed) :
    graph.cut.nodeList = Json.cutItems Heap.graphDepth graph.nodeList := by
  rw [nodeList, formed.cut_nodes]

theorem Formed.cut (formed : graph.Formed) : graph.cut.Formed := by
  have part {json : Json} (declared : json.IsObject ∨ json = .null) :
      (json.cut Heap.graphDepth).IsObject ∨
        json.cut Heap.graphDepth = .null := by
    rcases declared with object | rfl
    · exact .inl (object.cut 63)
    · exact .inr rfl
  refine ⟨by rw [formed.cut_nodeList, formed.cut_nodes], ?_,
    formed.connections.cut 63, part formed.settings, part formed.staticData⟩
  rw [formed.cut_nodeList]
  exact Json.isObject_of_mem_cutItems formed.each

theorem Distinct.cut (distinct : graph.Distinct) : graph.cut.Distinct :=
  ⟨Json.distinct_cut _ _ distinct.nodes, Json.distinct_cut _ _ distinct.connections,
    Json.distinct_cut _ _ distinct.settings,
    Json.distinct_cut _ _ distinct.staticData⟩

theorem Distinct.toJson (distinct : graph.Distinct) : graph.toJson.Distinct :=
  ⟨by simp, distinct.nodes, distinct.connections, distinct.settings,
    distinct.staticData, trivial⟩

theorem Formed.live (formed : graph.Formed) :
    graph.toCopy.live = LiveGraph.ofGraph graph := by
  rw [GraphCopy.live, LiveGraph.ofGraph, formed.nodes]
  rfl

theorem Formed.ofJson_nodes (formed : graph.Formed) :
    Value.ofJson graph.nodes = .plainList (graph.nodeList.map .ofJson) := by
  rw [formed.nodes, Value.ofJson, Value.ofItems_eq_map]

theorem Formed.toValue (formed : graph.Formed) :
    graph.toCopy.toValue = .ofJson graph.toJson := by
  rw [toJson, formed.nodes]
  rfl

/-- Of a graph with parts of the declared kinds copying keeps them all. -/
theorem Formed.tidy (formed : graph.Formed) : graph.tidy = graph.cut := by
  have part {json : Json} (declared : json.IsObject ∨ json = .null) :
      Json.objectOr .null (json.cut Heap.graphDepth) = json.cut Heap.graphDepth := by
    rcases declared with object | rfl
    · exact Json.objectOr_of_isObject (object.cut 63) _
    · rfl
  have kept : graph.nodeList.filter Json.isObject = graph.nodeList :=
    List.filter_eq_self.mpr fun node held => Json.isObject_iff.mpr (formed.each node held)
  have connections := Json.objectOr_of_isObject (formed.connections.cut 63) (.object [])
  have nodes := formed.cut_nodes
  simp only [Graph.cut] at nodes ⊢
  rw [Graph.tidy, kept, nodes, part formed.settings, part formed.staticData]
  exact congrArg (Graph.mk _ · _ _) connections

theorem formed_tidy (graph : Graph) : graph.tidy.Formed where
  nodes := rfl
  each := Json.isObject_of_mem_cutItems fun node held =>
    Json.isObject_iff.mp (List.of_mem_filter held)
  connections := by
    rcases Json.isObject_objectOr (.object []) (graph.connections.cut Heap.graphDepth)
      with object | equal
    · exact object
    · exact ⟨[], equal⟩
  settings := Json.isObject_objectOr _ _
  staticData := Json.isObject_objectOr _ _

theorem Distinct.nodeList (distinct : graph.Distinct) :
    ∀ node ∈ graph.nodeList, node.Distinct := by
  intro node held
  have nodes := distinct.nodes
  rw [Graph.nodeList] at held
  cases found : graph.nodes with
  | array items =>
      rw [found] at held nodes
      exact Json.distinctItems_iff.mp nodes node held
  | null | bool | int | float | text | halves | object =>
      rw [found] at held
      cases held

theorem Distinct.tidy (distinct : graph.Distinct) : graph.tidy.Distinct where
  nodes := Json.distinct_cutItems _ _ (Json.distinctItems_iff.mpr
    fun node held => distinct.nodeList node (List.mem_of_mem_filter held))
  connections := by
    rcases Json.objectOr_cases (.object []) (graph.connections.cut Heap.graphDepth)
      with equal | equal <;> rw [Graph.tidy, equal]
    · exact Json.distinct_cut _ _ distinct.connections
    · exact ⟨List.nodup_nil, trivial⟩
  settings := by
    rcases Json.objectOr_cases .null (graph.settings.cut Heap.graphDepth)
      with equal | equal <;> rw [Graph.tidy, equal]
    · exact Json.distinct_cut _ _ distinct.settings
    · trivial
  staticData := by
    rcases Json.objectOr_cases .null (graph.staticData.cut Heap.graphDepth)
      with equal | equal <;> rw [Graph.tidy, equal]
    · exact Json.distinct_cut _ _ distinct.staticData
    · trivial

/-- What was tidied is not cut off any more. -/
theorem cut_tidy (graph : Graph) : graph.tidy.cut = graph.tidy := by
  have part (other json : Json) (small : other.cut Heap.graphDepth = other) :
      (Json.objectOr other (json.cut Heap.graphDepth)).cut Heap.graphDepth =
        .objectOr other (json.cut Heap.graphDepth) := by
    rcases Json.objectOr_cases other (json.cut Heap.graphDepth) with equal | equal <;>
      rw [equal]
    · exact Heap.cut_cut _ _
    · exact small
  have nodes := Heap.cut_cut (Heap.graphDepth + 1)
    (.array (graph.nodeList.filter Json.isObject))
  rw [Graph.cut]
  exact (Graph.mk.injEq ..).mpr ⟨nodes, part _ _ rfl, part _ _ rfl, part _ _ rfl⟩

/-- What copying leaves of a graph with different keys is its own copy. -/
theorem Distinct.whole_tidy (distinct : graph.Distinct) : graph.tidy.Whole :=
  ⟨graph.formed_tidy, distinct.tidy, graph.cut_tidy⟩

/-- A graph with different keys is stored as it is. -/
theorem Formed.prepared (formed : graph.Formed) (distinct : graph.Distinct) :
    (LiveGraph.ofGraph graph).prepared = .ready graph := by
  have part {json : Json} (declared : json.IsObject ∨ json = .null) :
      json.IsPart := by
    rcases declared with object | rfl
    · exact object.isPart
    · trivial
  have nodes : graph.nodes.IsPart := by
    rw [formed.nodes]
    trivial
  rw [LiveGraph.prepared, LiveGraph.ofGraph, distinct.nodes.column nodes,
    distinct.connections.column formed.connections.isPart,
    distinct.settings.column (part formed.settings),
    distinct.staticData.column (part formed.staticData)]
  rfl

end Graph

/-! ## Copying -/

namespace Heap

variable {heap : Heap} {graph : Graph}

theorem copyPart_ofJson (heap : Heap) (json : Json) :
    heap.copyPart (.ofJson json) =
      ⟨.ok (.ofJson (json.cut graphDepth)), []⟩ := by
  rw [copyPart, safeCopy_ofJson]
  rfl

/-- Nodes that are objects are copied, in order, and the others are dropped. -/
theorem copyNodes_ofItems (heap : Heap) (items : List Json) :
    (heap.copyNodes (Value.ofItems items)).outcome =
      .ok (Value.ofItems (Json.cutItems graphDepth (items.filter Json.isObject))) := by
  induction items with
  | nil => rfl
  | cons item rest induction =>
      cases item with
      | object members =>
          have dictionary :
              (heap.resolve (.ofJson (.object members))).isDict = true := rfl
          have kept : (Value.ofJson ((Json.object members).cut graphDepth)).isDict =
              true := rfl
          rw [Value.ofItems, copyNodes, if_pos dictionary, copyPart_ofJson,
            Trial.outcome_bind_eq_ok]
          refine ⟨_, rfl, ?_⟩
          rw [Trial.outcome_bind_eq_ok]
          refine ⟨_, induction, ?_⟩
          rw [if_pos kept]
          rfl
      | null | bool | int | float | text | halves | array =>
          rw [Value.ofItems, copyNodes, if_neg (by simp [Value.ofJson, resolve,
            Value.isDict]), Trial.outcome_bind_eq_ok]
          exact ⟨(), rfl, induction⟩

theorem dictOr_ofJson (other json : Json) :
    dictOr (.ofJson other) (.ofJson json) = .ofJson (.objectOr other json) := by
  cases json <;> rfl

/-- The copy of a stored graph is the graph tidied, whatever its parts are. -/
theorem copyGraph_eq_tidy (heap : Heap) (graph : Graph) :
    (heap.copyGraph (.ofJson graph.toJson)).outcome = .ok graph.tidy.toCopy := by
  have part (key : String) (json : Json)
      (found : Value.lookup? (Value.ofMembers
        [("nodes", graph.nodes), ("connections", graph.connections),
          ("settings", graph.settings), ("staticData", graph.staticData)]) key =
        some (.ofJson json)) :
      (heap.resolve (.ofJson graph.toJson)).get key = .ok (.ofJson json) := by
    change Except.ok (Option.getD (Value.lookup? _ key) .null) = _
    rw [found]
    rfl
  have items : heap.nodeItems (.ofJson graph.nodes) =
      .ok (Value.ofItems graph.nodeList) := by
    rw [Graph.nodeList]
    cases graph.nodes <;> rfl
  -- Connections that count as nothing are replaced by a new dictionary.
  have given : ∃ json, (if (heap.resolve (.ofJson graph.connections)).isEmpty then
      .plainDict [] else .ofJson graph.connections : Value) = .ofJson json ∧
      Json.objectOr (.object []) (json.cut graphDepth) =
        .objectOr (.object []) (graph.connections.cut graphDepth) := by
    by_cases nothing : (heap.resolve (.ofJson graph.connections)).isEmpty
    · refine ⟨.object [], if_pos nothing, ?_⟩
      cases shape : graph.connections with
      | object members =>
          rw [shape] at nothing
          cases members with
          | nil => rfl
          | cons member rest => cases nothing
      | null | bool | int | float | text | halves | array => rfl
    · exact ⟨_, if_neg nothing, rfl⟩
  rcases given with ⟨connections, given, same⟩
  simp only [copyGraph, Trial.outcome_bind_eq_ok, Trial.outcome_ofExcept]
  refine ⟨_, by rw [part "nodes" graph.nodes rfl]; rfl, _,
    by rw [readableNodes_of_nodeItems items]; exact copyNodes_ofItems heap graph.nodeList,
    _, by rw [items]; rfl, _,
    by rw [part "connections" graph.connections rfl]; rfl, _,
    by rw [given, copyPart_ofJson], _,
    by rw [part "settings" graph.settings rfl]; rfl, _,
    by rw [copyPart_ofJson], _,
    by rw [part "staticData" graph.staticData rfl]; rfl, _,
    by rw [copyPart_ofJson], ?_⟩
  have dictionary := dictOr_ofJson (.object []) (connections.cut graphDepth)
  rw [same] at dictionary
  change Except.ok (GraphCopy.mk _ (dictOr (.ofJson (.object [])) _)
    (dictOr (.ofJson .null) _) (dictOr (.ofJson .null) _)) = _
  rw [dictionary, dictOr_ofJson, dictOr_ofJson]
  rfl

/-- The copy of a stored graph of the declared kinds is the graph cut off. -/
theorem copyGraph_toJson (formed : graph.Formed) :
    (heap.copyGraph (.ofJson graph.toJson)).outcome = .ok graph.cut.toCopy := by
  rw [copyGraph_eq_tidy, formed.tidy]

/-- A whole graph is its own copy. -/
theorem copyGraph_of_whole (whole : graph.Whole) (heap : Heap) :
    (heap.copyGraph (.ofJson graph.toJson)).outcome = .ok graph.toCopy := by
  rw [copyGraph_toJson whole.formed, whole.uncut]

end Heap

/-! ## Storing copies -/

/-- A column of JSON holds a value, or one that agrees with it. -/
def Json.Holds (held : Json) (value : Value) : Prop :=
  value = .ofJson held ∨ value.agrees (.ofJson held) = true

/-- A column of JSON that is given a value holds it, unless it held an agreeing
one. -/
theorem Json.holds_of_changed {json held kept : Json} (distinct : json.Distinct)
    (part : json.IsPart)
    (ready : Column.json.changed (.ofJson held) held (some (.ofJson json)) =
      .ready kept) : kept.Holds (.ofJson json) := by
  rcases Column.changed_eq_ready.mp ready with ⟨agree, rfl⟩ | ⟨_, ⟨⟩, -, stored⟩
  · exact .inr (agree _ rfl)
  · cases (distinct.column part).symm.trans stored
    exact .inl rfl

/-- A snapshot of a stored graph is a graph that a column of JSON gives back. -/
structure GraphCopy.IsStored (graph : GraphCopy) (stored : Graph) : Prop where
  formed : stored.Formed
  distinct : stored.Distinct
  copy : graph = stored.toCopy

theorem GraphCopy.IsStored.toValue {graph : GraphCopy} {stored : Graph}
    (kept : graph.IsStored stored) : graph.toValue = .ofJson stored.toJson := by
  rw [kept.copy, kept.formed.toValue]

namespace Catalog

variable {store : Store} {user : User} {scopes : List Scope}
  {workflowId : String} {name : Value} {graph : GraphCopy}

/-- The graph of a snapshot is that of the workflow, tidied. -/
theorem IsSnapshot.isStored
    (taken : IsSnapshot store user scopes workflowId name graph)
    (distinct : ∀ row ∈ store.workflows, row.graph.Distinct) :
    ∃ row, store.accessibleWorkflow? user scopes workflowId = some row ∧
      graph.IsStored row.graph.tidy := by
  rcases taken with ⟨row, found, -, copied⟩
  have different := distinct row (Store.mem_of_accessibleWorkflow? found)
  have made : (Heap.empty.copyGraph (.ofJson row.graph.toJson)).outcome =
      .ok row.graph.tidy.toCopy := Heap.copyGraph_eq_tidy _ _
  rw [show (LiveGraph.ofGraph row.graph).toValue = .ofJson row.graph.toJson
    from rfl, made] at copied
  exact ⟨row, found, row.graph.formed_tidy, different.tidy,
    (Except.ok.inj copied).symm⟩

end Catalog

end WorkflowExchange

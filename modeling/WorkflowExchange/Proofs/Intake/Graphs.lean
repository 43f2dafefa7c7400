import WorkflowExchange.Proofs.Copy.Lossless
import WorkflowExchange.Proofs.Exchange.Snapshot
import WorkflowExchange.Proofs.Exchange.Workflows

/-!
# Graphs that are accepted

A request is read with a check that its graph is not nested too deeply.  The check
counts from each field, and the copies that are made later count from each node, so
that nothing of a graph that was accepted is ever cut off:
`CreateRequest.cut_of_read`.  What a store gives back is read once more when it is
shown, and is shown as it is: `WorkflowDetail.ofLoaded_ofGraph`.
-/

namespace WorkflowExchange

/-! ## The nesting check -/

namespace Heap

variable {heap : Heap}

/-- A value that unfolds to JSON refers to a container that does. -/
theorem unfoldAt_resolve {room : Nat} {way : Trail} {value : Value} {json : Json}
    (unfolded : heap.unfoldAt (fun _ => true) room way value = .ofJson json) :
    ∃ less onward,
      heap.unfoldAt (fun _ => true) less onward (heap.resolve value) =
        .ofJson json := by
  cases value with
  | shared identity =>
      rw [unfoldAt.eq_def] at unfolded
      simp only [Bool.not_true, Bool.false_eq_true, ↓reduceIte] at unfolded
      by_cases back : way.returns identity
      · rw [if_pos back] at unfolded
        cases json <;> cases unfolded
      · rw [if_neg back] at unfolded
        cases room with
        | zero => cases json <;> cases unfolded
        | succ room => exact ⟨_, _, unfolded⟩
  | scalar | member | foreign | set | dict | list | tuple | record | loop =>
      exact ⟨_, _, unfolded⟩

/-- What unfolds to an array is a list of what unfolds to its items. -/
theorem items_of_unfoldAt {room : Nat} {way : Trail} {value : Value}
    {items : List Json} (open_ : value.identity? = none)
    (unfolded : heap.unfoldAt (fun _ => true) room way value =
      .ofJson (.array items)) :
    ∃ parts, value = .plainList parts ∧
      parts.map (heap.unfoldAt (fun _ => true) room way) =
        items.map Value.ofJson := by
  cases value with
  | shared identity => cases open_
  | list type failure parts =>
      rw [unfoldAt, unfoldItems_eq_map] at unfolded
      injection unfolded with kind fault same
      subst kind fault
      exact ⟨parts, rfl, by rw [same, Value.ofItems_eq_map]⟩
  | scalar | member | foreign | set | dict | tuple | record | loop =>
      rw [unfoldAt] at unfolded
      cases unfolded

/-- What unfolds to an object is a dictionary of what unfolds to its members. -/
theorem entries_of_unfoldAt {room : Nat} {way : Trail} {value : Value}
    {members : List (String × Json)} (open_ : value.identity? = none)
    (unfolded : heap.unfoldAt (fun _ => true) room way value =
      .ofJson (.object members)) :
    ∃ entries, value = .plainDict entries ∧
      (entries.map (·.2)).map (heap.unfoldAt (fun _ => true) room way) =
        (members.map (·.2)).map Value.ofJson := by
  cases value with
  | shared identity => cases open_
  | dict type failure entries =>
      rw [unfoldAt, unfoldEntries_eq_map] at unfolded
      injection unfolded with kind fault same
      subst kind fault
      refine ⟨entries, rfl, ?_⟩
      rw [Value.ofMembers_eq_map] at same
      have values := congrArg (List.map (·.2)) same
      simpa only [List.map_map, Function.comp_def] using values
  | scalar | member | foreign | set | list | tuple | record | loop =>
      rw [unfoldAt] at unfolded
      cases unfolded

/-- What is not nested too deeply leaves a level for its children. -/
theorem nested_of_isNestedBeyond {limit : Nat} {value : Value}
    {children : List Value}
    (container : (heap.resolve value).nested? = some (children, none))
    (shallow : heap.isNestedBeyond limit value = .ok false) :
    ∃ less, limit = less + 1 ∧
      ∀ child ∈ children, heap.isNestedBeyond less child = .ok false := by
  rw [isNestedBeyond, container] at shallow
  cases limit with
  | zero => cases shallow
  | succ less =>
      refine ⟨less, rfl, fun child held => ?_⟩
      exact anyChecked_eq_false.mp shallow child (List.mem_reverse.mpr held)

/-- Of what is not nested too deeply nothing is cut off.  The induction is on the
limit. -/
theorem cut_of_isNestedBeyond (settled : heap.Settled) (limit : Nat) :
    ∀ {room : Nat} {way : Trail} {value : Value} {json : Json},
      heap.isNestedBeyond limit value = .ok false →
        heap.unfoldAt (fun _ => true) room way value = .ofJson json →
          json.cut limit = json := by
  induction limit using Nat.strongRecOn with
  | ind limit induction =>
      intro room way value json shallow unfolded
      -- The check and the cut both take a level for a container and none for a
      -- reference to it.
      rcases unfoldAt_resolve unfolded with ⟨_, _, resolved⟩
      cases json with
      | null | bool | int | float | text | halves => cases limit <;> rfl
      | array items =>
          rcases items_of_unfoldAt (settled.resolve value) resolved with
            ⟨parts, equal, same⟩
          rcases nested_of_isNestedBeyond (congrArg Value.nested? equal) shallow
            with ⟨less, rfl, each⟩
          refine Json.cut_array fun item held => ?_
          rcases List.mem_map.mp (same ▸ List.mem_map_of_mem held) with
            ⟨part, member, unfoldedPart⟩
          exact induction less (Nat.lt_succ_self less) (each part member)
            unfoldedPart
      | object members =>
          rcases entries_of_unfoldAt (settled.resolve value) resolved with
            ⟨entries, equal, same⟩
          rcases nested_of_isNestedBeyond (congrArg Value.nested? equal) shallow
            with ⟨less, rfl, each⟩
          refine Json.cut_object fun member held => ?_
          have value_held : member.2 ∈ members.map (·.2) :=
            List.mem_map_of_mem held
          rcases List.mem_map.mp (same ▸ List.mem_map_of_mem value_held) with
            ⟨part, inside, unfoldedPart⟩
          exact induction less (Nat.lt_succ_self less) (each part inside)
            unfoldedPart

end Heap

/-! ## Requests that were accepted -/

namespace Heap

variable {heap : Heap} {follow : Value → Bool} {room : Nat} {way : Trail}

mutual
/-- A value with a JSON form has no references to replace. -/
theorem unfoldAt_ofJson (json : Json) :
    heap.unfoldAt follow room way (.ofJson json) = .ofJson json := by
  match json with
  | .null | .bool _ | .int _ | .float _ | .text _ | .halves _ =>
      rw [Value.ofJson, unfoldAt]
  | .array items => rw [Value.ofJson, unfoldAt, unfoldItems_ofItems items]
  | .object members =>
      rw [Value.ofJson, unfoldAt, unfoldEntries_ofMembers members]
termination_by structural json

theorem unfoldItems_ofItems (items : List Json) :
    heap.unfoldItems follow room way (Value.ofItems items) =
      Value.ofItems items := by
  match items with
  | [] => rw [Value.ofItems, unfoldItems]
  | item :: rest =>
      rw [Value.ofItems, unfoldItems, unfoldAt_ofJson item,
        unfoldItems_ofItems rest]
termination_by structural items

theorem unfoldEntries_ofMembers (members : List (String × Json)) :
    heap.unfoldEntries follow room way (Value.ofMembers members) =
      Value.ofMembers members := by
  match members with
  | [] => rw [Value.ofMembers, unfoldEntries]
  | (key, value) :: rest =>
      rw [Value.ofMembers, unfoldEntries, unfoldAt_ofJson value,
        unfoldEntries_ofMembers rest]
termination_by structural members
end

end Heap

namespace Rule

variable {heap : Heap} {value : Value}

/-- Nodes and dictionaries that are read as JSON are closed already. -/
theorem shallowNodes_ofJson {items : List Json}
    (read : shallow .plainList nodes heap value = .fits (items.map .ofJson)) :
    shallowNodes heap value = .fits (items.map .ofJson) := by
  have unfolded : (items.map Value.ofJson).map heap.closed =
      items.map Value.ofJson := by
    rw [List.map_map]
    exact List.map_congr_left fun item _ => Heap.unfoldAt_ofJson item
  rw [shallowNodes, closed, read]
  exact congrArg Fit.fits unfolded

theorem shallowDictionary_ofJson {json : Json}
    (read : shallow id dictionary heap value = .fits (.ofJson json)) :
    shallowDictionary heap value = .fits (.ofJson json) := by
  rw [shallowDictionary, closed, read]
  exact congrArg Fit.fits (Heap.unfoldAt_ofJson json)

/-- What is shallow passed the nesting check. -/
theorem shallow_eq_fits {α : Type} {toValue : α → Value} {rule : Rule α}
    {result : α} (fits : shallow toValue rule heap value = .fits result) :
    heap.isNestedBeyond Heap.graphDepth (toValue result) = .ok false := by
  rcases Fit.andThen_eq_fits.mp fits with ⟨read, -, checked⟩
  split at checked
  · cases checked
  · rename_i shallow
    cases checked
    exact shallow
  · cases checked

/-- Of a dictionary that was accepted nothing is cut off. -/
theorem cut_of_shallowDictionary (settled : heap.Settled) {json : Json}
    (fits : shallowDictionary heap value = .fits (.ofJson json)) :
    json.cut Heap.graphDepth = json := by
  rcases Fit.map_eq_fits.mp fits with ⟨read, reading, unfolded⟩
  exact Heap.cut_of_isNestedBeyond settled _ (shallow_eq_fits reading) unfolded

/-- Of nodes that were accepted nothing is cut off: the list of the nodes took a
level of its own. -/
theorem cut_of_shallowNodes (settled : heap.Settled) {items : List Json}
    (fits : shallowNodes heap value = .fits (items.map .ofJson)) :
    (Json.array items).cut Heap.graphDepth = .array items := by
  rcases Fit.map_eq_fits.mp fits with ⟨found, reading, unfolded⟩
  have unfoldedList : heap.closed (.plainList found) = .ofJson (.array items) := by
    rw [Heap.closed, Heap.unfold, Heap.unfoldAt, Heap.unfoldItems_eq_map, Value.ofJson,
      Value.ofItems_eq_map]
    exact congrArg Value.plainList unfolded
  exact Heap.cut_of_isNestedBeyond settled _ (shallow_eq_fits reading) unfoldedList

end Rule

/-- The parts of the graph that a request carries are JSON, those that were not
sent included. -/
structure CreateRequest.Carries (request : CreateRequest) (graph : Graph) :
    Prop where
  same : request.draft.graph = .ofGraph graph
  distinct : graph.Distinct

namespace CreateRequest

variable {heap : Heap} {data : Value} {request : CreateRequest} {graph : Graph}

theorem Carries.formed (carries : request.Carries graph)
    (fits : read heap data = .fits request) : graph.Formed := by
  have declared := declared_draft (declared_of_read fits)
  rw [carries.same] at declared
  exact Graph.formed_of_declared declared

theorem Carries.nodes (carries : request.Carries graph) (formed : graph.Formed) :
    request.graph.nodes.getD [] = graph.nodeList.map .ofJson := by
  have nodes := congrArg LiveGraph.nodes carries.same
  change Value.plainList (request.graph.nodes.getD []) = .ofJson graph.nodes
    at nodes
  rw [formed.ofJson_nodes] at nodes
  injection nodes

theorem cut_of_sent (settled : heap.Settled) {spelling : Spelling}
    {entries : List (Value × Value)} {sent : Sent Value} {json : Json}
    (fits : spelling.sent Rule.shallowDictionary heap entries = .fits sent)
    (same : sent.getD (.plainDict []) = .ofJson json) :
    json.cut Heap.graphDepth = json := by
  cases sent with
  | none =>
      obtain rfl : Json.object [] = json := Value.ofJson_injective same
      rfl
  | some part =>
      obtain rfl : part = .ofJson json := same
      rcases Rule.exists_of_sent fits _ rfl with ⟨source, reading⟩
      exact Rule.cut_of_shallowDictionary settled reading

theorem cut_of_sentOptional (settled : heap.Settled) {spelling : Spelling}
    {entries : List (Value × Value)} {sent : Sent (Option Value)} {json : Json}
    (fits : spelling.sent Rule.shallowDictionary.optional heap entries =
      .fits sent)
    (same : .ofOption (sent.getD none) = Value.ofJson json) :
    json.cut Heap.graphDepth = json := by
  have null (absent : Value.null = .ofJson json) :
      json.cut Heap.graphDepth = json := by
    obtain rfl : Json.null = json := Value.ofJson_injective absent
    rfl
  rcases sent with _ | _ | part
  · exact null same
  · exact null same
  · obtain rfl : part = .ofJson json := same
    rcases Rule.exists_of_sent fits _ rfl with ⟨source, reading⟩
    rcases Rule.exists_of_optional reading _ rfl with ⟨inner, reading⟩
    exact Rule.cut_of_shallowDictionary settled reading

/-- The check of the nodes counts the list of the nodes. -/
theorem Carries.cut_nodes (carries : request.Carries graph) (settled : heap.Settled)
    (fits : read heap data = .fits request) :
    graph.nodes.cut Heap.graphDepth = graph.nodes := by
  have formed := carries.formed fits
  have nodes := carries.nodes formed
  rcases sent_of_read fits with ⟨entries, nodesFit, -⟩
  rw [formed.nodes]
  cases sent : request.graph.nodes with
  | none =>
      rw [sent, Option.getD_none] at nodes
      rw [List.map_eq_nil_iff.mp nodes.symm]
      rfl
  | some found =>
      rw [sent, Option.getD_some] at nodes
      rcases Rule.exists_of_sent nodesFit found sent with ⟨source, reading⟩
      rw [nodes] at reading
      exact Rule.cut_of_shallowNodes settled reading

/-- Copies cut nothing off a graph that was accepted. -/
theorem Carries.cut (carries : request.Carries graph) (settled : heap.Settled)
    (fits : read heap data = .fits request) : graph.cut = graph := by
  have same := carries.same
  rcases sent_of_read fits with
    ⟨entries, -, connectionsFit, settingsFit, staticFit⟩
  rw [Graph.cut, Json.cut_succ _ (carries.cut_nodes settled fits),
    cut_of_sent settled connectionsFit (congrArg LiveGraph.connections same),
    cut_of_sentOptional settled settingsFit (congrArg LiveGraph.settings same),
    cut_of_sentOptional settled staticFit (congrArg LiveGraph.staticData same)]

end CreateRequest

/-- Of the new values that an update was accepted with nothing is cut off. -/
theorem UpdateRequest.cut_of_read {heap : Heap} {data : Value} {request : UpdateRequest}
    (settled : heap.Settled) (fits : read heap data = .fits request)
    {field : WorkflowField} {json : Json}
    (asked : request.changes.lookup field = some (.ofJson json)) :
    json.cut Heap.graphDepth = json := by
  rcases sent_of_read fits with
    ⟨entries, nodesFit, connectionsFit, settingsFit, staticFit⟩
  have part {spelling : Spelling} {sent : Sent (Option Value)} {given : Option Value}
      (fits : spelling.sent Rule.shallowDictionary.optional heap entries = .fits sent)
      (there : sent = some given) (same : .ofOption given = Value.ofJson json) :
      json.cut Heap.graphDepth = json := by
    refine CreateRequest.cut_of_sentOptional settled fits ?_
    rw [there]
    exact same
  rw [lookup_changes] at asked
  cases field with
  | name =>
      rcases Option.map_eq_some_iff.mp asked with ⟨content, -, same⟩
      obtain rfl : Json.text content = json := Value.ofJson_injective same
      rfl
  | active =>
      rcases Option.map_eq_some_iff.mp asked with ⟨truth, -, same⟩
      obtain rfl : Json.bool truth = json := Value.ofJson_injective same
      rfl
  | nodes =>
      rcases Option.map_eq_some_iff.mp asked with ⟨found, sent, same⟩
      rcases Rule.exists_of_sent nodesFit _ (Option.join_eq_some_iff.mp sent) with
        ⟨source, reading⟩
      rcases Rule.exists_of_optional reading _ rfl with ⟨inner, reading⟩
      cases json with
      | array items =>
          rw [Value.ofJson, Value.ofItems_eq_map] at same
          injection same with _ _ same
          rw [same] at reading
          exact Rule.cut_of_shallowNodes settled reading
      | null | bool | int | float | text | halves | object => cases same
  | connections => exact part connectionsFit (Option.join_eq_some_iff.mp asked) rfl
  | settings =>
      rcases Option.map_eq_some_iff.mp asked with ⟨given, sent, same⟩
      exact part settingsFit sent same
  | staticData =>
      rcases Option.map_eq_some_iff.mp asked with ⟨given, sent, same⟩
      exact part staticFit sent same

/-! ## Showing -/

namespace Fit

/-- Parts that are each read as something are read together so. -/
theorem all_eq_fits {α β : Type} {read : α → Fit β} {result : α → β}
    {parts : List α} (each : ∀ part ∈ parts, read part = .fits (result part)) :
    all read parts = .fits (parts.map result) := by
  induction parts with
  | nil => rfl
  | cons part rest induction =>
      rcases List.forall_mem_cons.mp each with ⟨first, others⟩
      rw [all, first, induction others]
      rfl

end Fit

namespace Value

theorem agrees_text (one other : String) :
    (text one).agrees (text other) = decide (one = other) := by
  rw [Bool.eq_iff_iff]
  simp [agrees, plain, Scalar.agrees, Scalar.quantity?]

/-- Entries under texts are inserted like the members that they stand for. -/
theorem insertEntry_ofMembers (members : List (String × Json)) (key : String)
    (json : Json) :
    insertEntry (ofMembers members) (.text key) (.ofJson json) =
      ofMembers (Json.insert members key json) := by
  induction members with
  | nil => rfl
  | cons member rest induction =>
      rw [ofMembers, insertEntry, Json.insert, agrees_text]
      by_cases same : member.1 = key
      · rw [if_pos (decide_eq_true same), if_pos same, ofMembers, same]
      · rw [if_neg (by simpa using same), if_neg same, ofMembers, induction]

/-- Entries under different texts are all kept. -/
theorem distinctEntries_ofMembers {members : List (String × Json)}
    (different : (members.map (·.1)).Nodup) :
    distinctEntries (ofMembers members) = ofMembers members := by
  suffices collecting : ∀ collected : List (String × Json),
      (ofMembers members).foldl (fun collected entry =>
        insertEntry collected entry.1 entry.2) (ofMembers collected) =
          ofMembers (members.foldl (fun collected member =>
            Json.insert collected member.1 member.2) collected) by
    rw [distinctEntries]
    refine (collecting []).trans ?_
    rw [← Json.merged, Json.merged_of_nodup different]
  clear different
  induction members with
  | nil => exact fun _ => rfl
  | cons member rest induction =>
      intro collected
      rw [ofMembers, List.foldl_cons, List.foldl_cons, insertEntry_ofMembers,
        induction]

end Value

namespace Rule

/-- A dictionary that a store gave back is read as it is. -/
theorem dictionary_ofJson {json : Json} (object : json.IsObject)
    (distinct : json.Distinct) :
    dictionary .empty (.ofJson json) = .fits (.ofJson json) := by
  rcases object with ⟨members, rfl⟩
  have each : ∀ entry ∈ Value.ofMembers members,
      ((fun key => (Value.text key, entry.2)) <$>
        (text .empty entry.1).within (.field "[key]")).within
          (keyStep entry.1) = .fits entry := by
    intro entry held
    rw [Value.ofMembers_eq_map] at held
    rcases List.mem_map.mp held with ⟨member, -, rfl⟩
    rfl
  change (fun read => Value.plainDict (Value.distinctEntries read)) <$>
    Fit.all _ (Value.ofMembers members) = _
  rw [Fit.all_eq_fits each, List.map_id']
  exact congrArg (fun entries => Fit.fits (Value.plainDict entries))
    (Value.distinctEntries_ofMembers distinct.1)

/-- Nodes that a store gave back are read as they are. -/
theorem nodes_ofItems {items : List Json}
    (objects : ∀ item ∈ items, item.IsObject)
    (distinct : ∀ item ∈ items, item.Distinct) :
    nodes .empty (.plainList (items.map .ofJson)) =
      .fits (items.map .ofJson) := by
  have each : ∀ entry ∈ (items.map Value.ofJson).zipIdx.map
      (fun entry => (entry.1, (entry.2 : Int))),
      (dictionary .empty entry.1).within (.index entry.2) = .fits entry.1 := by
    intro entry held
    rcases List.mem_map.mp held with ⟨⟨node, position⟩, place, rfl⟩
    rcases List.mem_map.mp (List.fst_mem_of_mem_zipIdx place) with
      ⟨item, member, rfl⟩
    exact Fit.within_eq_fits.mpr
      (dictionary_ofJson (objects item member) (distinct item member))
  change Fit.all _ _ = _
  rw [Fit.all_eq_fits each, List.map_map]
  exact congrArg Fit.fits (List.zipIdx_map_fst 0 _)

end Rule

/-- A part of a graph that can be null, as it is shown. -/
def Json.shown? : Json → Option Value
  | .null => none
  | part => some (.ofJson part)

theorem Rule.optional_ofJson {json : Json}
    (declared : json.IsObject ∨ json = .null) (distinct : json.Distinct) :
    dictionary.optional .empty (.ofJson json) = .fits json.shown? := by
  rcases declared with object | rfl
  · have read := dictionary_ofJson object distinct
    rcases object with ⟨members, rfl⟩
    change some <$> dictionary .empty (.ofJson (.object members)) = _
    rw [read]
    rfl
  · rfl

/-- A workflow with a graph that a store gave back is shown with the graph as it
is. -/
theorem WorkflowDetail.ofLoaded_ofGraph {workflow : LoadedWorkflow} {graph : Graph}
    {summary : WorkflowSummary} (same : workflow.graph = .ofGraph graph)
    (formed : graph.Formed) (distinct : graph.Distinct)
    (summarized : WorkflowSummary.ofLoaded workflow = .fits summary) :
    ofLoaded workflow = .fits
      { summary
        versionId := workflow.row.versionId
        nodes := graph.nodeList.map .ofJson
        connections := .ofJson graph.connections
        settings := graph.settings.shown?
        staticData := graph.staticData.shown? } := by
  rw [ofLoaded, summarized, same]
  simp only [LiveGraph.ofGraph]
  rw [formed.ofJson_nodes, Rule.nodes_ofItems formed.each distinct.nodeList,
    Rule.dictionary_ofJson formed.connections distinct.connections,
    Rule.optional_ofJson formed.settings distinct.settings,
    Rule.optional_ofJson formed.staticData distinct.staticData]
  rfl

end WorkflowExchange

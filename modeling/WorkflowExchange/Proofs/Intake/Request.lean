import WorkflowExchange.Proofs.Intake.Fit

/-!
# Graphs in requests

The parts of the graph in a request that fits are dictionaries with text keys,
and they stay so when references in them are replaced and their values are made
bare.  Such a dictionary fits again wherever a dictionary is declared.
-/

namespace WorkflowExchange

namespace Value

/-- Is the key of an entry a text? -/
def KeyedByText (entry : Value × Value) : Prop :=
  ∃ key, entry.1 = .text key

/-- Is the value a dictionary with text keys? -/
def HasTextKeys (value : Value) : Prop :=
  ∃ type failure entries, value = .dict type failure entries ∧
    ∀ entry ∈ entries, KeyedByText entry

theorem HasTextKeys.isDict {value : Value} (keyed : value.HasTextKeys) :
    value.isDict := by
  rcases keyed with ⟨_, _, _, rfl, _⟩
  rfl

theorem keyedByText_insertEntry {entries : List (Value × Value)}
    {key value : Value} (keyed : ∀ entry ∈ entries, KeyedByText entry)
    (new : KeyedByText (key, value)) :
    ∀ entry ∈ insertEntry entries key value, KeyedByText entry := by
  induction entries with
  | nil => simpa [insertEntry] using new
  | cons first rest hypothesis =>
      rcases List.forall_mem_cons.mp keyed with ⟨headed, rested⟩
      rw [insertEntry]
      by_cases agrees : first.1.agrees key
      · rw [if_pos agrees]
        exact List.forall_mem_cons.mpr ⟨headed, rested⟩
      · rw [if_neg agrees]
        exact List.forall_mem_cons.mpr ⟨headed, hypothesis rested⟩

theorem keyedByText_distinctEntries {entries : List (Value × Value)}
    (keyed : ∀ entry ∈ entries, KeyedByText entry) :
    ∀ entry ∈ distinctEntries entries, KeyedByText entry := by
  have collecting (collected : List (Value × Value))
      (sofar : ∀ entry ∈ collected, KeyedByText entry) :
      ∀ entry ∈ entries.foldl (fun collected entry =>
        insertEntry collected entry.1 entry.2) collected,
        KeyedByText entry := by
    induction entries generalizing collected with
    | nil => exact sofar
    | cons first rest hypothesis =>
        rcases List.forall_mem_cons.mp keyed with ⟨headed, rested⟩
        rw [List.foldl_cons]
        exact hypothesis rested _ (keyedByText_insertEntry sofar headed)
  exact collecting [] (by simp)

theorem keyedByText_unfoldEntries {heap : Heap} {follow : Value → Bool}
    {room : Nat} {trail : Heap.Trail} {entries : List (Value × Value)}
    (keyed : ∀ entry ∈ entries, KeyedByText entry) :
    ∀ entry ∈ heap.unfoldEntries follow room trail entries,
      KeyedByText entry := by
  induction entries with
  | nil =>
      rw [Heap.unfoldEntries]
      simp
  | cons first rest hypothesis =>
      rcases List.forall_mem_cons.mp keyed with ⟨headed, rested⟩
      rcases first with ⟨key, value⟩
      rw [Heap.unfoldEntries]
      exact List.forall_mem_cons.mpr ⟨headed, hypothesis rested⟩

theorem HasTextKeys.closed {heap : Heap} {value : Value}
    (keyed : value.HasTextKeys) : (heap.closed value).HasTextKeys := by
  rcases keyed with ⟨type, failure, entries, rfl, keyed⟩
  rw [Heap.closed, Heap.unfold, Heap.unfoldAt]
  exact ⟨type, failure, _, rfl, keyedByText_unfoldEntries keyed⟩

theorem keyedByText_bareEntries {room : Nat}
    {entries shown : List (Value × Value)}
    (keyed : ∀ entry ∈ entries, KeyedByText entry)
    (bare : bareEntries room entries = .ok shown) :
    ∀ entry ∈ shown, KeyedByText entry := by
  induction entries generalizing shown with
  | nil =>
      cases bare
      simp
  | cons first rest hypothesis =>
      rcases List.forall_mem_cons.mp keyed with ⟨headed, rested⟩
      rcases first with ⟨key, value⟩
      simp only [bareEntries] at bare
      rcases headedBare : bareWithin room value with _ | inner
      · rw [headedBare] at bare
        cases bare
      · rcases restedBare : bareEntries room rest with _ | others
        · rw [headedBare, restedBare] at bare
          cases bare
        · rw [headedBare, restedBare] at bare
          cases bare
          exact List.forall_mem_cons.mpr ⟨headed, hypothesis rested restedBare⟩

theorem HasTextKeys.bare {value shown : Value} (keyed : value.HasTextKeys)
    (bare : value.bare = .ok shown) : shown.HasTextKeys := by
  rcases keyed with ⟨type, failure, entries, rfl, keyed⟩
  change (bareEntries bareDepth entries).map plainDict = .ok shown at bare
  rcases entriesBare : bareEntries bareDepth entries with _ | others
  · rw [entriesBare] at bare
    cases bare
  · rw [entriesBare] at bare
    cases bare
    exact ⟨_, _, _, rfl, keyedByText_bareEntries keyed entriesBare⟩

end Value

namespace Rule

/-! ## What the rules for graphs give -/

theorem dictionary_gives : dictionary.Gives Value.HasTextKeys := by
  intro heap value result fits
  rw [dictionary] at fits
  split at fits
  · rcases Fit.map_eq_fits.mp fits with ⟨read, reading, rfl⟩
    refine ⟨_, _, _, rfl, Value.keyedByText_distinctEntries ?_⟩
    intro entry member
    rcases Fit.exists_part_of_all reading entry member with ⟨part, -, fit⟩
    rcases Fit.map_eq_fits.mp (Fit.within_eq_fits.mp fit) with ⟨key, -, rfl⟩
    exact ⟨key, rfl⟩
  · cases fits

theorem nodes_gives :
    nodes.Gives fun found => ∀ node ∈ found, node.HasTextKeys :=
  dictionary_gives.list

theorem shallowDictionary_gives :
    shallowDictionary.Gives Value.HasTextKeys :=
  dictionary_gives.shallow.closed _ fun _ _ keyed => keyed.closed

theorem shallowNodes_gives :
    shallowNodes.Gives fun found => ∀ node ∈ found, node.HasTextKeys := by
  apply nodes_gives.shallow.closed fun found => ∀ node ∈ found, node.HasTextKeys
  intro heap found keyed node member
  rcases List.mem_map.mp member with ⟨source, place, rfl⟩
  exact (keyed source place).closed

/-- A dictionary with text keys fits where a dictionary is declared. -/
theorem dictionary_fits {value : Value} (keyed : value.HasTextKeys) :
    ∃ read, dictionary .empty value = .fits read := by
  rcases keyed with ⟨type, failure, entries, rfl, keyed⟩
  have each : ∀ entry ∈ entries, ∃ read,
      ((fun key => (Value.text key, entry.2)) <$>
        (text .empty entry.1).within (.field "[key]")).within
          (keyStep entry.1) = .fits read := by
    intro entry member
    rcases keyed entry member with ⟨key, equal⟩
    refine ⟨(.text key, entry.2), ?_⟩
    rw [equal]
    rfl
  rcases Fit.exists_all_of_parts each with ⟨read, fits⟩
  refine ⟨.plainDict (Value.distinctEntries read), ?_⟩
  change (fun read => Value.plainDict (Value.distinctEntries read)) <$>
    Fit.all _ entries = _
  rw [fits]
  rfl

/-- Dictionaries with text keys fit where nodes are declared. -/
theorem nodes_fits {items : List Value}
    (keyed : ∀ item ∈ items, item.HasTextKeys) :
    ∃ read, nodes .empty (.plainList items) = .fits read := by
  apply Fit.exists_all_of_parts
  intro part member
  rcases List.mem_map.mp member with ⟨⟨item, position⟩, place, rfl⟩
  have inside : item ∈ items := List.fst_mem_of_mem_zipIdx place
  rcases dictionary_fits (keyed item inside) with ⟨read, fits⟩
  exact ⟨read, Fit.within_eq_fits.mpr fits⟩

end Rule

/-! ## Requests that fit -/

/-- The parts of a graph that were sent are of the declared kinds. -/
structure GraphRequest.Declared (graph : GraphRequest) : Prop where
  nodes : ∀ found ∈ graph.nodes, ∀ node ∈ found, node.HasTextKeys
  connections : ∀ part ∈ graph.connections, part.HasTextKeys
  settings : ∀ sent ∈ graph.settings, ∀ part ∈ sent, part.HasTextKeys
  staticData : ∀ sent ∈ graph.staticData, ∀ part ∈ sent, part.HasTextKeys

/-- The parts of a graph that were sent are of the declared kinds. -/
structure UpdateRequest.Declared (request : UpdateRequest) : Prop where
  nodes : ∀ sent ∈ request.nodes, ∀ found ∈ sent, ∀ node ∈ found,
    node.HasTextKeys
  connections : ∀ sent ∈ request.connections, ∀ part ∈ sent, part.HasTextKeys
  settings : ∀ sent ∈ request.settings, ∀ part ∈ sent, part.HasTextKeys
  staticData : ∀ sent ∈ request.staticData, ∀ part ∈ sent, part.HasTextKeys

/-- The graph of a request is read from fields of the data. -/
theorem CreateRequest.sent_of_read {heap : Heap} {data : Value}
    {request : CreateRequest} (fits : read heap data = .fits request) :
    ∃ entries,
      Spelling.nodes.sent Rule.shallowNodes heap entries =
        .fits request.graph.nodes ∧
      Spelling.connections.sent Rule.shallowDictionary heap entries =
        .fits request.graph.connections ∧
      Spelling.settings.sent Rule.shallowDictionary.optional heap entries =
        .fits request.graph.settings ∧
      Spelling.staticData.sent Rule.shallowDictionary.optional heap entries =
        .fits request.graph.staticData := by
  rcases readFields_eq_fits fits with ⟨entries, fits⟩
  simp only [Fit.seq_eq_fits, Fit.map_eq_fits, GraphRequest.readWith] at fits
  rcases fits with ⟨_, _, ⟨_, graph, ⟨name, -, rfl⟩,
    ⟨_, staticData, ⟨_, settings, ⟨_, connections, ⟨nodes, nodesFit, rfl⟩,
      connectionsFit, rfl⟩, settingsFit, rfl⟩, staticFit, rfl⟩, rfl⟩,
    -, rfl⟩
  exact ⟨entries, nodesFit, connectionsFit, settingsFit, staticFit⟩

theorem CreateRequest.declared_of_read {heap : Heap} {data : Value}
    {request : CreateRequest} (fits : read heap data = .fits request) :
    request.graph.Declared := by
  rcases sent_of_read fits with
    ⟨entries, nodesFit, connectionsFit, settingsFit, staticFit⟩
  constructor
  · exact Rule.shallowNodes_gives.sent nodesFit
  · exact Rule.shallowDictionary_gives.sent connectionsFit
  · exact Rule.shallowDictionary_gives.optional.sent settingsFit
  · exact Rule.shallowDictionary_gives.optional.sent staticFit

/-- The parts of a graph in an update are read from fields of the data. -/
theorem UpdateRequest.sent_of_read {heap : Heap} {data : Value}
    {request : UpdateRequest} (fits : read heap data = .fits request) :
    ∃ entries,
      Spelling.nodes.sent Rule.shallowNodes.optional heap entries =
        .fits request.nodes ∧
      Spelling.connections.sent Rule.shallowDictionary.optional heap entries =
        .fits request.connections ∧
      Spelling.settings.sent Rule.shallowDictionary.optional heap entries =
        .fits request.settings ∧
      Spelling.staticData.sent Rule.shallowDictionary.optional heap entries =
        .fits request.staticData := by
  rcases readFields_eq_fits fits with ⟨entries, fits⟩
  simp only [Fit.seq_eq_fits, Fit.map_eq_fits] at fits
  rcases fits with ⟨_, _, ⟨_, staticData, ⟨_, settings, ⟨_, connections,
    ⟨_, nodes, ⟨name, -, rfl⟩, nodesFit, rfl⟩, connectionsFit, rfl⟩,
      settingsFit, rfl⟩, staticFit, rfl⟩, -, rfl⟩
  exact ⟨entries, nodesFit, connectionsFit, settingsFit, staticFit⟩

theorem UpdateRequest.declared_of_read {heap : Heap} {data : Value}
    {request : UpdateRequest} (fits : read heap data = .fits request) :
    request.Declared := by
  rcases sent_of_read fits with
    ⟨entries, nodesFit, connectionsFit, settingsFit, staticFit⟩
  constructor
  · exact Rule.shallowNodes_gives.optional.sent nodesFit
  · exact Rule.shallowDictionary_gives.optional.sent connectionsFit
  · exact Rule.shallowDictionary_gives.optional.sent settingsFit
  · exact Rule.shallowDictionary_gives.optional.sent staticFit

end WorkflowExchange

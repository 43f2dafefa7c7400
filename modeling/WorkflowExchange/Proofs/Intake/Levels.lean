import WorkflowExchange.Proofs.Intake.Graphs

/-!
# Levels of JSON values

How many arrays and objects of a JSON value stand within each other.  Cutting a value
off leaves the levels that there is room for, and the nesting check of a request
counts them.  The check of nodes counts the list of nodes, too, so that a node may have
one level less than a copy of it keeps: `Rule.shallowNodes_of_deep`.
-/

namespace WorkflowExchange

namespace Json

mutual
/-- The greatest number of arrays and objects within each other. -/
def levels : Json → Nat
  | .array items => levelsOfItems items + 1
  | .object members => levelsOfMembers members + 1
  | _ => 0
termination_by structural value => value

def levelsOfItems : List Json → Nat
  | [] => 0
  | item :: rest => max (levels item) (levelsOfItems rest)
termination_by structural items => items

def levelsOfMembers : List (String × Json) → Nat
  | [] => 0
  | (_, value) :: rest => max (levels value) (levelsOfMembers rest)
termination_by structural members => members
end

theorem levelsOfItems_le_iff {items : List Json} {limit : Nat} :
    levelsOfItems items ≤ limit ↔ ∀ item ∈ items, item.levels ≤ limit := by
  induction items with
  | nil => simp [levelsOfItems]
  | cons item rest induction =>
      rw [levelsOfItems, Nat.max_le, induction, List.forall_mem_cons]

theorem levelsOfMembers_le_iff {members : List (String × Json)} {limit : Nat} :
    levelsOfMembers members ≤ limit ↔
      ∀ member ∈ members, member.2.levels ≤ limit := by
  induction members with
  | nil => simp [levelsOfMembers]
  | cons member rest induction =>
      rw [levelsOfMembers, Nat.max_le, induction, List.forall_mem_cons]

theorem any_lt_levels (limit : Nat) (items : List Json) :
    (items.any fun item => decide (limit < item.levels)) =
      decide (limit < levelsOfItems items) := by
  rw [Bool.eq_iff_iff, List.any_eq_true, decide_eq_true_iff, ← not_iff_not, Nat.not_lt,
    levelsOfItems_le_iff]
  simp

theorem any_lt_levels_members (limit : Nat) (members : List (String × Json)) :
    (members.any fun member => decide (limit < member.2.levels)) =
      decide (limit < levelsOfMembers members) := by
  rw [Bool.eq_iff_iff, List.any_eq_true, decide_eq_true_iff, ← not_iff_not, Nat.not_lt,
    levelsOfMembers_le_iff]
  simp

mutual
/-- Cutting a value off leaves it the levels that there is room for. -/
theorem levels_cut (room : Nat) (json : Json) :
    (json.cut room).levels = min json.levels room := by
  match room, json with
  | 0, .array _ | 0, .object _ => rfl
  | 0, .null | 0, .bool _ | 0, .int _ | 0, .float _ | 0, .text _ | 0, .halves _
  | _ + 1, .null | _ + 1, .bool _ | _ + 1, .int _ | _ + 1, .float _
  | _ + 1, .text _ | _ + 1, .halves _ => exact (Nat.zero_min _).symm
  | room + 1, .array items =>
      rw [cut, levels, levels, levelsOfItems_cutItems room items,
        Nat.add_min_add_right]
  | room + 1, .object members =>
      rw [cut, levels, levels, levelsOfMembers_cutMembers room members,
        Nat.add_min_add_right]
termination_by structural json

theorem levelsOfItems_cutItems (room : Nat) (items : List Json) :
    levelsOfItems (cutItems room items) = min (levelsOfItems items) room := by
  match items with
  | [] => exact (Nat.zero_min room).symm
  | item :: rest =>
      rw [cutItems, levelsOfItems, levelsOfItems, levels_cut room item,
        levelsOfItems_cutItems room rest]
      omega
termination_by structural items

theorem levelsOfMembers_cutMembers (room : Nat) (members : List (String × Json)) :
    levelsOfMembers (cutMembers room members) = min (levelsOfMembers members) room := by
  match members with
  | [] => exact (Nat.zero_min room).symm
  | (key, value) :: rest =>
      rw [cutMembers, levelsOfMembers, levelsOfMembers, levels_cut room value,
        levelsOfMembers_cutMembers room rest]
      omega
termination_by structural members
end

/-- What nothing is cut off has no more levels than there is room for. -/
theorem levels_le_of_cut {room : Nat} {json : Json} (whole : json.cut room = json) :
    json.levels ≤ room := by
  have levels := levels_cut room json
  rw [whole] at levels
  rw [levels]
  exact Nat.min_le_right _ _

end Json

/-! ## The nesting check -/

theorem anyChecked_eq_any {α : Type} {check : Value → Except Fault Bool}
    {toValue : α → Value} {test : α → Bool} {values : List α}
    (each : ∀ value ∈ values, check (toValue value) = .ok (test value)) :
    anyChecked check (values.map toValue) = .ok (values.any test) := by
  induction values with
  | nil => rfl
  | cons value rest hypothesis =>
      rcases List.forall_mem_cons.mp each with ⟨first, others⟩
      rw [List.map_cons, anyChecked, first, hypothesis others, List.any_cons]
      cases test value <;> rfl

/-- The nesting check of a JSON value counts its levels. -/
theorem Heap.isNestedBeyond_ofJson (heap : Heap) (limit : Nat) (json : Json) :
    heap.isNestedBeyond limit (.ofJson json) = .ok (decide (limit < json.levels)) := by
  induction limit generalizing json with
  | zero =>
      cases json with
      | null | bool | int | float | text | halves => rfl
      | array items | object members =>
          rw [isNestedBeyond]
          rfl
  | succ limit hypothesis =>
      cases json with
      | null | bool | int | float | text | halves => rfl
      | array items =>
          have container : (heap.resolve (.ofJson (.array items))).nested? =
              some (items.map .ofJson, none) := by
            rw [← Value.ofItems_eq_map]
            rfl
          rw [isNestedBeyond, container]
          simp only [← List.map_reverse]
          rw [anyChecked_eq_any fun item _ => hypothesis item, List.any_reverse,
            Json.any_lt_levels, Json.levels]
          simp only [Nat.succ_lt_succ_iff]
      | object members =>
          have container : (heap.resolve (.ofJson (.object members))).nested? =
              some (members.map fun member => .ofJson member.2, none) := by
            change some ((Value.ofMembers members).map (·.2), none) = _
            rw [Value.ofMembers_eq_map, List.map_map]
            rfl
          rw [isNestedBeyond, container]
          simp only [← List.map_reverse]
          rw [anyChecked_eq_any fun member _ => hypothesis member.2, List.any_reverse,
            Json.any_lt_levels_members, Json.levels]
          simp only [Nat.succ_lt_succ_iff]

/-! ## Reading -/

namespace Rule

variable {json : Json} {items : List Json}

/-- An object with different keys is read as it is when it has no more levels than a
copy keeps. -/
theorem shallowDictionary_of_levels (object : json.IsObject) (distinct : json.Distinct)
    (bounded : json.levels ≤ Heap.graphDepth) :
    shallowDictionary .empty (.ofJson json) = .fits (.ofJson json) := by
  refine shallowDictionary_ofJson ?_
  rw [shallow, dictionary_ofJson object distinct]
  simp only [Fit.andThen, id, Heap.isNestedBeyond_ofJson, Nat.not_lt.mpr bounded,
    decide_false]

theorem shallowOptional_of_levels (declared : json.IsObject ∨ json = .null)
    (distinct : json.Distinct) (bounded : json.levels ≤ Heap.graphDepth) :
    shallowDictionary.optional .empty (.ofJson json) = .fits json.shown? := by
  rcases declared with object | rfl
  · have read := shallowDictionary_of_levels object distinct bounded
    rcases object with ⟨members, rfl⟩
    change some <$> shallowDictionary .empty (.ofJson (.object members)) = _
    rw [read]
    rfl
  · rfl

/-- The check of nodes counts the levels of their list. -/
theorem isNestedBeyond_items (items : List Json) :
    Heap.empty.isNestedBeyond Heap.graphDepth (.plainList (items.map .ofJson)) =
      .ok (decide (Heap.graphDepth ≤ Json.levelsOfItems items)) := by
  rw [← Value.ofItems_eq_map]
  refine (Heap.isNestedBeyond_ofJson .empty _ (.array items)).trans ?_
  rw [Json.levels]
  simp only [Nat.lt_succ_iff]

/-- Nodes with different keys are read as they are when each of them has fewer levels
than a copy keeps. -/
theorem shallowNodes_of_levels (objects : ∀ item ∈ items, item.IsObject)
    (distinct : ∀ item ∈ items, item.Distinct)
    (bounded : ∀ item ∈ items, item.levels < Heap.graphDepth) :
    shallowNodes .empty (.plainList (items.map .ofJson)) =
      .fits (items.map .ofJson) := by
  refine shallowNodes_ofJson ?_
  have shallowList : ¬Heap.graphDepth ≤ Json.levelsOfItems items := by
    have least : Json.levelsOfItems items ≤ 63 :=
      Json.levelsOfItems_le_iff.mpr fun item held => Nat.le_of_lt_succ (bounded item held)
    exact Nat.not_le.mpr (Nat.lt_succ_of_le least)
  rw [shallow, nodes_ofItems objects distinct]
  simp only [Fit.andThen, isNestedBeyond_items, shallowList, decide_false]

/-- Nodes are refused when one of them has as many levels as a copy keeps. -/
theorem shallowNodes_of_deep (objects : ∀ item ∈ items, item.IsObject)
    (distinct : ∀ item ∈ items, item.Distinct)
    (deep : ∃ item ∈ items, Heap.graphDepth ≤ item.levels) :
    shallowNodes .empty (.plainList (items.map .ofJson)) =
      .misfit "value_error"
        "Value error, Graph data is nested deeper than 64 levels" := by
  rcases deep with ⟨item, held, deep⟩
  have deepList : Heap.graphDepth ≤ Json.levelsOfItems items :=
    Nat.le_trans deep (Json.levelsOfItems_le_iff.mp (Nat.le_refl _) item held)
  rw [shallowNodes, closed, shallow, nodes_ofItems objects distinct]
  simp only [Fit.andThen, isNestedBeyond_items, deepList, decide_true]
  rfl

end Rule

end WorkflowExchange

import WorkflowExchange.Copy.Graph
import WorkflowExchange.Proofs.Copy.Loop
import WorkflowExchange.Store.Prepared

/-!
# Copies of stored values

What a store gives back has a JSON form, no references and nothing that cannot be
read.  Copying such a value cuts it off at the depth limit and changes nothing
else, so that copying a stored graph never fails and a column of JSON takes the
copy.
-/

namespace WorkflowExchange

namespace Json

mutual
/-- Has no integer in a value more digits than are written? -/
def isWritten (digits? : Option Nat) : Json → Bool
  | .int value => Scalar.isWritten digits? value
  | .array items => areWritten digits? items
  | .object members => membersAreWritten digits? members
  | _ => true
termination_by structural value => value

def areWritten (digits? : Option Nat) : List Json → Bool
  | [] => true
  | item :: rest => isWritten digits? item && areWritten digits? rest
termination_by structural items => items

def membersAreWritten (digits? : Option Nat) : List (String × Json) → Bool
  | [] => true
  | (_, value) :: rest => isWritten digits? value && membersAreWritten digits? rest
termination_by structural members => members
end

theorem areWritten_iff {digits? : Option Nat} {items : List Json} :
    areWritten digits? items = true ↔ ∀ item ∈ items, item.isWritten digits? = true := by
  induction items with
  | nil => simp [areWritten]
  | cons item rest induction =>
      rw [areWritten, Bool.and_eq_true_iff, induction, List.forall_mem_cons]

theorem membersAreWritten_iff {digits? : Option Nat} {members : List (String × Json)} :
    membersAreWritten digits? members = true ↔
      ∀ member ∈ members, member.2.isWritten digits? = true := by
  induction members with
  | nil => simp [membersAreWritten]
  | cons member rest induction =>
      rw [membersAreWritten, Bool.and_eq_true_iff, induction, List.forall_mem_cons]

mutual
/-- Without a limit every integer is written. -/
theorem isWritten_none (json : Json) : json.isWritten none = true := by
  match json with
  | .null | .bool _ | .int _ | .float _ | .text _ | .halves _ => rfl
  | .array items => exact areWritten_none items
  | .object members => exact membersAreWritten_none members
termination_by structural json

theorem areWritten_none (items : List Json) : areWritten none items = true := by
  match items with
  | [] => rfl
  | item :: rest =>
      exact Bool.and_eq_true_iff.mpr ⟨isWritten_none item, areWritten_none rest⟩
termination_by structural items

theorem membersAreWritten_none (members : List (String × Json)) :
    membersAreWritten none members = true := by
  match members with
  | [] => rfl
  | (_, value) :: rest =>
      exact Bool.and_eq_true_iff.mpr ⟨isWritten_none value, membersAreWritten_none rest⟩
termination_by structural members
end

mutual
/-- The value without what lies below some levels of containers. -/
def cut : Nat → Json → Json
  | 0, .array _ => .text (Value.truncatedText "list")
  | 0, .object _ => .text (Value.truncatedText "dict")
  | room + 1, .array items => .array (cutItems room items)
  | room + 1, .object members => .object (cutMembers room members)
  | _, other => other
termination_by structural _ value => value

/-- The items without what lies below some levels. -/
def cutItems : Nat → List Json → List Json
  | _, [] => []
  | room, item :: rest => cut room item :: cutItems room rest
termination_by structural _ items => items

/-- The members without what lies below some levels. -/
def cutMembers : Nat → List (String × Json) → List (String × Json)
  | _, [] => []
  | room, (key, value) :: rest => (key, cut room value) :: cutMembers room rest
termination_by structural _ members => members
end

theorem cutItems_eq_map (room : Nat) (items : List Json) :
    cutItems room items = items.map (cut room) := by
  induction items with
  | nil => rfl
  | cons item rest induction => rw [cutItems, List.map_cons, induction]

theorem cutMembers_eq_map (room : Nat) (members : List (String × Json)) :
    cutMembers room members =
      members.map fun member => (member.1, member.2.cut room) := by
  induction members with
  | nil => rfl
  | cons member rest induction => rw [cutMembers, List.map_cons, induction]

/-- Of an array nothing is cut off when nothing of its items is. -/
theorem cut_array {room : Nat} {items : List Json}
    (whole : ∀ item ∈ items, item.cut room = item) :
    (array items).cut (room + 1) = array items := by
  rw [cut, cutItems_eq_map, List.map_congr_left whole, List.map_id']

theorem cut_object {room : Nat} {members : List (String × Json)}
    (whole : ∀ member ∈ members, member.2.cut room = member.2) :
    (object members).cut (room + 1) = object members := by
  have same : ∀ member ∈ members, (member.1, member.2.cut room) = member :=
    fun member held => Prod.ext rfl (whole member held)
  rw [cut, cutMembers_eq_map, List.map_congr_left same, List.map_id']

/-- With more levels nothing more is cut off. -/
theorem cut_succ (room : Nat) :
    ∀ {json : Json}, json.cut room = json → json.cut (room + 1) = json := by
  induction room with
  | zero =>
      intro json whole
      cases json with
      | null | bool | int | float | text | halves => rfl
      | array | object => cases whole
  | succ room induction =>
      intro json whole
      cases json with
      | null | bool | int | float | text | halves => rfl
      | array items =>
          rw [cut, array.injEq, cutItems_eq_map] at whole
          refine cut_array fun item held => induction ?_
          exact List.map_eq_map_iff.mp (whole.trans items.map_id.symm) item held
      | object members =>
          rw [cut, object.injEq, cutMembers_eq_map] at whole
          refine cut_object fun member held => induction ?_
          exact congrArg Prod.snd (List.map_eq_map_iff.mp
            (whole.trans members.map_id.symm) member held)

end Json

namespace Value

/-- Has a value a JSON form that it can be read back from? -/
def IsJson (value : Value) : Prop :=
  ∃ json, value = ofJson json

theorem isJson_ofJson (json : Json) : (ofJson json).IsJson := ⟨json, rfl⟩

theorem isJson_plainDict {entries : List (String × Value)}
    (parts : ∀ entry ∈ entries, entry.2.IsJson) :
    (ofFields entries).IsJson := by
  suffices form : ∃ members, entries.map
      (fun field => (text field.1, field.2)) = ofMembers members by
    rcases form with ⟨members, equal⟩
    refine ⟨.object members, ?_⟩
    rw [ofFields, equal]
    rfl
  induction entries with
  | nil => exact ⟨[], rfl⟩
  | cons entry rest hypothesis =>
      have headed := parts entry List.mem_cons_self
      have others := hypothesis fun other member =>
        parts other (List.mem_cons_of_mem _ member)
      rcases headed with ⟨json, equal⟩
      rcases others with ⟨members, equals⟩
      refine ⟨(entry.1, json) :: members, ?_⟩
      rw [List.map_cons, equal, equals]
      rfl

theorem isJson_plainList {items : List Value}
    (parts : ∀ item ∈ items, item.IsJson) : (plainList items).IsJson := by
  suffices form : ∃ values, items = ofItems values by
    rcases form with ⟨values, rfl⟩
    exact ⟨.array values, rfl⟩
  induction items with
  | nil => exact ⟨[], rfl⟩
  | cons item rest hypothesis =>
      have headed := parts item List.mem_cons_self
      have others := hypothesis fun other member =>
        parts other (List.mem_cons_of_mem _ member)
      rcases headed with ⟨json, rfl⟩
      rcases others with ⟨values, rfl⟩
      exact ⟨json :: values, rfl⟩

/-- The items of a list with a JSON form have one, too. -/
theorem isJson_of_mem_ofItems {values : List Json} {item : Value}
    (member : item ∈ ofItems values) : item.IsJson := by
  induction values with
  | nil => cases member
  | cons value rest hypothesis =>
      rcases List.mem_cons.mp member with rfl | member
      · exact isJson_ofJson value
      · exact hypothesis member

theorem isJson_of_mem_plainList {items : List Value} {item : Value}
    (form : (plainList items).IsJson) (member : item ∈ items) : item.IsJson := by
  rcases form with ⟨json, equal⟩
  cases json with
  | array values =>
      cases equal
      exact isJson_of_mem_ofItems member
  | null | bool | int | float | text | halves | object => cases equal

/-- What is looked up in a dictionary with a JSON form has one, too. -/
theorem isJson_of_lookup? {members : List (String × Json)} {key : String}
    {value : Value} (found : lookup? (ofMembers members) key = some value) :
    value.IsJson := by
  induction members with
  | nil => cases found
  | cons member rest hypothesis =>
      rcases member with ⟨name, json⟩
      by_cases here : name = key
      · have equal : ofJson json = value := by
          simpa [lookup?, ofMembers, asText?, plain, here] using found
        rw [← equal]
        exact isJson_ofJson json
      · apply hypothesis
        simpa [lookup?, ofMembers, asText?, plain, here] using found

theorem ofItems_eq_map (items : List Json) :
    ofItems items = items.map ofJson := by
  induction items with
  | nil => rfl
  | cons item rest induction => rw [ofItems, List.map_cons, induction]

theorem ofMembers_eq_map (members : List (String × Json)) :
    ofMembers members =
      members.map fun member => (.text member.1, .ofJson member.2) := by
  induction members with
  | nil => rfl
  | cons member rest induction => rw [ofMembers, List.map_cons, induction]

/-! ## Serializing -/

mutual
/-- The JSON of a value with a JSON form is that form, if its integers are written. -/
theorem serialize_ofJson (manner : Manner) (rule : Value → Except Fault Json)
    (json : Json) (written : json.isWritten manner.digits? = true) :
    (ofJson json).serialize manner rule = .ok json := by
  match json with
  | .null | .bool _ | .float _ | .text _ | .halves _ => rfl
  | .int value =>
      rw [Json.isWritten] at written
      rw [ofJson, int, serialize, Scalar.intText, if_pos written]
      rfl
  | .array items =>
      have parts := serializeItems_ofItems manner rule items written
      simp only [ofJson, plainList, serialize, parts]
      rfl
  | .object members =>
      have parts := serializeEntries_ofMembers manner rule members written
      simp only [ofJson, plainDict, serialize, parts]
      rfl
termination_by structural json

theorem serializeItems_ofItems (manner : Manner)
    (rule : Value → Except Fault Json) (items : List Json)
    (written : Json.areWritten manner.digits? items = true) :
    serializeItems manner rule (ofItems items) = .ok items := by
  match items with
  | [] => rfl
  | item :: rest =>
      rcases Bool.and_eq_true_iff.mp written with ⟨headed, rested⟩
      have first := serialize_ofJson manner rule item headed
      have others := serializeItems_ofItems manner rule rest rested
      simp only [ofItems, serializeItems, first, others]
      rfl
termination_by structural items

theorem serializeEntries_ofMembers (manner : Manner)
    (rule : Value → Except Fault Json) (members : List (String × Json))
    (written : Json.membersAreWritten manner.digits? members = true) :
    serializeEntries manner rule (ofMembers members) = .ok members := by
  match members with
  | [] => rfl
  | (key, value) :: rest =>
      rcases Bool.and_eq_true_iff.mp written with ⟨headed, rested⟩
      have first := serialize_ofJson manner rule value headed
      have others := serializeEntries_ofMembers manner rule rest rested
      simp only [ofMembers, serializeEntries, first, others]
      rfl
termination_by structural members
end

/-- A value has one JSON form. -/
theorem ofJson_injective : Function.Injective ofJson := by
  intro one other same
  have serialized := congrArg
    (serialize ⟨.eager, none⟩ fun _ => .error .notSerializable) same
  rw [serialize_ofJson _ _ _ one.isWritten_none,
    serialize_ofJson _ _ _ other.isWritten_none] at serialized
  exact Except.ok.inj serialized

/-- A column sets no limit to the digits of an integer. -/
theorem columnForm_ofJson (json : Json) : (ofJson json).columnForm = .ok json :=
  serialize_ofJson _ _ json json.isWritten_none

/-- A column of JSON takes every value with a JSON form. -/
theorem IsJson.column {value : Value} (form : value.IsJson) :
    ∃ json, Column.json value = .ready json := by
  rcases form with ⟨json, rfl⟩
  refine ⟨json.reread.kept, ?_⟩
  simp only [Column.json, stored, columnForm_ofJson]
  rfl

end Value

/-! ## Copying -/

namespace Heap

variable {heap : Heap} {path : List Identity}

mutual
/-- The copy of a value with a JSON form is the form cut off at the depth
limit. -/
theorem copyBelow_ofJson (room : Nat) (json : Json) :
    heap.copyBelow room path (.ofJson json) = .ok (.ofJson (json.cut room)) := by
  match json with
  | .null | .bool _ | .int _ | .float _ | .text _ | .halves _ =>
      cases room <;> exact copyBelow_leaf rfl
  | .array items =>
      cases room with
      | zero => exact copyBelow_truncated rfl rfl
      | succ room =>
          have parts := copyChild_ofItems room items 0
          have opened : heap.contents? (.ofJson (.array items)) =
              some ⟨.list, indexed 0 (Value.ofItems items), none⟩ := rfl
          rw [copyBelow_opened opened rfl]
          change (indexed 0 (Value.ofItems items)).mapM
            (heap.copyChild room path) >>= _ = _
          rw [parts]
          change Except.ok (Value.plainList ((indexed 0 _).map (·.2))) = _
          rw [map_snd_indexed]
          rfl
  | .object members =>
      cases room with
      | zero => exact copyBelow_truncated rfl rfl
      | succ room =>
          have parts := copyChild_ofMembers room members
          have opened : heap.contents? (.ofJson (.object members)) =
              some ⟨.dict, Value.ofMembers members, none⟩ := rfl
          rw [copyBelow_opened opened rfl]
          change (Value.ofMembers members).mapM
            (heap.copyChild room path) >>= _ = _
          rw [parts]
          rfl
termination_by structural json

theorem copyChild_ofItems (room : Nat) (items : List Json) (first : Nat) :
    (indexed first (Value.ofItems items)).mapM (heap.copyChild room path) =
      .ok (indexed first (Value.ofItems (Json.cutItems room items))) := by
  match items with
  | [] => rfl
  | item :: rest =>
      have copied := copyBelow_ofJson room item
      have others := copyChild_ofItems room rest (first + 1)
      simp only [Value.ofItems, indexed, List.mapM_cons, copyChild, copied]
      change (indexed (first + 1) (Value.ofItems rest)).mapM
        (heap.copyChild room path) >>= _ = _
      rw [others]
      rfl
termination_by structural items

theorem copyChild_ofMembers (room : Nat) (members : List (String × Json)) :
    (Value.ofMembers members).mapM (heap.copyChild room path) =
      .ok (Value.ofMembers (Json.cutMembers room members)) := by
  match members with
  | [] => rfl
  | (key, value) :: rest =>
      have copied := copyBelow_ofJson room value
      have others := copyChild_ofMembers room rest
      simp only [Value.ofMembers, List.mapM_cons, copyChild, copied]
      change (Value.ofMembers rest).mapM (heap.copyChild room path) >>= _ = _
      rw [others]
      rfl
termination_by structural members
end

/-- A value with a JSON form is copied without a message. -/
theorem safeCopy_ofJson (heap : Heap) (json : Json) :
    heap.safeCopy (.ofJson json) =
      ⟨.ok (.ofJson (json.cut graphDepth)), []⟩ := by
  have copied : heap.copy graphDepth (.ofJson json) =
      .ok (.ofJson (json.cut graphDepth)) :=
    copyBelow_ofJson graphDepth json
  rw [safeCopy, copied]

theorem safeCopy_of_isJson (heap : Heap) {value : Value}
    (form : value.IsJson) :
    ∃ copied, heap.safeCopy value = ⟨.ok copied, []⟩ ∧ copied.IsJson := by
  rcases form with ⟨json, rfl⟩
  exact ⟨_, safeCopy_ofJson heap json, Value.isJson_ofJson _⟩

end Heap

end WorkflowExchange

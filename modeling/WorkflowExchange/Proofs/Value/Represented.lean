import WorkflowExchange.Json.Access
import WorkflowExchange.Proofs.Intake.Levels
import WorkflowExchange.Value.Serialized

/-!
# Values that stand for JSON

A value stands for a JSON value when it is built in the same way from plain lists,
plain dictionaries with text keys and leaves.  Each container may be written in place
or stand in the heap, and several parts may share one.  Such a value has one JSON value
only, and so none of its containers contains itself: following the references gives the
JSON value back (`Heap.Represents.unfoldAt`), and its text is written where it fits the
limits of the writer (`Heap.Represents.described`).
-/

namespace WorkflowExchange

/-! ## Induction over JSON values -/

namespace Json

/-- What holds of leaves, of an array with its items and of an object with the values of
its members holds of every JSON value. -/
@[elab_as_elim]
theorem inductionOn {motive : Json → Prop} (json : Json)
    (leaf : ∀ json : Json, json.levels = 0 → motive json)
    (array : ∀ items, (∀ item ∈ items, motive item) → motive (.array items))
    (object : ∀ members : List (String × Json),
      (∀ member ∈ members, motive member.2) → motive (.object members)) :
    motive json := by
  suffices bounded : ∀ limit (json : Json), json.levels ≤ limit → motive json from
    bounded _ json (Nat.le_refl _)
  intro limit
  induction limit with
  | zero => exact fun json none => leaf json (Nat.le_zero.mp none)
  | succ limit induction =>
      intro json bounded
      cases json with
      | null | bool | int | float | text | halves => exact leaf _ rfl
      | array items =>
          have parts := levelsOfItems_le_iff.mp (Nat.le_of_succ_le_succ bounded)
          exact array items fun item held => induction item (parts item held)
      | object members =>
          have parts := levelsOfMembers_le_iff.mp (Nat.le_of_succ_le_succ bounded)
          exact object members fun member held => induction member.2 (parts member held)

theorem levels_lt_of_mem {items : List Json} {item : Json} (held : item ∈ items) :
    item.levels < (array items).levels :=
  Nat.lt_succ_of_le (levelsOfItems_le_iff.mp (Nat.le_refl _) item held)

theorem levels_lt_of_mem_members {members : List (String × Json)}
    {member : String × Json} (held : member ∈ members) :
    member.2.levels < (object members).levels :=
  Nat.lt_succ_of_le (levelsOfMembers_le_iff.mp (Nat.le_refl _) member held)

/-- A JSON value is within the limits of a writer: it is nested no deeper than `depth`, and
none of its integers has more digits than are written. -/
structure Fits (depth : Nat) (digits? : Option Nat) (json : Json) : Prop where
  shallow : json.levels ≤ depth
  written : json.isWritten digits? = true

instance (depth : Nat) (digits? : Option Nat) :
    DecidablePred (Fits depth digits?) := fun json =>
  decidable_of_iff (json.levels ≤ depth ∧ json.isWritten digits? = true)
    ⟨fun ⟨shallow, written⟩ => ⟨shallow, written⟩, fun ⟨shallow, written⟩ =>
      ⟨shallow, written⟩⟩

/-- Does a JSON value count as nothing? -/
def isEmpty (json : Json) : Bool :=
  (Value.ofJson json).isEmpty

/-- The JSON value, or another one when it counts as nothing. -/
def orElse (json other : Json) : Json :=
  if json.isEmpty then other else json

end Json

namespace Heap

/-- A value stands for a JSON value in a heap. -/
inductive Represents (heap : Heap) : Json → Value → Prop
  | leaf {json : Json} {value : Value} (plain : json.levels = 0)
      (same : value = .ofJson json) : Represents heap json value
  | array {items : List Json} {value : Value} {parts : List Value}
      (container : heap.resolve value = .plainList parts)
      (each : List.Forall₂ (Represents heap) items parts) :
      Represents heap (.array items) value
  | object {members : List (String × Json)} {value : Value}
      {entries : List (Value × Value)}
      (container : heap.resolve value = .plainDict entries)
      (keys : entries.map (·.1) = (members.map (·.1)).map .text)
      (each : List.Forall₂ (Represents heap) (members.map (·.2)) (entries.map (·.2))) :
      Represents heap (.object members) value

variable {heap : Heap} {json other : Json} {value : Value} {items : List Json}
  {parts : List Value}

/-- What is written in place stands for what it was made from. -/
theorem represents_ofJson (heap : Heap) (json : Json) :
    heap.Represents json (.ofJson json) := by
  induction json using Json.inductionOn with
  | leaf json plain => exact .leaf plain rfl
  | array items induction =>
      refine .array rfl ?_
      rw [Value.ofItems_eq_map, List.forall₂_map_right_iff, List.forall₂_same]
      exact induction
  | object members induction =>
      refine .object rfl ?_ ?_
      · rw [Value.ofMembers_eq_map, List.map_map, List.map_map]
        rfl
      · rw [Value.ofMembers_eq_map, List.map_map, List.forall₂_map_right_iff,
          List.forall₂_map_left_iff, List.forall₂_same]
        exact induction

/-! ## One JSON value only -/

theorem exists_scalar_of_plain (plain : json.levels = 0) :
    ∃ data, Value.ofJson json = .scalar data := by
  cases json with
  | null | bool | int | float | text | halves => exact ⟨_, rfl⟩
  | array | object => cases plain

/-- What is written in place and has no levels is no container. -/
theorem ne_container_of_plain (plain : json.levels = 0) (same : value = .ofJson json) :
    (∀ parts, heap.resolve value ≠ .plainList parts) ∧
      ∀ entries, heap.resolve value ≠ .plainDict entries := by
  rcases exists_scalar_of_plain plain with ⟨data, written⟩
  rw [same, written]
  exact ⟨nofun, nofun⟩

theorem eq_of_forall₂ {others : List Json}
    (each : List.Forall₂ heap.Represents items parts)
    (again : List.Forall₂ heap.Represents others parts)
    (same : ∀ item ∈ items, ∀ {other part}, heap.Represents item part →
      heap.Represents other part → item = other) : items = others := by
  induction each generalizing others with
  | nil =>
      cases again
      rfl
  | cons first rested induction =>
      cases again with
      | cons firstAgain restedAgain =>
          rcases List.forall_mem_cons.mp same with ⟨head, tail⟩
          rw [head first firstAgain, induction restedAgain tail]

/-- Lists of pairs with the same first and the same second parts are equal. -/
theorem eq_of_map_fst_of_map_snd {α β : Type} {pairs others : List (α × β)}
    (firsts : pairs.map (·.1) = others.map (·.1))
    (seconds : pairs.map (·.2) = others.map (·.2)) : pairs = others := by
  rw [List.zip_of_prod firsts seconds, ← List.zip_of_prod rfl rfl]

theorem text_injective : Function.Injective Value.text := by
  intro one other same
  injection same with same
  injection same

/-- A value stands for one JSON value only. -/
theorem Represents.unique (one : heap.Represents json value)
    (two : heap.Represents other value) : json = other := by
  induction json using Json.inductionOn generalizing other value with
  | leaf json plain =>
      cases one with
      | leaf _ same =>
          cases two with
          | leaf _ again => exact Value.ofJson_injective (same.symm.trans again)
          | array container =>
              exact absurd container ((ne_container_of_plain plain same).1 _)
          | object container =>
              exact absurd container ((ne_container_of_plain plain same).2 _)
      | array | object => cases plain
  | array items induction =>
      cases one with
      | leaf plain => cases plain
      | array container each =>
          cases two with
          | leaf plain same =>
              exact absurd container ((ne_container_of_plain plain same).1 _)
          | array again others =>
              injection container.symm.trans again with _ _ parts
              subst parts
              rw [eq_of_forall₂ each others induction]
          | object again => cases container.symm.trans again
  | object members induction =>
      cases one with
      | leaf plain => cases plain
      | object container keys each =>
          cases two with
          | leaf plain same =>
              exact absurd container ((ne_container_of_plain plain same).2 _)
          | array again => cases container.symm.trans again
          | object again others rested =>
              injection container.symm.trans again with _ _ parts
              subst parts
              have values := eq_of_forall₂ each rested
                (List.forall_mem_map.mpr induction)
              have names := List.map_injective_iff.mpr text_injective
                (keys.symm.trans others)
              rw [eq_of_map_fst_of_map_snd names values]

/-! ## Following the references -/

/-- References to plain containers are followed. -/
structure Follows (follow : Value → Bool) : Prop where
  lists : ∀ parts, follow (.plainList parts) = true
  dictionaries : ∀ entries, follow (.plainDict entries) = true

/-- Everything on a way stands for JSON values of more levels. -/
def Trail.Above (heap : Heap) (levels : Nat) (way : Trail) : Prop :=
  ∀ identity, way.returns identity = true →
    ∃ outer, heap.Represents outer (.shared identity) ∧ levels < outer.levels

variable {follow : Value → Bool} {room levels : Nat} {way : Trail}

theorem Trail.Above.fewer (above : way.Above heap json.levels)
    (fewer : levels ≤ json.levels) : way.Above heap levels := by
  intro identity back
  rcases above identity back with ⟨outer, represents, more⟩
  exact ⟨outer, represents, Nat.lt_of_le_of_lt fewer more⟩

/-- A container is not on the way to it, since it stands for one JSON value only.  It is
unfolded with room for its parts. -/
theorem Represents.exists_unfoldAt (represents : heap.Represents json value)
    (followed : follow (heap.resolve value) = true) (container : 0 < json.levels)
    (spare : json.levels ≤ room) (above : Trail.Above heap json.levels way) :
    ∃ less onward, json.levels ≤ less + 1 ∧
      (∀ levels < json.levels, Trail.Above heap levels onward) ∧
      heap.unfoldAt follow room way value =
        heap.unfoldAt follow less onward (heap.resolve value) := by
  cases value with
  | shared identity =>
      have new : way.returns identity = false := by
        rw [← Bool.not_eq_true]
        intro back
        rcases above identity back with ⟨outer, again, more⟩
        rw [represents.unique again] at more
        exact Nat.lt_irrefl _ more
      cases room with
      | zero => omega
      | succ less =>
          refine ⟨less, way.enter identity (heap.resolve (.shared identity)), spare,
            ?_, ?_⟩
          · intro levels fewer other back
            rcases returns_enter back with before | rfl
            · exact above.fewer (Nat.le_of_lt fewer) other before
            · exact ⟨json, represents, fewer⟩
          · rw [Heap.unfoldAt]
            simp [followed, new]
  | scalar | member | foreign | set | dict | list | tuple | record | loop =>
      exact ⟨room, way, Nat.le_succ_of_le spare,
        fun levels fewer => above.fewer (Nat.le_of_lt fewer), rfl⟩

theorem map_unfoldAt_of_forall₂ (each : List.Forall₂ heap.Represents items parts)
    (unfolded : ∀ item ∈ items, ∀ {part}, heap.Represents item part →
      heap.unfoldAt follow room way part = .ofJson item) :
    parts.map (heap.unfoldAt follow room way) = items.map .ofJson := by
  induction each with
  | nil => rfl
  | cons first rested induction =>
      rcases List.forall_mem_cons.mp unfolded with ⟨head, tail⟩
      rw [List.map_cons, List.map_cons, head first, induction tail]

/-- Following the references gives the JSON value back. -/
theorem Represents.unfoldAt (follows : Follows follow)
    (represents : heap.Represents json value) (spare : json.levels ≤ room)
    (above : Trail.Above heap json.levels way) :
    heap.unfoldAt follow room way value = .ofJson json := by
  induction json using Json.inductionOn generalizing room way value with
  | leaf json plain =>
      cases represents with
      | leaf _ same => rw [same, unfoldAt_ofJson]
      | array | object => cases plain
  | array items induction =>
      have whole := represents
      cases represents with
      | leaf plain => cases plain
      | array container each =>
          rcases whole.exists_unfoldAt (by rw [container]; exact follows.lists _)
            (Nat.succ_pos _) spare above with ⟨less, onward, left, entered, same⟩
          rw [same, container, Heap.unfoldAt, unfoldItems_eq_map, Value.ofJson,
            Value.ofItems_eq_map]
          congr 1
          refine map_unfoldAt_of_forall₂ each fun item held part represents => ?_
          have fewer := Json.levels_lt_of_mem held
          exact induction item held represents
            (Nat.le_of_lt_succ (Nat.lt_of_lt_of_le fewer left)) (entered _ fewer)
  | object members induction =>
      have whole := represents
      cases represents with
      | leaf plain => cases plain
      | object container keys each =>
          rcases whole.exists_unfoldAt (by rw [container]; exact follows.dictionaries _)
            (Nat.succ_pos _) spare above with ⟨less, onward, left, entered, same⟩
          rw [same, container, Heap.unfoldAt, unfoldEntries_eq_map, Value.ofJson,
            Value.ofMembers_eq_map]
          congr 1
          have values := map_unfoldAt_of_forall₂ each <|
            List.forall_mem_map.mpr fun member held part represents => by
              have fewer := Json.levels_lt_of_mem_members held
              exact induction member held represents
                (Nat.le_of_lt_succ (Nat.lt_of_lt_of_le fewer left)) (entered _ fewer)
          rw [List.map_map] at keys
          rw [List.map_map, List.map_map] at values
          refine eq_of_map_fst_of_map_snd ?_ ?_
          · rw [List.map_map, List.map_map]
            exact keys
          · rw [List.map_map, List.map_map]
            exact values

/-- The empty way leads through nothing. -/
theorem Trail.above_empty (heap : Heap) (levels : Nat) : Trail.Above heap levels {} :=
  fun _ back => nomatch back

/-- Within its limits a writer writes the text of the JSON value. -/
theorem Represents.described {writer : Writer} (represents : heap.Represents json value)
    (layout : Json.Layout) (fits : json.Fits writer.jsonDepth writer.digits?) :
    heap.described writer layout value = .ok (json.write layout) := by
  have opened : heap.opened writer.jsonDepth value = .ofJson json :=
    represents.unfoldAt ⟨fun _ => rfl, fun _ => rfl⟩ fits.shallow
      (Trail.above_empty heap _)
  rw [Heap.described, opened, Value.serialize_ofJson _ _ _ fits.written]
  rfl

/-! ## Parts -/

variable {members : List (String × Json)} {entries : List (Value × Value)}

/-- What a key leads to in a dictionary stands for the member of the key. -/
theorem rel_lookup? (keys : entries.map (·.1) = (members.map (·.1)).map .text)
    (each : List.Forall₂ heap.Represents (members.map (·.2)) (entries.map (·.2)))
    (key : String) :
    Option.Rel heap.Represents (Json.member? members key) (Value.lookup? entries key) := by
  induction members generalizing entries with
  | nil =>
      obtain rfl : entries = [] := List.map_eq_nil_iff.mp keys
      exact .none
  | cons member rest induction =>
      cases entries with
      | nil => cases keys
      | cons entry others =>
          rcases entry with ⟨name, found⟩
          injection keys with headed keys
          cases each with
          | cons first rested =>
              obtain rfl : name = .text member.1 := headed
              by_cases here : member.1 = key
              · have read : Json.member? (member :: rest) key = some member.2 := by
                  simp [Json.member?, here]
                have looked : Value.lookup? ((.text member.1, found) :: others) key =
                    some found := by
                  simp [Value.lookup?, Value.asText?, Value.plain, here]
                rw [read, looked]
                exact .some first
              · have read : Json.member? (member :: rest) key =
                    Json.member? rest key := by
                  simp [Json.member?, here]
                have looked : Value.lookup? ((.text member.1, found) :: others) key =
                    Value.lookup? others key := by
                  simp [Value.lookup?, Value.asText?, Value.plain, here]
                rw [read, looked]
                exact induction keys rested

/-- An object can be asked for a key; what it has not counts as null. -/
theorem Represents.exists_get (represents : heap.Represents (.object members) value)
    (key : String) :
    ∃ found, (heap.resolve value).get key = .ok found ∧
      heap.Represents (Json.field members key) found := by
  cases represents with
  | leaf plain => cases plain
  | @object _ _ entries container keys each =>
      rw [container]
      refine ⟨(Value.lookup? entries key).getD .null, rfl, ?_⟩
      have related := rel_lookup? keys each key
      rw [Json.field]
      generalize Json.member? members key = member?,
        Value.lookup? entries key = found? at related ⊢
      cases related with
      | none => exact .leaf rfl rfl
      | some first => exact first

theorem Represents.isEmpty_resolve (represents : heap.Represents json value) :
    (heap.resolve value).isEmpty = json.isEmpty := by
  cases represents with
  | leaf plain same =>
      rcases exists_scalar_of_plain plain with ⟨data, written⟩
      rw [same, Json.isEmpty, written, resolve]
      rintro _ ⟨⟩
  | array container each =>
      rw [container]
      cases each <;> rfl
  | @object members _ entries container keys each =>
      rw [container]
      cases members <;> cases entries <;> first | rfl | cases keys

theorem Represents.orElse {substitute : Value}
    (represents : heap.Represents json value)
    (instead : heap.Represents other substitute) :
    heap.Represents (json.orElse other) (heap.orElse value substitute) := by
  rw [Json.orElse, Heap.orElse, represents.isEmpty_resolve]
  split
  · exact instead
  · exact represents

/-- A dictionary is made of what stands for its members. -/
theorem represents_ofFields {fields : List (String × Value)}
    (names : fields.map (·.1) = members.map (·.1))
    (each : List.Forall₂ heap.Represents (members.map (·.2)) (fields.map (·.2))) :
    heap.Represents (.object members) (.ofFields fields) := by
  refine .object rfl ?_ ?_
  · rw [List.map_map, ← names, List.map_map]
    rfl
  · rw [List.map_map]
    exact each

end Heap

end WorkflowExchange

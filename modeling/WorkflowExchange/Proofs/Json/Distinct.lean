import Mathlib.Data.List.Nodup
import WorkflowExchange.Proofs.Copy.Json

/-!
# JSON values with different keys

A reader keeps one member of an object for each key.  A value whose objects have
different keys throughout is read back as it was written, so that a column of JSON
gives it back as it is: `Json.Distinct.column`.  Whatever a column of JSON holds is
such a value, and so is what is left of it when it is cut off at some depth.
-/

namespace WorkflowExchange

namespace Json

mutual
/-- Has every object in a value different keys? -/
def Distinct : Json → Prop
  | .array items => DistinctItems items
  | .object members => (members.map (·.1)).Nodup ∧ DistinctMembers members
  | _ => True
termination_by structural value => value

def DistinctItems : List Json → Prop
  | [] => True
  | item :: rest => Distinct item ∧ DistinctItems rest
termination_by structural items => items

def DistinctMembers : List (String × Json) → Prop
  | [] => True
  | (_, value) :: rest => Distinct value ∧ DistinctMembers rest
termination_by structural members => members
end

theorem distinctItems_iff {items : List Json} :
    DistinctItems items ↔ ∀ item ∈ items, item.Distinct := by
  induction items with
  | nil => simp [DistinctItems]
  | cons item rest induction => simp [DistinctItems, induction]

theorem distinctMembers_iff {members : List (String × Json)} :
    DistinctMembers members ↔ ∀ member ∈ members, member.2.Distinct := by
  induction members with
  | nil => simp [DistinctMembers]
  | cons member rest induction => simp [DistinctMembers, induction]

/-! ## Merging -/

theorem insert_of_new {members : List (String × Json)} {key : String}
    (value : Json) (new : key ∉ members.map (·.1)) :
    insert members key value = members ++ [(key, value)] := by
  induction members with
  | nil => rfl
  | cons first rest induction =>
      rw [List.map_cons, List.mem_cons, not_or] at new
      rw [insert, if_neg (Ne.symm new.1), induction new.2, List.cons_append]

/-- Inserting keeps the keys that are there and adds one that is not. -/
theorem mem_insert {members : List (String × Json)} {key : String}
    {value : Json} {member : String × Json}
    (found : member ∈ insert members key value) :
    member = (key, value) ∨ member ∈ members := by
  induction members with
  | nil => exact .inl (List.mem_singleton.mp found)
  | cons first rest induction =>
      rw [insert] at found
      by_cases same : first.1 = key
      · rw [if_pos same] at found
        rcases List.mem_cons.mp found with equal | later
        · exact .inl equal
        · exact .inr (List.mem_cons_of_mem _ later)
      · rw [if_neg same] at found
        rcases List.mem_cons.mp found with rfl | later
        · exact .inr List.mem_cons_self
        · rcases induction later with equal | held
          · exact .inl equal
          · exact .inr (List.mem_cons_of_mem _ held)

theorem nodup_insert {members : List (String × Json)} (key : String)
    (value : Json) (different : (members.map (·.1)).Nodup) :
    ((insert members key value).map (·.1)).Nodup := by
  induction members with
  | nil => exact List.nodup_singleton key
  | cons first rest induction =>
      rw [List.map_cons, List.nodup_cons] at different
      rw [insert]
      by_cases same : first.1 = key
      · rw [if_pos same, List.map_cons, List.nodup_cons, ← same]
        exact different
      · rw [if_neg same, List.map_cons, List.nodup_cons]
        refine ⟨?_, induction different.2⟩
        intro member
        rcases List.mem_map.mp member with ⟨found, held, equal⟩
        rcases mem_insert held with rfl | held
        · exact same equal.symm
        · exact different.1 (List.mem_map.mpr ⟨found, held, equal⟩)

/-- Members with different keys are all kept. -/
theorem merged_of_nodup {members : List (String × Json)}
    (different : (members.map (·.1)).Nodup) : merged members = members := by
  suffices collecting : ∀ collected : List (String × Json),
      ((collected ++ members).map (·.1)).Nodup →
        members.foldl (fun collected member =>
          insert collected member.1 member.2) collected =
            collected ++ members from
    collecting [] different
  clear different
  induction members with
  | nil =>
      intro collected _
      rw [List.foldl_nil, List.append_nil]
  | cons member rest induction =>
      intro collected different
      have new : member.1 ∉ collected.map (·.1) := by
        intro held
        rw [List.map_append, List.map_cons, List.nodup_append] at different
        exact different.2.2 _ held _ List.mem_cons_self rfl
      rw [List.foldl_cons, insert_of_new member.2 new, induction]
      · rw [List.append_assoc, List.singleton_append]
      · rwa [List.append_assoc, List.singleton_append]

theorem distinct_merged {members : List (String × Json)}
    (each : DistinctMembers members) : (object (merged members)).Distinct := by
  suffices collecting : ∀ collected : List (String × Json),
      (object collected).Distinct →
        (object (members.foldl (fun collected member =>
          insert collected member.1 member.2) collected)).Distinct from
    collecting [] ⟨List.nodup_nil, trivial⟩
  rw [distinctMembers_iff] at each
  induction members with
  | nil =>
      intro collected sofar
      exact sofar
  | cons member rest induction =>
      intro collected sofar
      rcases List.forall_mem_cons.mp each with ⟨headed, rested⟩
      refine induction rested _ ⟨nodup_insert _ _ sofar.1, ?_⟩
      have held := distinctMembers_iff.mp sofar.2
      rw [distinctMembers_iff]
      intro found place
      rcases mem_insert place with rfl | place
      · exact headed
      · exact held found place

/-! ## Reading back -/

mutual
/-- A value with different keys is read back as it is. -/
theorem reread_of_distinct (json : Json) (distinct : json.Distinct) :
    json.reread = json := by
  match json with
  | .null | .bool _ | .int _ | .float _ | .text _ | .halves _ => rfl
  | .array items =>
      rw [reread, rereadItems_of_distinct items distinct]
  | .object members =>
      rw [reread, rereadMembers_of_distinct members distinct.2,
        merged_of_nodup distinct.1]
termination_by structural json

theorem rereadItems_of_distinct (items : List Json)
    (distinct : DistinctItems items) : rereadItems items = items := by
  match items with
  | [] => rfl
  | item :: rest =>
      rw [rereadItems, reread_of_distinct item distinct.1,
        rereadItems_of_distinct rest distinct.2]
termination_by structural items

theorem rereadMembers_of_distinct (members : List (String × Json))
    (distinct : DistinctMembers members) : rereadMembers members = members := by
  match members with
  | [] => rfl
  | (key, value) :: rest =>
      rw [rereadMembers, reread_of_distinct value distinct.1,
        rereadMembers_of_distinct rest distinct.2]
termination_by structural members
end

mutual
/-- What is read back has different keys. -/
theorem distinct_reread (json : Json) : json.reread.Distinct := by
  match json with
  | .null | .bool _ | .int _ | .float _ | .text _ | .halves _ => trivial
  | .array items => exact distinct_rereadItems items
  | .object members => exact distinct_merged (distinct_rereadMembers members)
termination_by structural json

theorem distinct_rereadItems (items : List Json) :
    DistinctItems (rereadItems items) := by
  match items with
  | [] => trivial
  | item :: rest => exact ⟨distinct_reread item, distinct_rereadItems rest⟩
termination_by structural items

theorem distinct_rereadMembers (members : List (String × Json)) :
    DistinctMembers (rereadMembers members) := by
  match members with
  | [] => trivial
  | (key, value) :: rest =>
      exact ⟨distinct_reread value, distinct_rereadMembers rest⟩
termination_by structural members
end

theorem Distinct.kept {json : Json} (distinct : json.Distinct) :
    json.kept.Distinct := by
  cases json with
  | int value =>
      rw [Json.kept]
      split <;> trivial
  | float value =>
      rw [Json.kept]
      split <;> trivial
  | null | bool | text | halves | array | object => exact distinct

/-! ## Cutting off -/

theorem map_fst_cutMembers (room : Nat) (members : List (String × Json)) :
    (cutMembers room members).map (·.1) = members.map (·.1) := by
  induction members with
  | nil => rfl
  | cons member rest induction =>
      rw [cutMembers, List.map_cons, List.map_cons, induction]

mutual
theorem distinct_cut (room : Nat) (json : Json) (distinct : json.Distinct) :
    (json.cut room).Distinct := by
  match json with
  | .null | .bool _ | .int _ | .float _ | .text _ | .halves _ =>
      cases room <;> trivial
  | .array items =>
      cases room with
      | zero => trivial
      | succ room => exact distinct_cutItems room items distinct
  | .object members =>
      cases room with
      | zero => trivial
      | succ room =>
          refine ⟨?_, distinct_cutMembers room members distinct.2⟩
          rw [map_fst_cutMembers]
          exact distinct.1
termination_by structural json

theorem distinct_cutItems (room : Nat) (items : List Json)
    (distinct : DistinctItems items) : DistinctItems (cutItems room items) := by
  match items with
  | [] => trivial
  | item :: rest =>
      exact ⟨distinct_cut room item distinct.1,
        distinct_cutItems room rest distinct.2⟩
termination_by structural items

theorem distinct_cutMembers (room : Nat) (members : List (String × Json))
    (distinct : DistinctMembers members) :
    DistinctMembers (cutMembers room members) := by
  match members with
  | [] => trivial
  | (key, value) :: rest =>
      exact ⟨distinct_cut room value distinct.1,
        distinct_cutMembers room rest distinct.2⟩
termination_by structural members
end

/-- An object, an array or null. -/
def IsPart : Json → Prop
  | .null => True
  | .array _ => True
  | .object _ => True
  | _ => False

theorem IsPart.kept_eq {json : Json} (part : json.IsPart) : json.kept = json := by
  cases json with
  | null | array | object => rfl
  | bool | int | float | text | halves => cases part

/-- A column of JSON gives back what it is given. -/
theorem Distinct.column {json : Json} (distinct : json.Distinct)
    (part : json.IsPart) : Column.json (.ofJson json) = .ready json := by
  simp only [Column.json, Value.stored, Value.columnForm_ofJson]
  change Prepared.ready json.reread.kept = _
  rw [reread_of_distinct json distinct, part.kept_eq]

end Json

end WorkflowExchange

import Mathlib.Data.List.Nodup
import WorkflowExchange.Store.Tables

/-!
# Rows that are added, found and replaced
-/

namespace WorkflowExchange

/-- What a user publishes once: a workflow, named with the user. -/
def Entry.origin (entry : Entry) : Option TextCell × TextCell :=
  (entry.originalWorkflowId, entry.createdByUserId)

/-- The origin of the entries of a workflow and an author. -/
def Entry.originOf (workflowId userId : String) : Option TextCell × TextCell :=
  (some (.text workflowId), .text userId)

namespace Store

variable {store other : Store}

theorem added_eq_some {α : Type} {clashes : α → α → Bool} {rows result : List α}
    {row : α} :
    added clashes rows row = some result ↔
      (∀ present ∈ rows, clashes row present = false) ∧
        result = rows ++ [row] := by
  rw [added]
  by_cases clash : rows.any (clashes row)
  · rw [if_pos clash]
    rw [List.any_eq_true] at clash
    rcases clash with ⟨present, member, clash⟩
    constructor
    · intro equal
      cases equal
    · rintro ⟨none, -⟩
      rw [none present member] at clash
      cases clash
  · rw [if_neg clash]
    constructor
    · intro equal
      cases equal
      simpa using clash
    · rintro ⟨-, rfl⟩
      rfl

/-! ## Adding -/

theorem addUser_eq_some {user : User} :
    store.addUser user = some other ↔
      (∀ present ∈ store.users,
        user.id ≠ present.id ∧ user.email ≠ present.email) ∧
        other = { store with users := store.users ++ [user] } := by
  simp only [addUser, Option.map_eq_some_iff, added_eq_some,
    Bool.or_eq_false_iff, decide_eq_false_iff_not]
  constructor
  · rintro ⟨_, ⟨different, rfl⟩, rfl⟩
    exact ⟨different, rfl⟩
  · rintro ⟨different, rfl⟩
    exact ⟨_, ⟨different, rfl⟩, rfl⟩

theorem addProject_eq_some {project : Project} :
    store.addProject project = some other ↔
      (∀ present ∈ store.projects, project.id ≠ present.id) ∧
        other = { store with projects := store.projects ++ [project] } := by
  simp only [addProject, Option.map_eq_some_iff, added_eq_some,
    decide_eq_false_iff_not]
  constructor
  · rintro ⟨_, ⟨different, rfl⟩, rfl⟩
    exact ⟨different, rfl⟩
  · rintro ⟨different, rfl⟩
    exact ⟨_, ⟨different, rfl⟩, rfl⟩

theorem addMembership_eq_some {membership : Membership} :
    store.addMembership membership = some other ↔
      (∀ present ∈ store.memberships,
        ¬(membership.projectId = present.projectId ∧
          membership.userId = present.userId)) ∧
        other =
          { store with memberships := store.memberships ++ [membership] } := by
  simp only [addMembership, Option.map_eq_some_iff, added_eq_some]
  constructor
  · rintro ⟨_, ⟨different, rfl⟩, rfl⟩
    exact ⟨by simpa using different, rfl⟩
  · rintro ⟨different, rfl⟩
    exact ⟨_, ⟨by simpa using different, rfl⟩, rfl⟩

theorem addWorkflow_eq_some {row : Workflow} :
    store.addWorkflow row = some other ↔
      (∀ present ∈ store.workflows, row.id ≠ present.id) ∧
        other = { store with workflows := store.workflows ++ [row] } := by
  simp only [addWorkflow, Option.map_eq_some_iff, added_eq_some,
    decide_eq_false_iff_not]
  constructor
  · rintro ⟨_, ⟨different, rfl⟩, rfl⟩
    exact ⟨different, rfl⟩
  · rintro ⟨different, rfl⟩
    exact ⟨_, ⟨different, rfl⟩, rfl⟩

theorem addSharing_eq_some {sharing : Sharing} :
    store.addSharing sharing = some other ↔
      (∀ present ∈ store.sharings,
        ¬(sharing.workflowId = present.workflowId ∧
          sharing.projectId = present.projectId)) ∧
        other = { store with sharings := store.sharings ++ [sharing] } := by
  simp only [addSharing, Option.map_eq_some_iff, added_eq_some]
  constructor
  · rintro ⟨_, ⟨different, rfl⟩, rfl⟩
    exact ⟨by simpa using different, rfl⟩
  · rintro ⟨different, rfl⟩
    exact ⟨_, ⟨by simpa using different, rfl⟩, rfl⟩

theorem addEntry_eq_some {entry : Entry} :
    store.addEntry entry = some other ↔
      (∀ present ∈ store.entries,
        entry.id ≠ present.id ∧ sameOrigin entry present = false) ∧
        other = { store with entries := store.entries ++ [entry] } := by
  simp only [addEntry, Option.map_eq_some_iff, added_eq_some,
    Bool.or_eq_false_iff, decide_eq_false_iff_not]
  constructor
  · rintro ⟨_, ⟨different, rfl⟩, rfl⟩
    exact ⟨different, rfl⟩
  · rintro ⟨different, rfl⟩
    exact ⟨_, ⟨different, rfl⟩, rfl⟩

theorem sameOrigin_eq_false {one two : Entry}
    (published : one.originalWorkflowId.isSome) :
    sameOrigin one two = false ↔ one.origin ≠ two.origin := by
  simp only [sameOrigin, published, Bool.true_and, Entry.origin, ne_eq,
    Prod.mk.injEq]
  rw [Bool.and_eq_false_iff, decide_eq_false_iff_not, decide_eq_false_iff_not,
    Decidable.not_and_iff_not_or_not]

/-! ## Finding -/

theorem mem_of_accessibleWorkflow? {user : User} {scopes : List Scope}
    {workflowId : String} {row : Workflow}
    (found : store.accessibleWorkflow? user scopes workflowId = some row) :
    row ∈ store.workflows := by
  rw [accessibleWorkflow?] at found
  split at found
  · exact List.mem_of_find?_eq_some found
  · split at found
    · exact List.mem_of_find?_eq_some found
    · cases found

theorem entryWith?_eq_some {id : String} {entry : Entry}
    (found : store.entryWith? id = some entry) :
    entry ∈ store.entries ∧ entry.id = .text id :=
  ⟨List.mem_of_find?_eq_some found, by simpa using List.find?_some found⟩

theorem entryByOrigin?_eq_some {workflowId userId : String} {entry : Entry}
    (found : store.entryByOrigin? workflowId userId = some entry) :
    entry ∈ store.entries ∧ entry.origin = Entry.originOf workflowId userId := by
  refine ⟨List.mem_of_find?_eq_some found, ?_⟩
  have holds := List.find?_some found
  rw [Bool.and_eq_true, decide_eq_true_iff, decide_eq_true_iff] at holds
  exact Prod.ext holds.1 holds.2

theorem entryByOrigin?_eq_none {workflowId userId : String} :
    store.entryByOrigin? workflowId userId = none ↔
      ∀ entry ∈ store.entries,
        entry.origin ≠ Entry.originOf workflowId userId := by
  simp [entryByOrigin?, List.find?_eq_none, Entry.origin, Entry.originOf]

/-! ## Replacing -/

theorem mem_replaceWorkflow {row present : Workflow}
    (member : present ∈ (store.replaceWorkflow row).workflows) :
    present ∈ store.workflows ∨ present = row := by
  rcases List.mem_map.mp member with ⟨old, place, rfl⟩
  by_cases same : old.id = row.id
  · rw [if_pos same]
    exact .inr rfl
  · rw [if_neg same]
    exact .inl place

theorem mem_replaceEntry {entry present : Entry}
    (member : present ∈ (store.replaceEntry entry).entries) :
    (present ∈ store.entries ∧ present.id ≠ entry.id) ∨ present = entry := by
  rcases List.mem_map.mp member with ⟨old, place, rfl⟩
  by_cases same : old.id = entry.id
  · rw [if_pos same]
    exact .inr rfl
  · rw [if_neg same]
    exact .inl ⟨place, same⟩

/-- Something that every entry keeps when the one with its identifier is replaced
by the new entry is kept in all entries. -/
theorem map_replaceEntry {α : Type} {entry : Entry} {view : Entry → α}
    (keeps : ∀ present ∈ store.entries, present.id = entry.id →
      view entry = view present) :
    (store.replaceEntry entry).entries.map view = store.entries.map view := by
  simp only [replaceEntry, List.map_map]
  apply List.map_congr_left
  intro present member
  by_cases same : present.id = entry.id
  · simp only [Function.comp, same, ↓reduceIte]
    exact keeps present member same
  · simp only [Function.comp, same, ↓reduceIte]

/-- Where an entry is replaced the other ones are left. -/
theorem filter_replaceEntry (store : Store) (entry : Entry) :
    (store.replaceEntry entry).entries.filter (·.id ≠ entry.id) =
      store.entries.filter (·.id ≠ entry.id) := by
  rw [replaceEntry]
  induction store.entries with
  | nil => rfl
  | cons present rest hypothesis =>
      by_cases same : present.id = entry.id
      · simpa [same] using hypothesis
      · simpa [same] using hypothesis

/-- Of entries with different identifiers only one has a given identifier. -/
theorem eq_of_id_eq (distinct : (store.entries.map Entry.id).Nodup)
    {one two : Entry} (first : one ∈ store.entries)
    (second : two ∈ store.entries) (same : one.id = two.id) : one = two :=
  List.inj_on_of_nodup_map distinct first second same

/-- An entry is found by its identifier where identifiers are different. -/
theorem entryWith?_of_mem (distinct : (store.entries.map Entry.id).Nodup)
    {entry : Entry} {id : String} (member : entry ∈ store.entries)
    (named : entry.id = .text id) : store.entryWith? id = some entry := by
  rcases found : store.entryWith? id with _ | other
  · have absent := List.find?_eq_none.mp found entry member
    simp [named] at absent
  · rcases entryWith?_eq_some found with ⟨place, same⟩
    rw [eq_of_id_eq distinct place member (same.trans named.symm)]

end Store

end WorkflowExchange

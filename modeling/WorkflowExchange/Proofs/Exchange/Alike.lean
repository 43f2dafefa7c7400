import Mathlib.Data.List.Forall2
import WorkflowExchange.Exchange.Catalog
import WorkflowExchange.Proofs.Store.Access

/-!
# Stores that look alike

Two stores look alike to a user when they differ only in what the user may not see:
the content of workflows that the user may not read, and the content of private
entries by someone else.  What a user who is no administrator asks of such stores has
the same answer in both, and the same change leaves them alike.
-/

namespace WorkflowExchange

/-! ## Tables row by row -/

section Rows

variable {α : Type} {related : α → α → Prop} {rows others : List α}
  {picks : α → Bool}

/-- Rows that have the same view one by one are related by it. -/
theorem forall₂_of_map_eq {β : Type} {view : α → β}
    (same : others.map view = rows.map view) :
    List.Forall₂ (fun row twin => view twin = view row) rows others := by
  have equal : List.Forall₂ (· = ·) (others.map view) (rows.map view) := by
    rw [same, List.forall₂_eq_eq_eq]
  rw [List.forall₂_map_left_iff, List.forall₂_map_right_iff] at equal
  exact equal.flip

/-- A search for what related rows have in common finds related rows, or nothing. -/
theorem find?_of_forall₂
    (same : ∀ row twin, related row twin → picks row = picks twin)
    (alike : List.Forall₂ related rows others) :
    rows.find? picks = none ∧ others.find? picks = none ∨
      ∃ row twin, rows.find? picks = some row ∧ others.find? picks = some twin ∧
        related row twin := by
  induction alike with
  | nil => exact .inl ⟨rfl, rfl⟩
  | @cons row twin _ _ first _ hypothesis =>
      rw [List.find?_cons, List.find?_cons, ← same row twin first]
      cases picks row with
      | true => exact .inr ⟨row, twin, rfl, rfl, first⟩
      | false => exact hypothesis

theorem any_eq_of_forall₂
    (same : ∀ row twin, related row twin → picks row = picks twin)
    (alike : List.Forall₂ related rows others) :
    others.any picks = rows.any picks := by
  induction alike with
  | nil => rfl
  | cons first _ hypothesis =>
      rw [List.any_cons, List.any_cons, hypothesis, same _ _ first]

/-- Where related rows that are picked are equal the same rows are picked. -/
theorem filter_eq_of_forall₂
    (same : ∀ row twin, related row twin → picks row = picks twin)
    (equal : ∀ row twin, related row twin → picks row = true → twin = row)
    (alike : List.Forall₂ related rows others) :
    others.filter picks = rows.filter picks := by
  induction alike with
  | nil => rfl
  | @cons row twin _ _ first _ hypothesis =>
      rw [List.filter_cons, List.filter_cons, hypothesis, ← same row twin first]
      by_cases picked : picks row
      · rw [if_pos picked, if_pos picked, equal row twin first picked]
      · rw [if_neg picked, if_neg picked]

end Rows

/-! ## Stores -/

/-- Two entries have in common what is no secret: their identifier, their origin,
their author and their visibility. -/
structure Entry.Akin (entry twin : Entry) : Prop where
  id : twin.id = entry.id
  authorId : twin.authorId = entry.authorId
  authorName : twin.authorName = entry.authorName
  isPublic : twin.isPublic = entry.isPublic
  originalWorkflowId : twin.originalWorkflowId = entry.originalWorkflowId
  createdByUserId : twin.createdByUserId = entry.createdByUserId

theorem Entry.Akin.refl (entry : Entry) : entry.Akin entry :=
  ⟨rfl, rfl, rfl, rfl, rfl, rfl⟩

namespace Store

/-- Two stores have the same rows, but for the content of workflows that are not read
and of entries that are not seen. -/
structure AlikeWhere (reads : String → Prop) (sees : Entry → Prop)
    (one other : Store) : Prop where
  users : other.users = one.users
  projects : other.projects = one.projects
  memberships : other.memberships = one.memberships
  sharings : other.sharings = one.sharings
  workflows : List.Forall₂
    (fun row twin => twin.id = row.id ∧ (reads row.id → twin = row))
    one.workflows other.workflows
  entries : List.Forall₂
    (fun entry twin => entry.Akin twin ∧ (sees entry → twin = entry))
    one.entries other.entries

/-- Two stores look alike to a user: they differ at most in the content of workflows
on which the user has no right to read, and of entries that are not open to the
user. -/
def Alike (user : User) (one other : Store) : Prop :=
  one.AlikeWhere (one.Permits user [Scope.read])
    (fun entry => Catalog.isOpenTo entry user = true) other

/-- An entry is public, or a user is its author or made it. -/
def Concerns (user : User) (entry : Entry) : Prop :=
  Catalog.isOpenTo entry user = true ∨ entry.createdByUserId = .text user.id

/-- Two stores are twins for a user: they look alike to the user, also as to entries
that the user made and that name another author. -/
def Twins (user : User) (one other : Store) : Prop :=
  one.AlikeWhere (one.Shares user.id [Scope.read]) (Concerns user) other

variable {one other : Store} {user : User} {scopes : List Scope}

theorem AlikeWhere.mono {reads fewer : String → Prop} {sees less : Entry → Prop}
    (alike : one.AlikeWhere reads sees other)
    (read : ∀ row ∈ one.workflows, fewer row.id → reads row.id)
    (seen : ∀ entry ∈ one.entries, less entry → sees entry) :
    one.AlikeWhere fewer less other where
  users := alike.users
  projects := alike.projects
  memberships := alike.memberships
  sharings := alike.sharings
  workflows := by
    refine ((List.forall₂_and_left _ _).mpr ⟨read, alike.workflows⟩).imp ?_
    rintro row twin ⟨granted, id, equal⟩
    exact ⟨id, fun given => equal (granted given)⟩
  entries := by
    refine ((List.forall₂_and_left _ _).mpr ⟨seen, alike.entries⟩).imp ?_
    rintro entry twin ⟨granted, akin, equal⟩
    exact ⟨akin, fun given => equal (granted given)⟩

/-- Who is no administrator has a right only where a project shares the workflow. -/
theorem Permits.shares {workflowId : String}
    (permits : one.Permits user scopes workflowId)
    (member : user.isGlobalAdmin = false) :
    one.Shares user.id scopes workflowId := by
  rcases permits.2 with admin | shares
  · rw [member] at admin
    cases admin
  · exact shares

theorem Twins.alike (twins : one.Twins user other)
    (member : user.isGlobalAdmin = false) : one.Alike user other :=
  twins.mono (fun _ _ permits => permits.shares member) fun _ _ => .inl

/-- Where the author of every entry is the user who made it, stores that look alike
are twins. -/
theorem Alike.twins (alike : one.Alike user other)
    (authored : ∀ entry ∈ one.entries, entry.authorId = entry.createdByUserId) :
    one.Twins user other := by
  refine AlikeWhere.mono alike (fun row held shares => ⟨⟨row, held, rfl⟩, .inr shares⟩) ?_
  rintro entry held (visible | made)
  · exact visible
  · rw [Catalog.isOpenTo, Bool.or_eq_true, decide_eq_true_iff]
    exact .inr ((authored entry held).trans made)

/-! ## Asking -/

namespace Twins

theorem personalProject?_eq (twins : one.Twins user other) (userId : String) :
    other.personalProject? userId = one.personalProject? userId := by
  simp only [personalProject?, personalProjectWith?, twins.memberships,
    twins.projects]

theorem grantsTo_eq (twins : one.Twins user other) (userId : String)
    (roles : List String) (workflowId : String) :
    other.grantsTo userId roles workflowId =
      one.grantsTo userId roles workflowId := by
  simp only [grantsTo, twins.sharings, twins.memberships]

theorem accessibleIds_eq (twins : one.Twins user other)
    (member : user.isGlobalAdmin = false) (scopes : List Scope) :
    other.accessibleIds user scopes = one.accessibleIds user scopes := by
  simp only [accessibleIds, member, twins.sharings, twins.memberships,
    Bool.false_eq_true, ↓reduceIte]

theorem workflow?_cases (twins : one.Twins user other) (workflowId : String) :
    one.workflow? workflowId = none ∧ other.workflow? workflowId = none ∨
      ∃ row twin, one.workflow? workflowId = some row ∧
        other.workflow? workflowId = some twin ∧
        (one.Shares user.id [Scope.read] row.id → twin = row) := by
  refine (find?_of_forall₂ ?_ twins.workflows).imp_right ?_
  · rintro row twin ⟨id, -⟩
    rw [id]
  · rintro ⟨row, twin, first, second, -, equal⟩
    exact ⟨row, twin, first, second, equal⟩

/-- A workflow on which a user has some scopes, that of reading among them, is the
same in both stores. -/
theorem accessibleWorkflow?_eq (twins : one.Twins user other)
    (member : user.isGlobalAdmin = false)
    (reading : ∀ role, Role.Grants role scopes → Role.Grants role [Scope.read])
    (workflowId : String) :
    other.accessibleWorkflow? user scopes workflowId =
      one.accessibleWorkflow? user scopes workflowId := by
  rw [accessibleWorkflow?, accessibleWorkflow?, twins.grantsTo_eq, member]
  simp only [Bool.false_eq_true, ↓reduceIte]
  by_cases granted : one.grantsTo user.id (Role.withScopes scopes) workflowId
  · rw [if_pos granted, if_pos granted]
    rcases grantsTo_withScopes.mp granted with
      ⟨sharing, shared, membership, related, same, within, mine, grants⟩
    have shares : one.Shares user.id [Scope.read] workflowId :=
      ⟨sharing, shared, membership, related, same, within, mine, reading _ grants⟩
    rcases twins.workflow?_cases workflowId with
      ⟨first, second⟩ | ⟨row, twin, first, second, equal⟩
    · rw [first, second]
    · rw [first, second, equal]
      rw [(workflow?_eq_some first).2]
      exact shares
  · rw [if_neg granted, if_neg granted]

theorem workflowsWithIds_eq (twins : one.Twins user other) {ids : List String}
    (readable : ∀ id ∈ ids, one.Shares user.id [Scope.read] id) :
    other.workflowsWithIds ids = one.workflowsWithIds ids := by
  rw [workflowsWithIds, workflowsWithIds]
  rw [filter_eq_of_forall₂ _ _ twins.workflows]
  · rintro row twin ⟨id, -⟩
    rw [id]
  · rintro row twin ⟨-, equal⟩ picked
    exact equal (readable _ (List.contains_iff_mem.mp picked))

theorem entryWith?_cases (twins : one.Twins user other) (id : String) :
    one.entryWith? id = none ∧ other.entryWith? id = none ∨
      ∃ entry twin, one.entryWith? id = some entry ∧
        other.entryWith? id = some twin ∧
        entry.Akin twin ∧ (Concerns user entry → twin = entry) := by
  refine find?_of_forall₂ ?_ twins.entries
  rintro entry twin ⟨akin, -⟩
  rw [akin.id]

/-- The entry that a user made of a workflow is the same in both stores. -/
theorem entryByOrigin?_eq (twins : one.Twins user other) (workflowId : String) :
    other.entryByOrigin? workflowId user.id =
      one.entryByOrigin? workflowId user.id := by
  have found : one.entryByOrigin? workflowId user.id = none ∧
        other.entryByOrigin? workflowId user.id = none ∨
      ∃ entry twin, one.entryByOrigin? workflowId user.id = some entry ∧
        other.entryByOrigin? workflowId user.id = some twin ∧
        entry.Akin twin ∧ (Concerns user entry → twin = entry) := by
    refine find?_of_forall₂ ?_ twins.entries
    rintro entry twin ⟨akin, -⟩
    rw [akin.originalWorkflowId, akin.createdByUserId]
  rcases found with ⟨first, second⟩ | ⟨entry, twin, first, second, -, equal⟩
  · rw [first, second]
  · have made := congrArg Prod.snd (entryByOrigin?_eq_some first).2
    rw [first, second, equal (.inr made)]

theorem visibleEntries_eq (twins : one.Twins user other) :
    other.visibleEntries user.id = one.visibleEntries user.id := by
  rw [visibleEntries, visibleEntries, filter_eq_of_forall₂ _ _ twins.entries]
  · rintro entry twin ⟨akin, -⟩
    rw [akin.isPublic, akin.createdByUserId]
  · rintro entry twin ⟨-, equal⟩ shown
    rw [Bool.or_eq_true, decide_eq_true_iff] at shown
    refine equal (shown.imp_left fun visible => ?_)
    rw [Catalog.isOpenTo, visible, Bool.true_or]

end Twins

/-! ## Changing -/

/-- Where a row can be added to twins it is the same in both. -/
theorem Twins.addWorkflow_cases (twins : one.Twins user other) (row : Workflow) :
    one.addWorkflow row = none ∧ other.addWorkflow row = none ∨
      ∃ next twin, one.addWorkflow row = some next ∧
        other.addWorkflow row = some twin ∧
        next.AlikeWhere
          (fun id => id = row.id ∨ next.Shares user.id [Scope.read] id)
          (Concerns user) twin := by
  have clashes : other.workflows.any (fun present => row.id = present.id) =
      one.workflows.any fun present => row.id = present.id := by
    refine any_eq_of_forall₂ ?_ twins.workflows
    rintro present twin ⟨id, -⟩
    rw [id]
  rw [Store.addWorkflow, Store.addWorkflow, added, added, clashes]
  by_cases clash : one.workflows.any fun present => row.id = present.id
  · rw [if_pos clash, if_pos clash]
    exact .inl ⟨rfl, rfl⟩
  · rw [if_neg clash, if_neg clash]
    refine .inr ⟨_, _, rfl, rfl, ⟨twins.users, twins.projects, twins.memberships,
      twins.sharings, ?_, twins.entries⟩⟩
    refine List.rel_append ?_ (.cons ⟨rfl, fun _ => rfl⟩ .nil)
    have different : ∀ present ∈ one.workflows, row.id ≠ present.id := by
      simpa using clash
    refine ((List.forall₂_and_left _ _).mpr ⟨different, twins.workflows⟩).imp ?_
    rintro present twin ⟨apart, id, equal⟩
    refine ⟨id, ?_⟩
    rintro (same | shares)
    · exact absurd same.symm apart
    · exact equal shares

/-- A workflow that is the same in both stores can be shared with anyone. -/
theorem AlikeWhere.addSharing_cases {sharing : Sharing}
    (alike : one.AlikeWhere
      (fun id => id = sharing.workflowId ∨ one.Shares user.id [Scope.read] id)
      (Concerns user) other) :
    one.addSharing sharing = none ∧ other.addSharing sharing = none ∨
      ∃ next twin, one.addSharing sharing = some next ∧
        other.addSharing sharing = some twin ∧ next.Twins user twin := by
  rw [Store.addSharing, Store.addSharing, alike.sharings]
  rcases rows : added _ one.sharings sharing with _ | sharings
  · exact .inl ⟨rfl, rfl⟩
  · rcases added_eq_some.mp rows with ⟨-, rfl⟩
    refine .inr ⟨_, _, rfl, rfl, ⟨alike.users, alike.projects, alike.memberships,
      rfl, ?_, alike.entries⟩⟩
    refine alike.workflows.imp ?_
    rintro row twin ⟨id, equal⟩
    refine ⟨id, ?_⟩
    rintro ⟨shared, member, membership, related, same, rest⟩
    rcases List.mem_append.mp member with held | added
    · exact equal (.inr ⟨shared, held, membership, related, same, rest⟩)
    · rw [List.mem_singleton.mp added] at same
      exact equal (.inl same.symm)

namespace Twins

/-- Rows of twins are replaced by one row. -/
theorem replaceWorkflow (twins : one.Twins user other) (row : Workflow) :
    (one.replaceWorkflow row).Twins user (other.replaceWorkflow row) where
  users := twins.users
  projects := twins.projects
  memberships := twins.memberships
  sharings := twins.sharings
  workflows := by
    refine List.rel_map ?_ twins.workflows
    rintro present twin ⟨id, equal⟩
    dsimp only
    rw [id]
    split
    · exact ⟨rfl, fun _ => rfl⟩
    · exact ⟨id, equal⟩
  entries := twins.entries

/-- Entries of twins are replaced by akin entries. -/
theorem replaceEntry (twins : one.Twins user other) {entry twin : Entry}
    (akin : entry.Akin twin) (equal : Concerns user entry → twin = entry) :
    (one.replaceEntry entry).Twins user (other.replaceEntry twin) where
  users := twins.users
  projects := twins.projects
  memberships := twins.memberships
  sharings := twins.sharings
  workflows := twins.workflows
  entries := by
    refine List.rel_map ?_ twins.entries
    rintro present other ⟨alike, same⟩
    dsimp only
    rw [alike.id, akin.id]
    split
    · exact ⟨akin, equal⟩
    · exact ⟨alike, same⟩

theorem removeEntry (twins : one.Twins user other) (id : String) :
    (one.removeEntry id).Twins user (other.removeEntry id) where
  users := twins.users
  projects := twins.projects
  memberships := twins.memberships
  sharings := twins.sharings
  workflows := twins.workflows
  entries := by
    refine List.rel_filter ?_ twins.entries
    rintro entry twin ⟨akin, -⟩
    dsimp only
    rw [akin.id]

theorem addEntry_cases (twins : one.Twins user other) (entry : Entry) :
    one.addEntry entry = none ∧ other.addEntry entry = none ∨
      ∃ next twin, one.addEntry entry = some next ∧
        other.addEntry entry = some twin ∧ next.Twins user twin := by
  have clashes : other.entries.any
      (fun present => entry.id = present.id || sameOrigin entry present) =
        one.entries.any
          fun present => entry.id = present.id || sameOrigin entry present := by
    refine any_eq_of_forall₂ ?_ twins.entries
    rintro present twin ⟨akin, -⟩
    rw [sameOrigin, sameOrigin, akin.id, akin.originalWorkflowId,
      akin.createdByUserId]
  rw [Store.addEntry, Store.addEntry, added, added, clashes]
  split
  · exact .inl ⟨rfl, rfl⟩
  · exact .inr ⟨_, _, rfl, rfl, ⟨twins.users, twins.projects, twins.memberships,
      twins.sharings, twins.workflows,
      List.rel_append twins.entries (.cons ⟨.refl entry, fun _ => rfl⟩ .nil)⟩⟩

end Twins

end Store

end WorkflowExchange

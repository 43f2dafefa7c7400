import WorkflowExchange.Proofs.Store.Tables

/-!
# Who has access to a workflow

`Store.Permits` is the access model: a user has some scopes on a workflow that is
there as a global administrator, or because a project shares the workflow and the
user has a role in it that grants all of them.  Both queries follow it: the one that
gives a single workflow and the one that lists identifiers.
-/

namespace WorkflowExchange

namespace Role

/-- A project role grants all of some scopes. -/
def Grants (role : String) (scopes : List Scope) : Prop :=
  ∃ given, (role, given) ∈ granted ∧ scopes ⊆ given

variable {role : String} {scopes more : List Scope}

theorem mem_withScopes : role ∈ withScopes scopes ↔ Grants role scopes := by
  simp only [withScopes, List.mem_map, List.mem_filter, List.all_eq_true,
    List.contains_iff_mem]
  constructor
  · rintro ⟨⟨_, given⟩, ⟨listed, covered⟩, rfl⟩
    exact ⟨given, listed, covered⟩
  · rintro ⟨given, listed, covered⟩
    exact ⟨(role, given), ⟨listed, covered⟩, rfl⟩

theorem Grants.mono (grants : Grants role more) (fewer : scopes ⊆ more) :
    Grants role scopes := by
  rcases grants with ⟨given, listed, covered⟩
  exact ⟨given, listed, fun _ asked => covered (fewer asked)⟩

/-- A role that grants updating grants reading, too. -/
theorem Grants.reading (grants : Grants role [Scope.update]) :
    Grants role [Scope.read, Scope.update] := by
  rcases grants with ⟨given, listed, covered⟩
  have table : ∀ pair ∈ granted, Scope.update ∈ pair.2 → Scope.read ∈ pair.2 := by
    decide
  have updates : Scope.update ∈ given := covered List.mem_cons_self
  refine ⟨given, listed, ?_⟩
  intro scope asked
  rcases List.mem_cons.mp asked with rfl | asked
  · exact table _ listed updates
  · exact covered asked

end Role

namespace Store

/-- Some project shares a workflow and relates a user to itself with a role that
grants all of some scopes. -/
def Shares (store : Store) (userId : String) (scopes : List Scope)
    (workflowId : String) : Prop :=
  ∃ sharing ∈ store.sharings, ∃ membership ∈ store.memberships,
    sharing.workflowId = workflowId ∧
    membership.projectId = sharing.projectId ∧
    membership.userId = userId ∧ Role.Grants membership.role scopes

/-- A workflow is there, and a user has some scopes on it. -/
def Permits (store : Store) (user : User) (scopes : List Scope)
    (workflowId : String) : Prop :=
  (∃ row ∈ store.workflows, row.id = workflowId) ∧
    (user.isGlobalAdmin = true ∨ store.Shares user.id scopes workflowId)

variable {store : Store} {user : User} {scopes more : List Scope}
  {workflowId : String} {row : Workflow}

theorem Permits.mono (permits : store.Permits user more workflowId)
    (fewer : scopes ⊆ more) : store.Permits user scopes workflowId := by
  rcases permits with ⟨there, admin | shares⟩
  · exact ⟨there, .inl admin⟩
  · rcases shares with
      ⟨sharing, shared, membership, member, same, project, mine, grants⟩
    exact ⟨there, .inr ⟨sharing, shared, membership, member, same, project, mine,
      grants.mono fewer⟩⟩

/-- Who may update a workflow may read it, too. -/
theorem Permits.reading
    (permits : store.Permits user [Scope.update] workflowId) :
    store.Permits user [Scope.read, Scope.update] workflowId := by
  rcases permits with ⟨there, admin | shares⟩
  · exact ⟨there, .inl admin⟩
  · rcases shares with
      ⟨sharing, shared, membership, member, same, project, mine, grants⟩
    exact ⟨there, .inr ⟨sharing, shared, membership, member, same, project, mine,
      grants.reading⟩⟩

/-! ## A single workflow -/

theorem workflow?_eq_some (found : store.workflow? workflowId = some row) :
    row ∈ store.workflows ∧ row.id = workflowId :=
  ⟨List.mem_of_find?_eq_some found, by simpa using List.find?_some found⟩

theorem exists_workflow? :
    (∃ row, store.workflow? workflowId = some row) ↔
      ∃ row ∈ store.workflows, row.id = workflowId := by
  rw [← Option.isSome_iff_exists, workflow?, List.find?_isSome]
  simp

theorem grantsTo_withScopes {userId : String} :
    store.grantsTo userId (Role.withScopes scopes) workflowId = true ↔
      store.Shares userId scopes workflowId := by
  simp only [grantsTo, Shares, List.any_eq_true, Bool.and_eq_true,
    decide_eq_true_iff, List.contains_iff_mem, Role.mem_withScopes, and_assoc]
  constructor
  · rintro ⟨sharing, shared, same, membership, member, rest⟩
    exact ⟨sharing, shared, membership, member, same, rest⟩
  · rintro ⟨sharing, shared, membership, member, same, rest⟩
    exact ⟨sharing, shared, same, membership, member, rest⟩

/-- A user has access to a workflow as an administrator or by what is granted. -/
theorem accessibleWorkflow?_eq_some :
    store.accessibleWorkflow? user scopes workflowId = some row ↔
      (user.isGlobalAdmin = true ∨
        store.grantsTo user.id (Role.withScopes scopes) workflowId = true) ∧
      store.workflow? workflowId = some row := by
  rw [accessibleWorkflow?]
  by_cases admin : user.isGlobalAdmin
  · simp [admin]
  · by_cases granted : store.grantsTo user.id (Role.withScopes scopes) workflowId
    · simp [admin, granted]
    · simp [admin, granted]

theorem eq_of_accessibleWorkflow? {other : Workflow}
    (accessible : store.accessibleWorkflow? user scopes workflowId = some other)
    (found : store.workflow? workflowId = some row) : other = row :=
  Option.some.inj ((accessibleWorkflow?_eq_some.mp accessible).2.symm.trans found)

/-- A workflow is found for exactly the users who have the scopes on it. -/
theorem exists_accessibleWorkflow? :
    (∃ row, store.accessibleWorkflow? user scopes workflowId = some row) ↔
      store.Permits user scopes workflowId := by
  simp only [accessibleWorkflow?_eq_some, grantsTo_withScopes,
    exists_and_left, exists_workflow?]
  exact and_comm

/-! ## The list of identifiers -/

theorem mem_distinct_from (items found : List String) (item : String) :
    item ∈ items.foldl (fun found item =>
      if found.contains item then found else found ++ [item]) found ↔
      item ∈ found ∨ item ∈ items := by
  induction items generalizing found with
  | nil => simp
  | cons first rest hypothesis =>
      rw [List.foldl_cons, hypothesis, List.mem_cons]
      by_cases known : found.contains first
      · rw [if_pos known]
        rw [List.contains_iff_mem] at known
        constructor
        · exact Or.imp_right .inr
        · rintro (old | rfl | later)
          · exact .inl old
          · exact .inl known
          · exact .inr later
      · rw [if_neg known, List.mem_append, List.mem_singleton, or_assoc]

theorem nodup_distinct_from (items : List String) {found : List String}
    (nodup : found.Nodup) :
    (items.foldl (fun found item =>
      if found.contains item then found else found ++ [item]) found).Nodup := by
  induction items generalizing found with
  | nil => exact nodup
  | cons first rest hypothesis =>
      rw [List.foldl_cons]
      by_cases known : found.contains first
      · rw [if_pos known]
        exact hypothesis nodup
      · rw [if_neg known]
        rw [List.contains_iff_mem] at known
        rw [← List.concat_eq_append]
        exact hypothesis (nodup.concat known)

theorem mem_distinct {items : List String} {item : String} :
    item ∈ distinct items ↔ item ∈ items := by
  rw [distinct, mem_distinct_from]
  simp

theorem nodup_distinct (items : List String) : (distinct items).Nodup :=
  nodup_distinct_from items List.nodup_nil

/-- Every sharing is of a workflow that is there. -/
def SharesWorkflows (store : Store) : Prop :=
  ∀ sharing ∈ store.sharings, ∃ row ∈ store.workflows,
    row.id = sharing.workflowId

/-- The identifiers that are listed are those of the workflows on which the user has
the scopes. -/
theorem mem_accessibleIds (named : store.SharesWorkflows) :
    workflowId ∈ store.accessibleIds user scopes ↔
      store.Permits user scopes workflowId := by
  rw [accessibleIds]
  by_cases admin : user.isGlobalAdmin
  · simp [admin, Permits]
  · simp only [admin, Bool.false_eq_true, ↓reduceIte, mem_distinct, List.mem_map,
      List.mem_filter, List.any_eq_true, Bool.and_eq_true, decide_eq_true_iff,
      List.contains_iff_mem, Role.mem_withScopes, and_assoc, Permits, false_or]
    constructor
    · rintro ⟨sharing, shared, ⟨membership, member, rest⟩, same⟩
      refine ⟨?_, sharing, shared, membership, member, same, rest⟩
      rw [← same]
      exact named sharing shared
    · rintro ⟨-, sharing, shared, membership, member, same, rest⟩
      exact ⟨sharing, shared, ⟨membership, member, rest⟩, same⟩

/-- No identifier is listed twice, however many projects share the workflow. -/
theorem nodup_accessibleIds (keys : (store.workflows.map (·.id)).Nodup) :
    (store.accessibleIds user scopes).Nodup := by
  rw [accessibleIds]
  split
  · exact keys
  · exact nodup_distinct _

/-! ## The workflows with some identifiers -/

theorem mem_workflowsWithIds {ids : List String} :
    row ∈ store.workflowsWithIds ids ↔ row ∈ store.workflows ∧ row.id ∈ ids := by
  simp [workflowsWithIds]

theorem nodup_workflowsWithIds (keys : (store.workflows.map (·.id)).Nodup)
    (ids : List String) : ((store.workflowsWithIds ids).map (·.id)).Nodup := by
  rw [workflowsWithIds, ((List.mergeSort_perm _ _).map _).nodup_iff]
  exact keys.sublist (List.filter_sublist.map _)

/-- What was changed last comes first. -/
theorem pairwise_workflowsWithIds (store : Store) (ids : List String) :
    (store.workflowsWithIds ids).Pairwise fun one other =>
      other.stamps.updatedAt.microseconds ≤ one.stamps.updatedAt.microseconds := by
  have sorted := @List.pairwise_mergeSort Workflow
    (fun one other =>
      one.stamps.updatedAt.microseconds ≥ other.stamps.updatedAt.microseconds)
    (by simp only [decide_eq_true_iff]; omega)
    (by simp only [Bool.or_eq_true, decide_eq_true_iff]; omega)
    (store.workflows.filter fun workflow => ids.contains workflow.id)
  simpa [workflowsWithIds] using sorted

end Store

end WorkflowExchange

import WorkflowExchange.Proofs.Exchange.Avoiding
import WorkflowExchange.Proofs.Exchange.Decisions
import WorkflowExchange.Proofs.Exchange.Managing
import WorkflowExchange.Proofs.Exchange.Rounds

/-!
# Ownership

Users, projects, memberships, workflows and sharings are tables that name each other,
and nothing in the store keeps a name from pointing nowhere.  What is kept by all that
is done is an invariant of the tables together: every user owns one personal project
(`Store.Housed`), and every workflow belongs to a personal project that is there
(`Store.Owned`).

Three things happen to these tables.  An errand adds to the first three
(`Store.Manages`), a creation or an import adds a workflow with its sharing
(`Store.Adopts`), and everything else leaves them as they are but for what is in a
workflow (`Store.SameRights`).  For each of them it is shown that the invariant is
preserved and that no right is lost; runs follow by induction.
-/

namespace WorkflowExchange

/-! ## Personal projects -/

namespace Store

/-- A project is a personal project, and a user is its owner. -/
def Houses (store : Store) (userId : String) (project : Project) : Prop :=
  project ∈ store.projects ∧ project.type = .personal ∧
    ∃ membership ∈ store.memberships, membership.projectId = project.id ∧
      membership.userId = userId ∧ membership.role = Role.personalOwner

/-- Every user owns one personal project, and nothing points nowhere: every membership
is in a project that is there, and in a personal project it is of a user who is
there. -/
structure Housed (store : Store) : Prop where
  projects : ∀ one ∈ store.projects, ∀ other ∈ store.projects,
    one.id = other.id → one = other
  memberships : ∀ membership ∈ store.memberships, ∃ project ∈ store.projects,
    project.id = membership.projectId ∧
      (project.type = .personal → ∃ user ∈ store.users, user.id = membership.userId)
  users : ∀ user ∈ store.users, ∃! project, store.Houses user.id project

variable {store first last : Store} {userId : String} {project : Project}

/-- The personal project that is found for a user is one that the user owns. -/
theorem houses_of_personalProject?
    (found : store.personalProject? userId = some project) :
    store.Houses userId project := by
  rcases exists_membership found with ⟨membership, member, same, mine, role⟩
  rcases List.exists_of_findSome?_eq_some found with ⟨other, -, there⟩
  split at there
  · have holds := List.find?_some there
    rw [Bool.and_eq_true, decide_eq_true_iff, decide_eq_true_iff] at holds
    exact ⟨List.mem_of_find?_eq_some there, holds.2, membership, member, same, mine,
      role⟩
  · cases there

/-- A personal project is found for a user who owns one. -/
theorem Houses.isSome (houses : store.Houses userId project) :
    (store.personalProject? userId).isSome := by
  rcases houses with ⟨there, personal, membership, member, same, mine, role⟩
  rw [personalProject?, List.findSome?_isSome_iff]
  refine ⟨membership, member, ?_⟩
  simp only [mine, role, decide_true, Bool.and_self, ↓reduceIte, personalProjectWith?,
    List.find?_isSome]
  exact ⟨project, there, by simp [same, personal]⟩

theorem Housed.of_eq (housed : first.Housed) (users : last.users = first.users)
    (projects : last.projects = first.projects)
    (memberships : last.memberships = first.memberships) : last.Housed := by
  rcases first with ⟨_, _, _, _, _, _⟩
  rcases last with ⟨_, _, _, _, _, _⟩
  cases users
  cases projects
  cases memberships
  exact ⟨housed.projects, housed.memberships, housed.users⟩

/-- Who owns a personal project is there. -/
theorem Housed.exists_user (housed : store.Housed)
    (houses : store.Houses userId project) :
    ∃ user ∈ store.users, user.id = userId := by
  rcases houses with ⟨there, personal, membership, member, same, mine, -⟩
  rcases housed.memberships membership member with ⟨other, held, named, owner⟩
  rcases housed.projects other held project there (named.trans same) with rfl
  rcases owner personal with ⟨user, present, equal⟩
  exact ⟨user, present, equal.trans mine⟩

/-- A project with an identifier of its own joins the others. -/
theorem Housed.eq_of_joined (housed : store.Housed) {new one other : Project}
    (apart : ∀ present ∈ store.projects, new.id ≠ present.id)
    (first : one ∈ store.projects ++ [new]) (second : other ∈ store.projects ++ [new])
    (same : one.id = other.id) : one = other := by
  rcases List.mem_append.mp first with first | first <;>
    rcases List.mem_append.mp second with second | second
  · exact housed.projects one first other second same
  · rw [List.mem_singleton.mp second] at same
    exact absurd same.symm (apart one first)
  · rw [List.mem_singleton.mp first] at same
    exact absurd same (apart other second)
  · rw [List.mem_singleton.mp first, List.mem_singleton.mp second]

/-! ## Errands -/

theorem Housed.team (housed : store.Housed)
    (apart : ∀ present ∈ store.projects, project.id ≠ present.id)
    (team : project.type = .team) :
    Housed { store with projects := store.projects ++ [project] } where
  projects _ first _ second := housed.eq_of_joined apart first second
  memberships membership member := by
    rcases housed.memberships membership member with ⟨present, held, rest⟩
    exact ⟨present, List.mem_append_left _ held, rest⟩
  users user present := by
    rcases housed.users user present with ⟨own, ⟨there, rest⟩, unique⟩
    refine ⟨own, ⟨List.mem_append_left _ there, rest⟩, ?_⟩
    rintro other ⟨held, personal, owner⟩
    rcases List.mem_append.mp held with held | held
    · exact unique other ⟨held, personal, owner⟩
    · rw [List.mem_singleton.mp held, team] at personal
      cases personal

theorem Housed.member (housed : store.Housed) {membership : Membership}
    (team : ∃ project ∈ store.projects, project.id = membership.projectId ∧
      project.type = .team) :
    Housed { store with memberships := store.memberships ++ [membership] } := by
  rcases team with ⟨project, there, same, team⟩
  refine ⟨housed.projects, ?_, ?_⟩
  · intro other member
    rcases List.mem_append.mp member with member | member
    · exact housed.memberships other member
    · rw [List.mem_singleton.mp member]
      refine ⟨project, there, same, fun personal => ?_⟩
      cases team.symm.trans personal
  · intro user present
    rcases housed.users user present with
      ⟨own, ⟨held, personal, owning, member, rest⟩, unique⟩
    refine ⟨own, ⟨held, personal, owning, List.mem_append_left _ member, rest⟩, ?_⟩
    rintro other ⟨held, personal, owning, member, named, rest⟩
    rcases List.mem_append.mp member with member | member
    · exact unique other ⟨held, personal, owning, member, named, rest⟩
    · rw [List.mem_singleton.mp member] at named
      rw [housed.projects other held project there (named.symm.trans same.symm)]
        at personal
      cases team.symm.trans personal

/-- Who owned a personal project still owns it after a user was added, and nobody owns
another one but the user who was added. -/
theorem Housed.houses_user (housed : store.Housed) {user : User} {stamps : Stamps}
    (apart : ∀ present ∈ store.projects, project.id ≠ present.id) {own : Project} :
    Houses { store with
        users := store.users ++ [user]
        projects := store.projects ++ [project]
        memberships := store.memberships ++
          [⟨project.id, user.id, Role.personalOwner, stamps⟩] } userId own →
      store.Houses userId own ∨ userId = user.id ∧ own = project := by
  rintro ⟨held, personal, membership, member, same, mine, role⟩
  rcases List.mem_append.mp member with member | member
  · rcases housed.memberships membership member with ⟨present, there, named, -⟩
    rcases List.mem_append.mp held with held | held
    · exact .inl ⟨held, personal, membership, member, same, mine, role⟩
    · rw [List.mem_singleton.mp held] at same
      exact absurd (same.symm.trans named.symm) (apart present there)
  · rw [List.mem_singleton.mp member] at same mine
    rcases List.mem_append.mp held with held | held
    · exact absurd same (apart own held)
    · exact .inr ⟨mine.symm, List.mem_singleton.mp held⟩

theorem Housed.user (housed : store.Housed) {user : User} {stamps : Stamps}
    (new : ∀ present ∈ store.users, user.id ≠ present.id)
    (apart : ∀ present ∈ store.projects, project.id ≠ present.id)
    (personal : project.type = .personal) :
    Housed { store with
      users := store.users ++ [user]
      projects := store.projects ++ [project]
      memberships := store.memberships ++
        [⟨project.id, user.id, Role.personalOwner, stamps⟩] } := by
  refine ⟨fun _ first _ second => housed.eq_of_joined apart first second, ?_, ?_⟩
  · intro membership member
    rcases List.mem_append.mp member with member | member
    · rcases housed.memberships membership member with ⟨present, held, named, owner⟩
      refine ⟨present, List.mem_append_left _ held, named, fun personal => ?_⟩
      rcases owner personal with ⟨other, there, equal⟩
      exact ⟨other, List.mem_append_left _ there, equal⟩
    · rw [List.mem_singleton.mp member]
      exact ⟨project, List.mem_append_right _ (List.mem_singleton_self _), rfl,
        fun _ => ⟨user, List.mem_append_right _ (List.mem_singleton_self _), rfl⟩⟩
  · intro other present
    rcases List.mem_append.mp present with present | present
    · rcases housed.users other present with
        ⟨own, ⟨held, personal, owning, member, rest⟩, unique⟩
      refine ⟨own, ⟨List.mem_append_left _ held, personal, owning,
        List.mem_append_left _ member, rest⟩, fun found houses => ?_⟩
      rcases housed.houses_user apart houses with houses | ⟨same, -⟩
      · exact unique found houses
      · exact absurd same.symm (new other present)
    · rw [List.mem_singleton.mp present]
      refine ⟨project,
        ⟨List.mem_append_right _ (List.mem_singleton_self _), personal, _,
          List.mem_append_right _ (List.mem_singleton_self _), rfl, rfl, rfl⟩,
        fun found houses => ?_⟩
      rcases housed.houses_user apart houses with houses | ⟨-, same⟩
      · rcases housed.exists_user houses with ⟨old, there, equal⟩
        exact absurd equal.symm (new old there)
      · exact same

/-- An errand gives a new user a personal project, and nobody else another one. -/
theorem Manages.housed (manages : first.Manages last) (housed : first.Housed) :
    last.Housed := by
  cases manages with
  | user new apart personal => exact housed.user new apart personal
  | team apart team => exact housed.team apart team
  | member team => exact housed.member team

/-! ## What happens to rights -/

/-- The same users have the same rights on the same workflows; what is in a workflow
can be another. -/
structure SameRights (first last : Store) : Prop where
  users : last.users = first.users
  projects : last.projects = first.projects
  memberships : last.memberships = first.memberships
  sharings : last.sharings = first.sharings
  workflows : last.workflows.map (·.id) = first.workflows.map (·.id)

/-- No right is lost: memberships, sharings and the identifiers of workflows stay. -/
structure KeepsRights (first last : Store) : Prop where
  memberships : first.memberships ⊆ last.memberships
  sharings : first.sharings ⊆ last.sharings
  workflows : first.workflows.map (·.id) ⊆ last.workflows.map (·.id)

/-- Rights stay the same, or a workflow is adopted before. -/
inductive Accrues (first last : Store) : Prop where
  | same (same : first.SameRights last)
  | adopted {user : User} {row : Workflow} {middle : Store}
      (adopts : first.Adopts user row middle) (same : middle.SameRights last)

theorem SameRights.refl (store : Store) : store.SameRights store :=
  ⟨rfl, rfl, rfl, rfl, rfl⟩

theorem sameRights_replaceEntry (store : Store) (entry : Entry) :
    store.SameRights (store.replaceEntry entry) :=
  ⟨rfl, rfl, rfl, rfl, rfl⟩

theorem sameRights_replaceWorkflow (store : Store) (row : Workflow) :
    store.SameRights (store.replaceWorkflow row) where
  users := rfl
  projects := rfl
  memberships := rfl
  sharings := rfl
  workflows := by
    rw [replaceWorkflow, List.map_map]
    apply List.map_congr_left
    intro other _
    by_cases same : other.id = row.id
    · simp only [Function.comp, same, ↓reduceIte]
    · simp only [Function.comp, same, ↓reduceIte]

namespace KeepsRights

theorem refl (store : Store) : store.KeepsRights store :=
  ⟨List.Subset.refl _, List.Subset.refl _, List.Subset.refl _⟩

theorem trans {middle : Store} (one : first.KeepsRights middle)
    (other : middle.KeepsRights last) : first.KeepsRights last :=
  ⟨List.Subset.trans one.memberships other.memberships,
    List.Subset.trans one.sharings other.sharings,
    List.Subset.trans one.workflows other.workflows⟩

/-- Who has some scopes on a workflow still has them. -/
theorem permits {user : User} {scopes : List Scope} {workflowId : String}
    (keeps : first.KeepsRights last) (permits : first.Permits user scopes workflowId) :
    last.Permits user scopes workflowId := by
  rcases permits with ⟨⟨row, held, named⟩, granted⟩
  rcases List.mem_map.mp (keeps.workflows (List.mem_map_of_mem held)) with
    ⟨other, there, same⟩
  refine ⟨⟨other, there, same.trans named⟩, granted.imp_right ?_⟩
  rintro ⟨sharing, shared, membership, member, rest⟩
  exact ⟨sharing, keeps.sharings shared, membership, keeps.memberships member, rest⟩

end KeepsRights

theorem SameRights.keepsRights (same : first.SameRights last) :
    first.KeepsRights last := by
  constructor
  · rw [same.memberships]
    exact List.Subset.refl _
  · rw [same.sharings]
    exact List.Subset.refl _
  · rw [same.workflows]
    exact List.Subset.refl _

theorem Adopts.keepsRights {user : User} {row : Workflow}
    (adopts : first.Adopts user row last) : first.KeepsRights last := by
  rcases adopts with ⟨project, stamps, -, -, rfl⟩
  refine ⟨List.Subset.refl _, List.subset_append_left _ _, ?_⟩
  rw [List.map_append]
  exact List.subset_append_left _ _

theorem Accrues.keepsRights (accrues : first.Accrues last) :
    first.KeepsRights last := by
  cases accrues with
  | same same => exact same.keepsRights
  | adopted adopts same => exact adopts.keepsRights.trans same.keepsRights

theorem Manages.keepsRights (manages : first.Manages last) :
    first.KeepsRights last := by
  cases manages with
  | user =>
      exact ⟨List.subset_append_left _ _, List.Subset.refl _, List.Subset.refl _⟩
  | team =>
      exact ⟨List.Subset.refl _, List.Subset.refl _, List.Subset.refl _⟩
  | member =>
      exact ⟨List.subset_append_left _ _, List.Subset.refl _, List.Subset.refl _⟩

/-- Who adopted a workflow may read and update it, under whatever name and role. -/
theorem Adopts.permits {user reader : User} {row : Workflow}
    (adopts : first.Adopts user row last) (same : reader.id = user.id) :
    last.Permits reader [Scope.read, Scope.update] row.id := by
  rcases adopts with ⟨project, stamps, owned, -, rfl⟩
  rcases exists_membership owned with ⟨membership, member, named, mine, role⟩
  have grants : Role.Grants membership.role [Scope.read, Scope.update] := by
    rw [role]
    exact Role.mem_withScopes.mp (by decide)
  exact ⟨⟨row, List.mem_append_right _ (List.mem_singleton_self _), rfl⟩,
    .inr ⟨_, List.mem_append_right _ (List.mem_singleton_self _), membership, member,
      rfl, named, mine.trans same.symm, grants⟩⟩

/-! ## The invariant -/

/-- Every user owns one personal project, every workflow has an owner, which is a
personal project that is there, and no sharing points nowhere. -/
structure Owned (store : Store) : Prop where
  housed : store.Housed
  workflows : ∀ id ∈ store.workflows.map (·.id), ∃ sharing ∈ store.sharings,
    ∃ project ∈ store.projects, sharing.workflowId = id ∧
      sharing.role = Role.workflowOwner ∧ sharing.projectId = project.id ∧
      project.type = .personal
  sharings : ∀ sharing ∈ store.sharings,
    sharing.workflowId ∈ store.workflows.map (·.id) ∧
      sharing.projectId ∈ store.projects.map (·.id)

theorem SameRights.owned (same : first.SameRights last) (owned : first.Owned) :
    last.Owned where
  housed := owned.housed.of_eq same.users same.projects same.memberships
  workflows := by
    rw [same.workflows, same.sharings, same.projects]
    exact owned.workflows
  sharings := by
    rw [same.workflows, same.sharings, same.projects]
    exact owned.sharings

/-- An adopted workflow belongs to the personal project of the user. -/
theorem Adopts.owned {user : User} {row : Workflow}
    (adopts : first.Adopts user row last) (owned : first.Owned) : last.Owned := by
  rcases adopts with ⟨project, stamps, found, -, rfl⟩
  rcases houses_of_personalProject? found with ⟨there, personal, -⟩
  refine ⟨owned.housed.of_eq rfl rfl rfl, ?_, ?_⟩
  · simp only [List.map_append, List.map_singleton]
    intro id member
    rcases List.mem_append.mp member with member | member
    · rcases owned.workflows id member with ⟨sharing, shared, rest⟩
      exact ⟨sharing, List.mem_append_left _ shared, rest⟩
    · exact ⟨_, List.mem_append_right _ (List.mem_singleton_self _), project, there,
        (List.mem_singleton.mp member).symm, rfl, rfl, personal⟩
  · simp only [List.map_append, List.map_singleton]
    intro sharing shared
    rcases List.mem_append.mp shared with shared | shared
    · rcases owned.sharings sharing shared with ⟨workflow, project⟩
      exact ⟨List.mem_append_left _ workflow, project⟩
    · rw [List.mem_singleton.mp shared]
      exact ⟨List.mem_append_right _ (List.mem_singleton_self _),
        List.mem_map_of_mem there⟩

theorem Accrues.owned (accrues : first.Accrues last) (owned : first.Owned) :
    last.Owned := by
  cases accrues with
  | same same => exact same.owned owned
  | adopted adopts same => exact same.owned (adopts.owned owned)

/-- More projects leave every workflow its owner. -/
theorem Owned.of_subset (owned : first.Owned) (housed : last.Housed)
    (projects : first.projects ⊆ last.projects)
    (sharings : last.sharings = first.sharings)
    (workflows : last.workflows = first.workflows) : last.Owned := by
  refine ⟨housed, ?_, ?_⟩
  · rw [workflows, sharings]
    intro id member
    rcases owned.workflows id member with ⟨sharing, shared, project, there, rest⟩
    exact ⟨sharing, shared, project, projects there, rest⟩
  · rw [workflows, sharings]
    intro sharing shared
    rcases owned.sharings sharing shared with ⟨workflow, project⟩
    exact ⟨workflow, List.map_subset _ projects project⟩

theorem Manages.owned (manages : first.Manages last) (owned : first.Owned) :
    last.Owned := by
  have housed := manages.housed owned.housed
  cases manages with
  | user | team =>
      exact owned.of_subset housed (List.subset_append_left _ _) rfl rfl
  | member => exact owned.of_subset housed (List.Subset.refl _) rfl rfl

end Store

/-! ## Turns -/

/-- Does a deed make a workflow? -/
def Deed.makes : Deed → Bool
  | .create | .importEntry _ _ => true
  | _ => false

/-- A deed that makes no workflow changes no right. -/
theorem Store.Does.sameRights {moment : Moment} {before after : Counters} {deed : Deed}
    {first last : Store} (does : Store.Does moment before after deed first last)
    (other : deed.makes = false) : first.SameRights last := by
  cases does with
  | create | importOwn | importOther => cases other
  | update => exact sameRights_replaceWorkflow _ _
  | publish new made object added =>
      rcases addEntry_eq_some.mp added with ⟨-, rfl⟩
      exact ⟨rfl, rfl, rfl, rfl, rfl⟩
  | republish => exact sameRights_replaceEntry _ _
  | delete => exact ⟨rfl, rfl, rfl, rfl, rfl⟩
  | deleteNothing => exact .refl _

/-- An import adopts a workflow, and counting a download changes no right. -/
theorem Catalog.Imported.exists_adopted {environment : Environment} {before after : Session}
    {user : User} {entryId : String} {summary : WorkflowSummary}
    (imported : Imported environment before user entryId summary after) :
    ∃ row middle, row.id = summary.id ∧ before.saved.Adopts user row middle ∧
      middle.SameRights after.saved := by
  rcases imported.adopts with
    ⟨entry, graph, row, middle, -, -, -, -, named, adopts, counted⟩
  refine ⟨row, middle, named.symm, adopts, ?_⟩
  rcases counted with ⟨-, saved⟩ | ⟨-, saved⟩
  · rw [saved]
    exact .refl _
  · rw [saved]
    exact Store.sameRights_replaceEntry _ _

namespace World

variable {world later last : World} {environment : Environment} {user : User}
  {workflowId : String}

theorem accrues_of_create (world : World) (environment : Environment) (user : User)
    (heap : Heap) (data : Value) : world.store.Accrues
      (world.after environment (.act (.create user heap data))).store := by
  have nothing (after : Session) (unsaved : world.session.Unsaved after) :
      world.store.Accrues after.saved := by
    rw [unsaved.saved]
    exact .same (.refl _)
  change (world.work (.act (.create user heap data))).Leaves environment world.session
    fun store _ => world.store.Accrues store
  apply Work.Leaves.andPure
  apply Work.leaves_bind (Work.prepares_ofExcept _) nothing
  rintro request _ - ⟨fits, rfl⟩
  have declared := CreateRequest.declared_of_read (Fit.toExcept_eq_ok.mp fits)
  apply Work.Leaves.andPure
  refine Work.leaves_of_settles (Workflows.create_creates user declared) nothing ?_
  intro detail after created
  rcases created.adopts with ⟨row, adopts, -⟩
  exact .adopted adopts (.refl _)

theorem accrues_of_importEntry (world : World) (environment : Environment) (user : User)
    (entryId : String) : world.store.Accrues
      (world.after environment (.act (.importEntry user entryId))).store := by
  change (world.work (.act (.importEntry user entryId))).Leaves environment
    world.session fun store _ => world.store.Accrues store
  apply Work.Leaves.andPure
  apply Work.Leaves.andPure
  refine Work.leaves_of_settles (Catalog.importEntry_imports user entryId) ?_ ?_
  · intro after unsaved
    rw [unsaved.saved]
    exact .same (.refl _)
  · intro summary after imported
    rcases imported.exists_adopted with ⟨row, middle, -, adopts, same⟩
    exact .adopted adopts same

/-- A turn changes no right, or adds a workflow for the user who takes it. -/
theorem accrues (sound : world.Sound) (environment : Environment) (turn : Turn) :
    world.store.Accrues (world.after environment turn).store := by
  rcases after_cases world environment turn sound.workflowsDeclared with
    ⟨-, ⟨same, -⟩ | ⟨-, deed, means, does⟩⟩
  · rw [same]
    exact .same (.refl _)
  · cases means with
    | create => exact accrues_of_create world environment _ _ _
    | importEntry => exact accrues_of_importEntry world environment _ _
    | update | publish | delete | finish => exact .same (does.sameRights rfl)

/-! ## Runs of turns and errands -/

/-- What holds of every world that an empty one leads to. -/
structure Settled (world : World) : Prop where
  sound : world.Sound
  owned : world.store.Owned

/-- In the empty world there is nothing to own. -/
theorem settled_start (counters : Counters) : (start [] [] [] counters).Settled where
  sound := sound_start [] [] [] counters
  owned := by
    refine ⟨⟨?_, ?_, ?_⟩, ?_, ?_⟩ <;> simp [start]

theorem Leads.settled (leads : world.Leads later) (settled : world.Settled) :
    later.Settled where
  sound := leads.sound settled.sound
  owned := by
    cases leads with
    | turn environment turn =>
        exact (accrues settled.sound environment turn).owned settled.owned
    | errand environment errand proper =>
        rcases (managed_cases environment proper).2 with same | manages
        · rw [same]
          exact settled.owned
        · exact manages.owned settled.owned

theorem Leads.keepsRights (leads : world.Leads later) (sound : world.Sound) :
    world.store.KeepsRights later.store := by
  cases leads with
  | turn environment turn => exact (accrues sound environment turn).keepsRights
  | errand environment errand proper =>
      rcases (managed_cases environment proper).2 with same | manages
      · rw [same]
        exact .refl _
      · exact manages.keepsRights

/-- Whatever happens, a settled world leads to a settled one in which no right is
lost. -/
theorem Settled.reaches (settled : world.Settled)
    (reached : Relation.ReflTransGen Leads world later) :
    later.Settled ∧ world.store.KeepsRights later.store := by
  induction reached with
  | refl => exact ⟨settled, .refl _⟩
  | tail _ leads hypothesis =>
      exact ⟨leads.settled hypothesis.1,
        hypothesis.2.trans (leads.keepsRights hypothesis.1.sound)⟩

/-! ## What the owner can do -/

/-- A user creates a workflow, or imports one, and is told its identifier. -/
inductive Obtains (world : World) (environment : Environment) (user : User) :
    World → String → Prop where
  | created {heap : Heap} {data : Value} {request : CreateRequest}
      {detail : WorkflowDetail} {after : Session}
      (fits : CreateRequest.read heap data = .fits request)
      (ended : (Workflows.create user request).outcome environment world.session =
        (.ok detail, after)) :
      Obtains world environment user
        (world.after environment (.act (.create user heap data))) detail.summary.id
  | imported {entryId workflowId : String} {last : World}
      (imports : world.Imports environment user entryId last workflowId) :
      Obtains world environment user last workflowId

/-- Whoever has an identifier may read and update a workflow, and without mishaps the
workflow is shown and takes any JSON data that fits. -/
structure Entrusts (world : World) (userId workflowId : String) : Prop where
  permits : ∀ user : User, user.id = userId →
    world.store.Permits user [Scope.read, Scope.update] workflowId
  reads : ∀ (user : User) (environment : Environment), user.id = userId →
    ∃ row detail after, row ∈ world.store.workflows ∧ row.id = workflowId ∧
      WorkflowDetail.ofLoaded (.ofRow row) = .fits detail ∧
      (Workflows.get user workflowId).outcome environment.calm world.session =
        (.ok detail, after)
  updates : ∀ (user : User) (environment : Environment) (heap : Heap) (data : Value)
    (request : UpdateRequest), user.id = userId →
    UpdateRequest.read heap data = .fits request → request.IsJson →
    ∃ detail after, (Workflows.update user workflowId request).outcome
      environment.calm world.session = (.ok detail, after)

/-- Who obtains a workflow may read and update it afterwards. -/
theorem Obtains.permits (obtains : world.Obtains environment user last workflowId)
    {reader : User} (same : reader.id = user.id) :
    last.store.Permits reader [Scope.read, Scope.update] workflowId := by
  cases obtains with
  | @created heap data request detail after fits ended =>
      have declared := CreateRequest.declared_of_read fits
      have settles : (Workflows.create user request).Settles environment world.session _ :=
        Workflows.create_creates user declared
      rcases (settles.of_ok ended).adopts with ⟨row, adopts, named, -⟩
      rw [store_after, session_reading world environment rfl fits, ended, named]
      exact adopts.permits same
  | @imported entryId _ _ imports =>
      rcases imports.exists_session with ⟨summary, after, ended, named, saved, -⟩
      have settles : (Catalog.importEntry user entryId).Settles environment
          world.session _ := Catalog.importEntry_imports user entryId
      rcases (settles.of_ok ended).exists_adopted with ⟨row, middle, told, adopts, rights⟩
      rw [saved, ← named, ← told]
      exact rights.keepsRights.permits (adopts.permits same)

/-- Obtaining a workflow is a turn. -/
theorem Obtains.leads (obtains : world.Obtains environment user last workflowId) :
    world.Leads last := by
  cases obtains with
  | created => exact .turn environment _
  | imported imports =>
      rw [imports.last]
      exact .turn environment _

/-- The access model decides what a user can do. -/
theorem Settled.entrusts (settled : world.Settled) {userId : String}
    (permits : ∀ user : User, user.id = userId →
      world.store.Permits user [Scope.read, Scope.update] workflowId) :
    world.Entrusts userId workflowId where
  permits := permits
  reads user environment same := by
    have declared : ∀ row ∈ world.session.saved.workflows, row.Declared :=
      settled.sound.workflowsDeclared
    exact Workflows.get_allowed declared ((permits user same).mono (by decide))
  updates user environment heap data request same fits form := by
    have writable : world.store.Permits user [Scope.update] workflowId :=
      (permits user same).mono (by decide)
    have calmly : (Workflows.update user workflowId request).Calmly environment.calm
        world.session _ :=
      Workflows.update_calmly (UpdateRequest.declared_of_read fits) form
        (fun row found => settled.sound.workflowsDeclared row
          (Store.mem_of_accessibleWorkflow? found))
        writable
    exact calmly.exists_ok

/-- In every world that an empty one leads to, by turns of any users and by errands, with
any mishaps: every workflow is shared as its owner with a personal project that is
there, every sharing is of a workflow and with a project that are there, and every user
owns one personal project.  So a user who is there is never told that the personal
project is missing, when creating a workflow or importing an entry, as long as the
lookup does not miss what is there; and who obtained a workflow can read and update it
ever after. -/
theorem ownership_is_kept {world : World} {counters : Counters}
    (reached : Relation.ReflTransGen Leads (start [] [] [] counters) world) :
    (∀ row ∈ world.store.workflows, ∃ sharing ∈ world.store.sharings,
      ∃ project ∈ world.store.projects, sharing.workflowId = row.id ∧
        sharing.role = Role.workflowOwner ∧ sharing.projectId = project.id ∧
        project.type = .personal) ∧
    (∀ sharing ∈ world.store.sharings,
      (∃ row ∈ world.store.workflows, row.id = sharing.workflowId) ∧
        ∃ project ∈ world.store.projects, project.id = sharing.projectId) ∧
    (∀ user ∈ world.store.users, ∃! project, world.store.Houses user.id project) ∧
    (∀ (environment : Environment) (user : User),
      environment.Finds .personalProject →
      (∃ present ∈ world.store.users, present.id = user.id) →
      (∀ request, ((Workflows.create user request).outcome environment
        world.session).1 ≠ .error (.because .personalProjectMissing)) ∧
      ∀ entryId, ((Catalog.importEntry user entryId).outcome environment
        world.session).1 ≠ .error (.because .personalProjectMissing)) ∧
    ∀ (environment : Environment) (user : User) (last : World) (workflowId : String),
      world.Obtains environment user last workflowId →
      ∀ later, Relation.ReflTransGen Leads last later →
        later.Entrusts user.id workflowId := by
  have settled := ((settled_start counters).reaches reached).1
  have owned := settled.owned
  refine ⟨fun row held => owned.workflows row.id (List.mem_map_of_mem held), ?_,
    owned.housed.users, ?_, ?_⟩
  · intro sharing shared
    rcases owned.sharings sharing shared with ⟨workflow, project⟩
    exact ⟨List.mem_map.mp workflow, List.mem_map.mp project⟩
  · rintro environment user finds ⟨present, there, same⟩
    rcases owned.housed.users present there with ⟨project, houses, -⟩
    have found : (world.session.saved.personalProject? user.id).isSome := by
      rw [← same]
      exact houses.isSome
    exact ⟨Workflows.create_avoids finds found,
      Catalog.importEntry_avoids finds found fun entry held =>
        (settled.sound.store.entries entry held).snapshot⟩
  · intro environment user last workflowId obtains later continued
    rcases (obtains.leads.settled settled).reaches continued with ⟨settledLater, keeps⟩
    exact settledLater.entrusts fun reader same =>
      keeps.permits (obtains.permits same)

end World

/-! ## A user with a workflow -/

namespace Fair

/-- What the author is made from. -/
def authorDraft : UserDraft where
  email := "author"
  id? := some "author"
  firstName := none
  lastName := none
  role := "member"

/-- The world of the author alone. -/
def founded : World :=
  (World.start [] [] [] {}).managed weather (.user authorDraft)

/-- The author creates a workflow, and then a team project is made. -/
def expanded : World :=
  (founded.after weather (.act (.create (member "author") .empty creation))).managed
    weather (.team "Team")

theorem obtains_drawn : founded.Obtains weather (member "author")
    (founded.after weather (.act (.create (member "author") .empty creation)))
    (Identifier.Kind.workflow.numbered 1) := by
  have named : ((Workflows.create (member "author") drawn).outcome weather
      founded.session).1.toOption.map (·.summary.id) =
        some (Identifier.Kind.workflow.numbered 1) := by decide +kernel
  rcases ended : (Workflows.create (member "author") drawn).outcome weather
    founded.session with ⟨failure | detail, after⟩
  · rw [ended] at named
    cases named
  · rw [ended] at named
    rw [← Option.some.inj named]
    exact .created reads_drawn ended

end Fair

/-- The author owns a personal project from the beginning, and the workflow still
belongs to the author after a team project was made. -/
theorem World.author_keeps_workflow :
    (∃ user ∈ Fair.founded.store.users, user.id = "author" ∧
      ∃! project, Fair.founded.store.Houses user.id project) ∧
    Fair.expanded.Entrusts "author" (Identifier.Kind.workflow.numbered 1) := by
  have founded : Relation.ReflTransGen Leads (start [] [] [] {}) Fair.founded :=
    .single (.errand Fair.weather (.user Fair.authorDraft) trivial)
  have expanded : Relation.ReflTransGen Leads (Fair.founded.after Fair.weather
      (.act (.create (Fair.member "author") .empty Fair.creation))) Fair.expanded :=
    .single (.errand Fair.weather (.team "Team") trivial)
  rcases ownership_is_kept founded with ⟨-, -, housed, -, entrusts⟩
  refine ⟨?_, entrusts _ _ _ _ Fair.obtains_drawn _ expanded⟩
  have named : Fair.founded.store.users.map (·.id) = ["author"] := by decide +kernel
  rcases List.mem_map.mp (named ▸ List.mem_singleton_self "author") with
    ⟨user, there, same⟩
  exact ⟨user, there, same, housed user there⟩

end WorkflowExchange

import Mathlib.Logic.Relation
import WorkflowExchange.Exchange.Administration
import WorkflowExchange.Proofs.Exchange.Sound

/-!
# Errands

Users, team projects and the members of team projects come from outside of the
services.  Making one of them is an `Errand`, done in a unit of work that is committed
only when nothing failed before.  `Store.Manages` tells what an errand does then, and a
unit that fails leaves nothing but used up identifiers.

An exchange goes on by turns and errands, in any order and with any mishaps:
`World.Leads`.
-/

namespace WorkflowExchange

/-- What is done for the exchange in a unit of work of its own. -/
inductive Errand where
  | user (draft : UserDraft)
  | team (name : String)
  | member (projectId userId role : String)

namespace Errand

def perform : Errand → Work Unit
  | user draft => (Administration.createUser draft).done
  | team name => (Administration.createProject name .team).done
  | member projectId userId role =>
    (Administration.addMember projectId userId role).done

/-- An errand in a unit of work that is committed when the errand succeeded. -/
def work (errand : Errand) : Work Unit :=
  .unit do
    errand.perform
    .commit

/-- Members are added to team projects only. -/
def IsProper (store : Store) : Errand → Prop
  | member projectId _ _ =>
    ∃ project ∈ store.projects, project.id = projectId ∧ project.type = .team
  | _ => True

end Errand

/-! ## What an errand does -/

/-- An errand makes a user with a personal project, or a team project, or a membership
in a team project. -/
inductive Store.Manages (store : Store) : Store → Prop where
  | user {user : User} {project : Project} {stamps : Stamps}
      (new : ∀ present ∈ store.users, user.id ≠ present.id)
      (apart : ∀ present ∈ store.projects, project.id ≠ present.id)
      (personal : project.type = .personal) :
      Manages store { store with
        users := store.users ++ [user]
        projects := store.projects ++ [project]
        memberships := store.memberships ++
          [⟨project.id, user.id, Role.personalOwner, stamps⟩] }
  | team {project : Project}
      (apart : ∀ present ∈ store.projects, project.id ≠ present.id)
      (team : project.type = .team) :
      Manages store { store with projects := store.projects ++ [project] }
  | member {membership : Membership}
      (team : ∃ project ∈ store.projects, project.id = membership.projectId ∧
        project.type = .team) :
      Manages store
        { store with memberships := store.memberships ++ [membership] }

theorem Store.Manages.sound {counters : Counters} {first last : Store}
    (manages : first.Manages last) (sound : first.Sound counters) :
    last.Sound counters := by
  cases manages <;>
    exact ⟨sound.workflows, sound.sharings, sound.entries, sound.ids, sound.origins⟩

/-- Work of which only the end counts prepares what it does. -/
theorem Work.prepares_done {α : Type} {environment : Environment} {before : Session}
    {work : Work α} {holds : α → Session → Prop}
    {later : Session → Prop} (prepares : work.Prepares environment before holds)
    (weaker : ∀ result after, holds result after → later after) :
    work.done.Prepares environment before fun _ after => later after := by
  apply Work.prepares_bind prepares
  intro result after _ holding
  exact Work.prepares_pure (weaker result after holding)

namespace Administration

variable {environment : Environment} {before : Session}

theorem prepares_addMember (projectId userId role : String) :
    (addMember projectId userId role).Prepares environment before fun _ after =>
      ∃ stamps, before.draft.addMembership ⟨projectId, userId, role, stamps⟩ =
        some after.draft := by
  apply Work.prepares_bind Work.prepares_now
  rintro moment first - ⟨rfl, rfl⟩
  apply Work.prepares_bind Work.prepares_store
  rintro held second - ⟨rfl, rfl⟩
  apply Work.prepares_bind (Work.prepares_setAdded _)
  rintro _ third - ⟨added, -⟩
  exact Work.prepares_pure ⟨_, added⟩

theorem prepares_createProject (name : String) (type : ProjectType) :
    (createProject name type).Prepares environment before fun project after =>
      project.type = type ∧
        before.draft.addProject project = some after.draft := by
  apply Work.prepares_bind (Work.prepares_fresh .project)
  rintro id first - ⟨rfl, rfl⟩
  apply Work.prepares_bind Work.prepares_now
  rintro moment second - ⟨rfl, rfl⟩
  apply Work.prepares_bind Work.prepares_store
  rintro held third - ⟨rfl, rfl⟩
  apply Work.prepares_bind (Work.prepares_setAdded _)
  rintro _ fourth - ⟨added, -⟩
  exact Work.prepares_pure ⟨rfl, added⟩

/-- A personal project is made with the membership of its owner. -/
theorem prepares_createPersonalProject (userId name : String) :
    (createPersonalProject userId name).Prepares environment before
      fun project after => ∃ middle stamps, project.type = .personal ∧
        before.draft.addProject project = some middle ∧
        middle.addMembership ⟨project.id, userId, Role.personalOwner, stamps⟩ =
          some after.draft := by
  apply Work.prepares_bind (prepares_createProject name .personal)
  rintro project first - ⟨personal, added⟩
  apply Work.prepares_bind (prepares_addMember _ _ _)
  rintro _ second - ⟨stamps, joined⟩
  exact Work.prepares_pure ⟨_, stamps, personal, added, joined⟩

/-- A user is added, and then the personal project of the user. -/
theorem prepares_register (user : User) (name : String) :
    Work.Prepares (do
      .setAdded ((← Work.store).addUser user)
      let _ ← createPersonalProject user.id name
      pure user) environment before fun _ after =>
        before.draft.Manages after.draft := by
  apply Work.prepares_bind Work.prepares_store
  rintro held first - ⟨rfl, rfl⟩
  apply Work.prepares_bind (Work.prepares_setAdded _)
  rintro _ second - ⟨added, -⟩
  apply Work.prepares_bind (prepares_createPersonalProject _ _)
  rintro project third - ⟨middle, stamps, personal, placed, joined⟩
  rcases Store.addUser_eq_some.mp added with ⟨new, equal⟩
  rw [equal, Store.addProject_eq_some] at placed
  rcases placed with ⟨apart, rfl⟩
  rcases Store.addMembership_eq_some.mp joined with ⟨-, draft⟩
  apply Work.prepares_pure
  rw [draft]
  exact .user (fun present held => (new present held).1) apart personal

/-- Whether the identifier of a user is given or made, the user is added. -/
theorem prepares_createUser (draft : UserDraft) :
    (createUser draft).Prepares environment before fun _ after =>
      before.draft.Manages after.draft := by
  have given (id : String) : (pure id : Work String).Prepares environment before
      fun _ after => after = before := Work.prepares_pure rfl
  unfold createUser
  split
  · apply Work.prepares_bind (given _)
    rintro id first - rfl
    apply Work.prepares_bind Work.prepares_now
    rintro moment second - ⟨rfl, rfl⟩
    exact prepares_register _ _
  · apply Work.prepares_bind (Work.prepares_fresh .user)
    rintro id first - ⟨rfl, rfl⟩
    apply Work.prepares_bind Work.prepares_now
    rintro moment second - ⟨rfl, rfl⟩
    exact prepares_register _ _

end Administration

namespace Errand

variable {environment : Environment} {before : Session}

theorem prepares_perform (errand : Errand) (proper : errand.IsProper before.draft) :
    errand.perform.Prepares environment before fun _ after =>
      before.draft.Manages after.draft := by
  cases errand with
  | user draft =>
      exact Work.prepares_done (Administration.prepares_createUser draft)
        fun _ _ manages => manages
  | team name =>
      refine Work.prepares_done (Administration.prepares_createProject name .team) ?_
      rintro project after ⟨team, added⟩
      rcases Store.addProject_eq_some.mp added with ⟨apart, draft⟩
      rw [draft]
      exact .team apart team
  | member projectId userId role =>
      refine Work.prepares_done (Administration.prepares_addMember projectId userId role) ?_
      rintro membership after ⟨stamps, added⟩
      rcases Store.addMembership_eq_some.mp added with ⟨-, draft⟩
      rw [draft]
      exact .member proper

/-- Of an errand nothing is left, or all of what it does. -/
theorem leaves_work (errand : Errand) (proper : errand.IsProper before.saved) :
    errand.work.Leaves environment before fun store counters =>
      before.counters.AtMost counters ∧
        (store = before.saved ∨ before.saved.Manages store) := by
  apply Work.leaves_unit
  apply Work.leaves_bind (errand.prepares_perform proper)
  · intro after unsaved
    exact ⟨unsaved.counters, .inl unsaved.saved⟩
  · intro _ middle unsaved manages
    rw [← bind_pure Work.commit]
    apply Work.leaves_commit
    · exact ⟨unsaved.counters, .inl unsaved.saved⟩
    · exact ⟨unsaved.counters, .inr manages⟩

end Errand

/-! ## How an exchange goes on -/

namespace World

/-- The world after an errand; the publications that wait are left alone. -/
def managed (world : World) (environment : Environment) (errand : Errand) : World :=
  let session := (errand.work.outcome environment world.session).2
  { world with store := session.saved, counters := session.counters }

/-- One world leads to another by a turn or by an errand. -/
inductive Leads : World → World → Prop where
  | turn {world : World} (environment : Environment) (turn : Turn) :
      Leads world (world.after environment turn)
  | errand {world : World} (environment : Environment) (errand : Errand)
      (proper : errand.IsProper world.store) :
      Leads world (world.managed environment errand)

variable {world later : World}

theorem managed_cases (environment : Environment) {errand : Errand}
    (proper : errand.IsProper world.store) :
    world.counters.AtMost (world.managed environment errand).counters ∧
      ((world.managed environment errand).store = world.store ∨
        world.store.Manages (world.managed environment errand).store) := by
  have left : errand.work.Leaves environment world.session _ :=
    errand.leaves_work proper
  exact left

theorem Sound.managed (sound : world.Sound) (environment : Environment)
    {errand : Errand} (proper : errand.IsProper world.store) :
    (world.managed environment errand).Sound where
  store := by
    rcases managed_cases environment proper with ⟨most, same | manages⟩
    · rw [same]
      exact sound.store.widen most
    · exact (manages.sound sound.store).widen most
  waiting := sound.waiting

theorem Leads.sound (leads : world.Leads later) (sound : world.Sound) :
    later.Sound := by
  cases leads with
  | turn environment turn => exact sound.after environment turn
  | errand environment errand proper => exact sound.managed environment proper

end World

end WorkflowExchange

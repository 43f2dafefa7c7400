import WorkflowExchange.Proofs.Exchange.Calm
import WorkflowExchange.Proofs.Exchange.Sound

/-!
# Imports without mishaps

Without mishaps every user with a personal project can import an entry that is
open to the user: `Catalog.importEntry_calmly`.
-/

namespace WorkflowExchange

/-- A column of truth values takes them as they are. -/
theorem Column.truth_bool (truth : Bool) :
    Column.truth (.bool truth) = .ready truth := by
  have first : (Value.bool truth).agrees (.bool true) = truth := by
    cases truth <;> decide +kernel
  have second : (Value.bool truth).agrees (.bool false) = !truth := by
    cases truth <;> decide +kernel
  change (if (Value.bool truth).agrees (.bool true) then Prepared.ready true
    else if (Value.bool truth).agrees (.bool false) then .ready false
    else .malformed) = _
  rw [first, second]
  cases truth <;> rfl

/-- A copied graph can be stored. -/
theorem GraphCopy.IsJson.exists_prepared {graph : GraphCopy}
    (form : graph.IsJson) : ∃ stored, graph.live.prepared = .ready stored := by
  have nodes : (GraphCopy.live graph).nodes.IsJson :=
    Value.isJson_plainList form.nodes
  rcases nodes.column with ⟨nodes, nodesReady⟩
  rcases form.connections.column with ⟨connections, connectionsReady⟩
  rcases form.settings.column with ⟨settings, settingsReady⟩
  rcases form.staticData.column with ⟨staticData, staticReady⟩
  refine ⟨⟨nodes, connections, settings, staticData⟩, ?_⟩
  rw [LiveGraph.prepared, nodesReady]
  simp only [GraphCopy.live]
  rw [connectionsReady, settingsReady, staticReady]
  rfl

/-- A workflow with a text for its name can be stored when its graph can. -/
theorem WorkflowDraft.exists_prepared {graph : LiveGraph} {stored : Graph}
    (ready : graph.prepared = .ready stored) (name : String) (truth : Bool)
    (id versionId : String) (moment : Moment) :
    ∃ row, WorkflowDraft.prepared
      { name := .text name, active := .bool truth, graph := graph }
      id versionId moment = .ready row ∧ row.id = id := by
  have active : Column.truth.orElse false (.bool truth) = .ready truth :=
    Column.truth_bool truth
  refine ⟨{ id, versionId, name := .text name, active := truth, graph := stored
            stamps := .at moment }, ?_, rfl⟩
  rw [WorkflowDraft.prepared, ready, active]
  rfl

/-- An import of an entry of someone else counts a download. -/
theorem Store.Does.entryWith?_eq {moment : Moment} {before after : Counters}
    {user : User} {entryId : String} {entry : Entry} {first last : Store}
    (does : Store.Does moment before after (.importEntry user entryId) first last)
    (sound : last.Sound after)
    (found : first.entryWith? entryId = some entry)
    (others : entry.authorId ≠ .text user.id) :
    last.entryWith? entryId = some (entry.downloaded 1 moment) := by
  cases does with
  | importOwn foundAgain own =>
      rw [found] at foundAgain
      cases foundAgain
      exact absurd own others
  | importOther foundAgain _ deposited =>
      rw [found] at foundAgain
      cases foundAgain
      rcases entryWith?_eq_some found with ⟨member, named⟩
      rw [← deposited.entries_eq] at member
      have counted : entry.downloaded 1 moment ∈
          (Store.replaceEntry _ (entry.downloaded 1 moment)).entries :=
        List.mem_map.mpr ⟨entry, member, if_pos rfl⟩
      exact entryWith?_of_mem sound.ids counted named

namespace Store.Keyed

variable {counters : Counters} {store : Store}

/-- A workflow with the next identifier can be added. -/
theorem exists_addWorkflow (keyed : store.Keyed counters) {row : Workflow}
    (named : row.id =
      Identifier.Kind.workflow.numbered (counters.workflows + 1)) :
    ∃ last, store.addWorkflow row = some last := by
  refine ⟨_, Store.addWorkflow_eq_some.mpr ⟨?_, rfl⟩⟩
  intro present member
  rcases keyed.workflows present member with ⟨number, bound, equal⟩
  rw [named, equal]
  intro clash
  have numbers := Identifier.Kind.numbered_injective clash
  omega

/-- A workflow with the next identifier can be shared once it was added. -/
theorem exists_addSharing (keyed : store.Keyed counters) {row : Workflow}
    {next : Store} (named : row.id =
      Identifier.Kind.workflow.numbered (counters.workflows + 1))
    (added : store.addWorkflow row = some next) (projectId role : String)
    (stamps : Stamps) :
    ∃ last, next.addSharing ⟨row.id, projectId, role, stamps⟩ = some last := by
  rcases Store.addWorkflow_eq_some.mp added with ⟨-, rfl⟩
  refine ⟨_, Store.addSharing_eq_some.mpr ⟨?_, rfl⟩⟩
  rintro present member ⟨same, -⟩
  change row.id = present.workflowId at same
  rcases keyed.sharings present member with ⟨number, bound, equal⟩
  rw [named, equal] at same
  have numbers := Identifier.Kind.numbered_injective same
  omega

end Store.Keyed

namespace Work

variable {environment : Environment} {before : Session}

theorem calmly_setAdded {store? : Option Store} {draft : Store}
    (added : store? = some draft) :
    (setAdded store?).Calmly environment before fun _ _ => True := by
  subst added
  intro calm
  exact ⟨(), _, rfl, calm, trivial⟩

theorem calmly_personalProject {userId : String} {project : Project}
    (owned : before.draft.personalProject? userId = some project) :
    (personalProject userId).Calmly environment before
      fun _ _ => True := by
  apply calmly_bind (calmly_lookup fun draft => draft.personalProject? userId)
  rintro found after ⟨equal, -⟩
  rw [owned] at equal
  subst found
  exact calmly_pure trivial

theorem calmly_insertWorkflow {draft : WorkflowDraft}
    (keyed : before.draft.Keyed before.counters)
    (storable : ∀ id versionId moment, ∃ row,
      draft.prepared id versionId moment = .ready row ∧ row.id = id) :
    (insertWorkflow draft).Calmly environment before fun _ _ => True := by
  apply calmly_bind (calmly_fresh .workflow)
  rintro id first ⟨made, rfl⟩
  apply calmly_bind (calmly_fresh .version)
  rintro versionId second ⟨-, rfl⟩
  apply calmly_bind calmly_now
  rintro moment third ⟨-, rfl⟩
  rcases storable id versionId moment with ⟨row, ready, named⟩
  rcases keyed.exists_addWorkflow (named.trans made) with
    ⟨last, added⟩
  apply calmly_change
  apply calmly_bind (calmly_storing ready)
  rintro stored fourth ⟨equal, rfl⟩
  subst stored
  apply calmly_bind calmly_store
  rintro held fifth ⟨equal, rfl⟩
  subst held
  apply calmly_bind (calmly_setAdded added)
  intro _ sixth _
  exact calmly_pure trivial

theorem calmly_linkOwner {workflowId : String} {projectId : String}
    {last : Store}
    (added : before.draft.addSharing
      ⟨workflowId, projectId, Role.workflowOwner, .at environment.now⟩ =
        some last) :
    (linkOwner workflowId projectId).Calmly environment before
      fun _ _ => True := by
  apply calmly_change
  apply calmly_bind calmly_store
  rintro held first ⟨equal, rfl⟩
  subst held
  apply calmly_bind calmly_now
  rintro moment second ⟨equal, rfl⟩
  subst moment
  exact calmly_setAdded added

/-- A workflow that can be stored is added, and shared with the personal project of
a user. -/
theorem calmly_deposit {β : Type} {draft : WorkflowDraft} {userId : String}
    {project : Project} {next : LoadedWorkflow → Work β}
    {later : β → Session → Prop} (keyed : before.draft.Keyed before.counters)
    (owned : before.draft.personalProject? userId = some project)
    (storable : ∀ id versionId moment, ∃ row,
      draft.prepared id versionId moment = .ready row ∧ row.id = id)
    (continues : ∀ workflow middle,
      workflow = ⟨workflow.row, draft.name, draft.active, draft.graph⟩ →
        middle.draft.entries = before.draft.entries →
          (next workflow).Calmly environment middle later) :
    Calmly (do
      let project ← personalProject userId
      let workflow ← insertWorkflow draft
      linkOwner workflow.row.id project.id
      next workflow) environment before later := by
  apply calmly_bind ((calmly_personalProject owned).and_prepares
    (prepares_personalProject userId))
  rintro project first ⟨-, -, -, idle⟩
  have keyedly : first.draft.Keyed first.counters := by
    rw [idle.draft, idle.counters]
    exact keyed
  apply calmly_bind ((calmly_insertWorkflow keyedly storable).and_prepares
    (prepares_insertWorkflow _))
  rintro workflow second ⟨-, -, ready, made, added, -⟩
  rcases storable _ _ _ with ⟨row, stored, named⟩
  cases stored.symm.trans ready
  rcases keyedly.exists_addSharing named added project.id Role.workflowOwner
    (.at environment.now) with ⟨last, linkable⟩
  apply calmly_bind ((calmly_linkOwner linkable).and_prepares
    (prepares_linkOwner _ _))
  rintro _ third ⟨-, -, linked, -⟩
  refine continues workflow third made ?_
  rcases Store.addSharing_eq_some.mp linked with ⟨-, draft⟩
  rcases Store.addWorkflow_eq_some.mp added with ⟨-, draftBefore⟩
  rw [draft, draftBefore, idle.draft]

/-- Downloads of an entry that is there are counted. -/
theorem calmly_incrementDownloads {id : String} {entry : Entry}
    (found : before.draft.entryWith? id = some entry) :
    (incrementDownloads id 1).Calmly environment before
      fun affected _ => affected = 1 := by
  apply calmly_call
  have fits : ¬ (!Datum.isInt 1) = true := by decide
  simp only [fits, Bool.false_eq_true, ↓reduceIte]
  apply calmly_bind calmly_store
  rintro held first ⟨equal, rfl⟩
  subst held
  have there : (before.noted .incrementDownloads).draft.entryWith? id =
      some entry := found
  simp only [there]
  apply calmly_bind calmly_now
  rintro moment second ⟨-, rfl⟩
  apply calmly_bind calmly_store
  rintro held third ⟨-, rfl⟩
  apply calmly_bind (calmly_setStore _)
  rintro _ fourth -
  exact calmly_pure rfl

end Work

namespace Catalog

variable {environment : Environment} {before : Session}

theorem calmly_countDownload (user : User) {entryId : String} {entry : Entry}
    (found : before.draft.entryWith? entryId = some entry) :
    (countDownload user entryId entry).Calmly environment before
      fun _ _ => True := by
  rw [countDownload]
  by_cases own : entry.authorId = .text user.id
  · simp only [own, ne_eq, not_true_eq_false, ↓reduceIte]
    exact Work.calmly_pure trivial
  · simp only [own, ne_eq, not_false_eq_true, ↓reduceIte]
    apply Work.calmly_bind (Work.calmly_incrementDownloads found)
    rintro affected first rfl
    exact Work.calmly_pure trivial

/-- What a store gave back is copied. -/
theorem calmly_copied (context : Log.Context) (members : List (String × Json)) :
    (copied context (.ofJson (.object members))).Calmly environment before
      fun graph after => graph.Declared ∧ graph.IsJson ∧ before.Idle after := by
  rcases Heap.copyGraph_ofJson .empty members with
    ⟨graph, copied, form⟩
  intro calm
  rcases Work.calmly_ofTrial context copied calm with
    ⟨_, after, outcome, calmer, rfl, idle⟩
  exact ⟨_, after, outcome, calmer, Heap.declared_of_copyGraph copied, form,
    idle⟩

/-- A user with a personal project can import an entry that is open to the
user. -/
theorem importEntry_calmly (keyed : before.saved.Keyed before.counters)
    {user : User} {entryId : String} {entry : Entry} {project : Project}
    (found : before.saved.entryWith? entryId = some entry)
    (visible : isOpenTo entry user = true)
    (owned : before.saved.personalProject? user.id = some project) :
    (importEntry user entryId).Calmly environment before fun _ _ => True := by
  apply Work.calmly_transaction
  apply Work.calmly_bind (Work.calmly_lookup fun draft =>
    draft.entryWith? entryId)
  rintro there first ⟨equal, idle⟩
  rw [show before.discarded.draft.entryWith? entryId = some entry
    from found] at equal
  subst there
  simp only [visible, Bool.not_true, Bool.false_eq_true, ↓reduceIte]
  rcases (keyed.entries entry (Store.entryWith?_eq_some found).1).snapshot with
    ⟨members, snapshot⟩
  rw [snapshot]
  apply Work.calmly_bind (calmly_copied _ members)
  rintro graph second ⟨declared, form, secondIdle⟩
  have quiet := idle.trans secondIdle
  have ownedHere : second.draft.personalProject? user.id = some project := by
    rw [quiet.draft]
    exact owned
  have keyedly : second.draft.Keyed second.counters := by
    rw [quiet.draft, quiet.counters]
    exact keyed
  rcases form.exists_prepared with ⟨stored, ready⟩
  apply Work.calmly_deposit keyedly ownedHere
    (WorkflowDraft.exists_prepared ready (entry.name.shown ++ importedMark) false)
  intro workflow fifth made entries
  have kept : fifth.draft.entryWith? entryId = some entry := by
    rw [Store.entryWith?, entries, quiet.draft]
    exact found
  apply Work.calmly_bind (calmly_countDownload user kept)
  rintro _ sixth -
  apply Work.calmly_bind Work.calmly_commit
  rintro _ seventh -
  apply Work.calmly_bind (Work.calmly_log _ _)
  rintro _ eighth -
  rcases WorkflowSummary.fits workflow
    (by rw [made]; exact ⟨_, rfl⟩) (by rw [made]; exact ⟨_, rfl⟩) with
    ⟨summary, fits⟩
  intro calm
  exact ⟨summary, eighth, by rw [fits]; rfl, calm, trivial⟩

end Catalog

end WorkflowExchange

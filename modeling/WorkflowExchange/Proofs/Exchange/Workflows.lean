import WorkflowExchange.Proofs.Exchange.Deed
import WorkflowExchange.Proofs.Exchange.Records
import WorkflowExchange.Proofs.Reading

/-!
# What the operations on workflows do

Creating and updating a workflow fail with nothing saved or commit once; after
the commit the workflow is shown, which cannot fail any more.
-/

namespace WorkflowExchange

/-! ## What requests ask for -/

theorem CreateRequest.declared_draft {request : CreateRequest}
    (declared : request.graph.Declared) : request.draft.graph.Declared := by
  rcases request with ⟨name, ⟨nodes, connections, settings, staticData⟩, active⟩
  rcases declared with ⟨nodesKeyed, connectionsKeyed, settingsKeyed,
    staticKeyed⟩
  constructor
  · cases nodes with
    | none => exact ⟨[], rfl, by simp⟩
    | some nodes => exact ⟨nodes, rfl, nodesKeyed nodes rfl⟩
  · cases connections with
    | none => exact ⟨_, _, _, rfl, by simp⟩
    | some part => exact connectionsKeyed part rfl
  · rcases settings with _ | _ | part
    · exact .inr rfl
    · exact .inr rfl
    · exact .inl (settingsKeyed _ rfl part rfl)
  · rcases staticData with _ | _ | part
    · exact .inr rfl
    · exact .inr rfl
    · exact .inl (staticKeyed _ rfl part rfl)

/-- What is changed in an optional value was there. -/
theorem exists_of_optionMapM {α β : Type} {change : α → Except Fault β}
    {given : Option α} {result : Option β}
    (changed : given.mapM change = .ok result) :
    ∀ value ∈ result, ∃ source ∈ given, change source = .ok value := by
  cases given with
  | none =>
      cases changed
      simp
  | some source =>
      change (some <$> change source) = .ok result at changed
      rcases Except.map_eq_ok.mp changed with ⟨value, equal, rfl⟩
      intro other member
      cases member
      exact ⟨source, rfl, equal⟩

/-- What is changed in a list was there. -/
theorem exists_of_listMapM {α β : Type} {change : α → Except Fault β}
    {given : List α} {results : List β}
    (changed : given.mapM change = .ok results) :
    ∀ result ∈ results, ∃ source ∈ given, change source = .ok result := by
  induction given generalizing results with
  | nil =>
      cases changed
      simp
  | cons source rest hypothesis =>
      rw [List.mapM_cons] at changed
      rcases Except.bind_eq_ok.mp changed with ⟨first, headed, changed⟩
      rcases Except.bind_eq_ok.mp changed with ⟨others, rested, changed⟩
      cases changed
      intro result member
      rcases List.mem_cons.mp member with rfl | member
      · exact ⟨source, List.mem_cons_self, headed⟩
      · rcases hypothesis rested result member with ⟨other, place, equal⟩
        exact ⟨other, List.mem_cons_of_mem _ place, equal⟩

namespace UpdateRequest

theorem Declared.bare {request shown : UpdateRequest}
    (declared : request.Declared) (bare : request.bare = .ok shown) :
    shown.Declared := by
  have part {sent result : Sent (Option Value)}
      (keyed : ∀ given ∈ sent, ∀ value ∈ given, value.HasTextKeys)
      (changed : sent.mapM (Option.mapM Value.bare) = .ok result) :
      ∀ given ∈ result, ∀ value ∈ given, value.HasTextKeys := by
    intro given member value place
    rcases exists_of_optionMapM changed given member with ⟨source, here, changed⟩
    rcases exists_of_optionMapM changed value place with ⟨inner, inside, equal⟩
    exact (keyed source here inner inside).bare equal
  rw [UpdateRequest.bare] at bare
  rcases Except.bind_eq_ok.mp bare with ⟨nodes, nodesBare, bare⟩
  rcases Except.bind_eq_ok.mp bare with ⟨connections, connectionsBare, bare⟩
  rcases Except.bind_eq_ok.mp bare with ⟨settings, settingsBare, bare⟩
  rcases Except.bind_eq_ok.mp bare with ⟨staticData, staticBare, bare⟩
  cases bare
  refine ⟨?_, part declared.connections connectionsBare,
    part declared.settings settingsBare, part declared.staticData staticBare⟩
  intro given member found place node inside
  rcases exists_of_optionMapM nodesBare given member with ⟨source, here, changed⟩
  rcases exists_of_optionMapM changed found place with ⟨items, there, changed⟩
  rcases exists_of_listMapM changed node inside with ⟨item, within, equal⟩
  exact (declared.nodes source here items there item within).bare equal

/-- The new value that a request asks for in a field. -/
def new? (request : UpdateRequest) : WorkflowField → Option Value
  | .name => request.name.join.map .text
  | .nodes => request.nodes.join.map .plainList
  | .connections => request.connections.join
  | .settings => request.settings.map .ofOption
  | .staticData => request.staticData.map .ofOption
  | .active => request.active.join.map .bool

theorem lookup_change (field other : WorkflowField) (value? : Option Value) :
    (value?.map fun value => (field, value)).toList.lookup other =
      if other = field then value? else none := by
  cases value? with
  | none => exact (ite_self none).symm
  | some value =>
      by_cases same : other = field
      · simp [same]
      · have different : (other == field) = false := beq_eq_false_iff_ne.mpr same
        rw [Option.map_some, Option.toList_some, List.lookup_cons, different,
          List.lookup_nil, if_neg same]

theorem lookup_changes (request : UpdateRequest) (field : WorkflowField) :
    request.changes.lookup field = request.new? field := by
  simp only [changes, List.lookup_append, lookup_change]
  cases field <;> simp [new?]

theorem Declared.changes {request : UpdateRequest}
    (declared : request.Declared) : request.changes.Declared := by
  intro field value found
  rw [lookup_changes] at found
  cases field with
  | name =>
      rcases Option.map_eq_some_iff.mp found with ⟨name, -, rfl⟩
      exact ⟨name, rfl⟩
  | active =>
      rcases Option.map_eq_some_iff.mp found with ⟨truth, -, rfl⟩
      exact ⟨truth, rfl⟩
  | nodes =>
      rcases Option.map_eq_some_iff.mp found with ⟨nodes, sent, rfl⟩
      exact ⟨nodes, rfl, declared.nodes _ (Option.join_eq_some_iff.mp sent) nodes rfl⟩
  | connections =>
      exact declared.connections _ (Option.join_eq_some_iff.mp found) value rfl
  | settings =>
      rcases Option.map_eq_some_iff.mp found with ⟨_ | part, sent, rfl⟩
      · exact .inr rfl
      · exact .inl (declared.settings _ sent part rfl)
  | staticData =>
      rcases Option.map_eq_some_iff.mp found with ⟨_ | part, sent, rfl⟩
      · exact .inr rfl
      · exact .inl (declared.staticData _ sent part rfl)

end UpdateRequest

namespace Workflows

variable {environment : Environment} {before : Session}

/-- A workflow with the graph of a request was created for a user, and it is
shown under its identifier. -/
structure Created (environment : Environment) (before : Session) (user : User)
    (request : CreateRequest) (detail : WorkflowDetail) (after : Session) :
    Prop where
  did : Session.Did environment.now .create before after
  adopts : ∃ row, before.saved.Adopts user row after.saved ∧
    detail.summary.id = row.id ∧
    request.draft.graph.prepared = .ready row.graph ∧
    WorkflowDetail.ofLoaded ⟨row, request.draft.name, request.draft.active,
      request.draft.graph⟩ = .fits detail

theorem create_creates (user : User) {request : CreateRequest}
    (declared : request.graph.Declared) :
    (create user request).Settles environment before fun detail after =>
      Created environment before user request detail after := by
  apply Work.settles_transaction
  apply Work.settles_bind (Work.prepares_personalProject user.id)
  rintro project first unsaved ⟨owned, idle⟩
  apply Work.settles_bind (Work.prepares_insertWorkflow request.draft)
  rintro workflow second inserting ⟨ready, made, added, counters⟩
  have graph := CreateRequest.declared_draft declared
  rcases WorkflowDraft.declared_of_prepared ⟨request.name, rfl⟩
    graph.admitted ready with ⟨rowDeclared, named⟩
  apply Work.settles_bind (Work.prepares_linkOwner workflow.row.id project.id)
  rintro _ third linking ⟨linked, sameCounters⟩
  have live : workflow.Declared := by
    rw [made]
    exact ⟨⟨_, rfl⟩, ⟨_, rfl⟩, graph⟩
  rcases WorkflowDetail.fits live with ⟨detail, fits⟩
  apply Work.settles_reported (congrArg Fit.toExcept fits)
  intro after last
  have stored := WorkflowDraft.stored_of_prepared ready
  rw [idle.counters] at named counters stored
  have numbered : before.counters.Makes third.counters .workflow
      workflow.row.id := by
    rw [named, sameCounters, counters]
    exact Counters.makes_next (Nat.le_refl _)
  have version : before.counters.Makes third.counters .version
      workflow.row.versionId := by
    rw [stored.version, sameCounters, counters]
    exact Counters.makes_next (Nat.le_refl _)
  rw [idle.draft] at added
  have adopts : before.saved.Adopts user workflow.row third.draft :=
    Store.adopts_of_added owned added linked
  have saved : after.discarded.saved = third.draft := last.saved
  refine ⟨Session.did_of_committed ((unsaved.trans inserting).trans linking)
    (.create (adopts.deposited rowDeclared numbered version)) last, workflow.row, ?_,
    WorkflowDetail.id_of_ofLoaded fits, stored.graph, ?_⟩
  · rw [saved]
    exact adopts
  · rw [← made]
    exact fits

/-- Creating a workflow adds it and shares it with the project of the user. -/
theorem create_settles (user : User) {request : CreateRequest}
    (declared : request.graph.Declared) :
    (create user request).Settles environment before fun _ after =>
      Session.Did environment.now .create before after :=
  (create_creates user declared).mono fun _ _ created => created.did

theorem get_prepares (user : User) (workflowId : String) :
    (get user workflowId).Prepares environment before fun detail _ => ∃ row,
      before.saved.accessibleWorkflow? user [Scope.read] workflowId = some row ∧
      (WorkflowDetail.ofLoaded (.ofRow row)).toExcept = .ok detail := by
  apply Work.prepares_unit
  apply Work.prepares_bind (Work.prepares_accessible? user _ workflowId)
  rintro found first - ⟨present, -⟩
  cases found with
  | none => exact Work.prepares_refuse
  | some row =>
      apply Work.Prepares.mono (Work.prepares_ofExcept _)
      rintro detail after - ⟨shown, -⟩
      exact ⟨row, present row rfl, shown⟩

/-- What an update leaves: no change of a row was asked for, or the row was replaced
by what the changes make of it, with the version after them. -/
inductive Updates (environment : Environment) (before : Session) (row : Workflow)
    (changes : Changes) (detail : WorkflowDetail) (after : Session) : Prop where
  | nothing (empty : changes = [])
      (shown : WorkflowDetail.ofLoaded (.ofRow row) = .fits detail)
      (unsaved : before.Unsaved after)
  | replaced {changed : Workflow} {versionId : String} {stamps : Stamps}
      (asked : changes ≠ [])
      (ready : changes.row (.ofRow row) = .ready changed)
      (version : versionId = changes.version row.versionId before.counters.versions)
      (stamped : stamps = row.stamps.touched environment.now)
      (shown : WorkflowDetail.ofLoaded { changes.seen (.ofRow row) with
        row := { changed with versionId, stamps } } = .fits detail)
      (saved : after.saved =
        before.saved.replaceWorkflow { changed with versionId, stamps })
      (did : Session.Did environment.now .update before after)

/-- An update of a workflow makes the changes that the bare request asks for. -/
theorem update_updates (user : User) (workflowId : String)
    {request : UpdateRequest} (declared : request.Declared)
    (stored : ∀ row, before.saved.accessibleWorkflow? user [Scope.update]
      workflowId = some row → row.Declared) :
    (update user workflowId request).Settles environment before
      fun detail after => ∃ bare row, request.bare = .ok bare ∧
        before.saved.accessibleWorkflow? user [Scope.update] workflowId = some row ∧
        Updates environment before row bare.changes detail after := by
  apply Work.settles_bind (Work.prepares_ofExcept _)
  rintro bare before - ⟨stripped, rfl⟩
  have isBare : request.bare = .ok bare := by
    cases result : request.bare <;> rw [result] at stripped <;> cases stripped
    rfl
  have changesDeclared := (declared.bare isBare).changes
  apply Work.settles_transaction
  apply Work.settles_bind (Work.prepares_accessible? user _ workflowId)
  rintro found first unsaved ⟨present, idle⟩
  cases found with
  | none =>
      apply Work.settles_bind (Work.prepares_accessible? user _ workflowId)
      rintro readable second - -
      cases readable with
      | none => exact Work.settles_refuse
      | some row => exact Work.settles_refuse
  | some row =>
      have held := Store.mem_of_accessibleWorkflow? (present row rfl)
      have rowDeclared := stored row (present row rfl)
      by_cases empty : bare.changes.isEmpty
      · simp only [empty, ↓reduceIte]
        rcases WorkflowDetail.fits rowDeclared.loaded with ⟨detail, fits⟩
        apply Work.Settles.mono (Work.prepares_ofExcept _)
        rintro result after ⟨more, shown, -⟩
        rw [fits] at shown
        cases shown
        have total := unsaved.trans more
        exact ⟨bare, row, isBare, present row rfl,
          .nothing (List.isEmpty_iff.mp empty) fits
            ⟨total.saved, total.commits, total.counters⟩⟩
      · simp only [empty, Bool.false_eq_true, ↓reduceIte]
        apply Work.settles_bind (Work.prepares_updateWorkflow _ _)
        rintro updated second updating
          ⟨changed, versionId, ready, made, ⟨version, counters⟩, draft⟩
        rcases changesDeclared.row rowDeclared ready with ⟨kept, same⟩
        have seen := changesDeclared.seen rowDeclared.loaded
        have live : updated.Declared := by
          rw [made]
          exact ⟨seen.name, seen.active, seen.graph⟩
        rcases WorkflowDetail.fits live with ⟨detail, fits⟩
        apply Work.settles_reported (congrArg Fit.toExcept fits)
        intro after last
        rw [idle.draft, made] at draft
        rw [made] at fits
        rw [idle.counters] at version counters
        have made : versionId = row.versionId ∨
            before.counters.Makes second.counters .version versionId := by
          by_cases graph : bare.changes.any (·.1.isOfGraph)
          · right
            rw [version, Changes.version, if_pos graph, counters graph]
            exact Counters.makes_next (Nat.le_refl _)
          · left
            rw [version, Changes.version, if_neg graph]
            rfl
        have saved : after.discarded.saved = second.draft := last.saved
        refine ⟨bare, row, isBare, present row rfl,
          .replaced (fun nothing => empty (List.isEmpty_iff.mpr nothing)) ready version rfl
            fits (saved.trans draft)
            (Session.did_of_committed (unsaved.trans updating) ?_ last)⟩
        rw [draft]
        exact .update held ⟨kept.name, kept.active, kept.graph, kept.distinct⟩
          same made

/-- Updating a workflow either has nothing to change, or replaces it. -/
theorem update_settles (user : User) (workflowId : String)
    {request : UpdateRequest} (declared : request.Declared)
    (stored : ∀ row ∈ before.saved.workflows, row.Declared) :
    (update user workflowId request).Settles environment before fun _ after =>
      before.Unsaved after ∨
        Session.Did environment.now .update before after := by
  refine (update_updates user workflowId declared fun row found =>
    stored row (Store.mem_of_accessibleWorkflow? found)).mono ?_
  rintro detail after ⟨bare, row, -, -, updates⟩
  cases updates with
  | nothing empty shown unsaved => exact .inl unsaved
  | replaced asked ready version stamped shown saved did => exact .inr did

end Workflows

end WorkflowExchange

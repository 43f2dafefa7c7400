import WorkflowExchange.Proofs.Exchange.Provenance

/-!
# Workflows that hold anything

The services store graphs of the declared kinds only, but a table may hold others:
nodes that are nested too deeply, or that are no objects.  So between two turns
someone may write any JSON to the graph of a workflow, a `World.Event` like a turn.
Showing such a workflow can fail, even after an update of it was committed.

The catalog does not notice.  Every entry has a snapshot of which copying changes
nothing, and so has every publication that waits: `World.Steady` is an invariant of
whatever happens (`World.Steady.happen`).
-/

namespace WorkflowExchange

/-- The name of a workflow is a text. -/
def Workflow.Titled (row : Workflow) : Prop :=
  ∃ content, row.name = .text content

theorem Workflow.Declared.titled {row : Workflow} (declared : row.Declared) :
    row.Titled := by
  rcases declared.name with ⟨content, named⟩
  refine ⟨content, ?_⟩
  cases name : row.name with
  | text other =>
      rw [name] at named
      cases named
      rfl
  | bytes other =>
      rw [name] at named
      cases named

/-- A workflow was replaced by one with its identifier; its name is a text and the
keys of its graph are different if they were. -/
def Store.Rewrites (first last : Store) : Prop :=
  ∃ old changed, old ∈ first.workflows ∧ changed.id = old.id ∧
    (old.Titled → changed.Titled) ∧
    (old.graph.Distinct → changed.graph.Distinct) ∧
    last = first.replaceWorkflow changed

/-- The names of all workflows are texts. -/
def Store.HasTitles (store : Store) : Prop :=
  ∀ row ∈ store.workflows, row.Titled

namespace Store

variable {counters : Counters} {first last : Store}

theorem Rewrites.keyed (rewrites : first.Rewrites last)
    (keyed : first.Keyed counters) : last.Keyed counters := by
  rcases rewrites with ⟨old, changed, held, same, -, -, rfl⟩
  exact keyed.replaceWorkflow held same

theorem Rewrites.hasDistinctKeys (rewrites : first.Rewrites last)
    (distinct : first.HasDistinctKeys) : last.HasDistinctKeys := by
  rcases rewrites with ⟨old, changed, held, -, -, kept, rfl⟩
  intro row member
  rcases mem_replaceWorkflow member with place | rfl
  · exact distinct row place
  · exact kept (distinct old held)

theorem Rewrites.hasTitles (rewrites : first.Rewrites last)
    (titled : first.HasTitles) : last.HasTitles := by
  rcases rewrites with ⟨old, changed, held, -, kept, -, rfl⟩
  intro row member
  rcases mem_replaceWorkflow member with place | rfl
  · exact titled row place
  · exact kept (titled old held)

theorem Rewrites.entries_eq (rewrites : first.Rewrites last) :
    last.entries = first.entries := by
  rcases rewrites with ⟨old, changed, -, -, -, -, rfl⟩
  rfl

/-- After a deed the keys of all graphs are different if they were before. -/
theorem Does.hasDistinctKeys {moment : Moment} {before after : Counters}
    {deed : Deed} (does : Store.Does moment before after deed first last)
    (distinct : first.HasDistinctKeys) : last.HasDistinctKeys := by
  intro row member
  rcases does.mem_workflows member with held | declared
  · exact distinct row held
  · exact declared.distinct

/-- After a deed all names are texts if they were before. -/
theorem Does.hasTitles {moment : Moment} {before after : Counters} {deed : Deed}
    (does : Store.Does moment before after deed first last)
    (titled : first.HasTitles) : last.HasTitles := by
  intro row member
  rcases does.mem_workflows member with held | declared
  · exact titled row held
  · exact declared.titled

end Store

/-! ## Updates of any workflow -/

/-- A new name that a request asks for is a text. -/
theorem UpdateRequest.changes_name {request : UpdateRequest} {value : Value}
    (found : request.changes.lookup .name = some value) :
    ∃ content, value = .text content := by
  rw [lookup_changes] at found
  rcases Option.map_eq_some_iff.mp found with ⟨content, -, rfl⟩
  exact ⟨content, rfl⟩

/-- Changes with a text for a new name keep the name of a row a text. -/
theorem Changes.row_titled {changes : Changes} {old changed : Workflow}
    (named : ∀ value ∈ changes.lookup .name, ∃ content, value = .text content)
    (ready : changes.row (.ofRow old) = .ready changed) (titled : old.Titled) :
    changed.Titled := by
  simp only [Changes.row, Prepared.seq_eq_ready, Prepared.map_eq_ready] at ready
  rcases ready with ⟨_, _, ⟨_, active, ⟨name, nameReady, rfl⟩, -, rfl⟩, -, rfl⟩
  rcases Column.changed_eq_ready.mp nameReady with
    ⟨-, rfl⟩ | ⟨value, found, -, stored⟩
  · exact titled
  · rcases named value found with ⟨content, rfl⟩
    cases stored
    exact ⟨content, rfl⟩

/-- Of an update nothing is left, or a workflow was replaced, even when it cannot be
shown in the end. -/
theorem Workflows.update_leaves (environment : Environment) (before : Session)
    (user : User) (workflowId : String) (request : UpdateRequest) :
    (update user workflowId request).Leaves environment before
      fun store counters => before.counters.AtMost counters ∧
        (store = before.saved ∨ before.saved.Rewrites store) := by
  have kept {middle : Session} (unsaved : before.Unsaved middle) (after : Session)
      (more : middle.Unsaved after) : before.counters.AtMost after.counters ∧
        (after.saved = before.saved ∨ before.saved.Rewrites after.saved) :=
    ⟨(unsaved.trans more).counters, .inl (unsaved.trans more).saved⟩
  have begun : before.Unsaved before.discarded := ⟨rfl, rfl, .refl _⟩
  apply Work.leaves_bind (Work.prepares_ofExcept _) (kept (.refl before))
  rintro bare before - ⟨-, rfl⟩
  apply Work.leaves_transaction
  apply Work.leaves_bind (Work.prepares_accessible? user _ workflowId) (kept begun)
  rintro found first finding ⟨present, idle⟩
  cases found with
  | none =>
      apply Work.leaves_bind (Work.prepares_accessible? user _ workflowId)
        (kept (begun.trans finding))
      rintro readable second reading -
      have refusing := kept (begun.trans (finding.trans reading))
      cases readable with
      | none => exact refusing _ (.refl _)
      | some row => exact refusing _ (.refl _)
  | some row =>
      have held := Store.mem_of_accessibleWorkflow? (present row rfl)
      by_cases empty : bare.changes.isEmpty
      · simp only [empty, ↓reduceIte]
        exact Work.leaves_of_prepares (Work.prepares_ofExcept _)
          (kept (begun.trans finding))
      · simp only [empty, Bool.false_eq_true, ↓reduceIte]
        apply Work.leaves_bind (Work.prepares_updateWorkflow _ _)
          (kept (begun.trans finding))
        rintro updated second updating ⟨changed, versionId, ready, made, -, draft⟩
        have unsaved := begun.trans (finding.trans updating)
        rcases Changes.row_keeps ready with ⟨same, distinct⟩
        apply Work.leaves_commit (kept unsaved _ (.refl _))
        -- What follows the commit saves nothing, whether the workflow is shown or not.
        have rewrites : before.saved.Rewrites second.draft := by
          have titled : row.Titled → changed.Titled :=
            Changes.row_titled (fun _ => UpdateRequest.changes_name) ready
          refine ⟨row, updated.row, held, ?_, ?_, ?_, ?_⟩
          · rw [made]
            exact same
          · rw [made]
            exact titled
          · rw [made]
            exact distinct
          · rw [draft, idle.draft]
            rfl
        have reported (after : Session) (more : second.committed.Unsaved after) :
            before.counters.AtMost after.counters ∧
              (after.saved = before.saved ∨ before.saved.Rewrites after.saved) := by
          refine ⟨unsaved.counters.trans more.counters, .inr ?_⟩
          rw [more.saved]
          exact rewrites
        apply Work.leaves_bind (Work.prepares_log _ _) reported
        rintro _ third telling -
        exact Work.leaves_of_prepares (Work.prepares_ofExcept _)
          fun after more => reported after (telling.trans more)

namespace World

variable {turn : Turn}

/-- Of a turn that updates a workflow nothing is left, or a workflow was replaced;
no publication begins to wait. -/
theorem after_of_update (world : World) (environment : Environment)
    (updates : turn.isUpdate = true) :
    world.counters.AtMost (world.after environment turn).counters ∧
      ((world.after environment turn).store = world.store ∨
        world.store.Rewrites (world.after environment turn).store) := by
  rw [store_after, counters_after]
  cases turn with
  | act action =>
      cases action with
      | update user workflowId heap data =>
          have nothing (after : Session) (unsaved : world.session.Unsaved after) :
              world.counters.AtMost after.counters ∧
                (after.saved = world.store ∨ world.store.Rewrites after.saved) :=
            ⟨unsaved.counters, .inl unsaved.saved⟩
          change (world.work (.act (.update user workflowId heap data))).Leaves
            environment world.session fun store counters =>
              world.counters.AtMost counters ∧
                (store = world.store ∨ world.store.Rewrites store)
          apply Work.Leaves.andPure
          apply Work.leaves_bind (Work.prepares_ofExcept _) nothing
          rintro request _ - ⟨-, rfl⟩
          exact (Workflows.update_leaves environment world.session user workflowId
            request).andPure
      | _ => cases updates
  | _ => cases updates

end World

/-! ## What is copied no further -/

/-- What holds of every store, whatever happens: the names of workflows are texts, and
the snapshots of all entries are graphs of which copying changes nothing, and come
from workflows that were made. -/
structure Store.Steady (counters : Counters) (store : Store) : Prop where
  keyed : store.Keyed counters
  titled : store.HasTitles
  distinct : store.HasDistinctKeys
  whole : ∀ entry ∈ store.entries, ∃ graph : Graph,
    entry.snapshot = graph.toJson ∧ graph.Whole
  traced : store.Traced counters

/-- What holds of every publication that waits, whatever happens: its graph is one of
which copying changes nothing, and its workflow was made. -/
structure Publication.Steady (counters : Counters) (publication : Publication) :
    Prop where
  whole : ∃ graph : Graph, publication.graph = graph.toCopy ∧ graph.Whole
  made : ∃ number ≤ counters.workflows, publication.request.workflowId =
    Identifier.Kind.workflow.numbered number

/-- What holds of every world, whatever happens. -/
structure World.Steady (world : World) : Prop where
  store : world.store.Steady world.counters
  waiting : ∀ publication ∈ world.waiting, publication.Steady world.counters

theorem World.Steady.keyed_session {world : World} (steady : world.Steady) :
    world.session.saved.Keyed world.session.counters :=
  steady.store.keyed

theorem Publication.Steady.widen {counters later : Counters}
    {publication : Publication} (steady : publication.Steady counters)
    (most : counters.AtMost later) : publication.Steady later where
  whole := steady.whole
  made := by
    rcases steady.made with ⟨number, bound, equal⟩
    exact ⟨number, Nat.le_trans bound (most .workflow), equal⟩

namespace Store

variable {counters : Counters} {first last : Store}

theorem Steady.widen {later : Counters} (steady : first.Steady counters)
    (most : counters.AtMost later) : first.Steady later :=
  ⟨steady.keyed.widen most, steady.titled, steady.distinct, steady.whole,
    steady.traced.widen most⟩

theorem Rewrites.steady (rewrites : first.Rewrites last)
    (steady : first.Steady counters) : last.Steady counters where
  keyed := rewrites.keyed steady.keyed
  titled := rewrites.hasTitles steady.titled
  distinct := rewrites.hasDistinctKeys steady.distinct
  whole := by
    rw [rewrites.entries_eq]
    exact steady.whole
  traced := by
    rw [Traced, rewrites.entries_eq]
    exact steady.traced

end Store

namespace World

variable {world : World} {environment : Environment} {turn : Turn}
  {publication : Publication}

/-- What a turn takes from a workflow, whatever that holds, is steady. -/
theorem Steady.taken (steady : world.Steady)
    (taken : world.taken? environment turn = some publication) :
    publication.Steady world.counters := by
  rcases steady.store with ⟨keyed, -, distinct, -, -⟩
  rcases (isSnapshot_of_taken taken).isStored distinct with ⟨row, found, stored⟩
  have there := Store.workflow?_eq_some
    (Store.accessibleWorkflow?_eq_some.mp found).2
  rcases keyed.workflows row there.1 with ⟨number, bound, equal⟩
  exact ⟨⟨_, stored.copy, (distinct row there.1).whole_tidy⟩, number, bound,
    there.2.symm.trans equal⟩

/-- What a turn writes is steady. -/
theorem Steady.called (steady : world.Steady) {call : PublishCall}
    (called : world.call? environment turn = some call) :
    call.publication.Steady world.counters := by
  rcases call?_eq_some called with ⟨-, finished⟩
  unfold finished? at finished
  split at finished
  · exact steady.waiting _ (List.mem_of_getElem? finished)
  · exact steady.taken finished
  · cases finished

theorem Steady.store_after_of_acts (steady : world.Steady)
    (acts : world.Acts environment turn) :
    (world.after environment turn).store.Steady
      (world.after environment turn).counters := by
  have ids := steady.store.keyed.ids
  have traced := traced_after ids acts
    (fun call called => ((steady.called called).widen acts.1).made)
    steady.store.traced
  have whole : ∀ entry ∈ (world.after environment turn).store.entries,
      ∃ graph : Graph, entry.snapshot = graph.toJson ∧ graph.Whole := by
    rcases places_or_kept ids acts with
      ⟨call, last, placed, called, places, saved⟩ | kept
    · rcases (steady.called called).whole with ⟨graph, copied, whole⟩
      have given : call.fields.snapshot = .ofJson graph.toJson := by
        rw [← whole.formed.toValue, ← copied]
        rfl
      rw [saved]
      intro entry member
      rcases places.kept_or_given whole.distinct.toJson trivial given member with
        ⟨old, held, same⟩ | taken
      · rw [same]
        exact steady.store.whole old held
      · exact ⟨graph, taken, whole⟩
    · intro entry member
      rcases kept entry member with ⟨old, held, downloads, stamps, rfl⟩
      exact steady.store.whole old held
  rcases acts with ⟨most, ⟨same, -⟩ | ⟨-, deed, -, does⟩⟩
  · rw [same]
    exact steady.store.widen most
  · exact ⟨does.keyed most steady.store.keyed, does.hasTitles steady.store.titled,
      does.hasDistinctKeys steady.store.distinct, whole, traced⟩

/-- A turn leads from a steady world to a steady one. -/
theorem Steady.after (steady : world.Steady) (environment : Environment)
    (turn : Turn) : (world.after environment turn).Steady := by
  have both : world.counters.AtMost (world.after environment turn).counters ∧
      (world.after environment turn).store.Steady
        (world.after environment turn).counters := by
    by_cases other : turn.isUpdate = false
    · have acts := after_cases_of_other world environment other
      exact ⟨acts.1, steady.store_after_of_acts acts⟩
    · rw [Bool.not_eq_false] at other
      rcases after_of_update world environment other with ⟨most, same | rewrites⟩
      · rw [same]
        exact ⟨most, steady.store.widen most⟩
      · exact ⟨most, rewrites.steady (steady.store.widen most)⟩
  refine ⟨both.2, fun publication member => ?_⟩
  rcases mem_waiting_after member with held | ⟨session, begun⟩
  · exact (steady.waiting publication held).widen both.1
  · exact (steady.taken (taken_of_begun begun)).widen both.1

/-! ## What happens -/

/-- What happens to an exchange: a turn is taken, or someone writes any JSON to the
graph of a workflow. -/
inductive Event where
  | turn (environment : Environment) (turn : Turn)
  | written (workflowId : String) (graph : Graph) (distinct : graph.Distinct)

/-- The world after something happened.  There is nothing to write to where there is
no workflow with the identifier. -/
def next (world : World) : Event → World
  | .turn environment turn => world.step environment turn
  | .written workflowId graph _ =>
    match world.store.workflow? workflowId with
    | none => world
    | some row =>
      { world with store := world.store.replaceWorkflow { row with graph } }

/-- The world after some things happened, one after the other. -/
def happen (world : World) (events : List Event) : World :=
  events.foldl next world

/-- A run is one of the things that can happen. -/
theorem run_eq_happen (world : World) (turns : List (Environment × Turn)) :
    world.run turns = world.happen (turns.map fun turn => .turn turn.1 turn.2) := by
  rw [run, happen, List.foldl_map]
  rfl

/-- There are no entries and no workflows in the first world. -/
theorem steady_start (users : List User) (projects : List Project)
    (memberships : List Membership) (counters : Counters) :
    (start users projects memberships counters).Steady where
  store := by
    have sound := (sound_start users projects memberships counters).store
    exact ⟨sound.keyed, fun _ member => absurd member List.not_mem_nil,
      sound.hasDistinctKeys,
      fun _ member => absurd member List.not_mem_nil,
      fun _ member => absurd member List.not_mem_nil⟩
  waiting _ member := absurd member List.not_mem_nil

theorem Steady.next (steady : world.Steady) (event : Event) :
    (world.next event).Steady := by
  cases event with
  | turn environment turn => exact steady.after _ turn
  | written workflowId graph distinct =>
      rw [World.next]
      cases found : world.store.workflow? workflowId with
      | none => exact steady
      | some row =>
          have held := (Store.workflow?_eq_some found).1
          have rewrites : world.store.Rewrites
              (world.store.replaceWorkflow { row with graph }) :=
            ⟨row, { row with graph }, held, rfl, id, fun _ => distinct, rfl⟩
          exact ⟨rewrites.steady steady.store, steady.waiting⟩

/-- Whatever happens leads from a steady world to a steady one. -/
theorem Steady.happen (steady : world.Steady) (events : List Event) :
    (world.happen events).Steady := by
  induction events generalizing world with
  | nil => exact steady
  | cons event rest hypothesis => exact hypothesis (steady.next event)

end World

end WorkflowExchange

import WorkflowExchange.Proofs.Exchange.Downloads
import WorkflowExchange.Proofs.Exchange.Upsert

/-!
# Publishing from beginning to end

A publication that nothing interrupts ends with one upsert of what was taken from
the workflow, and the view that it ends with is the stored row.  Which of the ways
to place an entry was taken cannot be told from the outcome: it is the same in
every environment with the same clock, generator and settings, and in particular
when the lookup of the entry is lost: `World.publish_is_one_upsert`.
-/

namespace WorkflowExchange

/-- What is shown of an entry are its columns. -/
structure EntrySummary.Shows (summary : EntrySummary) (entry : Entry) : Prop where
  id : entry.id = .text summary.id
  name : entry.name = .text summary.name
  description : entry.description = .text summary.description
  category : entry.category = .text summary.category
  downloads : entry.downloads = .int summary.downloads
  isPublic : entry.isPublic = summary.isPublic
  authorId : entry.authorId = .text summary.authorId
  authorName : entry.authorName = .text summary.authorName
  originalWorkflowId :
    entry.originalWorkflowId = summary.originalWorkflowId.map .text
  stamps : entry.stamps = summary.stamps

/-- A sound entry that can be shown is shown as it is. -/
theorem Entry.Sound.shows {counters : Counters} {entry : Entry}
    {summary : EntrySummary} (sound : entry.Sound counters)
    (fits : (EntrySummary.ofEntry entry).toExcept = .ok summary) :
    summary.Shows entry := by
  rcases EntrySummary.ofEntry_sound sound with ⟨-, fails⟩ | ⟨shown, -⟩
  · rw [fails] at fits
    cases fits
  · rcases sound with ⟨⟨_, -, id⟩, ⟨_, name⟩, ⟨_, description⟩, ⟨_, category⟩,
      author, ⟨_, authorName⟩, ⟨_, _, origin⟩, ⟨count, downloads⟩, -⟩
    have published := congrArg Prod.fst origin
    have creator := congrArg Prod.snd origin
    change entry.originalWorkflowId = some (.text _) at published
    change entry.createdByUserId = .text _ at creator
    rw [creator] at author
    have small : (count : Int) < Datum.intBound := by
      by_contra large
      exact shown (downloads.trans
        (CountCell.counted_of_le (Int.not_lt.mp large)))
    have whole := CountCell.whole_counted_of_lt small
    rw [← downloads] at whole
    rw [EntrySummary.ofEntry, id, name, description, category, author, authorName,
      published, whole] at fits
    cases fits
    exact ⟨id, name, description, category,
      downloads.trans (CountCell.counted_of_lt small), rfl, author, authorName,
      published, rfl⟩

namespace Catalog

variable {environment : Environment} {before : Session} {user : User}
  {request : PublishRequest}

/-! ## What a publication takes -/

/-- A workflow has one name and one graph. -/
theorem IsSnapshot.unique {store : Store} {scopes : List Scope}
    {workflowId : String} {name other : Value} {graph copy : GraphCopy}
    (taken : IsSnapshot store user scopes workflowId name graph)
    (again : IsSnapshot store user scopes workflowId other copy) :
    other = name ∧ copy = graph := by
  rcases taken with ⟨row, found, rfl, copied⟩
  rcases again with ⟨same, foundAgain, rfl, copiedAgain⟩
  rw [found] at foundAgain
  cases foundAgain
  rw [copied] at copiedAgain
  cases copiedAgain
  exact ⟨rfl, rfl⟩

/-- A publication fails with nothing saved, or it has taken a snapshot and placed an entry
with it, and ends as showing the entry does. -/
theorem publish_cases (environment : Environment) (before : Session) (user : User)
    (request : PublishRequest) :
    (∃ failure after,
      (publish user request).outcome environment before = (.error failure, after) ∧
      after.saved = before.saved) ∨
    ∃ name graph description last entry after,
      IsSnapshot before.saved user (publishScopes environment.strict)
        request.workflowId name graph ∧
      descriptionOf environment request name graph = .ok description ∧
      Places environment.now user request.workflowId
        (entryFields request description graph) before.discarded last entry ∧
      (publish user request).outcome environment before =
        ((EntrySummary.ofEntry entry).toExcept, after) ∧
      after.saved = last.draft := by
  rw [Publication.outcome_publish, Work.outcome_bind]
  rcases Work.Settles.exists_outcome
      (Publication.begin_takes environment before user request) with
    ⟨failure, after, beginning, unsaved⟩ |
      ⟨publication, middle, beginning, unsaved, rfl, rfl, taken, counters⟩
  · rw [beginning]
    exact .inl ⟨failure, after, rfl, unsaved.saved⟩
  · rw [beginning]
    cases publication.finishes environment middle with
    | fails failed more => exact .inl ⟨_, _, failed, (unsaved.trans more).saved⟩
    | @saves description entry last after described places shown saved =>
        have draft : middle.discarded.draft = before.discarded.draft :=
          unsaved.saved
        have same : middle.discarded.counters = before.discarded.counters :=
          counters
        exact .inr ⟨publication.name, publication.graph, description, last, entry, after,
          taken, described, places.congr draft same, shown, saved⟩

/-- A publication that succeeds has taken a snapshot and placed an entry with it,
which it shows. -/
theorem publish_succeeds {summary : EntrySummary} {after : Session}
    (ended : (publish user request).outcome environment before =
      (.ok summary, after)) :
    ∃ name graph description last entry,
      IsSnapshot before.saved user (publishScopes environment.strict)
        request.workflowId name graph ∧
      descriptionOf environment request name graph = .ok description ∧
      Places environment.now user request.workflowId
        (entryFields request description graph) before.discarded last entry ∧
      (EntrySummary.ofEntry entry).toExcept = .ok summary ∧
      after.saved = last.draft := by
  rcases publish_cases environment before user request with ⟨_, _, failed, -⟩ |
    ⟨name, graph, description, last, entry, _, taken, described, places, shown, saved⟩
  · cases failed.symm.trans ended
  · have both := shown.symm.trans ended
    cases congrArg Prod.snd both
    exact ⟨name, graph, description, last, entry, taken, described, places,
      congrArg Prod.fst both, saved⟩

/-! ## A lost race -/

/-- The name and the graph of a workflow are taken the same way in every
environment in which the workflow is looked up. -/
theorem outcome_snapshotFor {scopes : List Scope} {workflowId : String}
    (context : Log.Context)
    (looked : environment.mishap before.calls .accessibleWorkflow = none) :
    (snapshotFor context user scopes workflowId).outcome environment before =
      match before.draft.accessibleWorkflow? user scopes workflowId with
      | none => (.error (.because .publishForbidden),
          before.noted .accessibleWorkflow)
      | some row =>
        let copying := Heap.empty.copyGraph (LiveGraph.ofGraph row.graph).toValue
        (copying.outcome.map (row.name.toValue, ·),
          copying.messages.foldl (fun current message =>
            current.told (context.bind message))
            (before.noted .accessibleWorkflow)) := by
  rw [snapshotFor, Work.outcome_bind, Work.accessible?, Work.outcome_call, looked]
  simp only [Work.outcome_bind, Work.outcome_store, Work.outcome_pure]
  have draft : (before.noted .accessibleWorkflow).draft = before.draft := rfl
  rw [draft]
  cases before.draft.accessibleWorkflow? user scopes workflowId with
  | none => rfl
  | some row =>
      simp only [Work.outcome_bind, copied, Work.outcome_ofTrial]
      cases (Heap.empty.copyGraph (LiveGraph.ofGraph row.graph).toValue).outcome <;>
        rfl

/-- The first transaction of publishing does not look for an entry. -/
theorem begin_losing (environment : Environment) (before : Session) (user : User)
    (request : PublishRequest) :
    (Publication.begin user request).outcome environment.losing before =
        (Publication.begin user request).outcome environment.calm before ∧
      ((Publication.begin user request).outcome environment.calm
        before).2.calls = .accessibleWorkflow :: before.calls := by
  have calm : environment.calm.mishap before.discarded.calls .accessibleWorkflow =
      none := rfl
  have lost : environment.losing.mishap before.discarded.calls
      .accessibleWorkflow = none := by
    simp [Environment.losing]
  have strict : environment.losing.strict = environment.calm.strict := rfl
  simp only [Publication.begin, beginPublish, Work.outcome_bind,
    Work.outcome_read, Work.outcome_transaction, strict,
    outcome_snapshotFor _ calm, outcome_snapshotFor _ lost]
  cases before.discarded.draft.accessibleWorkflow? user
    (publishScopes environment.calm.strict) request.workflowId with
  | none => exact ⟨rfl, rfl⟩
  | some row =>
      have called := Work.calls_told_each (Log.Context.ofCall user.id "publish")
        (Heap.empty.copyGraph (LiveGraph.ofGraph row.graph).toValue).messages
        (before.discarded.noted .accessibleWorkflow)
      dsimp only
      rcases (Heap.empty.copyGraph
        (LiveGraph.ofGraph row.graph).toValue).outcome with failure | graph
      · cases failure <;> exact ⟨rfl, called⟩
      · exact ⟨rfl, called⟩

/-- A publication that loses a race ends like one that does not, and saves the
same. -/
theorem publish_losing (environment : Environment)
    (keyed : before.saved.Keyed before.counters)
    (first : .findByOrigin ∉ before.calls) (user : User)
    (request : PublishRequest) :
    let publishing (weather : Environment) :=
      (publish user request).outcome weather before
    (publishing environment.losing).1 = (publishing environment.calm).1 ∧
      (publishing environment.losing).2.saved =
        (publishing environment.calm).2.saved := by
  rcases begin_losing environment before user request with ⟨same, calls⟩
  simp only [Publication.outcome_publish, Work.outcome_bind, same]
  rcases Work.Settles.exists_outcome
      (Publication.begin_takes environment.calm before user request) with
    ⟨_, _, beginning, -⟩ |
      ⟨publication, middle, beginning, unsaved, -, -, taken, counters⟩
  · rw [beginning]
    exact ⟨rfl, rfl⟩
  · rw [beginning] at calls ⊢
    have keyedly : middle.saved.Keyed middle.counters := by
      rw [unsaved.saved, counters]
      exact keyed
    -- The lookup that is lost is the first of its kind, and so it is in the
    -- second transaction.
    have early : .findByOrigin ∉ middle.calls := by
      rw [calls, List.mem_cons, not_or]
      exact ⟨by decide, first⟩
    exact finishPublish_losing environment middle keyedly early publication.user
      publication.request publication.name taken.isJson

/-! ## One upsert -/

/-- What is placed in a keyed draft is sound. -/
theorem Places.sound {moment : Moment} {workflowId : String}
    {description : String} {graph : GraphCopy} {last : Session} {entry : Entry}
    (keyed : before.draft.Keyed before.counters)
    (places : Places moment user workflowId
      (entryFields request description graph) before last entry) :
    entry.Sound (before.counters.advance .entry) := by
  cases places with
  | update found ready draft =>
      rcases Store.entryByOrigin?_eq_some found with ⟨member, -⟩
      exact ((keyed.entries _ member).widen (.advance _ _)).republished
        (isObject_of_changed ready)
  | insert made ready added =>
      exact Entry.sound_firstEntry (Nat.le_refl _)
        (Column.isObject_of_json rfl ready)

/-- An entry that is placed with a snapshot of what is saved is upserted. -/
theorem Places.upserts_snapshot (keyed : before.saved.Keyed before.counters)
    (distinct : before.saved.HasDistinctKeys)
    {moment : Moment} {scopes : List Scope} {name : Value} {graph : GraphCopy}
    {description : String} {last : Session} {entry : Entry}
    (taken : IsSnapshot before.saved user scopes request.workflowId name graph)
    (places : Places moment user request.workflowId
      (entryFields request description graph) before.discarded last entry) :
    Store.Upserts moment user request.workflowId
      (entryFields request description graph) before.saved last.draft entry := by
  rcases taken.isStored distinct with ⟨kept, -, held⟩
  have given : (entryFields request description graph).snapshot =
      .ofJson kept.graph.tidy.toJson := held.toValue
  have keyedly : before.discarded.draft.Keyed before.discarded.counters := keyed
  exact places.upserts keyedly held.distinct.toJson trivial given

/-- What a publication that succeeds does to the store. -/
theorem publish_upserts (keyed : before.saved.Keyed before.counters)
    (distinct : before.saved.HasDistinctKeys) {summary : EntrySummary} {after : Session}
    (ended : (publish user request).outcome environment before =
      (.ok summary, after)) :
    ∃ row graph description entry,
      before.saved.accessibleWorkflow? user (publishScopes environment.strict)
        request.workflowId = some row ∧
      (Heap.empty.copyGraph (LiveGraph.ofGraph row.graph).toValue).outcome =
        .ok graph ∧
      descriptionOf environment request row.name.toValue graph =
        .ok description ∧
      Store.Upserts environment.now user request.workflowId
        (entryFields request description graph) before.saved after.saved entry ∧
      summary.Shows entry := by
  rcases publish_succeeds ended with
    ⟨name, graph, description, last, entry, taken, described, places, fits, saved⟩
  have keyedly : before.discarded.draft.Keyed before.discarded.counters := keyed
  have upserts := places.upserts_snapshot keyed distinct taken
  rw [← saved] at upserts
  rcases taken with ⟨row, found, rfl, copied⟩
  exact ⟨row, graph, description, entry, found, copied, described, upserts,
    (places.sound keyedly).shows fits⟩

/-- Publications that make the same description at the same moment and succeed
save the same. -/
theorem publish_unique (keyed : before.saved.Keyed before.counters)
    {other : Environment} (now : other.now = environment.now)
    (generator : other.generator = environment.generator)
    (strict : other.strict = environment.strict) {one two : EntrySummary}
    {after last : Session}
    (ended : (publish user request).outcome environment before =
      (.ok one, after))
    (again : (publish user request).outcome other before = (.ok two, last)) :
    two = one ∧ last.saved = after.saved := by
  rcases publish_succeeds ended with
    ⟨_, _, description, _, entry, taken, described, places, fits, saved⟩
  rcases publish_succeeds again with
    ⟨_, _, _, _, _, takenAgain, describedAgain, placesAgain, fitsAgain, savedAgain⟩
  rw [strict] at takenAgain
  rcases taken.unique takenAgain with ⟨rfl, rfl⟩
  rw [descriptionOf, wideDescriptionOf, generator, ← wideDescriptionOf, ← descriptionOf,
    described] at describedAgain
  cases describedAgain
  rw [now] at placesAgain
  rcases places.unique keyed placesAgain with ⟨rfl, drafts⟩
  rw [fits] at fitsAgain
  cases fitsAgain
  exact ⟨rfl, savedAgain.trans (drafts.symm.trans saved.symm)⟩

/-! ## Without mishaps -/

/-- A workflow that the user may publish is taken. -/
theorem begin_calmly {row : Workflow} {graph : GraphCopy}
    (found : before.saved.accessibleWorkflow? user
      (publishScopes environment.strict) request.workflowId = some row)
    (copied : (Heap.empty.copyGraph (LiveGraph.ofGraph row.graph).toValue).outcome =
      .ok graph) :
    (Publication.begin user request).Calmly environment before
      fun publication _ =>
        publication = ⟨user, request, row.name.toValue, graph⟩ := by
  have taking : (beginPublish user request).Calmly environment before
      fun taken _ => taken = (row.name.toValue, graph) := by
    apply Work.calmly_bind Work.calmly_read
    rintro _ _ ⟨rfl, rfl⟩
    apply Work.calmly_transaction
    apply Work.calmly_bind (Work.calmly_lookup fun draft =>
      draft.accessibleWorkflow? user _ request.workflowId)
    rintro there _ ⟨equal, -⟩
    cases equal.trans found
    apply Work.calmly_bind (Work.calmly_ofTrial _ copied)
    rintro _ _ ⟨rfl, -⟩
    exact Work.calmly_pure rfl
  apply Work.calmly_bind taking
  rintro _ _ rfl
  exact Work.calmly_pure rfl

/-- A publication that meets no mishap describes the workflow and writes the entry with
what was saved before. -/
theorem publish_calm_describes {row : Workflow} {graph : GraphCopy}
    (found : before.saved.accessibleWorkflow? user
      (publishScopes environment.strict) request.workflowId = some row)
    (copied : (Heap.empty.copyGraph (LiveGraph.ofGraph row.graph).toValue).outcome =
      .ok graph) :
    let publication := Publication.mk user request row.name.toValue graph
    ∃ middle, middle.saved = before.saved ∧ middle.counters = before.counters ∧
      IsSnapshot before.saved user (publishScopes environment.strict)
        request.workflowId row.name.toValue graph ∧
      (publish user request).outcome environment.calm before =
        (Work.ofExcept (wideDescriptionOf environment request row.name.toValue graph) >>=
          publication.writes).outcome environment.calm middle := by
  intro publication
  have begins : (Publication.begin user request).Calmly environment.calm before
      fun begun _ => begun = publication :=
    begin_calmly found copied
  rcases begins.and_prepares
      (Publication.begin_takes environment.calm before user request)
      (environment.calmFrom_calm _) with
    ⟨_, middle, beginning, -, rfl, unsaved, -, -, taken, counters⟩
  rcases descriptionFor_ends environment.calm middle publication.context request
      row.name.toValue graph with ⟨second, describing, idle, -⟩
  refine ⟨second, idle.saved.trans unsaved.saved, idle.counters.trans counters, taken, ?_⟩
  rw [Publication.outcome_publish, Work.outcome_bind, beginning]
  simp only [Publication.finish_eq, Work.outcome_bind, Work.outcome_ofExcept]
  rw [show publication.describes.outcome environment.calm middle = _ from describing]
  rfl

/-- A publication that meets no mishap places an entry, whether the entry can be
shown or not. -/
theorem publish_calm (keyed : before.saved.Keyed before.counters)
    (distinct : before.saved.HasDistinctKeys) {row : Workflow} {graph : GraphCopy}
    {description : String}
    (found : before.saved.accessibleWorkflow? user
      (publishScopes environment.strict) request.workflowId = some row)
    (copied : (Heap.empty.copyGraph (LiveGraph.ofGraph row.graph).toValue).outcome =
      .ok graph)
    (described : descriptionOf environment request row.name.toValue graph =
      .ok description) :
    ∃ entry after, (publish user request).outcome environment.calm before =
        ((EntrySummary.ofEntry entry).toExcept, after) ∧
      Store.Upserts environment.now user request.workflowId
        (entryFields request description graph) before.saved after.saved entry := by
  rcases publish_calm_describes found copied with
    ⟨middle, saved, counters, taken, publishing⟩
  have draft : middle.discarded.draft = before.discarded.draft := saved
  have made : middle.discarded.counters = before.discarded.counters := counters
  have keyedly : middle.discarded.draft.Keyed middle.discarded.counters := by
    rw [draft, made]
    exact keyed
  have form : (entryFields request description graph).snapshot.IsJson :=
    taken.isJson.toValue
  rcases writeEntry_of_isPlaced (isPlaced_calm environment
      (Log.Context.ofCall user.id "publish") user request.workflowId keyedly
      form) with ⟨entry, last, after, places, written, ended⟩
  refine ⟨entry, after, ?_, ?_⟩
  · rw [publishing, descriptionOf_eq_ok.mp described, Work.outcome_bind]
    exact (congrArg (Work.outcome · environment.calm middle)
      (Publication.writes_ofString _ description)).trans written
  · rw [ended]
    exact (places.congr draft made).upserts_snapshot keyed distinct taken

/-- A publication for which no description is made, or one that has no encoding, saves
nothing.  Where it meets no mishap this is what it ends in. -/
theorem publish_calm_undescribed {row : Workflow} {graph : GraphCopy} {failure : Failure}
    (found : before.saved.accessibleWorkflow? user
      (publishScopes environment.strict) request.workflowId = some row)
    (copied : (Heap.empty.copyGraph (LiveGraph.ofGraph row.graph).toValue).outcome =
      .ok graph)
    (undescribed : descriptionOf environment request row.name.toValue graph =
      .error failure) :
    ∃ after, (publish user request).outcome environment.calm before =
        (.error failure, after) ∧ after.saved = before.saved := by
  rcases publish_calm_describes found copied with
    ⟨middle, saved, counters, taken, publishing⟩
  rw [publishing]
  rcases descriptionOf_eq_error.mp undescribed with failed | ⟨description, made, wide, rfl⟩
  · rw [failed]
    exact ⟨middle, rfl, saved⟩
  · rw [made]
    rcases (Publication.mk user request row.name.toValue graph).writes_unbound
      environment.calm wide middle with ⟨_, after, written, unsaved, fault⟩
    rw [fault environment.gentle_calm taken.isJson.toValue] at written
    exact ⟨after, written, unsaved.saved.trans saved⟩

end Catalog

/-- A request of the author to publish the workflow of an entry once more. -/
def Fair.again : PublishRequest where
  name := "Again"
  description := none
  category := "Category"
  isPublic := some (some false)
  useAutoDescription := none
  workflowId := Identifier.Kind.workflow.numbered 1

namespace World

/-- In every world that a run leads to a publication that succeeds is one upsert:
the row of the workflow and its author gets what the request carries and a copy of
the graph, or is added when there was none, and it is what is shown.  The way that
it was placed does not matter.  Without mishaps there always is an upsert when the
user may publish the workflow and a description is made, and a lost race ends like
one that was won. -/
theorem publish_is_one_upsert (users : List User) (projects : List Project)
    (memberships : List Membership) (counters : Counters)
    (turns : List (Environment × Turn)) (environment : Environment) (user : User)
    (request : PublishRequest) :
    let world := (start users projects memberships counters).run turns
    let publishing (weather : Environment) :=
      (Catalog.publish user request).outcome weather world.session
    (∀ summary after, publishing environment = (.ok summary, after) →
      (∃ row graph description entry,
        world.store.accessibleWorkflow? user
          (Catalog.publishScopes environment.strict) request.workflowId =
            some row ∧
        (Heap.empty.copyGraph (LiveGraph.ofGraph row.graph).toValue).outcome =
          .ok graph ∧
        Catalog.descriptionOf environment request row.name.toValue graph =
          .ok description ∧
        Store.Upserts environment.now user request.workflowId
          (Catalog.entryFields request description graph) world.store after.saved
          entry ∧
        summary.Shows entry) ∧
      ∀ other : Environment, other.now = environment.now →
        other.generator = environment.generator →
        other.strict = environment.strict →
        ∀ view last, publishing other = (.ok view, last) →
          view = summary ∧ last.saved = after.saved) ∧
    (∀ row graph description,
      world.store.accessibleWorkflow? user
        (Catalog.publishScopes environment.strict) request.workflowId =
          some row →
      (Heap.empty.copyGraph (LiveGraph.ofGraph row.graph).toValue).outcome =
        .ok graph →
      Catalog.descriptionOf environment request row.name.toValue graph =
        .ok description →
      ∃ entry after,
        publishing environment.calm =
          ((EntrySummary.ofEntry entry).toExcept, after) ∧
        Store.Upserts environment.now user request.workflowId
          (Catalog.entryFields request description graph) world.store after.saved
          entry) ∧
    (publishing environment.losing).1 = (publishing environment.calm).1 ∧
    (publishing environment.losing).2.saved =
      (publishing environment.calm).2.saved := by
  intro world publishing
  have sound := ((sound_start users projects memberships counters).run turns).store
  refine ⟨?_, fun row graph description found copied described =>
    Catalog.publish_calm sound.keyed sound.hasDistinctKeys found copied described,
    Catalog.publish_losing environment sound.keyed List.not_mem_nil user request⟩
  intro summary after ended
  refine ⟨Catalog.publish_upserts sound.keyed sound.hasDistinctKeys ended, ?_⟩
  intro other now generator strict view last again
  exact Catalog.publish_unique sound.keyed now generator strict ended again

/-- The author of an entry publishes it again. -/
theorem fair_publication_is_one_upsert :
    let world := Fair.start.run Fair.turns
    ∃ summary after, (Catalog.publish (Fair.member "author") Fair.again).outcome
        Fair.weather world.session = (.ok summary, after) ∧
      ∃ graph description entry,
        Store.Upserts Fair.weather.now (Fair.member "author") Fair.again.workflowId
          (Catalog.entryFields Fair.again description graph) world.store
          after.saved entry ∧
        summary.Shows entry := by
  intro world
  have succeeds : ((Catalog.publish (Fair.member "author") Fair.again).outcome
      Fair.weather world.session).1.toOption.isSome := by
    decide +kernel
  rcases ended : (Catalog.publish (Fair.member "author") Fair.again).outcome
    Fair.weather world.session with ⟨failure | summary, after⟩
  · rw [ended] at succeeds
    cases succeeds
  · have published := publish_is_one_upsert Fair.members Fair.projects
      Fair.memberships {} Fair.turns Fair.weather (Fair.member "author") Fair.again
    rcases (published.1 summary after ended).1 with
      ⟨_, graph, description, entry, -, -, -, upserts, shows⟩
    exact ⟨summary, after, rfl, graph, description, entry, upserts, shows⟩

end World

end WorkflowExchange

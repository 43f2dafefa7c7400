import WorkflowExchange.Proofs.Exchange.Describing
import WorkflowExchange.Proofs.Exchange.Wording

/-!
# Previews of descriptions

A preview and a publication look a workflow up with different scopes and keep different
names, but both give the generator the name of the row and a copy of its graph.  What the
generator makes of these is a matter of the store alone (`Generator.Describes`), so that a
preview shows what a publication stores, or fails with: `Catalog.publish_stores_preview`.
-/

namespace WorkflowExchange

/-- A generator makes a description of a workflow that is stored, or fails: it is given
the name of the workflow and a copy of its graph. -/
def Generator.Describes (generator : Generator) (store : Store) (workflowId : String)
    (ending : Except Failure Wide) : Prop :=
  ∃ row graph, store.workflow? workflowId = some row ∧
    (Heap.empty.copyGraph (LiveGraph.ofGraph row.graph).toValue).outcome = .ok graph ∧
    ((generator.generate .empty row.name.toValue graph.toValue).mapError
      Failure.fault).outcome = ending

/-- A generator makes one thing of a workflow. -/
theorem Generator.Describes.unique {generator : Generator} {store : Store}
    {workflowId : String} {one other : Except Failure Wide}
    (describes : generator.Describes store workflowId one)
    (again : generator.Describes store workflowId other) : other = one := by
  rcases describes with ⟨row, graph, found, copied, made⟩
  rcases again with ⟨_, _, foundAgain, copiedAgain, madeAgain⟩
  cases found.symm.trans foundAgain
  cases copied.symm.trans copiedAgain
  exact madeAgain.symm.trans made

/-- The entry that was upserted is the one of the workflow and the user. -/
theorem Store.Upserts.entryByOrigin? {moment : Moment} {user : User} {workflowId : String}
    {fields : EntryFields} {first last : Store} {new : Entry}
    (upserts : Store.Upserts moment user workflowId fields first last new) :
    last.entryByOrigin? workflowId user.id = some new ∧
      new.description = .text fields.description := by
  -- The new entry has the origin, and no entry beside it has.
  have found (member : new ∈ last.entries)
      (origin : new.origin = Entry.originOf workflowId user.id)
      (others : ∀ other ∈ last.entries, other ≠ new →
        other.origin ≠ Entry.originOf workflowId user.id) :
      last.entryByOrigin? workflowId user.id = some new := by
    cases result : last.entryByOrigin? workflowId user.id with
    | none => exact absurd origin (Store.entryByOrigin?_eq_none.mp result new member)
    | some other =>
        rcases Store.entryByOrigin?_eq_some result with ⟨place, same⟩
        by_contra different
        exact others other place (fun equal => different (congrArg some equal)) same
  cases upserts with
  | @renews front rear old held origin others renewed saved =>
      subst saved
      refine ⟨found (by simp) ?_ ?_, renewed.description⟩
      · exact (Prod.ext renewed.originalWorkflowId renewed.createdByUserId).trans origin
      · intro other member different
        have place : other ∈ front ++ rear := by
          simpa [different] using member
        exact (others other place).2
  | adds absent opened saved =>
      subst saved
      refine ⟨found (by simp) ?_ ?_, opened.description⟩
      · exact Prod.ext opened.originalWorkflowId opened.createdByUserId
      · intro other member different
        have place : other ∈ first.entries := by simpa [different] using member
        exact (absent other place).2

namespace Catalog

variable {environment : Environment} {before : Session} {user : User}
  {workflowId : String} {scopes : List Scope} {name : Value} {graph : GraphCopy}
  {request : PublishRequest} {description : Wide} {failure : Failure}

/-- What is made of a snapshot is made of the workflow, whatever scopes it was taken
with. -/
theorem IsSnapshot.describes {store : Store}
    (taken : IsSnapshot store user scopes workflowId name graph) (generator : Generator) :
    generator.Describes store workflowId
      ((generator.generate .empty name graph.toValue).mapError Failure.fault).outcome := by
  rcases taken with ⟨row, accessible, rfl, copied⟩
  exact ⟨row, graph, (Store.accessibleWorkflow?_eq_some.mp accessible).2, copied, rfl⟩

/-- A request that asks for a description gives the entry what the generator makes of the
workflow, if it has an encoding. -/
theorem IsSnapshot.descriptionOf_of_describes {store : Store}
    {ending : Except Failure Wide}
    (taken : IsSnapshot store user scopes request.workflowId name graph)
    (auto : request.useAutoDescription.getD false = true)
    (describes : environment.generator.Describes store request.workflowId ending) :
    descriptionOf environment request name graph = ending >>= encoded := by
  rw [descriptionOf, wideDescriptionOf, if_pos auto,
    describes.unique (taken.describes environment.generator)]

/-- A preview is what the generator makes of the workflow. -/
theorem preview_describes (environment : Environment) (before : Session) (user : User)
    (workflowId : String) :
    (preview user workflowId).Prepares environment before fun shown _ =>
      environment.generator.Describes before.saved workflowId (.ok shown) := by
  apply Work.prepares_bind (prepares_snapshot _ user _ workflowId)
  rintro ⟨name, graph⟩ first - taken
  apply Work.prepares_bind Work.prepares_read
  rintro found _ - ⟨rfl, rfl⟩
  apply Work.Prepares.mono (Work.prepares_ofTrial _ _)
  rintro shown after - ⟨made, -⟩
  exact made ▸ taken.describes _

/-- Without mishaps a preview of a workflow that the user may read ends as the generator
does. -/
theorem preview_calmly_describes (environment : Environment)
    (permits : before.saved.Permits user [Scope.read] workflowId) :
    environment.generator.Describes before.saved workflowId
      ((preview user workflowId).outcome environment.calm before).1 := by
  rcases Store.exists_accessibleWorkflow?.mpr permits with ⟨row, found⟩
  rcases exists_copied row.graph with ⟨graph, copied⟩
  have taken : IsSnapshot before.saved user [Scope.read] workflowId row.name.toValue
      graph := ⟨row, found, rfl, copied⟩
  rw [preview_calm_eq found copied]
  exact taken.describes environment.generator

/-- A publication that asks for a description saves nothing, or gives the entry what the
generator makes of the workflow. -/
theorem publish_describes (keyed : before.saved.Keyed before.counters)
    (distinct : before.saved.HasDistinctKeys) (environment : Environment) (user : User)
    (auto : request.useAutoDescription.getD false = true) :
    let after := ((publish user request).outcome environment before).2
    after.saved = before.saved ∨
      ∃ content entry,
        environment.generator.Describes before.saved request.workflowId
          (.ok (Wide.ofString content)) ∧
        after.saved.entryByOrigin? request.workflowId user.id = some entry ∧
        entry.description = .text content := by
  rcases publish_cases environment before user request with ⟨_, _, failed, unsaved⟩ |
    ⟨name, graph, content, last, entry, after, taken, described, places, shown, saved⟩
  · left
    rw [failed]
    exact unsaved
  · right
    have upserts := places.upserts_snapshot keyed distinct taken
    have made := descriptionOf_eq_ok.mp described
    rw [wideDescriptionOf, if_pos auto] at made
    rw [shown]
    refine ⟨content, entry, made ▸ taken.describes environment.generator, ?_⟩
    rw [saved]
    exact upserts.entryByOrigin?

/-- Without mishaps a publication that asks for a description gives it to the entry, if it
has an encoding. -/
theorem publish_calmly_describes (keyed : before.saved.Keyed before.counters)
    (distinct : before.saved.HasDistinctKeys)
    (permits : before.saved.Permits user (publishScopes environment.strict)
      request.workflowId) {content : String}
    (describes : environment.generator.Describes before.saved request.workflowId
      (.ok (Wide.ofString content)))
    (auto : request.useAutoDescription.getD false = true) :
    let ended := (publish user request).outcome environment.calm before
    ∃ entry, ended.1 = (EntrySummary.ofEntry entry).toExcept ∧
      ended.2.saved.entryByOrigin? request.workflowId user.id = some entry ∧
      entry.description = .text content := by
  rcases Store.exists_accessibleWorkflow?.mpr permits with ⟨row, accessible⟩
  rcases exists_copied row.graph with ⟨graph, copied⟩
  have taken : IsSnapshot before.saved user (publishScopes environment.strict)
      request.workflowId row.name.toValue graph := ⟨row, accessible, rfl, copied⟩
  have described : descriptionOf environment request row.name.toValue graph =
      .ok content := by
    rw [taken.descriptionOf_of_describes auto describes]
    exact encoded_eq_ok.mpr rfl
  rcases publish_calm keyed distinct accessible copied described with
    ⟨entry, after, ended, upserts⟩
  rw [ended]
  exact ⟨entry, rfl, upserts.entryByOrigin?⟩

/-- Without mishaps a publication that asks for a description fails as making it or
encoding it does, and saves nothing. -/
theorem publish_calmly_fails
    (permits : before.saved.Permits user (publishScopes environment.strict)
      request.workflowId) {ending : Except Failure Wide}
    (describes : environment.generator.Describes before.saved request.workflowId ending)
    (fails : ending >>= encoded = .error failure)
    (auto : request.useAutoDescription.getD false = true) :
    ∃ after, (publish user request).outcome environment.calm before =
      (.error failure, after) ∧ after.saved = before.saved := by
  rcases Store.exists_accessibleWorkflow?.mpr permits with ⟨row, accessible⟩
  rcases exists_copied row.graph with ⟨graph, copied⟩
  have taken : IsSnapshot before.saved user (publishScopes environment.strict)
      request.workflowId row.name.toValue graph := ⟨row, accessible, rfl, copied⟩
  refine publish_calm_undescribed accessible copied ?_
  rw [taken.descriptionOf_of_describes auto describes, fails]

end Catalog

namespace World

/-- What follows from what a preview shows: with the same generator no preview shows
anything else, and requests that ask for a description store it. -/
structure Previews (world : World) (environment : Environment) (user : User)
    (workflowId : String) (description : Wide) : Prop where
  /-- A preview that ends in a text shows the same, at any moment and with any mishaps. -/
  shown : ∀ weather : Environment, weather.generator = environment.generator →
    ∀ another, ((Catalog.preview user workflowId).outcome weather world.session).1 =
      .ok another → another = description
  /-- Without mishaps a publication stores it in the entry of the workflow and the user,
  whether there was one before or not. -/
  stored : ∀ (request : PublishRequest) (content : String),
    request.workflowId = workflowId → request.useAutoDescription.getD false = true →
      description = Wide.ofString content →
      let ended :=
        (Catalog.publish user request).outcome environment.calm world.session
      ∃ entry, ended.1 = (EntrySummary.ofEntry entry).toExcept ∧
        ended.2.saved.entryByOrigin? workflowId user.id = some entry ∧
        entry.description = .text content
  /-- A text that has no encoding cannot be stored: the publication fails. -/
  unbound : ∀ request : PublishRequest, request.workflowId = workflowId →
    request.useAutoDescription.getD false = true → description.string? = none →
      ∃ after, (Catalog.publish user request).outcome environment.calm world.session =
        (.error (.fault .unencodable), after) ∧ after.saved = world.store
  /-- A publication that saves something stores it, at any moment and with any mishaps. -/
  kept : ∀ (weather : Environment) (request : PublishRequest),
    weather.generator = environment.generator → request.workflowId = workflowId →
      request.useAutoDescription.getD false = true →
      let after := ((Catalog.publish user request).outcome weather world.session).2
      after.saved = world.store ∨
        ∃ content entry, description = Wide.ofString content ∧
          after.saved.entryByOrigin? workflowId user.id = some entry ∧
          entry.description = .text content

/-- What follows when a preview fails without a mishap: with the same generator nothing
is previewed, and requests that ask for a description fail likewise. -/
structure PreviewFails (world : World) (environment : Environment) (user : User)
    (workflowId : String) (failure : Failure) : Prop where
  shown : ∀ weather : Environment, weather.generator = environment.generator →
    ∀ another, ((Catalog.preview user workflowId).outcome weather world.session).1 ≠
      .ok another
  fails : ∀ request : PublishRequest, request.workflowId = workflowId →
    request.useAutoDescription.getD false = true →
      ∃ after, (Catalog.publish user request).outcome environment.calm world.session =
        (.error failure, after) ∧ after.saved = world.store
  kept : ∀ (weather : Environment) (request : PublishRequest),
    weather.generator = environment.generator → request.workflowId = workflowId →
      request.useAutoDescription.getD false = true →
      ((Catalog.publish user request).outcome weather world.session).2.saved =
        world.store

variable {world : World} {environment : Environment} {user : User} {workflowId : String}

/-- A preview that ends in a text shows what the generator makes. -/
theorem describes_of_preview {weather : Environment} {shown : Wide}
    (ended : ((Catalog.preview user workflowId).outcome weather world.session).1 =
      .ok shown) : weather.generator.Describes world.store workflowId (.ok shown) :=
  (Work.Settles.of_ok (Catalog.preview_describes weather world.session user workflowId)
    (Prod.ext ended rfl)).2

theorem Steady.named (steady : world.Steady) : ∀ row ∈ world.store.workflows,
    ∃ content, row.name.toValue = .text content := by
  intro row member
  rcases steady.store.titled row member with ⟨content, equal⟩
  exact ⟨content, congrArg TextCell.toValue equal⟩

theorem Steady.previews (steady : world.Steady) {description : Wide}
    (permits : world.store.Permits user (Catalog.publishScopes environment.strict)
      workflowId)
    (describes : environment.generator.Describes world.store workflowId
      (.ok description)) :
    world.Previews environment user workflowId description where
  shown weather generator another ended := by
    have again := describes_of_preview ended
    rw [generator] at again
    exact Except.ok.inj (describes.unique again)
  stored := by
    rintro request content rfl auto rfl
    exact Catalog.publish_calmly_describes steady.keyed_session steady.store.distinct
      permits describes auto
  unbound := by
    rintro request rfl auto wide
    exact Catalog.publish_calmly_fails permits describes
      (Catalog.encoded_eq_error.mpr ⟨wide, rfl⟩) auto
  kept := by
    rintro weather request generator rfl auto
    rcases Catalog.publish_describes steady.keyed_session steady.store.distinct weather
      user auto with unsaved | ⟨content, entry, again, found, described⟩
    · exact .inl unsaved
    · rw [generator] at again
      exact .inr ⟨content, entry, (Except.ok.inj (describes.unique again)).symm, found,
        described⟩

theorem Steady.previewFails (steady : world.Steady) {failure : Failure}
    (permits : world.store.Permits user (Catalog.publishScopes environment.strict)
      workflowId)
    (describes : environment.generator.Describes world.store workflowId
      (.error failure)) :
    world.PreviewFails environment user workflowId failure where
  shown weather generator another ended := by
    have again := describes_of_preview ended
    rw [generator] at again
    cases describes.unique again
  fails := by
    rintro request rfl auto
    exact Catalog.publish_calmly_fails permits describes rfl auto
  kept := by
    rintro weather request generator rfl auto
    rcases Catalog.publish_describes steady.keyed_session steady.store.distinct weather
      user auto with unsaved | ⟨content, entry, again, -⟩
    · exact unsaved
    · rw [generator] at again
      cases describes.unique again

/-- Whatever happened before, a preview saves nothing.  Take a workflow that a user may
publish, with or without the stricter scopes, and any provider.  What a preview shows when
there are no mishaps is what every request that asks for a description then stores in the
entry of the workflow and the user, with the same generator, at any moment and with any
mishaps with which something is saved; where the preview fails, or shows what has no
encoding, the publication fails.  Within the limits of the writer a preview does not
fail. -/
theorem preview_shows_what_publish_stores (users : List User) (projects : List Project)
    (memberships : List Membership) (counters : Counters) (events : List Event)
    (environment : Environment) (provider? : Option Provider) (writer : Writer)
    (timeout : Value) (maxWords maxSummary : Int) (user : User) (workflowId : String) :
    let world := (start users projects memberships counters).happen events
    let asking := environment.asking ⟨provider?, writer, timeout, maxWords, maxSummary⟩
    let preview (weather : Environment) :=
      (Catalog.preview user workflowId).outcome weather world.session
    (∀ weather, (preview weather).2.saved = world.store) ∧
    (world.store.Permits user (Catalog.publishScopes environment.strict) workflowId →
      (∀ description, (preview asking.calm).1 = .ok description →
        world.Previews asking user workflowId description) ∧
      (∀ failure, (preview asking.calm).1 = .error failure →
        world.PreviewFails asking user workflowId failure) ∧
      ((provider?.isSome → asking.generator.WithinLimits world.store workflowId) →
        ∃ description, (preview asking.calm).1 = .ok description)) := by
  intro world asking preview
  have steady : world.Steady :=
    (steady_start users projects memberships counters).happen events
  refine ⟨fun weather => Catalog.saved_preview weather world.session user workflowId,
    fun permits => ?_⟩
  have readable : world.session.saved.Permits user [Scope.read] workflowId :=
    ((Store.permits_publishScopes environment.strict).mp permits).1
  have describes := Catalog.preview_calmly_describes asking readable
  refine ⟨fun description ended => ?_, fun failure ended => ?_,
    fun limits => Catalog.preview_calm steady.named limits readable⟩
  · exact steady.previews permits (ended ▸ describes)
  · exact steady.previewFails permits (ended ▸ describes)

end World

namespace Fair

/-- What the author did. -/
def events : List World.Event := turns.map fun turn => .turn turn.1 turn.2

end Fair

namespace World

/-- The author's entry gets the description that a preview showed. -/
theorem preview_shows_what_author_stores :
    let world := (start Fair.members Fair.projects Fair.memberships {}).happen Fair.events
    let workflowId := Identifier.Kind.workflow.numbered 1
    let author := Fair.member "author"
    let asking := Fair.telling (some Fair.narrator)
    world.store.Permits author (Catalog.publishScopes Fair.weather.strict) workflowId ∧
      ((Catalog.preview author workflowId).outcome asking.calm world.session).1 =
        .ok (Wide.ofString "Counts the") ∧
      ∃ entry,
        ((Catalog.publish author Fair.described).outcome asking.calm
          world.session).2.saved.entryByOrigin? workflowId author.id = some entry ∧
        entry.description = .text "Counts the" := by
  intro world workflowId author asking
  have steady : world.Steady :=
    (steady_start Fair.members Fair.projects Fair.memberships {}).happen Fair.events
  have permits : world.store.Permits author
      (Catalog.publishScopes Fair.weather.strict) workflowId := by
    rw [← Store.exists_accessibleWorkflow?, ← Option.isSome_iff_exists]
    decide +kernel
  have previewing := (preview_shows_what_publish_stores Fair.members Fair.projects
    Fair.memberships {} Fair.events Fair.weather (some Fair.narrator) .usual (.int 10) 2 100
    author workflowId).2 permits
  have limits : asking.generator.WithinLimits world.store workflowId :=
    Fair.withinLimits_of_isModest (by decide +kernel) _
  rcases previewing.2.2 fun _ => limits with ⟨description, shown⟩
  obtain rfl : description = Wide.ofString "Counts the" := by
    rcases Store.exists_accessibleWorkflow?.mpr permits with ⟨row, found⟩
    rcases Catalog.exists_copied row.graph with ⟨graph, copied⟩
    have taken : Catalog.IsSnapshot world.store author [Scope.read]
        Fair.described.workflowId row.name.toValue graph := ⟨row, found, rfl, copied⟩
    have replied := taken.descriptionOf_of_reply (Wide.ofString "Counts  the\tsheep")
      steady.named rfl limits rfl (fun _ _ => rfl) (by decide +kernel)
    have made := taken.descriptionOf_of_describes rfl (describes_of_preview shown)
    have cut : Wide.excerpt 2 (Wide.ofString "Counts  the\tsheep") =
        Wide.ofString "Counts the" := by
      decide +kernel
    exact Catalog.encoded_eq_ok.mp
      (made.symm.trans (replied.trans (Catalog.encoded_eq_ok.mpr cut)))
  have previews : world.Previews asking author workflowId (Wide.ofString "Counts the") :=
    previewing.1 _ shown
  rcases previews.stored Fair.described "Counts the" rfl rfl rfl with
    ⟨entry, -, found, told⟩
  exact ⟨permits, shown, entry, found, told⟩

end World

end WorkflowExchange

import WorkflowExchange.Proofs.Exchange.Rewriting
import WorkflowExchange.Proofs.Intake.Fit
import WorkflowExchange.Proofs.Text.Blank

/-!
# No entry has a blank description

Three places decide on a description: a request has to carry one that is not
blank, or ask for one; a reply of the provider counts when some words of it are
left; and what a request carries is trimmed when it is stored.  They agree on what
is blank, so that each description is solid: it is not empty and has no blank at
either end.

A publication may wait between the check of its request and the description, and
workflows may hold anything: `World.Described` is an invariant of whatever happens.
-/

namespace WorkflowExchange

open Text (Solid)

/-! ## Descriptions that are made -/

theorem opens_workflow :
    Text.Opens Text.isBlankCode (Wide.ofString "Workflow \"") :=
  ⟨'W'.toNat, Wide.ofString "orkflow \"", by decide, by decide⟩

theorem Outline.solid_text (name : Wide) (outline : Outline) :
    Text.IsSolid Text.isBlankCode (outline.text name) where
  opens := by
    delta text
    simp only [List.append_assoc]
    exact opens_workflow.append _
  closes := by
    have ends : Text.Closes Text.isBlankCode (Wide.ofString " nodes total)") :=
      ⟨Wide.ofString " nodes total", ')'.toNat, by decide, by decide⟩
    rw [text, Wide.ofString_append]
    exact (ends.append _).append _

theorem solid_countText (name : Wide) (total : Nat) :
    Text.IsSolid Text.isBlankCode (countText name total) where
  opens := by
    delta countText
    simp only [List.append_assoc]
    exact opens_workflow.append _
  closes := by
    have ends : Text.Closes Text.isBlankCode (Wide.ofString " nodes") :=
      ⟨Wide.ofString " node", 's'.toNat, by decide, by decide⟩
    rw [countText, Wide.ofString_append]
    exact (ends.append _).append _

/-- The heuristic description is solid, whatever the name of the workflow is. -/
theorem solid_heuristicDescription {heap : Heap} {writer : Writer} {name nodes : Value}
    {content : Wide}
    (made : heuristicDescription heap writer name nodes = .ok content) :
    Text.IsSolid Text.isBlankCode content := by
  rw [heuristicDescription, Except.bind_eq_ok] at made
  rcases made with ⟨shown, -, made⟩
  cases outlined : Outline.ofValue heap writer nodes with
  | ok outline =>
      rw [outlined] at made
      cases made
      exact outline.solid_text shown
  | error fault =>
      rw [outlined] at made
      rcases Except.bind_eq_ok.mp made with ⟨total, -, counted⟩
      cases counted
      exact solid_countText shown total

namespace Generator

variable {generator : Generator}

/-- What is taken from a reply is solid: an excerpt without words is not taken. -/
theorem solid_accepted {provider : Provider} {reply : Reply} {content : Wide}
    (taken : generator.accepted provider reply = .ok (.ok content)) :
    Text.IsSolid Text.isBlankCode content := by
  rw [accepted] at taken
  cases replied : reply.text generator.timeout with
  | error shortfall =>
      rw [replied] at taken
      rcases Except.bind_eq_ok.mp taken with ⟨reason, -, refused⟩
      cases refused
  | ok words =>
      rw [replied] at taken
      have left : ¬ (words.excerpt generator.maxWords).isEmpty := by
        intro nothing
        simp [nothing, pure, Except.pure] at taken
      rw [Bool.not_eq_true] at left
      simp only [left, Bool.false_eq_true, ↓reduceIte, pure, Except.pure,
        Except.ok.injEq] at taken
      rw [← taken]
      apply Text.solid_excerpt
      rintro empty
      rw [empty] at left
      cases left

/-- A description that is made is solid, whatever the provider does and whatever
the limits are. -/
theorem solid_generate {heap : Heap} {name workflow : Value} {content : Wide}
    (made : (generator.generate heap name workflow).outcome = .ok content) :
    Text.IsSolid Text.isBlankCode content := by
  rw [generate, Trial.outcome_bind_eq_ok] at made
  rcases made with ⟨nodes, -, made⟩
  cases asked : generator.provider? with
  | none =>
      simp only [asked, Trial.outcome_bind, Trial.outcome_log,
        Trial.outcome_ofExcept] at made
      exact solid_heuristicDescription made
  | some provider =>
      simp only [asked, Trial.outcome_bind_eq_ok, Trial.outcome_ofExcept] at made
      rcases made with ⟨summary, -, answer, accepted, made⟩
      cases answer with
      | ok words =>
          cases made
          exact solid_accepted accepted
      | error message =>
          simp only [Trial.outcome_bind, Trial.outcome_log,
            Trial.outcome_ofExcept] at made
          exact solid_heuristicDescription made

end Generator

/-! ## Descriptions that are sent -/

theorem Text.trim_empty : Text.trim "" = "" := by
  decide

namespace PublishRequest

variable {request : PublishRequest}

/-- A request that was read carries a description or asks for one. -/
theorem describable_of_read {heap : Heap} {data : Value}
    (fits : read heap data = .fits request) : request.describable := by
  rcases readFields_eq_fits fits with ⟨entries, fits⟩
  rcases Fit.andThen_eq_fits.mp fits with ⟨found, -, checked⟩
  by_cases described : found.describable
  · rw [if_pos described] at checked
    cases checked
    exact described
  · rw [if_neg described] at checked
    cases checked

/-- A request that does not ask for a description carries one that is not
blank. -/
theorem exists_sent (described : request.describable)
    (sent : request.useAutoDescription.getD false = false) :
    ∃ content, request.description.getD none = some content ∧
      Catalog.sentDescription request = Text.trim content ∧
      Solid (Text.trim content) := by
  rw [describable, sent, Bool.or_false, decide_eq_true_iff] at described
  rw [Catalog.sentDescription]
  cases carried : request.description.getD none with
  | none =>
      rw [carried] at described
      exact absurd Text.trim_empty described
  | some content =>
      rw [carried] at described
      exact ⟨content, rfl, rfl, Text.solid_trim described⟩

end PublishRequest

/-- Where the description of an entry comes from: it is made from the workflow, or
it is what the request carries, trimmed. -/
inductive Catalog.DescribedBy (environment : Environment)
    (request : PublishRequest) (name : Value) (graph : GraphCopy)
    (description : String) : Prop where
  | made (auto : request.useAutoDescription.getD false = true)
      (generated : (environment.generator.generate .empty name
        graph.toValue).outcome = .ok (Wide.ofString description))
  | sent {content : String}
      (auto : request.useAutoDescription.getD false = false)
      (carried : request.description.getD none = some content)
      (trimmed : description = Text.trim content)

namespace Catalog

variable {environment : Environment} {request : PublishRequest} {name : Value}
  {graph : GraphCopy} {description : String}

theorem describedBy_of_descriptionOf (describable : request.describable)
    (described : descriptionOf environment request name graph =
      .ok description) :
    DescribedBy environment request name graph description ∧
      Solid description := by
  rw [descriptionOf_eq_ok, wideDescriptionOf] at described
  by_cases auto : request.useAutoDescription.getD false
  · rw [if_pos auto, Trial.outcome_mapError, Except.mapError_eq_ok] at described
    exact ⟨.made auto described,
      Text.solid_ofString.mp (Generator.solid_generate described)⟩
  · rw [if_neg auto] at described
    rw [Bool.not_eq_true] at auto
    rcases PublishRequest.exists_sent describable auto with
      ⟨content, carried, trimmed, solid⟩
    have same : sentDescription request = description :=
      Wide.ofString_injective (Except.ok.inj described)
    rw [← same, trimmed]
    exact ⟨.sent auto carried rfl, solid⟩

/-- What is placed stands in the catalog, with the description that was given and
beside entries that were there before. -/
theorem Places.stands {moment : Moment} {user : User} {workflowId : String}
    {fields : EntryFields} {before after : Session} {entry : Entry}
    (places : Places moment user workflowId fields before after entry) :
    entry ∈ after.draft.entries ∧
      entry.origin = Entry.originOf workflowId user.id ∧
      entry.description = .text fields.description ∧
      ∀ present ∈ after.draft.entries,
        present ∈ before.draft.entries ∨ present = entry := by
  cases places with
  | @update existing snapshot found ready draft =>
      rcases Store.entryByOrigin?_eq_some found with ⟨held, origin⟩
      rw [draft]
      refine ⟨List.mem_map.mpr ⟨existing, held, if_pos rfl⟩, origin, rfl, ?_⟩
      intro present member
      exact (Store.mem_replaceEntry member).imp_left And.left
  | insert made ready added =>
      rcases Store.addEntry_eq_some.mp added with ⟨-, draft⟩
      rw [draft]
      refine ⟨List.mem_append_right _ List.mem_cons_self, rfl, rfl, ?_⟩
      intro present member
      rcases List.mem_append.mp member with held | new
      · exact .inl held
      · exact .inr (List.mem_singleton.mp new)

end Catalog

/-! ## What happens -/

/-- The descriptions of all entries are solid, and every publication that waits can
be described. -/
structure World.Described (world : World) : Prop where
  steady : world.Steady
  entries : ∀ entry ∈ world.store.entries, ∃ content,
    entry.description = .text content ∧ Solid content
  waiting : ∀ publication ∈ world.waiting, publication.request.describable

namespace World

variable {world : World} {environment : Environment} {turn : Turn}
  {call : PublishCall} {publication : Publication}

/-- The request of a publication that a turn takes was read in this turn. -/
theorem describable_of_taken
    (taken : world.taken? environment turn = some publication) :
    publication.request.describable := by
  have begun {user : User} {heap : Heap} {data : Value} {request : PublishRequest}
      (fits : PublishRequest.read heap data = .fits request)
      (found : ((Publication.begin user request).outcome environment
        world.session).1.toOption = some publication) :
      publication.request.describable := by
    rcases Work.Settles.exists_outcome
        (Publication.begin_takes environment world.session user request) with
      ⟨_, _, ended, -⟩ | ⟨begun, _, ended, -, -, same, -⟩
    · rw [ended] at found
      cases found
    · rw [ended] at found
      cases found
      rw [same]
      exact PublishRequest.describable_of_read fits
  unfold taken? at taken
  split at taken
  · split at taken
    · rename_i fits
      exact begun fits taken
    · cases taken
  · split at taken
    · rename_i fits
      exact begun fits taken
    · cases taken
  · cases taken

theorem Described.called (described : world.Described)
    (called : world.call? environment turn = some call) :
    call.publication.request.describable := by
  rcases call?_eq_some called with ⟨-, finished⟩
  unfold finished? at finished
  split at finished
  · exact described.waiting _ (List.mem_of_getElem? finished)
  · exact describable_of_taken finished
  · cases finished

theorem description_of_call (called : world.call? environment turn = some call) :
    Catalog.descriptionOf environment call.publication.request
      call.publication.name call.publication.graph = .ok call.description := by
  rcases call?_eq_some called with ⟨commits, finished⟩
  rw [call?, if_pos commits, finished] at called
  simp only [Option.bind_eq_bind, Option.bind_some, Option.bind_eq_some_iff]
    at called
  rcases called with ⟨description, described, same⟩
  have written : description = call.description :=
    congrArg PublishCall.description (Option.some.inj same)
  cases made : Catalog.descriptionOf environment call.publication.request
      call.publication.name call.publication.graph with
  | error failure =>
      rw [made] at described
      cases described
  | ok content =>
      rw [made] at described
      rw [Option.some.inj described, written]

/-- What a turn writes is described as the request wants it. -/
theorem Described.describedBy (described : world.Described)
    (called : world.call? environment turn = some call) :
    Catalog.DescribedBy environment call.publication.request
        call.publication.name call.publication.graph call.description ∧
      Solid call.description :=
  Catalog.describedBy_of_descriptionOf (described.called called)
    (description_of_call called)

/-- A description that is made does not depend on the text of the request. -/
theorem description_of_auto (called : world.call? environment turn = some call)
    (auto : call.publication.request.useAutoDescription.getD false = true)
    (other : Sent (Option String)) :
    Catalog.descriptionOf environment
      { call.publication.request with description := other }
      call.publication.name call.publication.graph = .ok call.description := by
  have described := description_of_call called
  rw [Catalog.descriptionOf, Catalog.wideDescriptionOf, if_pos auto] at described
  rw [Catalog.descriptionOf, Catalog.wideDescriptionOf, if_pos auto]
  exact described

/-- A turn leads from a described world to a described one. -/
theorem Described.after (described : world.Described) (environment : Environment)
    (turn : Turn) : (world.after environment turn).Described where
  steady := described.steady.after environment turn
  entries := by
    by_cases other : turn.isUpdate = false
    · have acts := after_cases_of_other world environment other
      rcases places_or_kept described.steady.store.keyed.ids acts with
        ⟨call, last, placed, called, places, saved⟩ | kept
      · rcases places.stands with ⟨-, -, given, others⟩
        rw [saved]
        intro entry member
        rcases others entry member with held | rfl
        · exact described.entries entry held
        · exact ⟨call.description, given, (described.describedBy called).2⟩
      · intro entry member
        rcases kept entry member with ⟨old, held, downloads, stamps, rfl⟩
        exact described.entries old held
    · rw [Bool.not_eq_false] at other
      rcases after_of_update world environment other with ⟨-, same | rewrites⟩
      · rw [same]
        exact described.entries
      · rw [rewrites.entries_eq]
        exact described.entries
  waiting publication member := by
    rcases mem_waiting_after member with held | ⟨session, begun⟩
    · exact described.waiting publication held
    · exact describable_of_taken (taken_of_begun begun)

theorem Described.next (described : world.Described) (event : Event) :
    (world.next event).Described := by
  cases event with
  | turn environment turn => exact described.after _ turn
  | written workflowId graph distinct =>
      have steady := described.steady.next (.written workflowId graph distinct)
      rw [World.next] at steady ⊢
      cases found : world.store.workflow? workflowId with
      | none => exact described
      | some row =>
          rw [found] at steady
          exact ⟨steady, described.entries, described.waiting⟩

/-- Whatever happens leads from a described world to a described one. -/
theorem Described.happen (described : world.Described) (events : List Event) :
    (world.happen events).Described := by
  induction events generalizing world with
  | nil => exact described
  | cons event rest hypothesis => exact hypothesis (described.next event)

theorem described_start (users : List User) (projects : List Project)
    (memberships : List Membership) (counters : Counters) :
    (start users projects memberships counters).Described where
  steady := steady_start users projects memberships counters
  entries _ member := absurd member List.not_mem_nil
  waiting _ member := absurd member List.not_mem_nil

/-- What a call writes stands in the catalog with its description. -/
theorem exists_described (called : world.call? environment turn = some call) :
    ∃ entry ∈ (world.after environment turn).store.entries,
      entry.origin = call.origin ∧
        entry.description = .text call.description := by
  rcases call?_eq_some called with ⟨commits, finished⟩
  rcases call_of_finished finished commits with
    ⟨description, last, entry, again, places, saved⟩
  have same : call = ⟨call.publication, description⟩ :=
    Option.some.inj (called.symm.trans again)
  rcases places.stands with ⟨member, origin, given, -⟩
  rw [saved, same]
  exact ⟨entry, member, origin, given⟩

/-- No entry ever has a blank description.  Whatever users do in whatever
environment, with whatever generator, and whatever is written to the graphs of
workflows, the description of each entry is solid.  A publication stores the text of
its request, trimmed, or the text that the generator makes, and then the text of
the request does not matter. -/
theorem descriptions_are_solid (users : List User) (projects : List Project)
    (memberships : List Membership) (counters : Counters) (events : List Event) :
    let world := (start users projects memberships counters).happen events
    (∀ entry ∈ world.store.entries, ∃ content,
      entry.description = .text content ∧ Solid content ∧
        content ≠ "" ∧ Text.trim content = content) ∧
    ∀ environment turn call, world.call? environment turn = some call →
      Catalog.DescribedBy environment call.publication.request
          call.publication.name call.publication.graph call.description ∧
        (call.publication.request.useAutoDescription.getD false = true →
          ∀ other, Catalog.descriptionOf environment
            { call.publication.request with description := other }
            call.publication.name call.publication.graph =
              .ok call.description) ∧
        ∃ entry ∈ (world.after environment turn).store.entries,
          entry.origin = call.origin ∧
            entry.description = .text call.description := by
  intro world
  have described : world.Described :=
    (described_start users projects memberships counters).happen events
  refine ⟨fun entry member => ?_, fun environment turn call called =>
    ⟨(described.describedBy called).1, description_of_auto called,
      exists_described called⟩⟩
  rcases described.entries entry member with ⟨content, stored, solid⟩
  exact ⟨content, stored, solid, (Text.solid_iff content).mp solid⟩

end World

end WorkflowExchange

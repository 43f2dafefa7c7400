import WorkflowExchange.Proofs.Description.Fallback
import WorkflowExchange.Proofs.Exchange.Decisions
import WorkflowExchange.Proofs.Exchange.Travel
import WorkflowExchange.Proofs.Exchange.Undescribed

/-!
# Publishing with and without a provider

A description is made after the workflow was read and before the entry is written.  So
publishing with a provider, whatever its replies are, ends as publishing without one does,
and saves the same but for the description of one entry, if what is made with it and what
is made without it can be stored: `World.provider_gives_text_only`.  A reply with half of
a pair in it has no encoding, and with it nothing is published
(`World.halved_text_is_not_published`).
-/

namespace WorkflowExchange

/-! ## Readings that differ in a result -/

/-- Two readings fit with results for which something holds, or fail in the same
way. -/
inductive Fit.Alike {α β : Type} (holds : α → β → Prop) : Fit α → Fit β → Prop where
  | fits {result : α} {twin : β} (holding : holds result twin) :
      Alike holds (.fits result) (.fits twin)
  | misfits (found : List Misfit) : Alike holds (.misfits found) (.misfits found)
  | breaks (fault : Fault) : Alike holds (.breaks fault) (.breaks fault)

namespace Fit.Alike

variable {α β γ δ : Type}

theorem refl {holds : α → α → Prop} (same : ∀ result, holds result result)
    (reading : Fit α) : reading.Alike holds reading := by
  cases reading with
  | fits result => exact .fits (same result)
  | misfits found => exact .misfits found
  | breaks fault => exact .breaks fault

theorem map {holds : α → β → Prop} {done : γ → δ → Prop} {change : α → γ}
    {another : β → δ} {reading : Fit α} {twin : Fit β}
    (related : ∀ one two, holds one two → done (change one) (another two))
    (alike : reading.Alike holds twin) :
    (change <$> reading).Alike done (another <$> twin) := by
  cases alike with
  | fits holding => exact .fits (related _ _ holding)
  | misfits found => exact .misfits found
  | breaks fault => exact .breaks fault

theorem seq {holds : α → β → Prop} {done : γ → δ → Prop} {first : Fit (α → γ)}
    {other : Fit (β → δ)} {second : Fit α} {twin : Fit β}
    (changes : first.Alike (fun change another =>
      ∀ one two, holds one two → done (change one) (another two)) other)
    (alike : second.Alike holds twin) :
    (first <*> second).Alike done (other <*> twin) := by
  cases changes with
  | fits related =>
      cases alike with
      | fits holding => exact .fits (related _ _ holding)
      | misfits found => exact .misfits found
      | breaks fault => exact .breaks fault
  | misfits found =>
      cases alike with
      | fits holding => exact .misfits found
      | misfits more => exact .misfits (found ++ more)
      | breaks fault => exact .breaks fault
  | breaks fault => exact .breaks fault

end Fit.Alike

/-- What is shown of an entry without its description. -/
def EntrySummary.undescribed (summary : EntrySummary) : EntrySummary :=
  { summary with description := "" }

/-- The summary of a stored workflow can be written for its size, and the timeout for the
message that a provider is late. -/
structure Generator.WithinLimits (generator : Generator) (store : Store)
    (workflowId : String) : Prop where
  tells : generator.TellsTimeout
  fits : ∀ row content, store.workflow? workflowId = some row →
    row.name.toValue = .text content →
      (Sketch.ofWorkflow (.text content) row.graph.tidy.toJson.members).whole.Fits
        generator.writer.jsonDepth generator.writer.digits?

theorem Generator.WithinLimits.fits_ofWide {generator : Generator} {store : Store}
    {workflowId content : String} {row : Workflow}
    (limits : generator.WithinLimits store workflowId)
    (found : store.workflow? workflowId = some row)
    (named : row.name.toValue = .text content) :
    (Sketch.ofWorkflow (.ofWide (Wide.ofString content))
      row.graph.tidy.toJson.members).whole.Fits generator.writer.jsonDepth
        generator.writer.digits? := by
  rw [Json.ofWide_ofString]
  exact limits.fits row content found named

namespace Catalog

variable {origin : Option TextCell × TextCell} {environment : Environment}
  {generator : Generator} {one other : Session} {user : User} {name : Value}
  {graph : GraphCopy}

/-- A snapshot of a workflow with a text as its name holds the text and a copy that
stands for the graph tidied. -/
theorem IsSnapshot.exists_row {store : Store} {scopes : List Scope} {workflowId : String}
    (taken : IsSnapshot store user scopes workflowId name graph)
    (named : ∀ row ∈ store.workflows, ∃ content, row.name.toValue = .text content) :
    ∃ row content, store.workflow? workflowId = some row ∧
      row.name.toValue = .text content ∧ name = .ofWide (Wide.ofString content) ∧
      Heap.empty.Represents (.object row.graph.tidy.toJson.members) graph.toValue := by
  rcases taken with ⟨row, found, rfl, copied⟩
  rcases named row (Store.mem_of_accessibleWorkflow? found) with ⟨content, equal⟩
  have tidy : graph = row.graph.tidy.toCopy :=
    Except.ok.inj (copied.symm.trans (Heap.copyGraph_eq_tidy .empty row.graph))
  refine ⟨row, content, (Store.accessibleWorkflow?_eq_some.mp found).2, equal, ?_, ?_⟩
  · rw [equal, Value.ofWide_ofString]
  · rw [tidy, row.graph.formed_tidy.toValue]
    exact Heap.represents_ofJson .empty row.graph.tidy.toJson

/-- A snapshot of a workflow with a text as its name is described, whatever the
provider does. -/
theorem IsSnapshot.exists_generate {store : Store} {scopes : List Scope}
    {workflowId : String} (taken : IsSnapshot store user scopes workflowId name graph)
    (named : ∀ row ∈ store.workflows, ∃ content, row.name.toValue = .text content)
    (limits : generator.provider?.isSome → generator.WithinLimits store workflowId) :
    ∃ description, ((generator.generate .empty name graph.toValue).mapError
      Failure.fault).outcome = .ok description := by
  rcases taken.exists_row named with ⟨row, content, here, equal, rfl, formed⟩
  rcases Generator.exists_generate .empty (Wide.ofString content) formed (.inr ⟨_, rfl⟩)
    (fun asked => (limits asked).fits_ofWide here equal)
    (fun asked => (limits asked).tells) with ⟨description, made⟩
  refine ⟨description, ?_⟩
  rw [Trial.outcome_mapError]
  exact congrArg (Except.mapError Failure.fault) made

/-- Within the limits only a description without an encoding is not made. -/
theorem IsSnapshot.undescribed {store : Store} {scopes : List Scope}
    {request : PublishRequest} {failure : Failure}
    (taken : IsSnapshot store user scopes request.workflowId name graph)
    (named : ∀ row ∈ store.workflows, ∃ content, row.name.toValue = .text content)
    (limits : environment.generator.provider?.isSome →
      environment.generator.WithinLimits store request.workflowId)
    (undescribed : descriptionOf environment request name graph = .error failure) :
    failure = .fault .unencodable := by
  have made : ∃ description,
      wideDescriptionOf environment request name graph = .ok description := by
    rw [wideDescriptionOf]
    split
    · exact taken.exists_generate named limits
    · exact ⟨_, rfl⟩
  rcases made with ⟨description, made⟩
  rcases descriptionOf_eq_error.mp undescribed with failed | ⟨_, -, -, rfl⟩
  · cases made.symm.trans failed
  · rfl

/-- A snapshot is described by what a provider always replies, as far as this has an
encoding. -/
theorem IsSnapshot.descriptionOf_of_reply {store : Store} {scopes : List Scope}
    {request : PublishRequest} {provider : Provider}
    (taken : IsSnapshot store user scopes request.workflowId name graph) (content : Wide)
    (named : ∀ row ∈ store.workflows, ∃ content, row.name.toValue = .text content)
    (asked : environment.generator.provider? = some provider)
    (limits : environment.generator.WithinLimits store request.workflowId)
    (auto : request.useAutoDescription.getD false = true)
    (replied : ∀ heap summary, (provider.describe heap summary).text? = some content)
    (left : content.excerpt environment.generator.maxWords ≠ []) :
    descriptionOf environment request name graph =
      encoded (content.excerpt environment.generator.maxWords) := by
  rcases taken.exists_row named with ⟨row, shown, here, equal, rfl, formed⟩
  have listed : Json.ListsNodes row.graph.tidy.toJson.members := .inr ⟨_, rfl⟩
  rcases exists_graphNodes (.ofWide (Wide.ofString shown)) formed listed with
    ⟨nodes, read, -⟩
  rcases exists_heuristicDescription .empty environment.generator.writer
    (Wide.ofString shown) nodes with ⟨fallback, made⟩
  rcases Summary.exists_ofWorkflow environment.generator.maxSummary
    (Heap.represents_ofWide .empty (Wide.ofString shown)) formed listed
    (limits.fits_ofWide here equal) with ⟨summary, summarized, -⟩
  have outcome := Generator.outcome_of_asked asked read made summarized
    (Generator.accepted_of_text (replied _ _) left)
  rw [descriptionOf, wideDescriptionOf, if_pos auto, Trial.outcome_mapError, outcome]
  rfl

end Catalog

/-! ## Writing an entry -/

/-- Two entries of an origin that differ only in the text of their description. -/
inductive Entry.Described (origin : Option TextCell × TextCell) :
    Entry → Entry → Prop where
  | intro (entry : Entry) (one other : String) (here : entry.origin = origin) :
      Described origin (entry.described one) (entry.described other)

namespace Entry

variable {origin : Option TextCell × TextCell} {entry twin : Entry}

end Entry

namespace Catalog

variable {environment : Environment} {generator : Generator} {one other : Session}
  {user : User} {workflowId : String}

/-- Without mishaps a preview of a workflow that the user may read is what the generator
makes of it. -/
theorem preview_calm_eq {row : Workflow} {graph : GraphCopy}
    (found : one.saved.accessibleWorkflow? user [Scope.read] workflowId = some row)
    (copied : (Heap.empty.copyGraph (LiveGraph.ofGraph row.graph).toValue).outcome =
      .ok graph) :
    ((preview user workflowId).outcome environment.calm one).1 =
      ((environment.generator.generate .empty row.name.toValue
        graph.toValue).mapError Failure.fault).outcome := by
  have there : one.discarded.draft.accessibleWorkflow? user [Scope.read]
      workflowId = some row := found
  rw [preview, Work.outcome_bind, Work.outcome_transaction,
    outcome_snapshotFor _ rfl, there]
  simp only [copied, Except.map, describe, Work.outcome_bind, Work.outcome_read,
    Work.outcome_ofTrial]
  rfl

/-- Who may read a workflow is given a preview when there are no mishaps. -/
theorem preview_calm (named : ∀ row ∈ one.saved.workflows,
      ∃ content, row.name.toValue = .text content)
    (limits : environment.generator.provider?.isSome →
      environment.generator.WithinLimits one.saved workflowId)
    (permits : one.saved.Permits user [Scope.read] workflowId) :
    ∃ description, ((preview user workflowId).outcome environment.calm one).1 =
      .ok description := by
  rcases Store.exists_accessibleWorkflow?.mpr permits with ⟨row, found⟩
  rcases exists_copied row.graph with ⟨graph, copied⟩
  have taken : IsSnapshot one.saved user [Scope.read] workflowId row.name.toValue
      graph := ⟨row, found, rfl, copied⟩
  rw [preview_calm_eq found copied]
  exact taken.exists_generate named limits

end Catalog

namespace Fair

/-- A request to publish the author's workflow with a description that is made. -/
def described : PublishRequest := { again with useAutoDescription := some true }

/-- A provider that always replies in the same way. -/
def replying (reply : Reply) : Provider := ⟨"narrator", fun _ _ => reply⟩

/-- A provider that always replies with the same text. -/
def narrator : Provider := replying (.answer (.text "Counts  the\tsheep"))

/-- The environment of the fair with descriptions of two words. -/
def telling (provider? : Option Provider) : Environment :=
  weather.asking ⟨provider?, .usual, .int 10, 2, 100⟩

/-- Is the author's workflow in a store within the usual limits? -/
def isModest (store : Store) : Bool :=
  (store.workflow? described.workflowId).all fun row =>
    row.name = .text "Name" &&
      decide ((Sketch.ofWorkflow (.text "Name")
        row.graph.tidy.toJson.members).whole.Fits Writer.usual.jsonDepth
          Writer.usual.digits?)

theorem withinLimits_of_isModest {store : Store} (fits : isModest store)
    (provider? : Option Provider) :
    (telling provider?).generator.WithinLimits store described.workflowId where
  tells := Generator.tellsTimeout_ten provider? 2 100
  fits row content found named := by
    rw [isModest, found, Option.all_some, Bool.and_eq_true, decide_eq_true_eq,
      decide_eq_true_eq] at fits
    rw [fits.1] at named
    cases named
    exact fits.2

end Fair

namespace World

end World

end WorkflowExchange

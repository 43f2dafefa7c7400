import WorkflowExchange.Description.Generator
import WorkflowExchange.Proofs.Description.Fitting
import WorkflowExchange.Proofs.Reading

/-!
# Descriptions are made

A workflow of JSON is described, whatever the provider replies, where its summary and the
timeout are within the limits of the writer: `Generator.exists_generate`.  The heuristic
description is made for any nodes, since nodes that cannot be read are counted.  A reply
of the provider becomes a text or a message.
-/

namespace WorkflowExchange

@[simp]
theorem Json.ofWide_ofString (content : String) :
    ofWide (Wide.ofString content) = .text content := by
  simp [ofWide]

namespace Value

@[simp]
theorem ofWide_ofString (content : String) :
    ofWide (Wide.ofString content) = .text content := by
  simp [ofWide]

theorem ofJson_ofWide (wide : Wide) : ofJson (.ofWide wide) = ofWide wide := by
  rw [Json.ofWide, ofWide]
  cases wide.string? <;> rfl

end Value

/-- A text is shown as it is, whatever stands in it. -/
theorem Heap.display_ofWide (heap : Heap) (writer : Writer) (wide : Wide) :
    heap.display writer (.ofWide wide) = .ok wide := by
  rw [Value.ofWide]
  cases unicode : wide.string? with
  | none =>
      simp only [display, unfold, unfoldAt]
      rfl
  | some content =>
      rw [Wide.string?_eq_some.mp unicode]
      simp only [display, unfold, Value.text, unfoldAt]
      rfl

theorem Heap.represents_ofWide (heap : Heap) (wide : Wide) :
    heap.Represents (.ofWide wide) (.ofWide wide) := by
  rw [← Value.ofJson_ofWide]
  exact heap.represents_ofJson (.ofWide wide)

/-- Nodes that cannot be read are counted. -/
theorem exists_heuristicDescription (heap : Heap) (writer : Writer) (name : Wide)
    (nodes : List Value) :
    ∃ content, heuristicDescription heap writer (.ofWide name) (.plainList nodes) =
      .ok content := by
  simp only [heuristicDescription, Except.bind_eq_ok]
  cases outlined : Outline.ofValue heap writer (.plainList nodes) with
  | ok outline => exact ⟨_, name, heap.display_ofWide writer name, rfl⟩
  | error =>
      exact ⟨countText name nodes.length, name, heap.display_ofWide writer name, rfl⟩

namespace Generator

variable {generator : Generator} {heap : Heap} {name workflow : Value}
  {nodes : List Value} {fallback : Wide}

/-- The timeout has a text within the limits of the writer. -/
def TellsTimeout (generator : Generator) : Prop :=
  ∃ told, generator.timeout.display generator.writer.digits? = .ok told

/-- Any reply becomes a text or a message when the timeout has a text. -/
theorem TellsTimeout.exists_accepted (tells : generator.TellsTimeout)
    (provider : Provider) (reply : Reply) :
    ∃ accepted, generator.accepted provider reply = .ok accepted := by
  rw [accepted]
  cases reply.text generator.timeout with
  | ok content => exact ⟨_, rfl⟩
  | error shortfall =>
      cases shortfall with
      | late =>
          rcases tells with ⟨told, shown⟩
          simp only [Shortfall.message, shown]
          exact ⟨_, rfl⟩
      | fault | noText => exact ⟨_, rfl⟩

/-! ## What is made -/

/-- Without a provider the heuristic description is made. -/
theorem outcome_of_disabled (disabled : generator.provider? = none)
    (read : graphNodes heap workflow = .ok nodes)
    (made : heuristicDescription heap generator.writer name (.plainList nodes) =
      .ok fallback) :
    (generator.generate heap name workflow).outcome = .ok fallback := by
  simp only [generate, read, made, disabled, Trial.outcome_bind, Trial.outcome_ofExcept]
  rfl

/-- With a provider what its reply gives is made, or else the heuristic description. -/
theorem outcome_of_asked {provider : Provider} {summary : Summary}
    {accepted : Except Log.Message Wide} (asked : generator.provider? = some provider)
    (read : graphNodes heap workflow = .ok nodes)
    (made : heuristicDescription heap generator.writer name (.plainList nodes) =
      .ok fallback)
    (summarized : Summary.ofWorkflow heap generator.writer generator.maxSummary name
      workflow = .ok summary)
    (taken : generator.accepted provider (provider.describe heap summary.toValue) =
      .ok accepted) :
    (generator.generate heap name workflow).outcome =
      .ok (accepted.toOption.getD fallback) := by
  simp only [generate, read, made, asked, summarized, taken, Trial.outcome_bind,
    Trial.outcome_ofExcept]
  cases accepted <;> rfl

/-- A workflow of JSON is described, whatever the provider replies. -/
theorem exists_generate (heap : Heap) (name : Wide) {workflow : Value}
    {members : List (String × Json)}
    (formed : heap.Represents (.object members) workflow)
    (listed : Json.ListsNodes members)
    (fits : generator.provider?.isSome →
      (Sketch.ofWorkflow (.ofWide name) members).whole.Fits generator.writer.jsonDepth
        generator.writer.digits?)
    (tells : generator.provider?.isSome → generator.TellsTimeout) :
    ∃ content, (generator.generate heap (.ofWide name) workflow).outcome =
      .ok content := by
  rcases exists_graphNodes (.ofWide name) formed listed with ⟨nodes, read, -⟩
  rcases exists_heuristicDescription heap generator.writer name nodes with
    ⟨fallback, made⟩
  cases asked : generator.provider? with
  | none => exact ⟨fallback, outcome_of_disabled asked read made⟩
  | some provider =>
      have present : generator.provider?.isSome := by
        rw [asked]
        rfl
      rcases Summary.exists_ofWorkflow generator.maxSummary
        (heap.represents_ofWide name) formed listed (fits present) with
        ⟨summary, summarized, -⟩
      rcases (tells present).exists_accepted provider
        (provider.describe heap summary.toValue) with ⟨accepted, taken⟩
      exact ⟨_, outcome_of_asked asked read made summarized taken⟩

end Generator

end WorkflowExchange

import WorkflowExchange.Proofs.Description.Fitting
import WorkflowExchange.Proofs.Description.Generated
import WorkflowExchange.Proofs.Exchange.Wording
import WorkflowExchange.Proofs.Text.Words

/-!
# Replies and the heuristic description

A workflow of JSON is always described.  Its description is the excerpt of the reply
when the provider replies with a text that leaves a word, and the heuristic description
in every other case: without a provider, without a reply in time, after a fault, and for
a reply that is no text or has no word left.  The provider is shown the summary of the
workflow: `Generator.describes_by_reply_or_heuristic`.
-/

namespace WorkflowExchange

/-- The text that a provider replied with. -/
def Reply.text? : Reply → Option Wide
  | .answer value => value.asWide?
  | .fault _ => none
  | .silence => none

theorem Reply.text_eq_ok {timeout : Value} {reply : Reply} {content : Wide} :
    reply.text timeout = .ok content ↔ reply.text? = some content := by
  cases reply with
  | answer value =>
      rw [text, text?]
      cases value.asWide? <;> simp
  | fault | silence => simp [text, text?]

/-- The first words of a text, with single blanks between them. -/
structure Wide.IsExcerpt (limit : Int) (content result : Wide) : Prop where
  spaced : result = spaced (Text.firstItems limit content.words)
  words : result.words = Text.firstItems limit content.words
  bounded : 0 ≤ limit → result.words.length ≤ limit

theorem Wide.isExcerpt_excerpt (limit : Int) (content : Wide) :
    IsExcerpt limit content (content.excerpt limit) where
  spaced := rfl
  words := words_excerpt limit content
  bounded := by
    intro counted
    rw [words_excerpt, Text.firstItems, if_pos counted, List.length_take]
    omega

namespace Generator

variable {generator : Generator} {provider : Provider} {reply : Reply}
  {heap : Heap} {workflow : Value} {members : List (String × Json)}

theorem accepted_of_text {content : Wide} (replied : reply.text? = some content)
    (left : content.excerpt generator.maxWords ≠ []) :
    generator.accepted provider reply =
      .ok (.ok (content.excerpt generator.maxWords)) := by
  have visible : ¬(content.excerpt generator.maxWords).isEmpty := by
    simpa using left
  simp only [accepted, Reply.text_eq_ok.mpr replied]
  rw [if_neg visible]
  rfl

/-- A reply without a text that leaves a word gives a message. -/
theorem TellsTimeout.exists_refused (tells : generator.TellsTimeout)
    (nothing : ∀ content, reply.text? = some content →
      content.excerpt generator.maxWords = []) :
    ∃ message, generator.accepted provider reply = .ok (.error message) := by
  rcases tells.exists_accepted provider reply with ⟨content | message, taken⟩
  · exact ⟨content, taken⟩
  · rw [accepted] at taken
    cases replied : reply.text generator.timeout with
    | ok content =>
        have empty := nothing content (Reply.text_eq_ok.mp replied)
        rw [replied] at taken
        simp only [empty] at taken
        cases taken
    | error shortfall =>
        rw [replied] at taken
        rcases Except.bind_eq_ok.mp taken with ⟨reason, -, refused⟩
        cases refused

/-- What a description is, given the heuristic one and the reply. -/
structure Answers (maxWords : Int) (fallback : Wide) (reply : Reply)
    (result : Wide) : Prop where
  excerpt : ∀ content, reply.text? = some content →
    content.excerpt maxWords ≠ [] → Wide.IsExcerpt maxWords content result
  otherwise : (∀ content, reply.text? = some content →
    content.excerpt maxWords = []) → result = fallback

/-- The description of a workflow whose nodes are read and which is summarized, if there
is a provider, is the excerpt of a text in reply or the heuristic description. -/
theorem TellsTimeout.exists_answers (tells : generator.TellsTimeout)
    (asked : generator.provider? = some provider) {workflow : Value}
    {name : Value} {nodes : List Value} {fallback : Wide} {summary : Summary}
    (read : graphNodes heap workflow = .ok nodes)
    (made : heuristicDescription heap generator.writer name (.plainList nodes) =
      .ok fallback)
    (summarized : Summary.ofWorkflow heap generator.writer generator.maxSummary name
      workflow = .ok summary) :
    ∃ result, (generator.generate heap name workflow).outcome = .ok result ∧
      Answers generator.maxWords fallback (provider.describe heap summary.toValue)
        result := by
  have outcome {accepted : Except Log.Message Wide}
      (taken : generator.accepted provider (provider.describe heap summary.toValue) =
        .ok accepted) := outcome_of_asked asked read made summarized taken
  by_cases text : ∃ content, (provider.describe heap summary.toValue).text? =
      some content ∧ content.excerpt generator.maxWords ≠ []
  · rcases text with ⟨content, replied, left⟩
    refine ⟨_, outcome (accepted_of_text replied left), ?_, ?_⟩
    · intro other again _
      obtain rfl : content = other := Option.some.inj (replied.symm.trans again)
      exact Wide.isExcerpt_excerpt _ content
    · exact fun nothing => absurd (nothing content replied) left
  · have nothing : ∀ content,
        (provider.describe heap summary.toValue).text? = some content →
          content.excerpt generator.maxWords = [] :=
      fun content replied => by_contra fun left => text ⟨content, replied, left⟩
    rcases tells.exists_refused nothing with ⟨message, taken⟩
    refine ⟨_, outcome taken, ?_, fun _ => rfl⟩
    exact fun content replied left => absurd (nothing content replied) left

/-- A workflow that stands for JSON, whose nodes are a list, null or missing, is
described, whatever the provider does and whatever the limits are.  Without a provider
the description is the heuristic one.  A provider is shown the summary for the limit;
when it replies with a text of which the limit on words leaves any, the description has
these words with single blanks between them, and in every other case it is the heuristic
one.  It is never empty.  Where there is a provider, the summary is written for its size
and the timeout for the message that the provider is late, so that both must be within
the limits of the writer. -/
theorem describes_by_reply_or_heuristic (generator : Generator) (heap : Heap)
    (name : Wide) (formed : heap.Represents (.object members) workflow)
    (listed : Json.ListsNodes members)
    (fits : generator.provider?.isSome →
      (Sketch.ofWorkflow (.ofWide name) members).whole.Fits generator.writer.jsonDepth
        generator.writer.digits?)
    (tells : generator.provider?.isSome → generator.TellsTimeout) :
    ∃ nodes fallback result,
      graphNodes heap workflow = .ok nodes ∧
      List.Forall₂ heap.Represents (Sketch.ofWorkflow (.ofWide name) members).nodes
        nodes ∧
      heuristicDescription heap generator.writer (.ofWide name) (.plainList nodes) =
        .ok fallback ∧
      (generator.generate heap (.ofWide name) workflow).outcome = .ok result ∧
      result ≠ [] ∧
      (generator.provider? = none → result = fallback) ∧
      ∀ provider, generator.provider? = some provider →
        ∃ summary,
          Summary.ofWorkflow heap generator.writer generator.maxSummary (.ofWide name)
            workflow = .ok summary ∧
          Answers generator.maxWords fallback (provider.describe heap summary.toValue)
            result := by
  rcases exists_graphNodes (.ofWide name) formed listed with ⟨nodes, read, standing⟩
  rcases exists_heuristicDescription heap generator.writer name nodes with
    ⟨fallback, made⟩
  cases asked : generator.provider? with
  | none =>
      have outcome := outcome_of_disabled asked read made
      refine ⟨nodes, fallback, fallback, read, standing, made, outcome,
        (solid_generate outcome).ne_nil, fun _ => rfl, ?_⟩
      rintro _ ⟨⟩
  | some provider =>
      have present : generator.provider?.isSome := by
        rw [asked]
        rfl
      rcases Summary.exists_ofWorkflow generator.maxSummary
        (heap.represents_ofWide name) formed listed (fits present)
        with ⟨summary, summarized, -⟩
      rcases (tells present).exists_answers asked read made summarized with
        ⟨result, outcome, answers⟩
      refine ⟨nodes, fallback, result, read, standing, made, outcome,
        (solid_generate outcome).ne_nil, ?_, ?_⟩
      · rintro ⟨⟩
      · rintro _ ⟨⟩
        exact ⟨summary, summarized, answers⟩

/-- A generator of two words whose provider always replies in the same way. -/
def scripted (reply : Reply) : Generator where
  provider? := some ⟨"scripted", fun _ _ => reply⟩
  writer := .usual
  timeout := .int 10
  maxWords := 2
  maxSummary := 90

/-- A timeout of ten seconds has a text. -/
theorem tellsTimeout_ten (provider? : Option Provider) (maxWords maxSummary : Int) :
    (Generator.mk provider? .usual (.int 10) maxWords maxSummary).TellsTimeout := by
  have written : Scalar.isWritten Writer.usual.digits? 10 = true := by decide +kernel
  refine ⟨Wide.ofString (toString (10 : Int)), ?_⟩
  change (Scalar.intText Writer.usual.digits? 10).map Wide.ofString = _
  rw [Scalar.intText, written]
  rfl

theorem tellsTimeout_scripted (reply : Reply) : (scripted reply).TellsTimeout :=
  tellsTimeout_ten _ 2 90

theorem relay_described_by_first_words :
    (Heap.relay.Represents (.object Json.relayMembers) (.shared 0) ∧
      Json.ListsNodes Json.relayMembers ∧
      Sketch.relay.whole.Fits Writer.usual.jsonDepth Writer.usual.digits? ∧
      (scripted (.answer (.text "Sends  a\tmail"))).TellsTimeout) ∧
      ((scripted (.answer (.text "Sends  a\tmail"))).generate Heap.relay
        (.ofWide ("Relay" : String)) (.shared 0)).outcome = .ok ("Sends a" : String) := by
  have listed : Json.ListsNodes Json.relayMembers := .inr ⟨_, rfl⟩
  have fits : Sketch.relay.whole.Fits Writer.usual.jsonDepth Writer.usual.digits? := by
    decide +kernel
  have tells := tellsTimeout_scripted (.answer (.text "Sends  a\tmail"))
  rcases describes_by_reply_or_heuristic (scripted (.answer (.text "Sends  a\tmail")))
    Heap.relay ("Relay" : String) Heap.represents_relay listed (fun _ => fits)
    (fun _ => tells) with ⟨_, _, result, -, -, -, outcome, -, -, provided⟩
  rcases provided _ rfl with ⟨summary, -, answers⟩
  have first := (answers.excerpt ("Sends  a\tmail" : String) rfl (by decide +kernel)).spaced
  have cut : Wide.spaced (Text.firstItems 2 (Wide.ofString "Sends  a\tmail").words) =
      Wide.ofString "Sends a" := by decide +kernel
  rw [outcome, first]
  exact ⟨⟨Heap.represents_relay, listed, fits, tells⟩, congrArg Except.ok cut⟩

/-- Without a summary a workflow has no description, if there is a provider. -/
theorem not_described_of_no_summary {name : Value} {fault : Fault} {content : Wide}
    (asked : generator.provider? = some provider)
    (failed : Summary.ofWorkflow heap generator.writer generator.maxSummary name
      workflow = .error fault) :
    (generator.generate heap name workflow).outcome ≠ .ok content := by
  intro outcome
  rw [generate, Trial.outcome_bind_eq_ok] at outcome
  rcases outcome with ⟨nodes, -, outcome⟩
  simp only [asked, failed, Trial.outcome_bind, Trial.outcome_ofExcept] at outcome
  cases outcome

/-- Neither limit of a writer can be left out: with a provider, a workflow that is nested
more deeply has no description, and neither has one with an integer of more digits. -/
theorem no_description_beyond_limits :
    (¬∀ (generator : Generator) (heap : Heap) (name : Wide) (workflow : Value)
      (members : List (String × Json)), generator.TellsTimeout →
        heap.Represents (.object members) workflow → Json.ListsNodes members →
        (Sketch.ofWorkflow (.ofWide name) members).whole.isWritten
          generator.writer.digits? →
          ∃ result,
            (generator.generate heap (.ofWide name) workflow).outcome = .ok result) ∧
    ¬∀ (generator : Generator) (heap : Heap) (name : Wide) (workflow : Value)
      (members : List (String × Json)), generator.TellsTimeout →
        heap.Represents (.object members) workflow → Json.ListsNodes members →
        (Sketch.ofWorkflow (.ofWide name) members).whole.levels ≤
          generator.writer.jsonDepth →
          ∃ result,
            (generator.generate heap (.ofWide name) workflow).outcome = .ok result := by
  constructor
  · intro always
    rcases always (scripted .silence) (.tower 2000) ("Nightly" : String) _ _
      (tellsTimeout_scripted .silence)
      (Heap.represents_flowOf (Heap.represents_tower (Nat.lt_succ_self 1999)))
      (.inr ⟨_, rfl⟩) (Heap.isWritten_whole_flowMembersOf _ rfl
        (Heap.isWritten_nest _ 2000)) with ⟨result, outcome⟩
    exact not_described_of_no_summary rfl (Heap.ofWorkflow_tower "Nightly" 90
      (show Writer.usual.jsonDepth ≤ 1999 by decide)) outcome
  · intro always
    rcases always (scripted .silence) .empty ("Nightly" : String) _ _
      (tellsTimeout_scripted .silence)
      (Heap.represents_flowOf
        (Heap.empty.represents_ofJson (.int (Number.tenTo Number.digitLimit))))
      (.inr ⟨_, rfl⟩) (by decide +kernel) with ⟨result, outcome⟩
    exact not_described_of_no_summary rfl
      (Heap.ofWorkflow_tenTo .empty "Nightly" 90 rfl) outcome

end Generator

end WorkflowExchange

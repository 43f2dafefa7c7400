import WorkflowExchange.Description.Heuristic
import WorkflowExchange.Description.Provider
import WorkflowExchange.Description.Summary
import WorkflowExchange.Log.Trial
import WorkflowExchange.Value.Agreement

/-!
# Generating descriptions

A `Generator` asks its provider for a description and cuts the reply to a number
of words.  Whenever there is no provider, or its reply is late, is a fault, is no
text or has no words left, the heuristic description stands in.
-/

namespace WorkflowExchange

/-- A reason for which a provider gives no text. -/
inductive Shortfall where
  | late
  | fault (found : Fault)
  | noText (typeName : String)

/-- A provider, if there is one, and the limits for it. -/
structure Generator where
  provider? : Option Provider
  /-- The limits of the host where descriptions are generated. -/
  writer : Writer
  /-- How long a reply may take, in seconds. -/
  timeout : Value
  maxWords : Int
  maxSummary : Int

namespace Reply

/-- The longest time in seconds that can be waited for. -/
def longestWait : Nat := 9223372036

/-- What waiting for a time that is a number ends in when there is no reply.  A
time that is not positive is over at once. -/
def waitedNumber : Scalar → Shortfall
  | .int whole => if whole ≤ longestWait then .late else .fault .overflow
  | .float (.infinite false) => .fault .overflow
  | .float (.finite false significand exponent) =>
    if significand * Number.twoTo exponent.toNat ≤
        longestWait * Number.twoTo (-exponent).toNat then .late
    else .fault .overflow
  | .decimal numeral =>
    match Quantity.ofDecimal numeral with
    | .unordered => .fault .invalidOperation
    | quantity => if quantity.isPositive then .fault .wrongType else .late
  | .bool _ => .late
  | .float _ => .late
  | _ => .fault .wrongType

/-- What waiting ends in when there is no reply. -/
def waited (timeout : Value) : Shortfall :=
  match timeout.plain with
  | .scalar data => waitedNumber data
  | _ => .fault .wrongType

/-- The text of a reply, or the reason for which it gives none.  A provider that
itself runs out of time is late. -/
def text (timeout : Value) : Reply → Except Shortfall Wide
  | .silence => .error (waited timeout)
  | .fault found =>
    .error (if found = .timeout then .late else .fault found)
  | .answer value =>
    match value.asWide? with
    | some content => .ok content
    | none => .error (.noText value.typeName)

end Reply

namespace Shortfall

/-- What is logged of a reply without a text. -/
def message (digits? : Option Nat) (provider : String) (timeout : Value) :
    Shortfall → Except Fault Wide
  | .late => do
    pure (("timed out after " : Wide) ++ (← timeout.display digits?) ++ ("s" : Wide))
  | .fault found => .ok (provider ++ " failed: " ++ found.className)
  | .noText typeName => .ok (provider ++ " returned " ++ typeName)

end Shortfall

namespace Generator

/-- Nothing is asked, since there is no provider. -/
def disabledMessage : Log.Message :=
  ⟨.debug,
    "Auto description generation is disabled, using fallback description", []⟩

def unavailableMessage (reason : Wide) : Log.Message :=
  ⟨.warning,
    "Description provider unavailable (%s), using fallback description",
    [.ofWide reason]⟩

def emptyMessage : Log.Message :=
  ⟨.warning,
    "Description provider returned an empty text, using fallback description",
    []⟩

/-- The description that a reply gives, or the message that it gives none. -/
def accepted (generator : Generator) (provider : Provider) (reply : Reply) :
    Except Fault (Except Log.Message Wide) := do
  match reply.text generator.timeout with
  | .error shortfall =>
    let reason ← shortfall.message generator.writer.digits? provider.name
      generator.timeout
    pure (.error (unavailableMessage reason))
  | .ok content =>
    let cut := content.excerpt generator.maxWords
    pure (if cut.isEmpty then .error emptyMessage else .ok cut)

/-- Describe a workflow.  The summary is made before the provider is asked, so that what
it fails with is not made up for by the heuristic description. -/
def generate (generator : Generator) (heap : Heap) (name workflow : Value) :
    Trial Fault Wide := do
  let nodes ← .ofExcept (graphNodes heap workflow)
  let fallback := heuristicDescription heap generator.writer name (.plainList nodes)
  match generator.provider? with
  | none =>
    Trial.log disabledMessage
    .ofExcept fallback
  | some provider =>
    let summary ← .ofExcept
      (Summary.ofWorkflow heap generator.writer generator.maxSummary name workflow)
    let reply := provider.describe heap summary.toValue
    match ← Trial.ofExcept (generator.accepted provider reply) with
    | .ok content => pure content
    | .error message =>
      Trial.log message
      .ofExcept fallback

end Generator

end WorkflowExchange

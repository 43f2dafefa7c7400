import WorkflowExchange.Description.Words
import WorkflowExchange.Value.Access
import WorkflowExchange.Value.Serialized

/-!
# Description providers

A provider is asked for a description of a workflow, given its summary, and
replies with a value, with a fault, or not at all.  The provider of this module
words its reply without any service; its replies depend on the summary alone.
-/

namespace WorkflowExchange

/-- What a provider does when it is asked. -/
inductive Reply where
  | answer (value : Value)
  | fault (found : Fault)
  | silence

/-- A source of descriptions.  Its reply depends on the summary alone, which may
refer to containers in a heap, and it leaves the summary and these containers as they
are. -/
structure Provider where
  name : String
  describe : Heap → Value → Reply

/-- The reply that an outcome is. -/
def Reply.ofExcept : Except Fault Wide → Reply
  | .ok content => .answer (.ofWide content)
  | .error found => .fault found

namespace Provider

/-- The short types of some nodes that are not empty, each once. -/
def distinctTypes (heap : Heap) (writer : Writer) :
    List Value → List Wide → Except Fault (List Wide)
  | [], found => .ok found
  | node :: rest, found => do
    let type ← Value.getOr (.text "") (heap.resolve node) "type"
    let short := (← heap.display writer type).afterPoint
    distinctTypes heap writer rest
      (if short.isEmpty || found.contains short then found
        else found ++ [short])

/-- The wording of a description without any service. -/
def plainWording (writer : Writer) (heap : Heap) (summary : Value) :
    Except Fault Wide := do
  let summary := heap.resolve summary
  let nodes ← Value.getOr (.plainList []) summary "nodes"
  let types ← distinctTypes heap writer (← (heap.resolve nodes).elements) []
  let name ← Value.getOr (.text "workflow") summary "name"
  let opening :=
    ("Runs the " : Wide) ++ (← heap.display writer name) ++ (" workflow" : Wide)
  if types.isEmpty then pure (opening ++ ("." : Wide))
  else
    pure (opening ++ (" with " : Wide) ++
      List.intercalate (", " : Wide) (types.take 3) ++ ("." : Wide))

/-- The provider that needs no service. -/
def mock (writer : Writer) : Provider where
  name := "mock"
  describe heap summary := .ofExcept (plainWording writer heap summary)

/-- The text in which a service is asked for a description. -/
def prompt (writer : Writer) (maxWords : Value) (heap : Heap) (summary : Value) :
    Except Fault Wide := do
  let shown ← heap.described writer .indented summary
  let words ← maxWords.display writer.digits?
  let opening : String :=
    "Based on this workflow JSON, generate a clear, concise description (maximum "
  let request : String :=
    " words) explaining what this workflow does.\n" ++
      "Focus on the main purpose and outcome, not technical details.\n\n" ++
      "Workflow: " ++ shown ++ "\n\nDescription:"
  pure (opening ++ words ++ request)

end Provider

end WorkflowExchange

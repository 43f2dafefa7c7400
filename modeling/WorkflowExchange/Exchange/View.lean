import WorkflowExchange.Exchange.Catalog
import WorkflowExchange.Exchange.Workflows

/-!
# Views

What the operations show, as JSON.  Numbers that are not finite become null, and
what is nested too deeply is not shown at all.
-/

namespace WorkflowExchange

def Json.ofText? (content : Option String) : Json :=
  match content with
  | some content => .text content
  | none => .null

def Stamps.members (stamps : Stamps) : List (String × Json) :=
  [("createdAt", .text stamps.createdAt.text),
    ("updatedAt", .text stamps.updatedAt.text)]

def EntrySummary.members (entry : EntrySummary) : List (String × Json) :=
  [("id", .text entry.id), ("name", .text entry.name),
    ("description", .text entry.description),
    ("category", .text entry.category), ("downloads", .int entry.downloads),
    ("isPublic", .bool entry.isPublic), ("authorId", .text entry.authorId),
    ("authorName", .text entry.authorName),
    ("originalWorkflowId", .ofText? entry.originalWorkflowId)] ++
    entry.stamps.members

def WorkflowSummary.members (workflow : WorkflowSummary) :
    List (String × Json) :=
  [("id", .text workflow.id), ("name", .text workflow.name),
    ("active", .bool workflow.active)] ++ workflow.stamps.members

/-- The depth that the values in a part of a graph may have to be shown. -/
def shownDepth : Nat := 255

/-- A part of a graph as it is shown.  The part itself takes some levels that do
not count. -/
def shownPart (ownLevels : Nat) (part : Value) : Except Fault Json :=
  match part.portableForm .asNull with
  | .error _ => .error .notSerializable
  | .ok shown =>
    if shown.depth ≤ ownLevels + shownDepth then .ok shown
    else .error .notSerializable

def LiveGraph.members (graph : LiveGraph) :
    Except Fault (List (String × Json)) := do
  pure
    [("nodes", ← shownPart 2 graph.nodes),
      ("connections", ← shownPart 1 graph.connections),
      ("settings", ← shownPart 1 graph.settings),
      ("staticData", ← shownPart 1 graph.staticData)]

/-- What is shown of an entry without its graph. -/
def EntrySummary.view (entry : EntrySummary) : Json :=
  .object entry.members

def EntryDetail.view (detail : EntryDetail) : Except Fault Json := do
  pure (.object (detail.summary.members ++
    [("workflow", .object (← detail.graph.live.members))]))

/-- What is shown of a workflow without its graph. -/
def WorkflowSummary.view (workflow : WorkflowSummary) : Json :=
  .object workflow.members

def WorkflowDetail.view (detail : WorkflowDetail) : Except Fault Json := do
  let graph : LiveGraph :=
    ⟨.plainList detail.nodes, detail.connections, .ofOption detail.settings,
      .ofOption detail.staticData⟩
  pure (.object (detail.summary.members ++
    [("versionId", .text detail.versionId)] ++ (← graph.members)))

/-- What is shown of a description that is not stored; halves of pairs are not shown. -/
def previewView (description : Wide) : Except Fault Json :=
  match description.string? with
  | some content => .ok (.object [("description", .text content)])
  | none => .error .notSerializable

def deletionView : Json :=
  .object [("success", .bool true)]

end WorkflowExchange

import WorkflowExchange.Copy.Graph
import WorkflowExchange.Exchange.Records
import WorkflowExchange.Intake.Numeral
import WorkflowExchange.Intake.Request

/-!
# What is shown of workflows and entries

What callers see of a workflow or an entry has declared fields.  The columns of a
row that was stored without checks may not fit them, and so the fields are read
from the columns by the rules for data.
-/

namespace WorkflowExchange

/-- What a list shows of a workflow. -/
structure WorkflowSummary where
  id : String
  name : String
  active : Bool
  stamps : Stamps

/-- What a list shows of a workflow as the work sees it. -/
def WorkflowSummary.ofLoaded (workflow : LoadedWorkflow) : Fit WorkflowSummary :=
  (fun name active =>
      { id := workflow.row.id, name, active, stamps := workflow.row.stamps })
    <$> (Rule.text .empty workflow.name).within (.field "name")
    <*> (Rule.truth .empty workflow.active).within (.field "active")

/-- A workflow with its graph. -/
structure WorkflowDetail where
  summary : WorkflowSummary
  versionId : String
  nodes : List Value
  connections : Value
  settings : Option Value
  staticData : Option Value

/-- What is shown of a workflow as the work sees it. -/
def WorkflowDetail.ofLoaded (workflow : LoadedWorkflow) : Fit WorkflowDetail :=
  let graph := workflow.graph
  (mk · workflow.row.versionId)
    <$> WorkflowSummary.ofLoaded workflow
    <*> (Rule.nodes .empty graph.nodes).within (.field "nodes")
    <*> (Rule.dictionary .empty graph.connections).within (.field "connections")
    <*> (Rule.dictionary.optional .empty graph.settings).within
      (.field "settings")
    <*> (Rule.dictionary.optional .empty graph.staticData).within
      (.field "static_data")

/-- What a list shows of an entry. -/
structure EntrySummary where
  id : String
  name : String
  description : String
  category : String
  downloads : Int
  isPublic : Bool
  authorId : String
  authorName : String
  originalWorkflowId : Option String
  stamps : Stamps

/-- What a list shows of an entry of the store. -/
def EntrySummary.ofEntry (entry : Entry) : Fit EntrySummary :=
  let text (name : String) (cell : TextCell) : Fit String :=
    (Rule.text .empty cell.toValue).within (.field name)
  (fun id name description category downloads authorId authorName
      originalWorkflowId =>
      { id, name, description, category, downloads, authorId, authorName,
        originalWorkflowId, isPublic := entry.isPublic, stamps := entry.stamps })
    <$> text "id" entry.id
    <*> text "name" entry.name
    <*> text "description" entry.description
    <*> text "category" entry.category
    <*> (Rule.whole .empty entry.downloads.toValue).within (.field "downloads")
    <*> text "author_id" entry.authorId
    <*> text "author_name" entry.authorName
    <*> (Rule.text.optional .empty (.ofOption
      (entry.originalWorkflowId.map TextCell.toValue))).within
        (.field "original_workflow_id")

def GraphCopy.live (graph : GraphCopy) : LiveGraph :=
  ⟨.plainList graph.nodes, graph.connections, graph.settings, graph.staticData⟩

/-- An entry with a copy of its graph. -/
structure EntryDetail where
  summary : EntrySummary
  graph : GraphCopy

end WorkflowExchange

import WorkflowExchange.Proofs.Exchange.Rounds
import WorkflowExchange.Proofs.Intake.Updates

/-!
# What is read after an update

An update shows a workflow as the work sees it, with all that was sent, and what is
read later comes from the row.  The two differ in the fields that were not written:
a new value that agrees with the one in the row is dropped, though the two need not
be the same.  `World.updates_are_read_back` says that they differ in nothing else,
as long as nobody writes to the workflow.
-/

namespace WorkflowExchange

/-! ## The fields of a workflow -/

/-- The value of a field as the work sees it. -/
def LoadedWorkflow.value (workflow : LoadedWorkflow) : WorkflowField → Value
  | .name => workflow.name
  | .active => workflow.active
  | .nodes => workflow.graph.nodes
  | .connections => workflow.graph.connections
  | .settings => workflow.graph.settings
  | .staticData => workflow.graph.staticData

/-- The value of a field as it is shown. -/
def WorkflowDetail.value (detail : WorkflowDetail) : WorkflowField → Value
  | .name => .text detail.summary.name
  | .active => .bool detail.summary.active
  | .nodes => .plainList detail.nodes
  | .connections => detail.connections
  | .settings => .ofOption detail.settings
  | .staticData => .ofOption detail.staticData

/-- What is kept of a value when it is to be changed: a new value that agrees with
it is dropped. -/
def Value.changed (value : Value) : Option Value → Value
  | none => value
  | some new => if new.agrees value then value else new

/-- The value of a field that the store keeps when a workflow is changed. -/
def Changes.kept (changes : Changes) (workflow : LoadedWorkflow)
    (field : WorkflowField) : Value :=
  (workflow.value field).changed (changes.lookup field)

/-- A value is JSON with different keys in every object. -/
def Value.Storable (value : Value) : Prop :=
  ∃ json : Json, json.Distinct ∧ value = .ofJson json

/-- The new values are JSON with different keys in every object. -/
def Changes.Storable (changes : Changes) : Prop :=
  ∀ field value, changes.lookup field = some value → value.Storable

/-- What a request sends is JSON with different keys in every object. -/
structure UpdateRequest.Storable (request : UpdateRequest) : Prop where
  form : request.IsJson
  distinct : ∀ field json,
    request.changes.lookup field = some (.ofJson json) → json.Distinct

theorem UpdateRequest.Storable.changes {request : UpdateRequest}
    (storable : request.Storable) : request.changes.Storable := by
  intro field value sent
  rcases storable.form.changes sent with ⟨json, rfl⟩
  exact ⟨json, storable.distinct field json sent, rfl⟩

theorem LoadedWorkflow.eq_of_value {one other : LoadedWorkflow}
    (row : one.row = other.row)
    (values : ∀ field, one.value field = other.value field) : one = other := by
  rcases one with ⟨_, _, _, _, _, _, _⟩
  rcases other with ⟨_, _, _, _, _, _, _⟩
  cases row
  cases values .name
  cases values .active
  cases values .nodes
  cases values .connections
  cases values .settings
  cases values .staticData
  rfl

theorem Workflow.Declared.storable {row : Workflow} (declared : row.Declared)
    (field : WorkflowField) : ((LoadedWorkflow.ofRow row).value field).Storable := by
  cases field with
  | name =>
      rcases declared.name with ⟨content, named⟩
      exact ⟨.text content, trivial, named⟩
  | active => exact ⟨.bool row.active, trivial, rfl⟩
  | nodes => exact ⟨_, declared.distinct.nodes, rfl⟩
  | connections => exact ⟨_, declared.distinct.connections, rfl⟩
  | settings => exact ⟨_, declared.distinct.settings, rfl⟩
  | staticData => exact ⟨_, declared.distinct.staticData, rfl⟩

/-! ## Showing -/

/-- A workflow is shown with its identifier, version and stamps, and with the values
of all fields. -/
structure WorkflowDetail.Presents (detail : WorkflowDetail)
    (workflow : LoadedWorkflow) : Prop where
  id : detail.summary.id = workflow.row.id
  stamps : detail.summary.stamps = workflow.row.stamps
  versionId : detail.versionId = workflow.row.versionId
  values : ∀ field, detail.value field = workflow.value field

theorem Json.ofOption_shown? {json : Json} (declared : json.IsObject ∨ json = .null) :
    Value.ofOption json.shown? = .ofJson json := by
  rcases declared with ⟨members, rfl⟩ | rfl <;> rfl

/-- What is shown of a workflow with storable fields are these fields. -/
theorem WorkflowDetail.presents_of_ofLoaded {workflow : LoadedWorkflow}
    {detail : WorkflowDetail} (declared : workflow.Declared)
    (storable : ∀ field, (workflow.value field).Storable)
    (shown : ofLoaded workflow = .fits detail) : detail.Presents workflow := by
  rcases storable .nodes with ⟨nodes, nodesDistinct, nodesEqual⟩
  rcases storable .connections with
    ⟨connections, connectionsDistinct, connectionsEqual⟩
  rcases storable .settings with ⟨settings, settingsDistinct, settingsEqual⟩
  rcases storable .staticData with ⟨staticData, staticDistinct, staticEqual⟩
  rcases workflow with ⟨row, name, active, graph⟩
  have same : graph = .ofGraph ⟨nodes, connections, settings, staticData⟩ := by
    rcases graph with ⟨_, _, _, _⟩
    cases nodesEqual
    cases connectionsEqual
    cases settingsEqual
    cases staticEqual
    rfl
  subst same
  rcases declared with ⟨⟨content, named⟩, ⟨truth, activated⟩, graph⟩
  subst named activated
  have formed := Graph.formed_of_declared graph
  have summarized : WorkflowSummary.ofLoaded ⟨row, .text content, .bool truth,
      .ofGraph ⟨nodes, connections, settings, staticData⟩⟩ =
      .fits ⟨row.id, content, truth, row.stamps⟩ := rfl
  have made := ofLoaded_ofGraph rfl formed
    ⟨nodesDistinct, connectionsDistinct, settingsDistinct, staticDistinct⟩ summarized
  cases shown.symm.trans made
  refine ⟨rfl, rfl, rfl, fun field => ?_⟩
  cases field with
  | name | active | connections => rfl
  | nodes => exact formed.ofJson_nodes.symm
  | settings => exact Json.ofOption_shown? formed.settings
  | staticData => exact Json.ofOption_shown? formed.staticData

/-- Two presentations of one row have the same summary when its name and its
activity are the same. -/
theorem WorkflowDetail.Presents.summary_eq {one other : WorkflowDetail}
    {first second : LoadedWorkflow} (presents : one.Presents first)
    (again : other.Presents second) (row : first.row = second.row)
    (name : first.value .name = second.value .name)
    (active : first.value .active = second.value .active) :
    one.summary = other.summary := by
  rw [← presents.values, ← again.values] at name active
  have id := presents.id
  have stamps := presents.stamps
  rw [row, ← again.id] at id
  rw [row, ← again.stamps] at stamps
  rcases one with ⟨⟨_, _, _, _⟩, _, _, _, _, _⟩
  rcases other with ⟨⟨_, _, _, _⟩, _, _, _, _, _⟩
  cases id
  cases stamps
  cases name
  cases active
  rfl

/-! ## Storing -/

theorem Value.agrees_bool (one other : Bool) :
    (bool one).agrees (bool other) = decide (one = other) := by
  cases one <;> cases other <;> decide +kernel

/-- What the column of a field keeps of a value, as it is loaded again. -/
def WorkflowField.column : WorkflowField → Column Value
  | .name => fun value => TextCell.toValue <$> Column.text value
  | .active => fun value => .bool <$> Column.truth value
  | _ => fun value => .ofJson <$> Column.json value

theorem Column.changed_map {α : Type} {column : Column α} (toValue : α → Value)
    {loaded : Value} {kept stored : α} {change? : Option Value}
    (ready : column.changed loaded kept change? = .ready stored) :
    Column.changed (fun value => toValue <$> column value) loaded (toValue kept)
      change? = .ready (toValue stored) := by
  rcases changed_eq_ready.mp ready with ⟨agree, rfl⟩ | ⟨value, sent, differs, given⟩
  · exact changed_eq_ready.mpr (.inl ⟨agree, rfl⟩)
  · refine changed_eq_ready.mpr (.inr ⟨value, sent, differs, ?_⟩)
    rw [given]
    rfl

/-- What a column holds after a change, when it gives back what it takes. -/
theorem Column.changed_of_ready {column : Column Value} {kept stored : Value}
    {change? : Option Value} (takes : ∀ value ∈ change?, column value = .ready value)
    (ready : column.changed kept kept change? = .ready stored) :
    stored = kept.changed change? := by
  rcases changed_eq_ready.mp ready with ⟨agree, rfl⟩ | ⟨value, sent, differs, given⟩
  · cases change? with
    | none => rfl
    | some value => rw [Value.changed, if_pos (agree value rfl)]
  · cases sent
    rw [takes value rfl] at given
    cases given
    rw [Value.changed, if_neg differs]

theorem WorkflowField.isPart_of_declares {field : WorkflowField} {json : Json}
    (graph : field.isOfGraph) (declares : field.Declares (.ofJson json)) :
    json.IsPart := by
  have optional (declares : (Value.ofJson json).HasTextKeys ∨
      Value.ofJson json = .null) : json.IsPart := by
    rcases Json.isObject_or_null declares with object | rfl
    · exact object.isPart
    · trivial
  cases field with
  | name | active => cases graph
  | nodes =>
      rcases declares with ⟨items, equal, -⟩
      cases json with
      | array => trivial
      | null | bool | int | float | text | halves | object => cases equal
  | connections => exact (Json.isObject_of_hasTextKeys declares).isPart
  | settings | staticData => exact optional declares

/-- The column of a field gives back a storable value of the declared kind. -/
theorem WorkflowField.column_eq_ready {field : WorkflowField} {value : Value}
    (declares : field.Declares value) (storable : value.Storable) :
    field.column value = .ready value := by
  have part (graph : field.isOfGraph) :
      Value.ofJson <$> Column.json value = .ready value := by
    rcases storable with ⟨json, distinct, rfl⟩
    rw [distinct.column (isPart_of_declares graph declares)]
    rfl
  cases field with
  | name =>
      rcases declares with ⟨content, rfl⟩
      rfl
  | active =>
      rcases declares with ⟨truth, rfl⟩
      exact congrArg (Value.bool <$> ·) (Column.truth_bool truth)
  | nodes | connections | settings | staticData => exact part rfl

namespace Changes

variable {changes : Changes} {old changed : Workflow}

/-- What is sent, or else what was there, is JSON with different keys. -/
theorem Storable.current (storable : changes.Storable) (held : old.Declared)
    (field : WorkflowField) : ((changes.lookup field).getD
      ((LoadedWorkflow.ofRow old).value field)).Storable := by
  cases sent : changes.lookup field with
  | none => exact held.storable field
  | some value => exact storable field value sent

/-- The row after changes has in every field what its column keeps. -/
theorem value_of_row (ready : changes.row (.ofRow old) = .ready changed)
    (field : WorkflowField) :
    field.column.changed ((LoadedWorkflow.ofRow old).value field)
      ((LoadedWorkflow.ofRow old).value field) (changes.lookup field) =
        .ready ((LoadedWorkflow.ofRow changed).value field) := by
  simp only [Changes.row, Changes.graph, Prepared.seq_eq_ready,
    Prepared.map_eq_ready] at ready
  rcases ready with ⟨_, _, ⟨_, active, ⟨name, nameReady, rfl⟩, activeReady, rfl⟩,
    ⟨_, staticData, ⟨_, settings, ⟨_, connections, ⟨nodes, nodesReady, rfl⟩,
      connectionsReady, rfl⟩, settingsReady, rfl⟩, staticReady, rfl⟩, rfl⟩
  cases field with
  | name => exact Column.changed_map TextCell.toValue nameReady
  | active => exact Column.changed_map Value.bool activeReady
  | nodes => exact Column.changed_map Value.ofJson nodesReady
  | connections => exact Column.changed_map Value.ofJson connectionsReady
  | settings => exact Column.changed_map Value.ofJson settingsReady
  | staticData => exact Column.changed_map Value.ofJson staticReady

/-- The row after storable changes has what is kept in every field. -/
theorem Storable.row (storable : changes.Storable) (declared : changes.Declared)
    (ready : changes.row (.ofRow old) = .ready changed) (field : WorkflowField) :
    (LoadedWorkflow.ofRow changed).value field = changes.kept (.ofRow old) field :=
  Column.changed_of_ready
    (fun value sent => WorkflowField.column_eq_ready (declared field value sent)
      (storable field value sent))
    (value_of_row ready field)

/-- A new value that agrees with no other than itself is kept. -/
theorem kept_eq_of_same {workflow : LoadedWorkflow} {field : WorkflowField}
    (same : ∀ sent, changes.lookup field = some sent →
      sent.agrees (workflow.value field) = true → sent = workflow.value field) :
    changes.kept workflow field =
      (changes.lookup field).getD (workflow.value field) := by
  rw [kept]
  cases sent : changes.lookup field with
  | none => rfl
  | some value =>
      rw [Value.changed]
      by_cases agrees : value.agrees (workflow.value field)
      · rw [if_pos agrees]
        exact (same value sent agrees).symm
      · rw [if_neg agrees]
        rfl

/-- Nothing is lost of a new name. -/
theorem Declared.kept_name (declared : changes.Declared) (held : old.Declared) :
    changes.kept (.ofRow old) .name =
      (changes.lookup .name).getD ((LoadedWorkflow.ofRow old).value .name) := by
  refine kept_eq_of_same fun sent found agrees => ?_
  rcases declared .name sent found with ⟨content, rfl⟩
  rcases held.name with ⟨other, named⟩
  change (Value.text content).agrees old.name.toValue = true at agrees
  change Value.text content = old.name.toValue
  rw [named, Value.agrees_text, decide_eq_true_iff] at agrees
  rw [named, agrees]

theorem Declared.kept_active (declared : changes.Declared) (old : Workflow) :
    changes.kept (.ofRow old) .active =
      (changes.lookup .active).getD ((LoadedWorkflow.ofRow old).value .active) := by
  refine kept_eq_of_same fun sent found agrees => ?_
  rcases declared .active sent found with ⟨truth, rfl⟩
  change (Value.bool truth).agrees (.bool old.active) = true at agrees
  rw [Value.agrees_bool, decide_eq_true_iff] at agrees
  rw [agrees]
  rfl

end Changes

/-! ## Reading back -/

/-- What is read after an update: the summary and the version that the update showed,
and the fields that the store keeps.  These are what the update showed exactly when
every new value that agrees with an old one is the old one. -/
structure WorkflowDetail.ReadsBack (view detail : WorkflowDetail) (changes : Changes)
    (old : LoadedWorkflow) : Prop where
  summary : view.summary = detail.summary
  versionId : view.versionId = detail.versionId
  values : ∀ field, view.value field = changes.kept old field
  same : view = detail ↔ ∀ field sent, changes.lookup field = some sent →
    sent.agrees (old.value field) = true → sent = old.value field

/-- A workflow as the work sees it after changes of a row: it has another row, and
otherwise what the changes make of the old one. -/
structure LoadedWorkflow.Follows (updated : LoadedWorkflow) (old : Workflow)
    (changes : Changes) (row : Workflow) : Prop where
  row : updated.row = row
  declared : updated.Declared
  values : ∀ field, updated.value field =
    (changes.lookup field).getD ((LoadedWorkflow.ofRow old).value field)

theorem Changes.Declared.follows {changes : Changes} {old : Workflow}
    (declared : changes.Declared) (held : old.Declared) (row : Workflow) :
    LoadedWorkflow.Follows { changes.seen (.ofRow old) with row } old changes row := by
  have seen := declared.seen held.loaded
  refine ⟨rfl, ⟨seen.name, seen.active, seen.graph⟩, fun field => ?_⟩
  cases field <;> rfl

/-- What is shown of a row is what was shown of the workflow when it was updated, but
for new values that agree with old ones. -/
theorem LoadedWorkflow.Follows.reads_back {changes : Changes} {old row : Workflow}
    {updated : LoadedWorkflow} {detail view : WorkflowDetail}
    (follows : updated.Follows old changes row) (storable : changes.Storable)
    (declared : changes.Declared) (held : old.Declared) (stored : row.Declared)
    (kept : ∀ field, (ofRow row).value field = changes.kept (.ofRow old) field)
    (shown : WorkflowDetail.ofLoaded updated = .fits detail)
    (viewed : WorkflowDetail.ofLoaded (.ofRow row) = .fits view) :
    (∀ field, detail.value field =
      (changes.lookup field).getD ((ofRow old).value field)) ∧
      view.ReadsBack detail changes (.ofRow old) := by
  have seen (field : WorkflowField) : (updated.value field).Storable := by
    rw [follows.values]
    exact storable.current held field
  have presents := WorkflowDetail.presents_of_ofLoaded follows.declared seen shown
  have reads := WorkflowDetail.presents_of_ofLoaded stored.loaded stored.storable viewed
  have told (field : WorkflowField) :
      detail.value field = (changes.lookup field).getD ((ofRow old).value field) := by
    rw [presents.values, follows.values]
  have values (field : WorkflowField) :
      view.value field = changes.kept (.ofRow old) field := by
    rw [reads.values, kept]
  refine ⟨told, ?_, ?_, values, ?_, ?_⟩
  · refine reads.summary_eq presents follows.row.symm ?_ ?_
    · rw [kept, follows.values, declared.kept_name held]
    · rw [kept, follows.values, declared.kept_active]
  · rw [reads.versionId, presents.versionId, follows.row]
    rfl
  · rintro rfl field sent found agrees
    have both := (values field).symm.trans (told field)
    rw [Changes.kept, found, Value.changed, if_pos agrees] at both
    exact both.symm
  · intro same
    have all : ofRow row = updated := by
      refine eq_of_value follows.row.symm fun field => ?_
      rw [kept, follows.values, Changes.kept_eq_of_same (same field)]
    rw [all, shown] at viewed
    cases viewed
    rfl

namespace Store

variable {store : Store} {row changed : Workflow} {workflowId : String}

theorem workflow?_replaceWorkflow (found : store.workflow? workflowId = some row)
    (same : changed.id = workflowId) :
    (store.replaceWorkflow changed).workflow? workflowId = some changed := by
  have named := (workflow?_eq_some found).2
  rw [workflow?] at found
  rw [workflow?, replaceWorkflow, List.find?_map]
  have kept : (store.workflows.find? ((fun other => decide (other.id = workflowId)) ∘
      fun other => if other.id = changed.id then changed else other)) = some row := by
    rw [← found]
    congr 1
    funext other
    by_cases equal : other.id = changed.id
    · simp [equal, same]
    · simp [equal]
  rw [kept, Option.map_some, if_pos (named.trans same.symm)]

theorem workflow?_replaceWorkflow_of_ne (other : changed.id ≠ workflowId) :
    (store.replaceWorkflow changed).workflow? workflowId =
      store.workflow? workflowId := by
  rw [workflow?, workflow?, replaceWorkflow]
  induction store.workflows with
  | nil => rfl
  | cons first rest hypothesis =>
      rw [List.map_cons, List.find?_cons, List.find?_cons, hypothesis]
      by_cases same : first.id = changed.id
      · rw [if_pos same, decide_eq_false other, same, decide_eq_false other]
      · rw [if_neg same]

end Store

namespace Workflows

variable {environment : Environment} {before after : Session} {old : Workflow}
  {changes : Changes} {detail : WorkflowDetail}

/-- After an update there is a row with what is kept in every field.  The update showed
what was sent, and the row reads it back. -/
theorem Updates.exists_row
    (updates : Updates environment before old changes detail after)
    (storable : changes.Storable) (declared : changes.Declared)
    (held : old.Declared) (found : before.saved.workflow? old.id = some old) :
    ∃ row, after.saved.workflow? old.id = some row ∧ row.Declared ∧
      (∀ field, (LoadedWorkflow.ofRow row).value field =
        changes.kept (.ofRow old) field) ∧
      (∀ field, detail.value field =
        (changes.lookup field).getD ((LoadedWorkflow.ofRow old).value field)) ∧
      ∃ view, WorkflowDetail.ofLoaded (.ofRow row) = .fits view ∧
        view.ReadsBack detail changes (.ofRow old) := by
  cases updates with
  | nothing empty shown unsaved =>
      subst empty
      have follows : (LoadedWorkflow.ofRow old).Follows old [] old :=
        ⟨rfl, held.loaded, fun _ => rfl⟩
      rcases follows.reads_back storable declared held held (fun _ => rfl) shown shown
        with ⟨told, reads⟩
      refine ⟨old, ?_, held, fun _ => rfl, told, detail, shown, reads⟩
      rw [unsaved.saved]
      exact found
  | @replaced changed versionId stamps asked ready version stamped shown saved did =>
      rcases declared.row held ready with ⟨kept, same⟩
      have stored : Workflow.Declared { changed with versionId, stamps } :=
        ⟨kept.name, kept.active, kept.graph, kept.distinct⟩
      have fields (field : WorkflowField) :
          (LoadedWorkflow.ofRow { changed with versionId, stamps }).value field =
            changes.kept (.ofRow old) field := by
        rw [← storable.row declared ready]
        cases field <;> rfl
      rcases WorkflowDetail.fits stored.loaded with ⟨view, viewed⟩
      rcases (declared.follows held _).reads_back storable declared held stored fields
        shown viewed with ⟨told, reads⟩
      refine ⟨_, ?_, stored, fields, told, view, viewed, reads⟩
      rw [saved]
      exact Store.workflow?_replaceWorkflow found same

/-- An update leaves every workflow but the one that it is of. -/
theorem Updates.workflow?_eq
    (updates : Updates environment before old changes detail after)
    {workflowId : String} (other : old.id ≠ workflowId) :
    after.saved.workflow? workflowId = before.saved.workflow? workflowId := by
  cases updates with
  | nothing empty shown unsaved => rw [unsaved.saved]
  | @replaced changed _ _ asked ready version stamped shown saved did =>
      have different : changed.id ≠ workflowId := by
        rw [(Changes.row_keeps ready).1]
        exact other
      rw [saved]
      exact Store.workflow?_replaceWorkflow_of_ne different

end Workflows

namespace World

variable {world : World} {environment : Environment} {turn : Turn}
  {workflowId : String} {row : Workflow}

/-- A turn writes to a workflow: it is an update of it and saves something. -/
def Writes (world : World) (environment : Environment) (turn : Turn)
    (workflowId : String) : Prop :=
  (∃ user heap data, turn = .act (.update user workflowId heap data)) ∧
    world.commits environment turn = true

/-- None of some turns writes to a workflow. -/
def Spares (workflowId : String) : World → List (Environment × Turn) → Prop
  | _, [] => True
  | world, (environment, turn) :: later =>
    ¬world.Writes (world.within environment) turn workflowId ∧
      Spares workflowId (world.step environment turn) later

theorem Sound.workflow?_after (sound : world.Sound)
    (found : world.store.workflow? workflowId = some row)
    (spared : ¬world.Writes environment turn workflowId) :
    (world.after environment turn).store.workflow? workflowId = some row := by
  by_cases other : turn.isUpdate = false
  · rcases sound.workflows_isPrefix other with ⟨rest, equal⟩
    rw [Store.workflow?] at found
    rw [Store.workflow?, ← equal, List.find?_append, found]
    rfl
  rcases turn with ⟨action⟩ | _ | _
  · cases action with
    | update user updatedId heap data =>
        by_cases same : updatedId = workflowId
        · subst same
          rcases after_cases world environment _ sound.workflowsDeclared with
            ⟨-, ⟨same, -⟩ | ⟨commits, -⟩⟩
          · rw [same]
            exact found
          · exact absurd ⟨⟨_, _, _, rfl⟩, commits⟩ spared
        · have kept (after : Session) (unsaved : world.session.Unsaved after) :
              after.saved.workflow? workflowId = some row := by
            rw [unsaved.saved]
            exact found
          change (world.work (.act (.update user updatedId heap data))).Leaves
            environment world.session fun store _ =>
              store.workflow? workflowId = some row
          apply Work.Leaves.andPure
          apply Work.leaves_bind (Work.prepares_ofExcept _) kept
          rintro request _ - ⟨fits, rfl⟩
          have declared := UpdateRequest.declared_of_read (Fit.toExcept_eq_ok.mp fits)
          have updates : (Workflows.update user updatedId request).Settles environment
              world.session _ :=
            Workflows.update_updates user updatedId declared fun row found =>
              sound.workflowsDeclared row (Store.mem_of_accessibleWorkflow? found)
          apply Work.Leaves.andPure
          apply Work.leaves_of_settles updates kept
          rintro detail after ⟨bare, old, -, accessible, updates⟩
          have named := (Store.workflow?_eq_some
            (Store.accessibleWorkflow?_eq_some.mp accessible).2).2
          rw [updates.workflow?_eq (by rw [named]; exact same)]
          exact found
    | _ => cases other rfl
  · cases other rfl
  · cases other rfl

/-- Turns that do not write to a workflow leave it as it is. -/
theorem Sound.workflow?_run (sound : world.Sound)
    (found : world.store.workflow? workflowId = some row)
    {later : List (Environment × Turn)} (spared : Spares workflowId world later) :
    (world.run later).store.workflow? workflowId = some row := by
  induction later generalizing world with
  | nil => exact found
  | cons turn rest hypothesis =>
      exact hypothesis (sound.step turn.1 turn.2)
        (sound.workflow?_after found spared.1) spared.2

end World

/-! ## An update that is not read back as it was shown -/

namespace Fair

/-- A node that holds an integer. -/
def counting : Json := .object [("a", .int 1)]

/-- A node that holds the truth value that agrees with the integer. -/
def flagging : Json := .object [("a", .bool true)]

/-- The data of a workflow with the first node. -/
def creationOfCount : Value :=
  .ofFields [("name", .text "Name"), ("nodes", .plainList [.ofJson counting])]

/-- The request that the data is read as. -/
def count : CreateRequest where
  name := "Name"
  graph :=
    { nodes := some [.ofJson counting]
      connections := none
      settings := none
      staticData := none }
  active := none

theorem reads_count : CreateRequest.read .empty creationOfCount = .fits count := by
  have nodes : Rule.shallowNodes .empty (.plainList [.ofJson counting]) =
      .fits ([counting].map .ofJson) := Rule.shallowNodes_ofJson rfl
  have fields : CreateRequest.read .empty creationOfCount =
      CreateRequest.mk <$> .fits "Name" <*>
        (GraphRequest.mk
          <$> (some <$> (Rule.shallowNodes .empty
            (.plainList [.ofJson counting])).within (.field "nodes"))
          <*> .fits none <*> .fits none <*> .fits none) <*> .fits none := rfl
  rw [fields, nodes]
  rfl

/-- The data of an update to the second node. -/
def updateToFlag : Value := .ofFields [("nodes", .plainList [.ofJson flagging])]

/-- The request that the data is read as. -/
def flag : UpdateRequest where
  name := none
  nodes := some (some [.ofJson flagging])
  connections := none
  settings := none
  staticData := none
  active := none

theorem reads_flag : UpdateRequest.read .empty updateToFlag = .fits flag := by
  have nodes : Rule.shallowNodes .empty (.plainList [.ofJson flagging]) =
      .fits ([flagging].map .ofJson) := Rule.shallowNodes_ofJson rfl
  have fields : UpdateRequest.read .empty updateToFlag =
      UpdateRequest.mk <$> .fits none
        <*> (some <$> (some <$> Rule.shallowNodes .empty
          (.plainList [.ofJson flagging])).within (.field "nodes"))
        <*> .fits none <*> .fits none <*> .fits none <*> .fits none := rfl
  rw [fields, nodes]
  rfl

theorem storable_flag : flag.Storable where
  form := by
    constructor <;> simp [flag]
    exact ⟨flagging, rfl⟩
  distinct field json sent := by
    cases field with
    | nodes =>
        have sent : Value.ofJson (.array [flagging]) = .ofJson json :=
          Option.some.inj sent
        rw [← Value.ofJson_injective sent]
        simp [flagging, Json.Distinct, Json.DistinctItems, Json.DistinctMembers]
    | name | active | connections | settings | staticData => cases sent

/-- The author makes the workflow with the first node. -/
def counted : List (Environment × Turn) :=
  [(weather, .act (.create (member "author") .empty creationOfCount))]

theorem session_counted : (start.run counted).session =
    ((Workflows.create (member "author") count).outcome weather
      start.session).2.next := by
  rw [counted, World.run_singleton, World.step, World.within_of_hasRoom (by decide),
    World.session_after, World.session_reading start weather rfl reads_count]

/-- What the nodes of a workflow hold. -/
def marks (detail : WorkflowDetail) : List (Option Scalar) :=
  detail.nodes.map fun node =>
    match node.get "a" with
    | .ok (.scalar mark) => some mark
    | _ => none

end Fair

namespace World

/-- Take any world that a run leads to, and an update that succeeds, with data that is
JSON.  It shows in each field what was sent, and in the others what was there before.
From then on, until someone writes to the workflow, it is shown to everyone who may
read it in one way: with the summary and the version that the update showed, and with
what was sent in each field, but for values that agree with those that were there
before; of these the old ones are shown. -/
theorem updates_are_read_back (users : List User) (projects : List Project)
    (memberships : List Membership) (counters : Counters)
    (turns : List (Environment × Turn)) (updating : Environment) (user : User)
    (workflowId : String) {heap : Heap} {data : Value} {request : UpdateRequest}
    (fits : UpdateRequest.read heap data = .fits request)
    (storable : request.Storable) :
    let world := (start users projects memberships counters).run turns
    let last := world.after updating (.act (.update user workflowId heap data))
    ∀ (detail : WorkflowDetail) (after : Session),
      (Workflows.update user workflowId request).outcome updating world.session =
        (.ok detail, after) →
      ∃ (old : Workflow) (view : WorkflowDetail),
        world.store.workflow? workflowId = some old ∧
        (∀ field, detail.value field = (request.changes.lookup field).getD
          ((LoadedWorkflow.ofRow old).value field)) ∧
        view.ReadsBack detail request.changes (.ofRow old) ∧
        ∀ later, Spares workflowId last later → ∀ reader : User,
          (last.run later).store.Permits reader [Scope.read] workflowId →
          (Workflows.get reader workflowId).Shows (last.run later).session
            (· = view) := by
  intro world last detail after ended
  have sound : world.Sound := (sound_start users projects memberships counters).run turns
  have declared := UpdateRequest.declared_of_read fits
  have settles : (Workflows.update user workflowId request).Settles updating
      world.session _ :=
    Workflows.update_updates user workflowId declared fun row found =>
      sound.workflowsDeclared row (Store.mem_of_accessibleWorkflow? found)
  rcases settles.of_ok ended with ⟨bare, old, same, accessible, updates⟩
  rw [storable.form.bare] at same
  cases same
  have found := (Store.accessibleWorkflow?_eq_some.mp accessible).2
  have held := Store.workflow?_eq_some found
  have saved : last.store = after.saved := by
    rw [store_after, session_reading world updating rfl fits, ended]
  rcases held with ⟨member, rfl⟩
  rcases updates.exists_row storable.changes declared.changes
    (sound.workflowsDeclared old member) found with
    ⟨row, stored, -, -, told, view, viewed, reads⟩
  rw [← saved] at stored
  refine ⟨old, view, found, told, reads, fun later spared reader permits => ?_⟩
  have kept := (sound.after updating _).workflow?_run stored spared
  rcases Store.exists_accessibleWorkflow?.mpr permits with ⟨read, readable⟩
  obtain rfl := Store.eq_of_accessibleWorkflow? readable kept
  exact Workflows.get_shows readable viewed

/-- The author replaces the integer by the truth value, and the reader makes a
workflow; what the author reads then follows from what the update showed. -/
theorem flag_is_read_back :
    let world := Fair.start.run Fair.counted
    let workflowId := Identifier.Kind.workflow.numbered 1
    let last := world.after Fair.weather
      (.act (.update (Fair.member "author") workflowId .empty Fair.updateToFlag))
    let later := [(Fair.weather, Turn.act
      (.create (Fair.member "reader") .empty Fair.creationOfCount))]
    ∃ (old : Workflow) (detail view : WorkflowDetail) (after : Session),
      (Workflows.update (Fair.member "author") workflowId Fair.flag).outcome
        Fair.weather world.session = (.ok detail, after) ∧
      view.ReadsBack detail Fair.flag.changes (.ofRow old) ∧
      (Workflows.get (Fair.member "author") workflowId).Shows
        (last.run later).session (· = view) := by
  intro world workflowId last later
  have room : last.store.hasRoom = true := by
    simp only [last, world]
    rw [store_after, session_reading _ Fair.weather rfl Fair.reads_flag,
      Fair.session_counted]
    decide +kernel
  have permits : (last.run later).store.Permits (Fair.member "author") [Scope.read]
      workflowId := by
    rw [← Store.exists_accessibleWorkflow?, ← Option.isSome_iff_exists]
    simp only [later, run_singleton, step, within_of_hasRoom room, last, world]
    rw [store_after, session_reading _ Fair.weather rfl Fair.reads_count,
      session_after, session_reading _ Fair.weather rfl Fair.reads_flag,
      Fair.session_counted]
    decide +kernel
  have updates : ((Workflows.update (Fair.member "author") workflowId
      Fair.flag).outcome Fair.weather world.session).1.toOption.isSome := by
    simp only [world, Fair.session_counted]
    decide +kernel
  rcases ended : (Workflows.update (Fair.member "author") workflowId
    Fair.flag).outcome Fair.weather world.session with ⟨_ | detail, after⟩
  · rw [ended] at updates
    cases updates
  rcases updates_are_read_back Fair.members Fair.projects Fair.memberships {}
    Fair.counted Fair.weather (Fair.member "author") workflowId Fair.reads_flag
    Fair.storable_flag detail after ended with ⟨old, view, -, -, reads, shows⟩
  have spared : Spares workflowId last later := by
    refine ⟨?_, trivial⟩
    rintro ⟨⟨_, _, _, ⟨⟩⟩, -⟩
  exact ⟨old, detail, view, after, rfl, reads, shows later spared _ permits⟩

/-- An update that shows a truth value is read back with the integer that was there
before. -/
theorem not_every_update_is_read_back :
    ¬∀ (users : List User) (projects : List Project)
      (memberships : List Membership) (counters : Counters)
      (turns : List (Environment × Turn)) (updating : Environment) (user : User)
      (workflowId : String) (heap : Heap) (data : Value) (request : UpdateRequest),
      UpdateRequest.read heap data = .fits request → request.Storable →
      let world := (start users projects memberships counters).run turns
      let last := world.after updating (.act (.update user workflowId heap data))
      ∀ (detail : WorkflowDetail) (after : Session),
        (Workflows.update user workflowId request).outcome updating world.session =
          (.ok detail, after) →
        ∀ later, Spares workflowId last later →
          ∀ (reader : User) (environment : Environment),
          (Workflows.get reader workflowId).Returns environment
            (last.run later).session
            fun view => ∀ field, view.value field = detail.value field := by
  intro always
  have shows : ((Workflows.update (Fair.member "author")
      (Identifier.Kind.workflow.numbered 1) Fair.flag).outcome Fair.weather
      (Fair.start.run Fair.counted).session).1.toOption.map Fair.marks =
        some [some (.bool true)] := by
    rw [Fair.session_counted]
    decide +kernel
  have reads : ((Workflows.get (Fair.member "author")
      (Identifier.Kind.workflow.numbered 1)).outcome Fair.weather
      ((Fair.start.run Fair.counted).after Fair.weather (.act (.update
        (Fair.member "author") (Identifier.Kind.workflow.numbered 1) .empty
        Fair.updateToFlag))).session).1.toOption.map Fair.marks =
        some [some (.int 1)] := by
    rw [session_after, session_reading _ Fair.weather rfl Fair.reads_flag,
      Fair.session_counted]
    decide +kernel
  rcases updated : (Workflows.update (Fair.member "author")
    (Identifier.Kind.workflow.numbered 1) Fair.flag).outcome Fair.weather
    (Fair.start.run Fair.counted).session with ⟨_ | detail, after⟩
  · rw [updated] at shows
    cases shows
  rcases got : (Workflows.get (Fair.member "author")
    (Identifier.Kind.workflow.numbered 1)).outcome Fair.weather
    ((Fair.start.run Fair.counted).after Fair.weather (.act (.update
      (Fair.member "author") (Identifier.Kind.workflow.numbered 1) .empty
      Fair.updateToFlag))).session with ⟨_ | view, final⟩
  · rw [got] at reads
    cases reads
  rw [updated] at shows
  rw [got] at reads
  have same := always Fair.members Fair.projects Fair.memberships {} Fair.counted
    Fair.weather (Fair.member "author") _ .empty Fair.updateToFlag Fair.flag
    Fair.reads_flag Fair.storable_flag detail after updated [] trivial _ Fair.weather
    view final got .nodes
  have nodes : view.nodes = detail.nodes := by injection same
  have marks : Fair.marks view = Fair.marks detail := by rw [Fair.marks, nodes, Fair.marks]
  rw [Option.some.inj shows, Option.some.inj reads] at marks
  cases marks

end World

end WorkflowExchange

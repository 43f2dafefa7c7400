import WorkflowExchange.Proofs.Exchange.Race
import WorkflowExchange.Proofs.Exchange.Snapshot

/-!
# Publishing is an upsert

Whichever way an entry is placed, the tables change in one of two ways: the row of
the origin gets the published fields and keeps the others, or there was none and
one row is added.  No other row of any table changes: `Store.Upserts`.
-/

namespace WorkflowExchange

/-- What publishing an entry again does to its row. -/
structure Entry.Renewed (fields : EntryFields) (moment : Moment)
    (old new : Entry) : Prop where
  id : new.id = old.id
  authorId : new.authorId = old.authorId
  authorName : new.authorName = old.authorName
  originalWorkflowId : new.originalWorkflowId = old.originalWorkflowId
  createdByUserId : new.createdByUserId = old.createdByUserId
  downloads : new.downloads = old.downloads
  createdAt : new.stamps.createdAt = old.stamps.createdAt
  updatedAt : new.stamps.updatedAt = moment
  name : new.name = .text fields.name
  description : new.description = .text fields.description
  category : new.category = .text fields.category
  snapshot : new.snapshot.Holds fields.snapshot
  isPublic : new.isPublic = fields.isPublic?.getD old.isPublic

/-- What the row of an entry is that a user publishes for the first time. -/
structure Entry.Opened (user : User) (workflowId : String) (fields : EntryFields)
    (moment : Moment) (new : Entry) : Prop where
  authorId : new.authorId = .text user.id
  authorName : new.authorName = .text user.displayName
  originalWorkflowId : new.originalWorkflowId = some (.text workflowId)
  createdByUserId : new.createdByUserId = .text user.id
  downloads : new.downloads = .int 0
  stamps : new.stamps = .at moment
  name : new.name = .text fields.name
  description : new.description = .text fields.description
  category : new.category = .text fields.category
  snapshot : fields.snapshot = .ofJson new.snapshot
  isPublic : new.isPublic = fields.isPublic?.getD true

/-- One row changes: that of the origin where there is one, or else a row is added
under an identifier that no other row has. -/
inductive Store.Upserts (moment : Moment) (user : User) (workflowId : String)
    (fields : EntryFields) (first last : Store) (new : Entry) : Prop where
  | renews {front rear : List Entry} {old : Entry}
      (held : first.entries = front ++ old :: rear)
      (origin : old.origin = Entry.originOf workflowId user.id)
      (others : ∀ other ∈ front ++ rear,
        other.id ≠ old.id ∧ other.origin ≠ Entry.originOf workflowId user.id)
      (renewed : old.Renewed fields moment new)
      (saved : last = { first with entries := front ++ new :: rear })
  | adds
      (absent : ∀ other ∈ first.entries,
        other.id ≠ new.id ∧ other.origin ≠ Entry.originOf workflowId user.id)
      (opened : new.Opened user workflowId fields moment)
      (saved : last = { first with entries := first.entries ++ [new] })

namespace Store

variable {store : Store} {front rear : List Entry} {old new : Entry}

/-- Of entries that differ in something the others do not share it with one. -/
theorem ne_of_nodup_map {α : Type} {view : Entry → α}
    (held : store.entries = front ++ old :: rear)
    (different : (store.entries.map view).Nodup) :
    ∀ other ∈ front ++ rear, view other ≠ view old := by
  have moved : (front ++ old :: rear).Perm (old :: (front ++ rear)) :=
    List.perm_middle
  rw [held, (moved.map view).nodup_iff, List.map_cons, List.nodup_cons]
    at different
  intro other member same
  exact different.1 (List.mem_map.mpr ⟨other, member, same⟩)

/-- Replacing an entry replaces the one row that has its identifier. -/
theorem replaceEntry_eq (held : store.entries = front ++ old :: rear)
    (others : ∀ other ∈ front ++ rear, other.id ≠ old.id)
    (same : new.id = old.id) :
    store.replaceEntry new =
      { store with entries := front ++ new :: rear } := by
  have kept (part : List Entry) (within : ∀ other ∈ part, other.id ≠ old.id) :
      part.map (fun other => if other.id = new.id then new else other) =
        part := by
    rw [same]
    refine (List.map_congr_left fun other member => ?_).trans (List.map_id part)
    exact if_neg (within other member)
  rw [replaceEntry, held, List.map_append, List.map_cons, if_pos same.symm,
    kept front fun other member => others other (List.mem_append_left _ member),
    kept rear fun other member => others other (List.mem_append_right _ member)]

end Store

namespace Catalog

variable {environment : Environment} {moment : Moment} {user : User}
  {workflowId : String} {fields : EntryFields} {before after : Session}
  {entry : Entry}

/-- What was placed is one upsert. -/
theorem Places.upserts (keyed : before.draft.Keyed before.counters)
    {json : Json} (distinct : json.Distinct) (part : json.IsPart)
    (given : fields.snapshot = .ofJson json)
    (places : Places moment user workflowId fields before after entry) :
    Store.Upserts moment user workflowId fields before.draft after.draft
      entry := by
  cases places with
  | @update existing snapshot found ready draft =>
      rcases Store.entryByOrigin?_eq_some found with ⟨member, origin⟩
      rcases List.append_of_mem member with ⟨front, rear, held⟩
      have ids := Store.ne_of_nodup_map held keyed.ids
      have origins := Store.ne_of_nodup_map held keyed.origins
      have holds : snapshot.Holds fields.snapshot := by
        rw [given] at ready ⊢
        exact Json.holds_of_changed distinct part ready
      refine .renews held origin (fun other place =>
        ⟨ids other place, fun same => origins other place
          (same.trans origin.symm)⟩) ?_ ?_
      · exact ⟨rfl, rfl, rfl, rfl, rfl, rfl, rfl, rfl, rfl, rfl, rfl, holds, rfl⟩
      · rw [draft]
        exact Store.replaceEntry_eq held ids rfl
  | @insert snapshot made ready added =>
      rcases Store.addEntry_eq_some.mp added with ⟨different, draft⟩
      have same : fields.snapshot = .ofJson snapshot := by
        rw [given] at ready ⊢
        rw [distinct.column part] at ready
        cases ready
        rfl
      refine .adds ?_ ?_ draft
      · intro other member
        rcases different other member with ⟨id, origin⟩
        exact ⟨id.symm, fun same =>
          (Store.sameOrigin_eq_false rfl).mp origin same.symm⟩
      · exact ⟨rfl, rfl, rfl, rfl, rfl, rfl, rfl, rfl, rfl, same, rfl⟩

/-- Where an entry is placed depends on the draft and on the entries that were
made. -/
theorem Places.congr {other : Session} (draft : before.draft = other.draft)
    (counters : before.counters = other.counters)
    (places : Places moment user workflowId fields before after entry) :
    Places moment user workflowId fields other after entry := by
  cases places with
  | update found ready draftAfter =>
      rw [draft] at found draftAfter
      exact .update found ready draftAfter
  | insert made ready added =>
      rw [counters] at made added ⊢
      rw [draft] at added
      exact .insert made ready added

/-! ## Finishing a publication -/

/-- The text that a wide text is, or the fault that it has no encoding. -/
def encoded (description : Wide) : Except Failure String :=
  match description.string? with
  | some content => .ok content
  | none => .error (.fault .unencodable)

/-- The description that a publication gives an entry: what it begins with, if that has an
encoding. -/
def descriptionOf (environment : Environment) (request : PublishRequest)
    (name : Value) (graph : GraphCopy) : Except Failure String :=
  wideDescriptionOf environment request name graph >>= encoded

theorem encoded_eq_ok {description : Wide} {content : String} :
    encoded description = .ok content ↔ description = Wide.ofString content := by
  rw [← Wide.string?_eq_some, encoded]
  cases description.string? <;> simp

theorem descriptionOf_eq_ok {environment : Environment} {request : PublishRequest}
    {name : Value} {graph : GraphCopy} {content : String} :
    descriptionOf environment request name graph = .ok content ↔
      wideDescriptionOf environment request name graph =
        .ok (Wide.ofString content) := by
  simp only [descriptionOf, Except.bind_eq_ok, encoded_eq_ok, exists_eq_right]

theorem encoded_eq_error {description : Wide} {failure : Failure} :
    encoded description = .error failure ↔
      description.string? = none ∧ .fault .unencodable = failure := by
  rw [encoded]
  cases description.string? <;> simp

/-- There is no description where making it fails, or encoding it. -/
theorem descriptionOf_eq_error {environment : Environment} {request : PublishRequest}
    {name : Value} {graph : GraphCopy} {failure : Failure} :
    descriptionOf environment request name graph = .error failure ↔
      wideDescriptionOf environment request name graph = .error failure ∨
        ∃ description,
          wideDescriptionOf environment request name graph = .ok description ∧
          description.string? = none ∧ .fault .unencodable = failure := by
  rw [descriptionOf]
  cases wideDescriptionOf environment request name graph with
  | error => simp [bind, Except.bind]
  | ok description => simp [bind, Except.bind, encoded_eq_error]

/-- If a user may publish the workflow of a request, a description is made of it that has
an encoding. -/
def CanDescribe (environment : Environment) (store : Store) (user : User)
    (request : PublishRequest) : Prop :=
  ∀ name graph,
    IsSnapshot store user (publishScopes environment.strict) request.workflowId name
      graph →
      ∃ description, descriptionOf environment request name graph = .ok description

/-- What a request carries as a description has an encoding. -/
theorem canDescribe_of_sent {request : PublishRequest}
    (sent : request.useAutoDescription.getD false = false) (environment : Environment)
    (store : Store) (user : User) : CanDescribe environment store user request := by
  intro name graph _
  refine ⟨sentDescription request, descriptionOf_eq_ok.mpr ?_⟩
  rw [wideDescriptionOf, sent]
  rfl

theorem descriptionFor_prepares (context : Log.Context)
    (request : PublishRequest) (name : Value) (graph : GraphCopy) :
    (descriptionFor context request name graph).Prepares environment before
      fun description after =>
        wideDescriptionOf environment request name graph = .ok description ∧
          before.Idle after := by
  rcases descriptionFor_ends environment before context request name graph with
    ⟨after, ended, idle, -⟩
  rw [Work.Prepares, Work.Settles, ended]
  cases wideDescriptionOf environment request name graph with
  | ok description => exact ⟨idle.unsaved, rfl, idle⟩
  | error failure => exact idle.unsaved

end Catalog

namespace Publication

variable {environment : Environment} {before : Session}

/-- What the messages of a publication are logged with. -/
def context (publication : Publication) : Log.Context :=
  .ofCall publication.user.id "publish"

/-- What a publication gives an entry with a description. -/
def fields (publication : Publication) (description : String) : EntryFields :=
  Catalog.entryFields publication.request description publication.graph

/-- The description that a publication asks for. -/
def describes (publication : Publication) : Work Wide :=
  Catalog.descriptionFor publication.context publication.request
    publication.name publication.graph

/-- The second transaction of a publication with a description. -/
def writes (publication : Publication) (description : Wide) : Work EntrySummary :=
  Catalog.writeDescribed publication.context publication.user publication.request
    publication.graph description

/-- A description that has an encoding is written. -/
theorem writes_ofString (publication : Publication) (content : String) :
    publication.writes (Wide.ofString content) =
      Catalog.writeEntry publication.context publication.user
        publication.request.workflowId (publication.fields content) := by
  rw [writes, Catalog.writeDescribed, Wide.string?_ofString]
  rfl

/-- A description that has no encoding is not written. -/
theorem writes_unbound (publication : Publication) (environment : Environment)
    {description : Wide}
    (wide : description.string? = none) (before : Session) :
    ∃ failure after, (publication.writes description).outcome environment before =
        (.error failure, after) ∧ before.Unsaved after ∧
      Catalog.FailsFor environment (publication.fields description.shown) .unencodable
        failure := by
  rw [writes, Catalog.writeDescribed, wide]
  exact Catalog.writeEntry_unbound environment before _ _ _ _ _

theorem finish_eq (publication : Publication) :
    publication.finish = publication.describes >>= publication.writes := rfl

/-- The rest of a publication fails with nothing saved, or saves a draft in which
an entry was placed, and ends as showing the entry does. -/
inductive Finishes (environment : Environment) (publication : Publication)
    (before : Session) : Prop where
  | fails {failure : Failure} {after : Session}
      (outcome : publication.finish.outcome environment before =
        (.error failure, after))
      (unsaved : before.Unsaved after)
  | saves {description : String} {entry : Entry} {last after : Session}
      (described : Catalog.descriptionOf environment publication.request
        publication.name publication.graph = .ok description)
      (places : Catalog.Places environment.now publication.user
        publication.request.workflowId (publication.fields description)
        before.discarded last entry)
      (outcome : publication.finish.outcome environment before =
        ((EntrySummary.ofEntry entry).toExcept, after))
      (saved : after.saved = last.draft)
      (commits : after.commits = before.commits + 1)

theorem finishes (environment : Environment) (publication : Publication)
    (before : Session) : publication.Finishes environment before := by
  have described : publication.describes.Prepares environment before _ :=
    Catalog.descriptionFor_prepares _ _ _ _
  have outcome := Work.outcome_bind environment before publication.describes
    publication.writes
  rw [← finish_eq] at outcome
  rcases Work.Settles.exists_outcome described with
    ⟨_, _, ended, unsaved⟩ | ⟨description, middle, ended, unsaved, described, idle⟩
  · rw [ended] at outcome
    exact .fails outcome unsaved
  · rw [ended] at outcome
    cases unicode : description.string? with
    | none =>
        rcases publication.writes_unbound environment unicode middle with
          ⟨_, _, failed, more, -⟩
        exact .fails (outcome.trans failed) (unsaved.trans more)
    | some content =>
        obtain rfl := Wide.string?_eq_some.mp unicode
        have writes : Catalog.Writes environment publication.user
            publication.request.workflowId (publication.fields content)
            (publication.writes (Wide.ofString content)) middle := by
          rw [publication.writes_ofString]
          exact Catalog.writeEntry_writes _ _ _ _
        cases writes with
        | fails failed more =>
            exact .fails (outcome.trans failed) (unsaved.trans more)
        | shows writing places written =>
            have draft : middle.discarded.draft = before.discarded.draft := idle.saved
            have counters : middle.discarded.counters = before.discarded.counters :=
              idle.counters
            refine .saves (Catalog.descriptionOf_eq_ok.mpr described)
              (places.congr draft counters) (outcome.trans written) rfl ?_
            change _ + 1 = _
            rw [writing.commits]
            exact congrArg (· + 1) idle.commits

/-- To publish is to begin a publication and to finish it. -/
theorem outcome_publish (environment : Environment) (before : Session)
    (user : User) (request : PublishRequest) :
    (Catalog.publish user request).outcome environment before =
      (Publication.begin user request >>= finish).outcome environment before := by
  simp only [Catalog.publish, Publication.begin, Work.outcome_bind]
  cases (Catalog.beginPublish user request).outcome environment before with
  | mk result middle => cases result <;> rfl

end Publication

end WorkflowExchange

import WorkflowExchange.Proofs.Exchange.Catalog

/-!
# What publishing does

The second transaction of publishing updates the entry of the workflow and its
author, or inserts one; where the insertion breaks a key, the entry that is there
is updated.  Each way ends in the same commit, after which the entry is shown.
Showing is all that comes after the commit: `Catalog.Publishes` says that the
transaction fails with nothing saved, or has published an entry and ends as
showing it does.
-/

namespace WorkflowExchange

namespace Catalog

variable {environment : Environment} {before : Session}

/-! ## Placing an entry -/

/-- The draft with an entry, or the error that a key was broken. -/
theorem outcome_setAdded (store? : Option Store) (session : Session) :
    (Work.setAdded store?).outcome environment session =
      match store? with
      | some draft => (.ok (), { session with draft })
      | none => (.error (.database .integrity), session) := by
  cases store? <;> rfl

/-- An insertion that fails changes nothing. -/
theorem insertEntry_fails_idle (environment : Environment) (before : Session)
    (entry : Entry) :
    match (Work.insertEntry entry).outcome environment before with
    | (.error _, after) => before.Idle after
    | (.ok _, _) => True := by
  have first := Session.idle_noted before .savepoint
  have second := first.trans
    (Session.idle_noted (before.noted .savepoint) .insertEntry)
  have inserting :
      match (Work.change .insertEntry (do
        Work.setAdded ((← Work.store).addEntry entry))).outcome environment
          (before.noted .savepoint) with
      | (.error _, after) => before.Idle after
      | (.ok _, _) => True := by
    simp only [Work.outcome_change, Work.outcome_bind, Work.outcome_store,
      outcome_setAdded]
    rcases environment.mishap (before.noted .savepoint).calls .insertEntry with
      _ | _ | _ | _
    case some.error | some.fault => exact second
    all_goals
      rcases ((before.noted .savepoint).noted .insertEntry).draft.addEntry
        entry with _ | draft
      · exact second
      · trivial
  rw [Work.insertEntry, Work.outcome_bind, Work.outcome_change]
  rcases environment.mishap before.calls .savepoint with _ | _ | _ | _
  case some.error | some.fault => exact first
  all_goals exact inserting

/-- An insertion that breaks a key leaves the draft as it was. -/
theorem prepares_inserts (entry : Entry) :
    (inserts entry).Prepares environment before fun inserted after =>
      after.counters = before.counters ∧
      (inserted = true ∧ before.draft.addEntry entry = some after.draft ∨
        inserted = false ∧ after.draft = before.draft) := by
  have prepares : (Work.insertEntry entry).Prepares environment before _ :=
    Work.prepares_insertEntry entry
  have idly := insertEntry_fails_idle environment before entry
  rw [Work.Prepares, Work.Settles, inserts, Work.outcome_tryCatch,
    Work.outcome_bind]
  rcases ended : (Work.insertEntry entry).outcome environment before with
    ⟨failure | _, after⟩
  · rw [ended] at idly
    have idle : before.Idle after := idly
    have refused : before.Unsaved after ∧ after.counters = before.counters ∧
        (false = true ∧ before.draft.addEntry entry = some after.draft ∨
          false = false ∧ after.draft = before.draft) :=
      ⟨idle.unsaved, idle.counters, .inr ⟨rfl, idle.draft⟩⟩
    rcases failure with _ | _ | error | _ | _
    case database =>
      cases error with
      | integrity => exact refused
      | operational | statement | programming => exact idle.unsaved
    all_goals exact idle.unsaved
  · rcases Work.Settles.of_ok prepares ended with ⟨unsaved, added, counters⟩
    exact ⟨unsaved, counters, .inl ⟨rfl, added⟩⟩

/-- The ways to place an entry: the one that is there gets new fields, or a first
one is added. -/
inductive Places (moment : Moment) (user : User) (workflowId : String)
    (fields : EntryFields) (before after : Session) : Entry → Prop where
  | update {existing : Entry} {snapshot : Json}
      (found : before.draft.entryByOrigin? workflowId user.id = some existing)
      (ready : Column.json.changed (.ofJson existing.snapshot)
        existing.snapshot (some fields.snapshot) = .ready snapshot)
      (draft : after.draft = before.draft.replaceEntry
        (existing.republished fields snapshot moment)) :
      Places moment user workflowId fields before after
        (existing.republished fields snapshot moment)
  | insert {snapshot : Json}
      (made : before.counters.entries + 1 ≤ after.counters.entries)
      (ready : Column.json fields.snapshot = .ready snapshot)
      (added : before.draft.addEntry (firstEntry user workflowId fields
        (Identifier.Kind.entry.numbered (before.counters.entries + 1)) snapshot
        moment) = some after.draft) :
      Places moment user workflowId fields before after
        (firstEntry user workflowId fields
          (Identifier.Kind.entry.numbered (before.counters.entries + 1))
          snapshot moment)

theorem prepares_insertOrUpdate (context : Log.Context) (user : User)
    (workflowId : String) (fields : EntryFields) :
    (insertOrUpdate context user workflowId fields).Prepares environment before
      fun entry after =>
        Places environment.now user workflowId fields before after entry := by
  apply Work.prepares_bind (Work.prepares_fresh .entry)
  rintro id first - ⟨rfl, rfl⟩
  apply Work.prepares_bind Work.prepares_now
  rintro moment second - ⟨rfl, rfl⟩
  apply Work.prepares_bind (Work.prepares_storing _)
  rintro snapshot third - ⟨ready, rfl⟩
  apply Work.prepares_bind (prepares_inserts _)
  rintro inserted fourth - ⟨counters, ⟨rfl, added⟩ | ⟨rfl, unchanged⟩⟩
  · apply Work.prepares_bind (Work.prepares_log _ _)
    rintro _ fifth - idle
    rw [← idle.draft] at added
    apply Work.prepares_pure
    refine .insert ?_ ready added
    rw [idle.counters, counters]
    exact Nat.le_refl _
  · apply Work.prepares_bind (Work.prepares_entryByOrigin? workflowId user.id)
    rintro found fifth - ⟨present, idle⟩
    cases found with
    | none => exact Work.prepares_fail
    | some existing =>
        apply Work.prepares_bind (Work.prepares_log _ _)
        rintro _ sixth - told
        apply Work.Prepares.mono (Work.prepares_updateEntry existing fields)
        rintro entry seventh - ⟨kept, readyAgain, rfl, draft, -⟩
        have there := present existing rfl
        rw [unchanged] at there
        rw [told.draft, idle.draft, unchanged] at draft
        exact .update there readyAgain draft

theorem prepares_placeEntry (context : Log.Context) (user : User)
    (workflowId : String) (fields : EntryFields) :
    (placeEntry context user workflowId fields).Prepares environment before
      fun entry after =>
        Places environment.now user workflowId fields before after entry := by
  apply Work.prepares_bind (Work.prepares_entryByOrigin? workflowId user.id)
  rintro found first - ⟨present, idle⟩
  cases found with
  | none =>
      apply Work.Prepares.mono (prepares_insertOrUpdate context user workflowId
        fields)
      rintro entry second - places
      cases places with
      | update found ready draft =>
          rw [idle.draft] at found draft
          exact .update found ready draft
      | insert made ready added =>
          rw [idle.counters] at made added ⊢
          rw [idle.draft] at added
          exact .insert made ready added
  | some existing =>
      apply Work.prepares_bind (Work.prepares_updateEntry existing fields)
      rintro entry second - ⟨snapshot, ready, rfl, draft, -⟩
      apply Work.prepares_bind (Work.prepares_log _ _)
      rintro _ third - told
      rw [idle.draft, ← told.draft] at draft
      exact Work.prepares_pure (.update (present existing rfl) ready draft)

/-! ## Publishing -/

/-- Work fails with nothing saved, or has published an entry and ends as showing
the entry does. -/
inductive Publishes (environment : Environment) (user : User)
    (request : PublishRequest) (work : Work EntrySummary) (before : Session) :
    Prop where
  | fails {failure : Failure} {after : Session}
      (outcome : work.outcome environment before = (.error failure, after))
      (unsaved : before.Unsaved after)
  | shows {entry : Entry} {after : Session}
      (outcome : work.outcome environment before =
        ((EntrySummary.ofEntry entry).toExcept, after))
      (did : Session.Did environment.now (.publish user request) before after)
      (member : entry ∈ after.saved.entries)
      (origin : entry.origin = Entry.originOf request.workflowId user.id)

/-- What was placed is in the draft. -/
theorem Places.member {moment : Moment} {user : User} {workflowId : String}
    {fields : EntryFields} {first last : Session} {entry : Entry}
    (places : Places moment user workflowId fields first last entry) :
    entry ∈ last.draft.entries ∧
      entry.origin = Entry.originOf workflowId user.id := by
  cases places with
  | update found ready draft =>
      rcases Store.entryByOrigin?_eq_some found with ⟨member, origin⟩
      refine ⟨?_, origin⟩
      rw [draft]
      exact List.mem_map.mpr ⟨_, member, if_pos rfl⟩
  | insert made ready added =>
      rcases Store.addEntry_eq_some.mp added with ⟨-, equal⟩
      refine ⟨?_, rfl⟩
      rw [equal]
      exact List.mem_append_right _ (List.mem_singleton.mpr rfl)

/-- A column of JSON that agrees is kept, and another is an object when it was
given one. -/
theorem isObject_of_changed {graph : GraphCopy} {held snapshot : Json}
    (ready : Column.json.changed (.ofJson held) held (some graph.toValue) =
      .ready snapshot) : snapshot.IsObject ∨ snapshot = held := by
  rcases Column.changed_eq_ready.mp ready with ⟨-, rfl⟩ | ⟨_, ⟨⟩, -, stored⟩
  · exact .inr rfl
  · exact .inl (Column.isObject_of_json rfl stored)

theorem Places.does {moment : Moment} {user : User} {request : PublishRequest}
    {description : String} {graph : GraphCopy} {first last : Session}
    {entry : Entry}
    (places : Places moment user request.workflowId
      (entryFields request description graph) first last entry) :
    Store.Does moment first.counters last.counters (.publish user request)
      first.draft last.draft := by
  cases places with
  | update found ready draft =>
      rw [draft]
      exact .republish found (isObject_of_changed ready)
  | insert made ready added =>
      exact .publish (Nat.lt_succ_self _) made
        (Column.isObject_of_json rfl ready) added

/-- Work fails with nothing saved, or saves a draft in which an entry was placed,
and ends as showing the entry does. -/
inductive Writes (environment : Environment) (user : User) (workflowId : String)
    (fields : EntryFields) (work : Work EntrySummary) (before : Session) :
    Prop where
  | fails {failure : Failure} {after : Session}
      (outcome : work.outcome environment before = (.error failure, after))
      (unsaved : before.Unsaved after)
  | shows {entry : Entry} {last : Session}
      (unsaved : before.discarded.Unsaved last)
      (places : Places environment.now user workflowId fields before.discarded
        last entry)
      (outcome : work.outcome environment before =
        ((EntrySummary.ofEntry entry).toExcept, last.committed.discarded))

theorem writeEntry_writes (context : Log.Context) (user : User)
    (workflowId : String) (fields : EntryFields) :
    Writes environment user workflowId fields
      (writeEntry context user workflowId fields) before := by
  have settles : (saveEntry context user workflowId fields).Settles environment
      before.discarded fun entry after =>
        ∃ last, after = last.committed ∧ before.discarded.Unsaved last ∧
          Places environment.now user workflowId fields before.discarded last
            entry := by
    apply Work.settles_bind (prepares_placeEntry context user workflowId fields)
    intro entry last unsaved places
    apply Work.settles_commit
    exact ⟨entry, last.committed, rfl, last, rfl, unsaved, places⟩
  have outcome := Work.outcome_transaction environment before .operation
    context (do shown (← saveEntry context user workflowId fields))
  rw [Work.outcome_bind] at outcome
  rcases settles.exists_outcome with
    ⟨failure, after, ended, failed⟩ | ⟨entry, after, ended, last, rfl, unsaved, places⟩
  · rw [ended] at outcome
    have unsaved : before.Unsaved after.discarded :=
      ⟨failed.saved, failed.commits, failed.counters⟩
    cases failure with
    | database error =>
        exact .fails outcome (unsaved.trans (Session.idle_told _ _).unsaved)
    | because | fault | notUpdatable | misfits => exact .fails outcome unsaved
  · rw [ended] at outcome
    refine .shows unsaved places ?_
    simp only [shown, Work.outcome_ofExcept] at outcome
    cases fits : EntrySummary.ofEntry entry with
    | fits | misfits | breaks =>
        rw [fits] at outcome
        exact outcome

theorem writeEntry_publishes (context : Log.Context) (user : User)
    (request : PublishRequest) (description : String) (graph : GraphCopy) :
    Publishes environment user request
      (writeEntry context user request.workflowId
        (entryFields request description graph)) before := by
  have writes : Writes environment user request.workflowId
      (entryFields request description graph) _ before :=
    writeEntry_writes context user request.workflowId _
  cases writes with
  | fails outcome unsaved => exact .fails outcome unsaved
  | shows unsaved places outcome =>
      exact .shows outcome (Session.did_of_committed unsaved places.does
        (.refl _)) places.member.1 places.member.2

theorem prepares_descriptionFor (context : Log.Context)
    (request : PublishRequest) (name : Value) (graph : GraphCopy) :
    (descriptionFor context request name graph).Prepares environment before
      fun _ after => before.Idle after := by
  rw [descriptionFor]
  by_cases wanted : request.useAutoDescription.getD false
  · rw [if_pos wanted]
    exact prepares_describe context name graph
  · rw [if_neg wanted]
    exact Work.prepares_pure (.refl before)

/-- What is published after other work that saves nothing. -/
theorem Publishes.after_prepared {α : Type} {user : User}
    {request : PublishRequest} {first : Work α}
    {next : α → Work EntrySummary} {holds : α → Session → Prop}
    (prepares : first.Prepares environment before holds)
    (publishes : ∀ result middle,
      Publishes environment user request (next result) middle) :
    Publishes environment user request (first >>= next) before := by
  have outcome := Work.outcome_bind environment before first next
  rcases Work.Settles.exists_outcome prepares with
    ⟨_, _, ended, unsaved⟩ | ⟨result, middle, ended, unsaved, -⟩
  · rw [ended] at outcome
    exact .fails outcome unsaved
  · rw [ended] at outcome
    cases publishes result middle with
    | fails failed more =>
        exact .fails (outcome.trans failed) (unsaved.trans more)
    | shows shown did member origin =>
        exact .shows (outcome.trans shown) (did.widen unsaved) member origin

/-- What is published is published in the same way when some calls send what the
database does not take. -/
theorem Publishes.unbound {user : User} {request : PublishRequest}
    {work : Work EntrySummary} {sends : StoreCall → Bool} {mishap : Mishap}
    (publishes : Publishes (environment.sending sends mishap) user request work
      before) :
    Publishes environment user request (.unbound sends mishap work) before := by
  cases publishes with
  | fails outcome unsaved => exact .fails outcome unsaved
  | shows outcome did member origin => exact .shows outcome did member origin

theorem writeDescribed_publishes (context : Log.Context) (user : User)
    (request : PublishRequest) (graph : GraphCopy) (description : Wide) :
    Publishes environment user request
      (writeDescribed context user request graph description) before := by
  rw [writeDescribed]
  split
  · exact writeEntry_publishes _ user request _ graph
  · exact (writeEntry_publishes _ user request _ graph).unbound

theorem finishPublish_publishes (user : User) (request : PublishRequest)
    (name : Value) (graph : GraphCopy) :
    Publishes environment user request
      (finishPublish user request name graph) before := by
  apply Publishes.after_prepared (prepares_descriptionFor _ request name graph)
  intro description middle
  exact writeDescribed_publishes _ user request graph description

theorem publish_publishes (user : User) (request : PublishRequest) :
    Publishes environment user request (publish user request) before := by
  apply Publishes.after_prepared (beginPublish_prepares user request)
  intro found middle
  exact finishPublish_publishes user request found.1 found.2

end Catalog

end WorkflowExchange

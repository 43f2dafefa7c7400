import WorkflowExchange.Proofs.Exchange.Turn
import WorkflowExchange.Proofs.Identifier
import WorkflowExchange.Proofs.Store.Count

/-!
# Sound worlds

`World.Sound` holds of every world that a run leads to: workflows are of the
declared kinds, entries hold texts where texts are declared and a number of
downloads that was counted one by one, the author of an entry is the user who
made it, no two entries share an identifier or an origin, and every identifier
was made before.  Each deed preserves it: `Store.Does.sound`.
-/

namespace WorkflowExchange

/-! ## Sound entries -/

/-- What holds of every entry that publishing made. -/
structure Entry.Sound (counters : Counters) (entry : Entry) : Prop where
  id : ∃ number ≤ counters.entries,
    entry.id = .text (Identifier.Kind.entry.numbered number)
  name : ∃ content, entry.name = .text content
  description : ∃ content, entry.description = .text content
  category : ∃ content, entry.category = .text content
  author : entry.authorId = entry.createdByUserId
  authorName : ∃ content, entry.authorName = .text content
  origin : ∃ workflowId userId, entry.origin = Entry.originOf workflowId userId
  downloads : ∃ count, entry.downloads = .counted count
  snapshot : entry.snapshot.IsObject

namespace Entry

variable {counters : Counters} {entry : Entry}

theorem Sound.widen {later : Counters} (sound : entry.Sound counters)
    (most : counters.AtMost later) : entry.Sound later := by
  rcases sound.id with ⟨number, bound, equal⟩
  exact { sound with id := ⟨number, Nat.le_trans bound (most .entry), equal⟩ }

theorem Sound.downloaded (sound : entry.Sound counters) (moment : Moment) :
    (entry.downloaded 1 moment).Sound counters := by
  rcases sound.downloads with ⟨count, equal⟩
  have next : (entry.downloaded 1 moment).downloads = .counted (count + 1) := by
    rw [← CountCell.counted_plus, ← equal]
    rfl
  exact ⟨sound.id, sound.name, sound.description, sound.category,
    sound.author, sound.authorName, sound.origin, ⟨_, next⟩, sound.snapshot⟩

theorem Sound.republished {fields : EntryFields} {snapshot : Json}
    {moment : Moment} (sound : entry.Sound counters)
    (object : snapshot.IsObject ∨ snapshot = entry.snapshot) :
    (entry.republished fields snapshot moment).Sound counters := by
  have stored : snapshot.IsObject := by
    rcases object with object | rfl
    · exact object
    · exact sound.snapshot
  exact ⟨sound.id, ⟨_, rfl⟩, ⟨_, rfl⟩, ⟨_, rfl⟩, sound.author,
    sound.authorName, sound.origin, sound.downloads, stored⟩

theorem sound_firstEntry {user : User} {workflowId : String}
    {fields : EntryFields} {snapshot : Json} {moment : Moment} {number : Nat}
    (made : number ≤ counters.entries) (object : snapshot.IsObject) :
    (Catalog.firstEntry user workflowId fields
      (Identifier.Kind.entry.numbered number) snapshot moment).Sound counters :=
  ⟨⟨number, made, rfl⟩, ⟨_, rfl⟩, ⟨_, rfl⟩, ⟨_, rfl⟩, rfl, ⟨_, rfl⟩,
    ⟨_, _, rfl⟩, ⟨0, (CountCell.counted_of_lt (by decide)).symm⟩, object⟩

end Entry

/-! ## Showing entries -/

/-- The failure to show a number of downloads that is no integer of 64 bits. -/
def Catalog.countFailure : Failure :=
  .misfits [⟨[.field "downloads"], "int_parsing_size",
    "Unable to parse input string as an integer, exceeded maximum size"⟩]

/-- A sound entry is shown when its number of downloads is. -/
theorem EntrySummary.ofEntry_sound {counters : Counters} {entry : Entry}
    (sound : entry.Sound counters) :
    (entry.downloads = .overflowed ∧
      (EntrySummary.ofEntry entry).toExcept = .error Catalog.countFailure) ∨
    (entry.downloads ≠ .overflowed ∧
      ∃ summary, EntrySummary.ofEntry entry = .fits summary) := by
  rcases sound with ⟨⟨_, -, id⟩, ⟨_, name⟩, ⟨_, description⟩, ⟨_, category⟩,
    author, ⟨_, authorName⟩, ⟨_, _, origin⟩, ⟨count, downloads⟩, -⟩
  have published := congrArg Prod.fst origin
  have creator := congrArg Prod.snd origin
  change entry.originalWorkflowId = some (.text _) at published
  change entry.createdByUserId = .text _ at creator
  rw [creator] at author
  by_cases small : (count : Int) < Datum.intBound
  · have shown := CountCell.whole_counted_of_lt small
    rw [← downloads] at shown
    right
    constructor
    · rw [downloads, CountCell.counted_of_lt small]
      intro clash
      cases clash
    · rw [EntrySummary.ofEntry, id, name, description, category, author,
        authorName, published, shown]
      exact ⟨_, rfl⟩
  · have large := CountCell.counted_of_le (Int.not_lt.mp small)
    rw [large] at downloads
    left
    refine ⟨downloads, ?_⟩
    rw [EntrySummary.ofEntry, id, name, description, category, author,
      authorName, published, downloads, CountCell.whole_overflowed]
    rfl

/-! ## Keyed stores -/

/-- Rows have identifiers that were made, and entries are sound and different.
Nothing is said of what is in a workflow. -/
structure Store.Keyed (counters : Counters) (store : Store) : Prop where
  workflows : ∀ row ∈ store.workflows, ∃ number ≤ counters.workflows,
    row.id = Identifier.Kind.workflow.numbered number
  sharings : ∀ sharing ∈ store.sharings, ∃ number ≤ counters.workflows,
    sharing.workflowId = Identifier.Kind.workflow.numbered number
  entries : ∀ entry ∈ store.entries, entry.Sound counters
  ids : (store.entries.map Entry.id).Nodup
  origins : (store.entries.map Entry.origin).Nodup

/-- The graphs of all workflows are JSON with different keys, of whatever kinds. -/
def Store.HasDistinctKeys (store : Store) : Prop :=
  ∀ row ∈ store.workflows, row.graph.Distinct

namespace Store

variable {counters : Counters} {store : Store}

theorem Keyed.widen {later : Counters} (keyed : store.Keyed counters)
    (most : counters.AtMost later) : store.Keyed later where
  workflows := by
    intro row member
    rcases keyed.workflows row member with ⟨number, bound, equal⟩
    exact ⟨number, Nat.le_trans bound (most .workflow), equal⟩
  sharings := by
    intro sharing member
    rcases keyed.sharings sharing member with ⟨number, bound, equal⟩
    exact ⟨number, Nat.le_trans bound (most .workflow), equal⟩
  entries := fun entry member => (keyed.entries entry member).widen most
  ids := keyed.ids
  origins := keyed.origins

theorem Deposited.keyed {before : Counters} {last : Store}
    (deposited : store.Deposited before counters last)
    (keyed : store.Keyed counters) : last.Keyed counters := by
  rcases deposited with
    ⟨row, sharing, -, ⟨number, -, made, named⟩, -, linked, rfl⟩
  refine ⟨?_, ?_, keyed.entries, keyed.ids, keyed.origins⟩
  · intro present member
    rcases List.mem_append.mp member with member | member
    · exact keyed.workflows present member
    · rw [List.mem_singleton.mp member]
      exact ⟨number, made, named⟩
  · intro present member
    rcases List.mem_append.mp member with member | member
    · exact keyed.sharings present member
    · rw [List.mem_singleton.mp member]
      exact ⟨number, made, linked.trans named⟩

/-- Replacing an entry by a sound one with the same identifier and origin. -/
theorem Keyed.replaceEntry {old new : Entry} (keyed : store.Keyed counters)
    (member : old ∈ store.entries) (id : new.id = old.id)
    (origin : new.origin = old.origin) (newSound : new.Sound counters) :
    (store.replaceEntry new).Keyed counters where
  workflows := keyed.workflows
  sharings := keyed.sharings
  entries := by
    intro present place
    rcases mem_replaceEntry place with ⟨place, -⟩ | rfl
    · exact keyed.entries present place
    · exact newSound
  ids := by
    rw [map_replaceEntry]
    · exact keyed.ids
    · exact fun present _ same => same.symm
  origins := by
    rw [map_replaceEntry]
    · exact keyed.origins
    · intro present place same
      rw [origin, eq_of_id_eq keyed.ids place member (same.trans id)]

theorem Keyed.addEntry {entry : Entry} {last : Store}
    (keyed : store.Keyed counters) (newSound : entry.Sound counters)
    (added : store.addEntry entry = some last) : last.Keyed counters := by
  rcases addEntry_eq_some.mp added with ⟨different, rfl⟩
  have published : entry.originalWorkflowId.isSome := by
    rcases newSound.origin with ⟨workflowId, userId, equal⟩
    have first := congrArg Prod.fst equal
    change entry.originalWorkflowId = some _ at first
    rw [first]
    rfl
  refine ⟨keyed.workflows, keyed.sharings, ?_, ?_, ?_⟩
  · intro present member
    rcases List.mem_append.mp member with member | member
    · exact keyed.entries present member
    · rw [List.mem_singleton.mp member]
      exact newSound
  · rw [List.map_append, List.nodup_append]
    refine ⟨keyed.ids, List.nodup_singleton _, ?_⟩
    intro one first other second
    rcases List.mem_map.mp first with ⟨present, member, rfl⟩
    rw [List.map_singleton, List.mem_singleton] at second
    rw [second]
    exact (different present member).1.symm
  · rw [List.map_append, List.nodup_append]
    refine ⟨keyed.origins, List.nodup_singleton _, ?_⟩
    intro one first other second
    rcases List.mem_map.mp first with ⟨present, member, rfl⟩
    rw [List.map_singleton, List.mem_singleton] at second
    rw [second]
    exact ((sameOrigin_eq_false published).mp
      (different present member).2).symm

theorem Keyed.removeEntry (keyed : store.Keyed counters) (id : String) :
    (store.removeEntry id).Keyed counters where
  workflows := keyed.workflows
  sharings := keyed.sharings
  entries := fun entry member =>
    keyed.entries entry (List.mem_of_mem_filter member)
  ids := keyed.ids.sublist (List.filter_sublist.map _)
  origins := keyed.origins.sublist (List.filter_sublist.map _)

theorem Keyed.replaceWorkflow {old changed : Workflow}
    (keyed : store.Keyed counters) (held : old ∈ store.workflows)
    (same : changed.id = old.id) :
    (store.replaceWorkflow changed).Keyed counters := by
  refine ⟨?_, keyed.sharings, keyed.entries, keyed.ids, keyed.origins⟩
  intro row member
  rcases mem_replaceWorkflow member with place | rfl
  · exact keyed.workflows row place
  · rcases keyed.workflows old held with ⟨number, bound, equal⟩
    exact ⟨number, bound, same.trans equal⟩

/-- A deed leads from a keyed store to a keyed one. -/
theorem Does.keyed {moment : Moment} {before after : Counters} {deed : Deed}
    {first last : Store} (does : Store.Does moment before after deed first last)
    (most : before.AtMost after) (keyed : first.Keyed before) :
    last.Keyed after := by
  have wide := keyed.widen most
  cases does with
  | create deposited => exact deposited.keyed wide
  | importOwn found own deposited => exact deposited.keyed wide
  | importOther found others deposited =>
      rcases entryWith?_eq_some found with ⟨member, -⟩
      have entrySound := wide.entries _ member
      rw [← deposited.entries_eq] at member
      exact (deposited.keyed wide).replaceEntry member rfl rfl
        (entrySound.downloaded moment)
  | update held declared same => exact wide.replaceWorkflow held same
  | publish new made object added =>
      exact wide.addEntry (Entry.sound_firstEntry made object) added
  | republish found object =>
      rcases entryByOrigin?_eq_some found with ⟨member, -⟩
      exact wide.replaceEntry member rfl rfl
        ((wide.entries _ member).republished object)
  | delete => exact wide.removeEntry _
  | deleteNothing => exact wide

/-- What a deed leaves in the table of workflows was there, or is declared. -/
theorem Does.mem_workflows {moment : Moment} {before after : Counters}
    {deed : Deed} {first last : Store} {row : Workflow}
    (does : Store.Does moment before after deed first last)
    (member : row ∈ last.workflows) :
    row ∈ first.workflows ∨ row.Declared := by
  have deposit {middle : Store} (deposited : first.Deposited before after middle)
      (member : row ∈ middle.workflows) : row ∈ first.workflows ∨ row.Declared := by
    rcases deposited with ⟨new, _, declared, -, -, -, rfl⟩
    rcases List.mem_append.mp member with member | member
    · exact .inl member
    · rw [List.mem_singleton.mp member]
      exact .inr declared
  cases does with
  | create deposited | importOwn found own deposited =>
      exact deposit deposited member
  | @importOther _ middle _ _ _ found others deposited =>
      have kept : row ∈ middle.workflows := member
      exact deposit deposited kept
  | update held declared same =>
      rcases mem_replaceWorkflow member with place | rfl
      · exact .inl place
      · exact .inr declared
  | publish new made object added =>
      rcases addEntry_eq_some.mp added with ⟨-, rfl⟩
      exact .inl member
  | republish | delete | deleteNothing => exact .inl member

end Store

/-! ## Sound stores -/

/-- What holds of every store that a run leads to. -/
structure Store.Sound (counters : Counters) (store : Store) : Prop where
  workflows : ∀ row ∈ store.workflows, row.Declared ∧
    ∃ number ≤ counters.workflows,
      row.id = Identifier.Kind.workflow.numbered number
  sharings : ∀ sharing ∈ store.sharings, ∃ number ≤ counters.workflows,
    sharing.workflowId = Identifier.Kind.workflow.numbered number
  entries : ∀ entry ∈ store.entries, entry.Sound counters
  ids : (store.entries.map Entry.id).Nodup
  origins : (store.entries.map Entry.origin).Nodup

namespace Store

variable {counters : Counters} {store : Store}

theorem Sound.keyed (sound : store.Sound counters) : store.Keyed counters :=
  ⟨fun row member => (sound.workflows row member).2, sound.sharings, sound.entries,
    sound.ids, sound.origins⟩

theorem Sound.hasDistinctKeys (sound : store.Sound counters) :
    store.HasDistinctKeys :=
  fun row member => (sound.workflows row member).1.distinct

theorem Keyed.sound (keyed : store.Keyed counters)
    (declared : ∀ row ∈ store.workflows, row.Declared) : store.Sound counters :=
  ⟨fun row member => ⟨declared row member, keyed.workflows row member⟩,
    keyed.sharings, keyed.entries, keyed.ids, keyed.origins⟩

theorem Sound.widen {later : Counters} (sound : store.Sound counters)
    (most : counters.AtMost later) : store.Sound later :=
  (sound.keyed.widen most).sound fun row member => (sound.workflows row member).1

/-- A deed leads from a sound store to a sound one. -/
theorem Does.sound {moment : Moment} {before after : Counters} {deed : Deed}
    {first last : Store} (does : Store.Does moment before after deed first last)
    (most : before.AtMost after) (sound : first.Sound before) :
    last.Sound after := by
  refine (does.keyed most sound.keyed).sound fun row member => ?_
  rcases does.mem_workflows member with held | declared
  · exact (sound.workflows row held).1
  · exact declared

end Store

/-! ## Runs -/

/-- What holds of every world that a run leads to. -/
structure World.Sound (world : World) : Prop where
  store : world.store.Sound world.counters
  waiting : ∀ publication ∈ world.waiting, publication.graph.IsJson

namespace World

/-- There is nothing in the first world that could be unsound. -/
theorem sound_start (users : List User) (projects : List Project)
    (memberships : List Membership) (counters : Counters) :
    (start users projects memberships counters).Sound := by
  constructor
  · constructor <;> simp [start]
  · simp [start]

variable {world : World}

theorem Sound.workflowsDeclared (sound : world.Sound) :
    ∀ row ∈ world.store.workflows, row.Declared :=
  fun row member => (sound.store.workflows row member).1

/-- A turn leads from a sound world to a sound one. -/
theorem Sound.after (sound : world.Sound) (environment : Environment)
    (turn : Turn) : (world.after environment turn).Sound := by
  have waiting : ∀ publication ∈ (world.after environment turn).waiting,
      publication.graph.IsJson := by
    intro publication member
    rcases mem_waiting_after member with member | ⟨_, ended⟩
    · exact sound.waiting publication member
    · exact (isSnapshot_of_taken (taken_of_begun ended)).isJson
  refine ⟨?_, waiting⟩
  rcases after_cases world environment turn sound.workflowsDeclared with
    ⟨most, ⟨same, -⟩ | ⟨-, deed, -, does⟩⟩
  · rw [same]
    exact sound.store.widen most
  · exact does.sound most sound.store

theorem Sound.step (sound : world.Sound) (environment : Environment)
    (turn : Turn) : (world.step environment turn).Sound :=
  sound.after _ turn

theorem Sound.run (sound : world.Sound)
    (turns : List (Environment × Turn)) : (world.run turns).Sound := by
  induction turns generalizing world with
  | nil => exact sound
  | cons turn rest hypothesis =>
      exact hypothesis (sound.step turn.1 turn.2)

end World

end WorkflowExchange

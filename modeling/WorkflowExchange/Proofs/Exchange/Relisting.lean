import WorkflowExchange.Proofs.Exchange.Moving
import WorkflowExchange.Proofs.Exchange.Visibility

/-!
# Imports and the order of listings

Counting a download changes the moment at which the entry was last changed.  So who
imports someone else's entry moves it in every listing that has it, to the place of
what was changed at the moment of the import, and leaves the other entries in their
order.  An import by the author changes no listing.  Which turns move an entry
is told for whole runs: `World.imports_relist`.
-/

namespace WorkflowExchange

/-! ## Counting a download in the catalog -/

theorem TextCell.atMost_antisymm {one other : TextCell} (first : one.atMost other = true)
    (second : other.atMost one = true) : one = other := by
  cases one <;> cases other <;>
    simp only [atMost, decide_eq_true_eq, Bool.false_eq_true] at first second
  · rw [String.le_antisymm first second]
  · rw [List.le_antisymm first second]

namespace Store

theorem id_eq_of_listsBefore {one other : Entry} (first : listsBefore one other = true)
    (second : listsBefore other one = true) : one.id = other.id := by
  rw [listsBefore_iff] at first second
  rcases first with later | ⟨same, below⟩ <;> rcases second with further | ⟨alike, above⟩
  · omega
  · omega
  · omega
  · exact TextCell.atMost_antisymm above below

/-- Entries are listed in one order only. -/
theorem eq_of_perm {ones others : List Entry} (keys : (others.map Entry.id).Nodup)
    (same : ones.Perm others)
    (first : ones.Pairwise fun one other => listsBefore one other = true)
    (second : others.Pairwise fun one other => listsBefore one other = true) :
    ones = others := by
  refine List.Perm.eq_of_pairwise ?_ first second same
  intro one other member there before after
  exact List.inj_on_of_nodup_map keys (same.mem_iff.mp member) there
    (id_eq_of_listsBefore before after)

/-- Public entries are all listed. -/
theorem visibleEntries_eq {store : Store} (keys : (store.entries.map Entry.id).Nodup)
    (visible : ∀ entry ∈ store.entries, entry.isPublic = true) {listing : List Entry}
    (same : listing.Perm store.entries)
    (ordered : listing.Pairwise fun one other => listsBefore one other = true)
    (userId : String) : store.visibleEntries userId = listing := by
  have all : (store.visibleEntries userId).Perm store.entries := by
    refine (List.mergeSort_perm _ _).trans (.of_eq (List.filter_eq_self.mpr ?_))
    intro entry member
    rw [visible entry member, Bool.true_or]
  exact eq_of_perm ((same.map Entry.id).nodup_iff.mpr keys) (all.trans same.symm)
    (pairwise_visibleEntries store userId) ordered

/-- From one store to another a download of an entry is counted at a moment, and no
other entry is changed. -/
structure Counts (moment : Moment) (entry : Entry) (first last : Store) : Prop where
  held : entry ∈ first.entries
  entries : last.entries =
    (first.replaceEntry (entry.downloaded 1 moment)).entries

namespace Counts

variable {moment : Moment} {entry : Entry} {first last : Store}
  {userId : String}

theorem keys (counts : Counts moment entry first last) :
    last.entries.map Entry.id = first.entries.map Entry.id := by
  rw [counts.entries]
  exact map_replaceEntry fun _ _ same => same.symm

theorem counted_mem (counts : Counts moment entry first last) :
    entry.downloaded 1 moment ∈ last.entries := by
  rw [counts.entries]
  exact List.mem_map.mpr ⟨entry, counts.held, if_pos rfl⟩

/-- The other entries are left. -/
theorem others (counts : Counts moment entry first last) :
    last.entries.filter (·.id ≠ entry.id) = first.entries.filter (·.id ≠ entry.id) := by
  rw [counts.entries]
  exact filter_replaceEntry first (entry.downloaded 1 moment)

/-- The other entries that are visible to a user are left in their order. -/
theorem visible_others (counts : Counts moment entry first last)
    (keys : (first.entries.map Entry.id).Nodup) (userId : String) :
    (last.visibleEntries userId).filter (·.id ≠ entry.id) =
      (first.visibleEntries userId).filter (·.id ≠ entry.id) := by
  have parts (store : Store) :
      ((store.visibleEntries userId).filter (·.id ≠ entry.id)).Perm
        ((store.entries.filter (·.id ≠ entry.id)).filter fun present =>
          present.isPublic || present.createdByUserId = .text userId) := by
    rw [List.filter_comm]
    exact (List.mergeSort_perm _ _).filter _
  have distinct : ((first.visibleEntries userId).map Entry.id).Nodup :=
    nodup_visibleEntries keys
  exact eq_of_perm (distinct.sublist (List.filter_sublist.map _))
    ((parts last).trans (counts.others ▸ (parts first).symm))
    ((pairwise_visibleEntries last userId).filter _)
    ((pairwise_visibleEntries first userId).filter _)

/-- A user to whom the entry is not visible sees the same entries. -/
theorem visibleEntries_of_hidden (counts : Counts moment entry first last)
    (keys : (first.entries.map Entry.id).Nodup)
    (hidden : ¬(entry.isPublic = true ∨ entry.createdByUserId = .text userId)) :
    last.visibleEntries userId = first.visibleEntries userId := by
  have whole {store : Store} {counted : Entry} (held : counted ∈ store.entries)
      (distinct : (store.entries.map Entry.id).Nodup) (named : counted.id = entry.id)
      (closed : ¬(counted.isPublic = true ∨ counted.createdByUserId = .text userId)) :
      (store.visibleEntries userId).filter (·.id ≠ entry.id) =
        store.visibleEntries userId := by
    refine List.filter_eq_self.mpr fun present member => decide_eq_true ?_
    rcases mem_visibleEntries.mp member with ⟨place, visible⟩
    intro same
    rw [eq_of_id_eq distinct place held (same.trans named.symm)] at visible
    exact closed visible
  rw [← whole counts.held keys rfl hidden, ← counts.visible_others keys userId]
  exact (whole counts.counted_mem (counts.keys ▸ keys) rfl hidden).symm

/-- The downloads are integers still. -/
theorem hasCounts (counts : Counts moment entry first last) (counted : entry.Counts)
    (integers : first.HasCounts) : last.HasCounts := by
  intro present member
  rw [counts.entries] at member
  rcases mem_replaceEntry member with ⟨held, -⟩ | rfl
  · exact integers present held
  · rcases counted.downloaded moment with ⟨count, -, more⟩
    exact ⟨count + 1, more⟩

end Counts

end Store

/-! ## Counting a download in a listing -/

namespace EntrySummary

/-- What is shown of an entry after one more download, counted at a moment. -/
def downloaded (summary : EntrySummary) (moment : Moment) : EntrySummary :=
  { summary with
    downloads := summary.downloads + 1
    stamps := summary.stamps.touched moment }

/-- There is one view of an entry. -/
theorem Shows.unique : Relator.LeftUnique EntrySummary.Shows := by
  rintro one other entry first second
  have text {cell : TextCell} {left right : String} (shown : cell = .text left)
      (again : cell = .text right) : left = right :=
    TextCell.text.inj (shown.symm.trans again)
  have origin : one.originalWorkflowId = other.originalWorkflowId :=
    Option.map_injective (fun _ _ => TextCell.text.inj)
      (first.originalWorkflowId.symm.trans second.originalWorkflowId)
  cases one
  cases other
  simp only [mk.injEq]
  exact ⟨text first.id second.id, text first.name second.name,
    text first.description second.description, text first.category second.category,
    CountCell.int.inj (first.downloads.symm.trans second.downloads),
    first.isPublic.symm.trans second.isPublic, text first.authorId second.authorId,
    text first.authorName second.authorName, origin,
    first.stamps.symm.trans second.stamps⟩

/-- The view of an entry after one more download, if that can be shown. -/
theorem Shows.eq_downloaded {old new : EntrySummary} {entry : Entry} {moment : Moment}
    {counters : Counters} (sound : entry.Sound counters) (shows : old.Shows entry)
    (shown : new.Shows (entry.downloaded 1 moment)) : new = old.downloaded moment := by
  rcases sound.downloads with ⟨count, counted⟩
  have before : old.downloads = count :=
    CountCell.eq_of_counted_eq_int (counted.symm.trans shows.downloads)
  have after : new.downloads = (count + 1 : Nat) := by
    apply CountCell.eq_of_counted_eq_int
    rw [← CountCell.counted_plus, ← counted]
    exact shown.downloads
  refine Shows.unique shown { shows with downloads := ?_, stamps := ?_ }
  · rw [shown.downloads, after, downloaded, before]
    rfl
  · exact congrArg (·.touched moment) shows.stamps

/-- In a listing the place of an entry that is changed at a moment is between two parts
of the other summaries: after those that were changed later, or at the same moment with
a greater identifier, and before the rest. -/
structure Parts (moment : Moment) (summary : EntrySummary)
    (listing front rear : List EntrySummary) : Prop where
  listed : summary ∈ listing
  others : listing.filter (·.id ≠ summary.id) = front ++ rear
  ahead : ∀ other ∈ front,
    moment.microseconds < other.stamps.updatedAt.microseconds ∨
      moment.microseconds = other.stamps.updatedAt.microseconds ∧
        summary.id < other.id
  behind : ∀ other ∈ rear,
    other.stamps.updatedAt.microseconds < moment.microseconds ∨
      other.stamps.updatedAt.microseconds = moment.microseconds ∧
        other.id < summary.id

/-- One listing becomes another one when a download of the entry with an identifier is
counted at a moment: the other summaries are left in their order, and that of the entry
stands where the moment puts it. -/
def Relisted (id : String) (moment : Moment) (shown others : List EntrySummary) : Prop :=
  ∃ (summary : EntrySummary) (front rear : List EntrySummary), summary.id = id ∧
    summary.Parts moment shown front rear ∧
    others = front ++ summary.downloaded moment :: rear

end EntrySummary

namespace Store

/-- The view of an entry stands alone with its identifier, and in order. -/
theorem ListsOpen.split {store : Store} {user : User} {summary : EntrySummary}
    {front rear : List EntrySummary}
    (lists : store.ListsOpen user (front ++ summary :: rear)) :
    (front ++ summary :: rear).filter (·.id ≠ summary.id) = front ++ rear := by
  have once := lists.once
  rw [List.map_append, List.map_cons, List.nodup_middle, List.nodup_cons,
    ← List.map_append] at once
  have apart : ∀ other ∈ front ++ rear, decide (other.id ≠ summary.id) = true := by
    intro other member
    refine decide_eq_true fun same => once.1 ?_
    exact List.mem_map.mpr ⟨other, member, same⟩
  rw [List.filter_append, List.filter_cons_of_neg (by simp), ← List.filter_append]
  exact List.filter_eq_self.mpr apart

/-- The listing of a user to whom an entry is visible after one more download of it. -/
theorem Counts.relisted {moment : Moment} {entry : Entry} {first last : Store}
    {counters later : Counters} (counts : Counts moment entry first last)
    (sound : first.Sound counters) (soundly : last.Sound later) {user : User}
    (visible : entry.isPublic = true ∨ entry.createdByUserId = .text user.id)
    {listing others : List EntrySummary}
    (one : List.Forall₂ EntrySummary.Shows listing (first.visibleEntries user.id))
    (two : List.Forall₂ EntrySummary.Shows others (last.visibleEntries user.id))
    {id : String} (named : entry.id = .text id) :
    EntrySummary.Relisted id moment listing others := by
  rcases Value.exists_mem_of_forall₂ one.flip entry
    (mem_visibleEntries.mpr ⟨counts.held, visible⟩) with ⟨summary, listed, shows⟩
  rcases Value.exists_mem_of_forall₂ two.flip (entry.downloaded 1 moment)
    (mem_visibleEntries.mpr ⟨counts.counted_mem, visible⟩) with ⟨new, place, shown⟩
  cases EntrySummary.Shows.eq_downloaded (sound.entries entry counts.held) shows shown
  rcases List.append_of_mem place with ⟨front, rear, rfl⟩
  have lists := soundly.listsOpen two
  have rest : (front ++ summary.downloaded moment :: rear).filter
        (·.id ≠ summary.id) = listing.filter (·.id ≠ summary.id) := by
    have apart (view : EntrySummary) (present : Entry) (same : view.Shows present) :
        decide (view.id ≠ summary.id) = true ↔
          decide (present.id ≠ entry.id) = true := by
      rw [same.id, shows.id]
      simp
    have before := List.rel_filter apart one
    have after := List.rel_filter apart two
    rw [counts.visible_others sound.ids] at after
    exact List.left_unique_forall₂' EntrySummary.Shows.unique after before
  rcases List.pairwise_append.mp lists.ordered with ⟨-, ordered, across⟩
  refine ⟨summary, front, rear, TextCell.text.inj (shows.id.symm.trans named),
    ⟨listed, ?_, ?_, ?_⟩, rfl⟩
  · rw [← rest]
    exact lists.split
  · exact fun other member => across other member _ List.mem_cons_self
  · exact (List.pairwise_cons.mp ordered).1

end Store

/-! ## Listings and imports -/

theorem World.Sound.session {world : World} (sound : world.Sound) :
    world.session.saved.Sound world.session.counters := sound.store

namespace Catalog

variable {moment : Moment} {entry : Entry}

/-- Users who see the same entries get the same listing. -/
theorem findAll_congr {one other : Session} {user : User}
    (same : one.saved.visibleEntries user.id = other.saved.visibleEntries user.id)
    (sooner later : Environment) :
    ((findAll user).outcome sooner.calm one).1 =
      ((findAll user).outcome later.calm other).1 := by
  rw [outcome_findAll, outcome_findAll, same]

/-- An import that is made keeps what is saved sound. -/
theorem sound_of_importEntry {environment : Environment} {before after : Session}
    {user : User} {entryId : String} {summary : WorkflowSummary}
    (sound : before.saved.Sound before.counters)
    (ended : (importEntry user entryId).outcome environment before =
      (.ok summary, after)) : after.saved.Sound after.counters := by
  have settles : (importEntry user entryId).Settles environment before _ :=
    importEntry_settles user entryId
  exact (settles.of_ok ended).sound sound

/-- After one more download of an entry those who do not see the entry get the same
listing.  The others get one in which the entry stands where its new moment puts it. -/
theorem findAll_counted {one other : Session}
    (counts : Store.Counts moment entry one.saved other.saved)
    (sound : one.saved.Sound one.counters) (soundly : other.saved.Sound other.counters)
    (integers : one.saved.HasCounts) (counted : entry.Counts)
    {entryId : String} (named : entry.id = .text entryId) (user : User)
    (sooner later : Environment) :
    let before := ((findAll user).outcome sooner.calm one).1
    let after := ((findAll user).outcome later.calm other).1
    (¬one.saved.Opens user entryId → after = before) ∧
    (one.saved.Opens user entryId →
      ∃ shown others, before = .ok shown ∧ after = .ok others ∧
        EntrySummary.Relisted entryId moment shown others) := by
  intro before after
  have found := Store.entryWith?_of_mem sound.ids counts.held named
  constructor
  · intro closed
    refine findAll_congr (counts.visibleEntries_of_hidden sound.ids ?_) later sooner
    exact fun visible => closed ⟨entry, found, visible⟩
  · rintro ⟨present, again, visible⟩
    cases found.symm.trans again
    have integersLast := counts.hasCounts counted integers
    rcases findAll_shows sooner sound integers user with ⟨shown, ends, one⟩
    rcases findAll_shows later soundly integersLast user with ⟨others, ended, two⟩
    exact ⟨shown, others, ends, ended, counts.relisted sound soundly visible
      (one.imp fun _ _ both => both.1) (two.imp fun _ _ both => both.1) named⟩

namespace Brings

variable {user : User} {project : Project} {row : Workflow} {first last : Store}

/-- An import by the author leaves the catalog. -/
theorem entries_of_own (brings : Brings moment user entry project row first last)
    (own : entry.authorId = .text user.id) : last.entries = first.entries := by
  rcases brings.tables with ⟨stamps, rfl⟩
  exact if_pos own

/-- Another import counts a download and leaves the rest of the catalog. -/
theorem counts (brings : Brings moment user entry project row first last)
    (others : entry.authorId ≠ .text user.id) (held : entry ∈ first.entries) :
    Store.Counts moment entry first last := by
  refine ⟨held, ?_⟩
  rcases brings.tables with ⟨stamps, rfl⟩
  exact if_neg others

end Brings

end Catalog

namespace World

/-- In every world that a run leads to, an import by the author of the entry leaves the
catalog and all listings.  An import by someone else counts a download of the entry at
the moment of the import and leaves the rest of the catalog.  Who does not see the entry
gets the same listing as before; who sees it gets the other entries in the same order,
and the entry where its new moment puts it.  Whatever turns follow, an entry has moved
last when one of them published it or imported it for someone other than its author. -/
theorem imports_relist (users : List User) (projects : List Project)
    (memberships : List Membership) (counters : Counters)
    (turns : List (Environment × Turn)) :
    let world := (start users projects memberships counters).run turns
    let listing (viewer : User) (environment : Environment) (session : Session) :=
      ((Catalog.findAll viewer).outcome environment.calm session).1
    (∀ (user : User) (entryId : String) (environment : Environment)
      (summary : WorkflowSummary) (after : Session),
      (Catalog.importEntry user entryId).outcome environment world.session =
        (.ok summary, after) →
      ∃ entry, world.store.entryWith? entryId = some entry ∧
        (entry.authorId = .text user.id →
          after.saved.entries = world.store.entries ∧
          ∀ viewer sooner later,
            listing viewer later after.next = listing viewer sooner world.session) ∧
        (entry.authorId ≠ .text user.id →
          after.saved.entries =
            (world.store.replaceEntry (entry.downloaded 1 environment.now)).entries ∧
          ∀ viewer sooner later,
            (¬world.store.Opens viewer entryId →
              listing viewer later after.next = listing viewer sooner world.session) ∧
            (world.store.Opens viewer entryId →
              ∃ shown others, listing viewer sooner world.session = .ok shown ∧
                listing viewer later after.next = .ok others ∧
                EntrySummary.Relisted entryId environment.now shown others))) ∧
    ∀ (later : List (Environment × Turn)) (entry : Entry),
      entry ∈ (world.run later).store.entries →
      world.Placed (world.lastMoved? entry later) entry := by
  intro world listing
  have begun : (start users projects memberships counters).Sound :=
    sound_start users projects memberships counters
  have sound : world.Sound := begun.run turns
  have bounded : world.Bounded :=
    (bounded_start users projects memberships counters).run turns
  refine ⟨?_, fun later entry member => sound.moved_run later member⟩
  intro user entryId environment summary after ended
  rcases Catalog.importEntry_brings sound.store (begun.versioned_run nofun turns)
    (begun.charted_run rfl rfl turns) (begun.traced_run rfl rfl turns)
    (fun _ member => bounded.counts member) ended with
    ⟨entry, project, row, found, -, -, -, brings⟩
  rcases Store.entryWith?_eq_some found with ⟨held, named⟩
  have soundAfter := Catalog.sound_of_importEntry sound.session ended
  refine ⟨entry, found, fun own => ?_, fun others => ?_⟩
  · have same := brings.entries_of_own own
    refine ⟨same, fun viewer sooner later => Catalog.findAll_congr ?_ later sooner⟩
    exact congrArg (fun entries => (List.filter _ entries).mergeSort _) same
  · have counts : Store.Counts environment.now entry world.session.saved
        after.next.saved := brings.counts others held
    exact ⟨counts.entries, fun viewer sooner later =>
      Catalog.findAll_counted counts sound.store soundAfter bounded.hasCounts
        (bounded.counts held) named viewer sooner later⟩

end World

namespace Fair

/-- The data of a request to publish one of the author's workflows. -/
def offering (number : Nat) : Value :=
  .ofFields
    [("name", .text "Name"), ("description", .text "Description"),
      ("category", .text "Category"),
      ("workflowId", .text (Identifier.Kind.workflow.numbered number))]

/-- The author makes two workflows and publishes them. -/
def shelf : List (Environment × Turn) :=
  let author := member "author"
  let making := Action.create author .empty (.ofFields [("name", .text "Name")])
  let publishing (number : Nat) := Action.publish author .empty (offering number)
  [making, making, publishing 1, publishing 2].map fun action => (weather, .act action)

/-- The world in which both are published. -/
def stocked : World := start.run shelf

/-- The weather some time later. -/
def afternoon : Environment := { weather with now := ⟨1⟩ }

/-- The session after the reader has imported the first entry. -/
def borrowed : Session :=
  ((Catalog.importEntry (member "reader") entryId).outcome afternoon.calm
    stocked.session).2

/-- A listing that was read has the identifiers that it was seen to have. -/
theorem exists_ids {reading : Except Failure (List EntrySummary)} {ids : List String}
    (seen : reading.toOption.map (fun shown => shown.map (·.id)) = some ids) :
    ∃ shown, reading = .ok shown ∧ shown.map (·.id) = ids := by
  cases reading with
  | error failure => cases seen
  | ok shown => exact ⟨shown, rfl, Option.some.inj seen⟩

theorem sound_stocked : stocked.session.saved.Sound stocked.session.counters :=
  ((World.sound_start members projects memberships {}).run shelf).session

theorem borrows : ∃ summary,
    (Catalog.importEntry (member "reader") entryId).outcome afternoon.calm
      stocked.session = (.ok summary, borrowed) := by
  have allowed : (stocked.session.saved.importRefusal? (member "reader")
      entryId).isNone := by decide +kernel
  rcases Catalog.importEntry_allowed sound_stocked
    (Option.isNone_iff_eq_none.mp allowed) with ⟨summary, after, ended⟩
  have same : after = borrowed := (congrArg Prod.snd ended).symm
  rw [← same]
  exact ⟨summary, ended⟩

theorem sound_borrowed : borrowed.saved.Sound borrowed.counters := by
  rcases borrows with ⟨summary, ended⟩
  exact Catalog.sound_of_importEntry sound_stocked ended

/-- Before the import the second entry is listed first. -/
theorem lists_stocked (environment : Environment) (user : User) : ∃ shown,
    ((Catalog.findAll user).outcome environment.calm stocked.session).1 = .ok shown ∧
      shown.map (·.id) = [Identifier.Kind.entry.numbered 2, entryId] := by
  have listed := Store.visibleEntries_eq sound_stocked.ids (by decide +kernel)
    (List.reverse_perm _) (by decide +kernel) user.id
  rw [Catalog.outcome_findAll, listed]
  exact exists_ids (by decide +kernel)

/-- After the import the first entry is listed first. -/
theorem lists_borrowed (environment : Environment) (user : User) : ∃ shown,
    ((Catalog.findAll user).outcome environment.calm borrowed.next).1 = .ok shown ∧
      shown.map (·.id) = [entryId, Identifier.Kind.entry.numbered 2] := by
  have listed := Store.visibleEntries_eq sound_borrowed.ids (by decide +kernel)
    (.refl _) (by decide +kernel) user.id
  rw [Catalog.outcome_findAll, Session.saved_next, listed]
  exact exists_ids (by decide +kernel)

end Fair

namespace World

/-- When the reader imports the entry that the author has listed last, the entry is
listed first, and the import is what moved it last. -/
theorem reader_moves_entry :
    (∃ shown others,
      ((Catalog.findAll (Fair.member "author")).outcome Fair.weather.calm
        Fair.stocked.session).1 = .ok shown ∧
      shown.map (·.id) = [Identifier.Kind.entry.numbered 2, Fair.entryId] ∧
      ((Catalog.findAll (Fair.member "author")).outcome Fair.afternoon.calm
        Fair.borrowed.next).1 = .ok others ∧
      others.map (·.id) = [Fair.entryId, Identifier.Kind.entry.numbered 2] ∧
      EntrySummary.Relisted Fair.entryId ⟨1⟩ shown others) ∧
    ∃ entry, entry.id = .text Fair.entryId ∧ Fair.stocked.Placed (some ⟨1⟩) entry := by
  have relists := imports_relist Fair.members Fair.projects Fair.memberships {} Fair.shelf
  constructor
  · rcases Fair.borrows with ⟨summary, ended⟩
    rcases Fair.lists_stocked Fair.weather (Fair.member "author") with
      ⟨shown, ends, before⟩
    rcases Fair.lists_borrowed Fair.afternoon (Fair.member "author") with
      ⟨others, shows, after⟩
    rcases relists.1 _ _ _ _ _ ended with ⟨entry, found, -, counted⟩
    have seen : (Fair.stocked.store.entryWith? Fair.entryId).map
        (fun entry => (entry.authorId, entry.isPublic)) =
          some (.text "author", true) := by decide +kernel
    have known : (entry.authorId, entry.isPublic) = (.text "author", true) :=
      Option.some.inj ((congrArg _ found).symm.trans seen)
    rcases Prod.mk.inj known with ⟨author, visible⟩
    have apart : entry.authorId ≠ .text (Fair.member "reader").id := by
      rw [author]
      decide
    have opens : Fair.stocked.store.Opens (Fair.member "author") Fair.entryId :=
      ⟨entry, found, .inl visible⟩
    have moved := (counted apart).2 (Fair.member "author") Fair.weather Fair.afternoon
    rcases moved.2 opens with ⟨one, two, first, second, relisted⟩
    cases first.symm.trans ends
    cases second.symm.trans shows
    exact ⟨shown, others, ends, before, shows, after, relisted⟩
  · let turn : Environment × Turn :=
      (Fair.afternoon.calm, .act (.importEntry (Fair.member "reader") Fair.entryId))
    have moves : ((Fair.stocked.run [turn]).store.entryWith? Fair.entryId).map
        (fun entry => Fair.stocked.lastMoved? entry [turn]) = some (some ⟨1⟩) := by
      decide +kernel
    rcases found : (Fair.stocked.run [turn]).store.entryWith? Fair.entryId with _ | entry
    · rw [found] at moves
      cases moves
    · rw [found, Option.map_some] at moves
      rcases Store.entryWith?_eq_some found with ⟨held, named⟩
      have places : ∀ later, ∀ entry ∈ (Fair.stocked.run later).store.entries,
          Fair.stocked.Placed (Fair.stocked.lastMoved? entry later) entry := relists.2
      have placed := places [turn] entry held
      rw [Option.some.inj moves] at placed
      exact ⟨entry, named, placed⟩

/-- An import by someone else does change the order in which entries are listed. -/
theorem import_reorders_listing :
    ¬∀ (users : List User) (projects : List Project) (memberships : List Membership)
      (counters : Counters) (turns : List (Environment × Turn)) (user viewer : User)
      (entryId : String) (environment sooner later : Environment)
      (summary : WorkflowSummary) (after : Session) (shown others : List EntrySummary),
      let world := (start users projects memberships counters).run turns
      (Catalog.importEntry user entryId).outcome environment world.session =
        (.ok summary, after) →
      ((Catalog.findAll viewer).outcome sooner.calm world.session).1 = .ok shown →
      ((Catalog.findAll viewer).outcome later.calm after.next).1 = .ok others →
      others.map (·.id) = shown.map (·.id) := by
  intro always
  rcases Fair.borrows with ⟨summary, ended⟩
  rcases Fair.lists_stocked Fair.weather (Fair.member "author") with
    ⟨shown, lists, before⟩
  rcases Fair.lists_borrowed Fair.afternoon (Fair.member "author") with
    ⟨others, relists, after⟩
  have same := always Fair.members Fair.projects Fair.memberships {} Fair.shelf
    _ _ _ _ _ _ summary _ shown others ended lists relists
  rw [before, after] at same
  revert same
  decide

end World

end WorkflowExchange

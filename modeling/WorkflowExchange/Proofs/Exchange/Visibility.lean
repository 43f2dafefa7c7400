import WorkflowExchange.Proofs.Exchange.Importing

/-!
# One catalog for listing, showing and importing

An entry is visible to a user when it is public or by the user.  The listing selects
entries by who made them and the other operations by their author, which are the same
in every world that a run leads to.  So the entries that are listed, each once and in
order, are those that are shown and those that can be imported, and an entry that is
not visible is missing for who asks for it: `World.catalog_is_one`.
-/

namespace WorkflowExchange

/-! ## The order of a listing -/

/-- What holds between the members of a list, from the first to the later ones, holds
between those of a related list. -/
theorem pairwise_of_forall₂ {α β : Type} {related : α → β → Prop}
    {before : α → α → Prop} {earlier : β → β → Prop}
    (transfers : ∀ one other twin another, related one twin →
      related other another → earlier twin another → before one other)
    {ones : List α} {twins : List β} (both : List.Forall₂ related ones twins)
    (ordered : twins.Pairwise earlier) : ones.Pairwise before := by
  induction both with
  | nil => exact List.Pairwise.nil
  | cons first rest hypothesis =>
      rcases List.pairwise_cons.mp ordered with ⟨ahead, ordered⟩
      refine List.pairwise_cons.mpr ⟨?_, hypothesis ordered⟩
      intro other member
      rcases Value.exists_mem_of_forall₂ rest other member with
        ⟨another, found, same⟩
      exact transfers _ _ _ _ first same (ahead another found)

namespace TextCell

theorem atMost_total (one other : TextCell) :
    (one.atMost other || other.atMost one) = true := by
  cases one with
  | text content =>
      cases other with
      | text another => simpa [atMost] using String.le_total content another
      | bytes => rfl
  | bytes content =>
      cases other with
      | text => rfl
      | bytes another => simpa [atMost] using List.le_total content another

theorem atMost_trans {one two three : TextCell} (first : one.atMost two = true)
    (second : two.atMost three = true) : one.atMost three = true := by
  cases one <;> cases two <;> cases three <;>
    simp only [atMost, decide_eq_true_eq, Bool.false_eq_true] at *
  · exact String.le_trans first second
  · exact List.le_trans first second

end TextCell

namespace Store

variable {store : Store} {userId : String}

theorem listsBefore_iff {one other : Entry} :
    listsBefore one other = true ↔
      other.stamps.updatedAt.microseconds < one.stamps.updatedAt.microseconds ∨
        other.stamps.updatedAt.microseconds = one.stamps.updatedAt.microseconds ∧
          other.id.atMost one.id = true := by
  rw [listsBefore, Bool.or_eq_true, Bool.and_eq_true, decide_eq_true_iff,
    decide_eq_true_iff]

theorem listsBefore_total (one other : Entry) :
    (listsBefore one other || listsBefore other one) = true := by
  rw [Bool.or_eq_true, listsBefore_iff, listsBefore_iff]
  rcases Int.lt_trichotomy one.stamps.updatedAt.microseconds
    other.stamps.updatedAt.microseconds with earlier | same | later
  · exact .inr (.inl earlier)
  · rcases Bool.or_eq_true_iff.mp (one.id.atMost_total other.id) with below | above
    · exact .inr (.inr ⟨same, below⟩)
    · exact .inl (.inr ⟨same.symm, above⟩)
  · exact .inl (.inl later)

theorem listsBefore_trans (one two three : Entry)
    (first : listsBefore one two = true) (second : listsBefore two three = true) :
    listsBefore one three = true := by
  rw [listsBefore_iff] at first second ⊢
  rcases first with later | ⟨same, below⟩ <;>
    rcases second with further | ⟨alike, under⟩
  · exact .inl (Int.lt_trans further later)
  · exact .inl (alike ▸ later)
  · exact .inl (same ▸ further)
  · exact .inr ⟨alike.trans same, TextCell.atMost_trans under below⟩

theorem mem_visibleEntries {entry : Entry} :
    entry ∈ store.visibleEntries userId ↔ entry ∈ store.entries ∧
      (entry.isPublic = true ∨ entry.createdByUserId = .text userId) := by
  simp [visibleEntries]

theorem nodup_visibleEntries (keys : (store.entries.map Entry.id).Nodup) :
    ((store.visibleEntries userId).map Entry.id).Nodup := by
  rw [visibleEntries, ((List.mergeSort_perm _ _).map _).nodup_iff]
  exact keys.sublist (List.filter_sublist.map _)

theorem pairwise_visibleEntries (store : Store) (userId : String) :
    (store.visibleEntries userId).Pairwise fun one other =>
      listsBefore one other = true :=
  List.pairwise_mergeSort listsBefore_trans listsBefore_total _

/-- There is an entry with an identifier, and it is public or by a user. -/
def Opens (store : Store) (user : User) (id : String) : Prop :=
  ∃ entry, store.entryWith? id = some entry ∧
    (entry.isPublic = true ∨ entry.createdByUserId = .text user.id)

/-- Some summaries are of the entries that are open to a user, each once.  Those
changed last come first, and of those changed at the same moment the ones with the
greater identifiers. -/
structure ListsOpen (store : Store) (user : User) (summaries : List EntrySummary) :
    Prop where
  once : (summaries.map (·.id)).Nodup
  exactly : ∀ id, (∃ summary ∈ summaries, summary.id = id) ↔ store.Opens user id
  ordered : summaries.Pairwise fun one other =>
    other.stamps.updatedAt.microseconds < one.stamps.updatedAt.microseconds ∨
      other.stamps.updatedAt.microseconds = one.stamps.updatedAt.microseconds ∧
        other.id < one.id

/-- In a keyed store the author of an entry decides, too. -/
theorem Keyed.isOpenTo_iff {counters : Counters} (keyed : store.Keyed counters)
    {entry : Entry} (member : entry ∈ store.entries) (user : User) :
    Catalog.isOpenTo entry user = true ↔
      entry.isPublic = true ∨ entry.createdByUserId = .text user.id := by
  rw [Catalog.isOpenTo, Bool.or_eq_true, decide_eq_true_iff,
    (keyed.entries entry member).author]

theorem Keyed.opens_iff {counters : Counters} (keyed : store.Keyed counters)
    (user : User) (id : String) :
    store.Opens user id ↔ ∃ entry, store.entryWith? id = some entry ∧
      Catalog.isOpenTo entry user = true := by
  constructor
  · rintro ⟨entry, found, visible⟩
    have member := (entryWith?_eq_some found).1
    exact ⟨entry, found, (keyed.isOpenTo_iff member user).mpr visible⟩
  · rintro ⟨entry, found, opened⟩
    have member := (entryWith?_eq_some found).1
    exact ⟨entry, found, (keyed.isOpenTo_iff member user).mp opened⟩

/-- Views have the identifiers of the entries. -/
theorem map_id_of_shows {summaries : List EntrySummary} {entries : List Entry}
    (shows : List.Forall₂ EntrySummary.Shows summaries entries) :
    entries.map Entry.id = (summaries.map (·.id)).map .text := by
  induction shows with
  | nil => rfl
  | cons first _ hypothesis =>
      rw [List.map_cons, List.map_cons, List.map_cons, first.id, hypothesis]

/-- The views of the visible entries list what is open to the user. -/
theorem Sound.listsOpen {counters : Counters} (sound : store.Sound counters)
    {user : User} {summaries : List EntrySummary}
    (shows : List.Forall₂ EntrySummary.Shows summaries
      (store.visibleEntries user.id)) :
    store.ListsOpen user summaries where
  once := by
    have distinct : ((store.visibleEntries user.id).map Entry.id).Nodup :=
      nodup_visibleEntries sound.ids
    rw [map_id_of_shows shows] at distinct
    exact distinct.of_map _
  exactly id := by
    constructor
    · rintro ⟨summary, member, rfl⟩
      rcases Value.exists_mem_of_forall₂ shows summary member with
        ⟨entry, visible, same⟩
      rcases mem_visibleEntries.mp visible with ⟨present, opened⟩
      exact ⟨entry, entryWith?_of_mem sound.ids present same.id, opened⟩
    · rintro ⟨entry, found, opened⟩
      rcases entryWith?_eq_some found with ⟨present, named⟩
      have visible := mem_visibleEntries.mpr ⟨present, opened⟩
      rcases Value.exists_mem_of_forall₂ shows.flip entry visible with
        ⟨summary, member, same⟩
      exact ⟨summary, member, TextCell.text.inj (same.id.symm.trans named)⟩
  ordered := by
    have distinct : ((store.visibleEntries user.id).map Entry.id).Nodup :=
      nodup_visibleEntries sound.ids
    have both := (pairwise_visibleEntries store user.id).and
      (List.pairwise_map.mp distinct)
    refine pairwise_of_forall₂ ?_ shows both
    rintro one other twin another first second ⟨before, different⟩
    rw [listsBefore_iff, first.id, second.id, first.stamps, second.stamps] at before
    rw [first.id, second.id] at different
    refine before.imp_right fun ⟨same, below⟩ => ⟨same, ?_⟩
    have least : other.id ≤ one.id := of_decide_eq_true below
    have apart : one.id ≠ other.id := fun equal => different (congrArg _ equal)
    exact String.not_le.mp fun most => apart (String.le_antisymm most least)

end Store

/-! ## The operations -/

namespace Catalog

variable {environment : Environment} {before : Session} {user : User}
  {entryId : String}

/-- Without mishaps the visible entries are listed, or the first one that cannot be
shown is told. -/
theorem outcome_findAll (environment : Environment) (before : Session)
    (user : User) :
    ((findAll user).outcome environment.calm before).1 =
      (before.saved.visibleEntries user.id).mapM fun entry =>
        (EntrySummary.ofEntry entry).toExcept := by
  have shows : shown = fun entry =>
      Work.ofExcept (EntrySummary.ofEntry entry).toExcept := rfl
  rw [findAll, Work.outcome_transaction_of_ne]
  all_goals simp only [Work.outcome_bind, Work.outcome_call_calm,
    Work.outcome_store, Work.outcome_pure, shows, Work.outcome_mapM_ofExcept]
  · rfl
  · intro error fails
    rcases exists_of_mapM_eq_error fails with ⟨entry, -, failed⟩
    exact Fit.toExcept_ne_database _ error failed

/-- Without mishaps an entry that is open to a user is shown, if it can be. -/
theorem outcome_get_open {entry : Entry} {graph : GraphCopy}
    (found : before.saved.entryWith? entryId = some entry)
    (opened : isOpenTo entry user = true)
    (copies : (Heap.empty.copyGraph (.ofJson entry.snapshot)).outcome = .ok graph) :
    ((get user entryId).outcome environment.calm before).1 =
      (EntrySummary.ofEntry entry).toExcept.map fun summary => ⟨summary, graph⟩ := by
  have there : before.discarded.draft.entryWith? entryId = some entry := found
  rw [get, Work.outcome_transaction, Work.outcome_bind,
    Work.outcome_entryWith?_calm, there]
  simp only [opened, ↓reduceIte, copied, shown, Work.outcome_bind,
    Work.outcome_ofTrial, copies, Work.outcome_ofExcept]
  cases EntrySummary.ofEntry entry <;> rfl

/-- Without mishaps an entry that is not open to a user is missing for the user. -/
theorem outcome_get_closed
    (closed : ∀ entry, before.saved.entryWith? entryId = some entry →
      isOpenTo entry user = false) :
    ((get user entryId).outcome environment.calm before).1 =
      .error (.because .entryMissing) := by
  rw [get, Work.outcome_transaction, Work.outcome_bind,
    Work.outcome_entryWith?_calm]
  cases found : before.discarded.draft.entryWith? entryId with
  | none => rfl
  | some entry =>
      have hidden := closed entry found
      simp only [hidden, Bool.false_eq_true, ↓reduceIte]
      rfl

/-- Without mishaps an entry that is open is shown, and any other is missing. -/
theorem get_cases (environment : Environment)
    (sound : before.saved.Sound before.counters) (counted : before.saved.HasCounts)
    (user : User) (entryId : String) :
    let getting := ((get user entryId).outcome environment.calm before).1
    ¬before.saved.Opens user entryId ∧
        getting = .error (.because .entryMissing) ∨
      before.saved.Opens user entryId ∧ ∃ entry summary graph,
        before.saved.entryWith? entryId = some entry ∧
        EntrySummary.ofEntry entry = .fits summary ∧
        getting = .ok ⟨summary, graph⟩ := by
  intro getting
  by_cases opens : before.saved.Opens user entryId
  · refine .inr ⟨opens, ?_⟩
    rcases (sound.keyed.opens_iff user entryId).mp opens with ⟨entry, found, opened⟩
    have member := (Store.entryWith?_eq_some found).1
    have held := sound.entries entry member
    rcases held.snapshot with ⟨members, snapshot⟩
    rcases Heap.copyGraph_ofJson .empty members with ⟨graph, copies, -⟩
    rw [← snapshot] at copies
    rcases EntrySummary.exists_fits held (counted entry member) with ⟨summary, fits⟩
    refine ⟨entry, summary, graph, found, fits, ?_⟩
    rw [show getting = _ from outcome_get_open found opened copies, fits]
    rfl
  · refine .inl ⟨opens, outcome_get_closed fun entry found => ?_⟩
    rw [← Bool.not_eq_true]
    exact fun opened => opens ((sound.keyed.opens_iff user entryId).mpr
      ⟨entry, found, opened⟩)

/-- Just the open entries are shown. -/
theorem get_ok_iff (environment : Environment)
    (sound : before.saved.Sound before.counters) (counted : before.saved.HasCounts)
    (user : User) (entryId : String) :
    (∃ detail, ((get user entryId).outcome environment.calm before).1 = .ok detail) ↔
      before.saved.Opens user entryId := by
  rcases get_cases environment sound counted user entryId with
    ⟨closed, ends⟩ | ⟨opens, _, _, _, -, -, ends⟩
  · refine iff_of_false ?_ closed
    rintro ⟨detail, shows⟩
    cases ends.symm.trans shows
  · exact iff_of_true ⟨_, ends⟩ opens

/-- Just the entries that are not open are missing. -/
theorem get_missing_iff (environment : Environment)
    (sound : before.saved.Sound before.counters) (counted : before.saved.HasCounts)
    (user : User) (entryId : String) :
    ((get user entryId).outcome environment.calm before).1 =
        .error (.because .entryMissing) ↔ ¬before.saved.Opens user entryId := by
  rcases get_cases environment sound counted user entryId with
    ⟨closed, ends⟩ | ⟨opens, _, _, _, -, -, ends⟩
  · exact iff_of_true ends closed
  · refine iff_of_false (fun missing => ?_) (not_not_intro opens)
    cases ends.symm.trans missing

/-- Without mishaps an import is refused for the entry when that is not open to the
user, and made when there is a personal project, too. -/
theorem importEntry_cases (environment : Environment)
    (sound : before.saved.Sound before.counters) (user : User) (entryId : String) :
    let importing := ((importEntry user entryId).outcome environment.calm before).1
    ¬before.saved.Opens user entryId ∧
        (importing = .error (.because .entryMissing) ∨
          importing = .error (.because .importForbidden)) ∨
      before.saved.Opens user entryId ∧
        (before.saved.personalProject? user.id = none ∧
            importing = .error (.because .personalProjectMissing) ∨
          (before.saved.personalProject? user.id).isSome ∧
            ∃ summary, importing = .ok summary) := by
  intro importing
  rw [sound.keyed.opens_iff]
  rcases importRefusal?_cases before.saved user entryId with
    ⟨found, missing⟩ | ⟨entry, found, ⟨closed, forbidden⟩ |
      ⟨opened, ⟨lacks, unowned⟩ | ⟨project, owned, allowed⟩⟩⟩
  · refine .inl ⟨?_, .inl (importEntry_refused sound missing)⟩
    rintro ⟨entry, there, -⟩
    cases found.symm.trans there
  · refine .inl ⟨?_, .inr (importEntry_refused sound forbidden)⟩
    rintro ⟨other, there, opened⟩
    cases found.symm.trans there
    cases closed.symm.trans opened
  · exact .inr ⟨⟨entry, found, opened⟩,
      .inl ⟨lacks, importEntry_refused sound unowned⟩⟩
  · refine .inr ⟨⟨entry, found, opened⟩, .inr ⟨?_, ?_⟩⟩
    · rw [owned]
      rfl
    · rcases importEntry_allowed sound allowed with ⟨summary, _, ended⟩
      exact ⟨summary, congrArg Prod.fst ended⟩

/-- Just for the open entries an import is neither missing nor forbidden. -/
theorem importEntry_allowed_iff (environment : Environment)
    (sound : before.saved.Sound before.counters) (user : User) (entryId : String) :
    ((importEntry user entryId).outcome environment.calm before).1 ≠
          .error (.because .entryMissing) ∧
        ((importEntry user entryId).outcome environment.calm before).1 ≠
          .error (.because .importForbidden) ↔
      before.saved.Opens user entryId := by
  rcases importEntry_cases environment sound user entryId with
    ⟨closed, ends | ends⟩ | ⟨opens, ⟨-, ends⟩ | ⟨-, summary, ends⟩⟩
  · exact iff_of_false (fun both => both.1 ends) closed
  · exact iff_of_false (fun both => both.2 ends) closed
  all_goals
    refine iff_of_true ⟨fun refused => ?_, fun refused => ?_⟩ opens <;>
      cases ends.symm.trans refused

/-- With a personal project just the open entries are imported. -/
theorem importEntry_ok_iff (environment : Environment)
    (sound : before.saved.Sound before.counters) (entryId : String)
    (owned : (before.saved.personalProject? user.id).isSome) :
    (∃ summary, ((importEntry user entryId).outcome environment.calm before).1 =
        .ok summary) ↔ before.saved.Opens user entryId := by
  rcases importEntry_cases environment sound user entryId with
    ⟨closed, ends⟩ | ⟨opens, ⟨lacks, -⟩ | ⟨-, summary, ends⟩⟩
  · refine iff_of_false ?_ closed
    rintro ⟨summary, made⟩
    rcases ends with ends | ends <;> cases ends.symm.trans made
  · rw [lacks] at owned
    cases owned
  · exact iff_of_true ⟨summary, ends⟩ opens

/-- The visible entries are listed as what is shown of each. -/
theorem findAll_shows (environment : Environment)
    (sound : before.saved.Sound before.counters) (counted : before.saved.HasCounts)
    (user : User) :
    ∃ summaries,
      ((findAll user).outcome environment.calm before).1 = .ok summaries ∧
        List.Forall₂ (fun summary entry =>
          summary.Shows entry ∧ EntrySummary.ofEntry entry = .fits summary) summaries
          (before.saved.visibleEntries user.id) := by
  have each : ∀ entry ∈ before.saved.visibleEntries user.id, ∃ summary,
      (EntrySummary.ofEntry entry).toExcept = .ok summary ∧
        summary.Shows entry ∧ EntrySummary.ofEntry entry = .fits summary := by
    intro entry member
    have present := (Store.mem_visibleEntries.mp member).1
    have held := sound.entries entry present
    rcases EntrySummary.exists_fits held (counted entry present) with ⟨summary, fits⟩
    have shown := congrArg Fit.toExcept fits
    exact ⟨summary, shown, held.shows shown, fits⟩
  rcases exists_mapM_eq_ok each with ⟨summaries, read, related⟩
  exact ⟨summaries, (outcome_findAll environment before user).trans read, related⟩

/-- The open entries are listed, with what is shown of each. -/
theorem findAll_lists (environment : Environment)
    (sound : before.saved.Sound before.counters) (counted : before.saved.HasCounts)
    (user : User) :
    ∃ summaries,
      ((findAll user).outcome environment.calm before).1 = .ok summaries ∧
        before.saved.ListsOpen user summaries ∧
        ∀ summary ∈ summaries, ∃ entry,
          before.saved.entryWith? summary.id = some entry ∧
          EntrySummary.ofEntry entry = .fits summary := by
  rcases findAll_shows environment sound counted user with ⟨summaries, ends, related⟩
  refine ⟨summaries, ends, sound.listsOpen (related.imp fun _ _ both => both.1), ?_⟩
  intro summary member
  rcases Value.exists_mem_of_forall₂ related summary member with
    ⟨entry, visible, same, fits⟩
  have present := (Store.mem_visibleEntries.mp visible).1
  exact ⟨entry, Store.entryWith?_of_mem sound.ids present same.id, fits⟩

end Catalog

namespace World

/-- In every world that a run leads to a user, an administrator or not, has one
catalog when there are no mishaps.  An entry is open to the user when it is public or
by the user.  Just then it is shown, an import is not refused for it, and with a
personal project the import is made; an entry that is not open is missing, whether
there is one or not.  The listing has just the entries that are open, each once and in
order, and with what is shown of them. -/
theorem catalog_is_one (users : List User) (projects : List Project)
    (memberships : List Membership) (counters : Counters)
    (turns : List (Environment × Turn)) (environment : Environment) (user : User) :
    let world := (start users projects memberships counters).run turns
    let listing :=
      ((Catalog.findAll user).outcome environment.calm world.session).1
    let getting (id : String) :=
      ((Catalog.get user id).outcome environment.calm world.session).1
    let importing (id : String) :=
      ((Catalog.importEntry user id).outcome environment.calm world.session).1
    (∀ id,
      ((∃ detail, getting id = .ok detail) ↔ world.store.Opens user id) ∧
      (getting id = .error (.because .entryMissing) ↔
        ¬world.store.Opens user id) ∧
      (importing id ≠ .error (.because .entryMissing) ∧
          importing id ≠ .error (.because .importForbidden) ↔
        world.store.Opens user id) ∧
      ((world.store.personalProject? user.id).isSome →
        ((∃ summary, importing id = .ok summary) ↔ world.store.Opens user id))) ∧
    ∃ summaries, listing = .ok summaries ∧
      world.store.ListsOpen user summaries ∧
      ∀ summary ∈ summaries, ∃ graph,
        getting summary.id = .ok ⟨summary, graph⟩ := by
  intro world listing getting importing
  have sound : world.session.saved.Sound world.session.counters :=
    ((sound_start users projects memberships counters).run turns).store
  have counted : world.session.saved.HasCounts :=
    ((bounded_start users projects memberships counters).run turns).hasCounts
  refine ⟨fun id => ⟨Catalog.get_ok_iff environment sound counted user id,
    Catalog.get_missing_iff environment sound counted user id,
    Catalog.importEntry_allowed_iff environment sound user id,
    fun owned => Catalog.importEntry_ok_iff environment sound id owned⟩, ?_⟩
  rcases Catalog.findAll_lists environment sound counted user with
    ⟨summaries, ends, lists, each⟩
  refine ⟨summaries, ends, lists, fun summary member => ?_⟩
  rcases each summary member with ⟨entry, found, fits⟩
  have opens := (lists.exactly summary.id).mp ⟨summary, member, rfl⟩
  rcases Catalog.get_cases environment sound counted user summary.id with
    ⟨closed, -⟩ | ⟨-, other, same, graph, there, again, shows⟩
  · exact absurd opens closed
  · cases found.symm.trans there
    cases fits.symm.trans again
    exact ⟨graph, shows⟩

end World

end WorkflowExchange

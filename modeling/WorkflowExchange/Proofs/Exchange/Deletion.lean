import WorkflowExchange.Proofs.Exchange.Travel
import WorkflowExchange.Proofs.Exchange.Visibility

/-!
# Deleting for good

Deleting takes one row out of the catalog and changes nothing else, and the entry
never comes back: its identifier was used up when it was made, and every entry that
is inserted later gets an identifier of its own.  `Store.Does.descends` says this of
one deed and `World.Sound.descends_run` of a whole run; a publication that waited
while the entry was deleted is a turn of the run like any other.
-/

namespace WorkflowExchange

/-! ## What is taken out -/

/-- An environment in which a lookup finds what is there, if it ends at all. -/
def Environment.Truthful (environment : Environment) : Prop :=
  ∀ calls call, environment.mishap calls call ≠ some .nothing

theorem Environment.truthful_calm (environment : Environment) :
    environment.calm.Truthful := by
  intro calls call met
  cases met

/-- An entry may be deleted by global administrators and by the user who published
it. -/
def Entry.MayBeDeletedBy (entry : Entry) (user : User) : Prop :=
  user.isGlobalAdmin = true ∨ entry.createdByUserId = .text user.id

theorem Entry.mayBeDeletedBy_iff {entry : Entry} {user : User} :
    entry.MayBeDeletedBy user ↔
      (!(user.isGlobalAdmin || entry.createdByUserId = .text user.id)) =
        false := by
  rw [MayBeDeletedBy, Bool.not_eq_false', Bool.or_eq_true, decide_eq_true_iff]

namespace Store

variable {store : Store} {entry : Entry} {id : String}

/-- From one store to another just the row of one entry was taken out. -/
def Loses (entry : Entry) (first last : Store) : Prop :=
  ∃ front rear, first.entries = front ++ entry :: rear ∧
    (∀ other ∈ front ++ rear, other.id ≠ entry.id) ∧
    last = { first with entries := front ++ rear }

theorem loses_removeEntry (ids : (store.entries.map Entry.id).Nodup)
    (found : store.entryWith? id = some entry) :
    Loses entry store (store.removeEntry id) := by
  rcases entryWith?_eq_some found with ⟨member, named⟩
  rcases List.append_of_mem member with ⟨front, rear, held⟩
  have others := ne_of_nodup_map held ids
  refine ⟨front, rear, held, others, ?_⟩
  have kept : (front ++ rear).filter (·.id ≠ .text id) = front ++ rear := by
    apply List.filter_eq_self.mpr
    intro other place
    rw [← named]
    exact decide_eq_true (others other place)
  have dropped : (front ++ entry :: rear).filter (·.id ≠ .text id) =
      (front ++ rear).filter (·.id ≠ .text id) := by
    rw [List.filter_append, List.filter_cons_of_neg (by simp [named]),
      List.filter_append]
  rw [removeEntry, held, dropped, kept]

/-- What is left after an entry was taken out has another identifier and another
origin. -/
theorem Loses.apart {first last : Store} {counters : Counters}
    (loses : Loses entry first last) (sound : first.Sound counters)
    {present : Entry} (member : present ∈ last.entries) :
    present.id ≠ entry.id ∧ present.origin ≠ entry.origin := by
  rcases loses with ⟨front, rear, held, others, rfl⟩
  exact ⟨others present member,
    ne_of_nodup_map held sound.origins present member⟩

end Store

/-! ## The operation -/

namespace Work

variable {environment : Environment} {before : Session}

/-- Where lookups are truthful they are made or fail, as changes are. -/
theorem outcome_call_truthful {α : Type} (truthful : environment.Truthful)
    (call : StoreCall) (none : α) (work : Work α) :
    (Work.call call none work).outcome environment before =
      (change call work).outcome environment before := by
  rw [outcome_call, outcome_change]
  cases met : environment.mishap before.calls call with
  | none => rfl
  | some mishap =>
      cases mishap with
      | error | fault => rfl
      | nothing => exact absurd met (truthful _ _)

/-- An entry that is there is removed. -/
theorem prepares_deleteEntry_found {id : String} {entry : Entry}
    (found : before.draft.entryWith? id = some entry) :
    (deleteEntry id).Prepares environment before fun _ after =>
      environment.Truthful → after.draft = before.draft.removeEntry id := by
  by_cases truthful : environment.Truthful
  · rw [Prepares, Settles, deleteEntry, outcome_call_truthful truthful]
    apply prepares_change
    apply prepares_bind prepares_store
    rintro draft _ - ⟨rfl, rfl⟩
    have there : (before.noted .deleteEntry).draft.entryWith? id = some entry :=
      found
    rw [there]
    apply prepares_bind prepares_store
    rintro draft _ - ⟨rfl, rfl⟩
    apply prepares_bind (prepares_setStore _)
    rintro _ _ - rfl
    exact prepares_pure fun _ => rfl
  · exact Prepares.mono (prepares_deleteEntry id)
      fun _ _ _ _ holds => absurd holds truthful

theorem calmly_deleteEntry {id : String} {entry : Entry}
    (found : before.draft.entryWith? id = some entry) :
    (deleteEntry id).Calmly environment before fun _ _ => True := by
  apply calmly_call
  apply calmly_bind calmly_store
  rintro draft _ ⟨rfl, rfl⟩
  have there : (before.noted .deleteEntry).draft.entryWith? id = some entry :=
    found
  rw [there]
  apply calmly_bind calmly_store
  rintro draft _ ⟨rfl, rfl⟩
  apply calmly_bind (calmly_setStore _)
  rintro _ _ -
  exact calmly_pure trivial

end Work

namespace Catalog

variable {environment : Environment} {before : Session} {user : User}
  {entryId : String} {entry : Entry}

/-- Just an entry that is there is deleted, by a user who may. -/
theorem delete_removes (user : User) (entryId : String) :
    (delete user entryId).Settles environment before fun _ after => ∃ entry,
      before.saved.entryWith? entryId = some entry ∧
      entry.MayBeDeletedBy user ∧
      (environment.Truthful →
        after.saved = before.saved.removeEntry entryId) := by
  apply Work.settles_transaction
  apply Work.settles_bind (Work.prepares_entryWith? entryId)
  rintro found first - ⟨present, idle⟩
  cases found with
  | none => exact Work.settles_refuse
  | some entry =>
      have there : before.saved.entryWith? entryId = some entry :=
        present entry rfl
      have held : first.draft.entryWith? entryId = some entry := by
        rw [idle.draft]
        exact there
      by_cases closed :
          !(user.isGlobalAdmin || entry.createdByUserId = .text user.id)
      · simp only [closed, ↓reduceIte]
        exact Work.settles_refuse
      · simp only [closed, Bool.false_eq_true, ↓reduceIte]
        apply Work.settles_bind (Work.prepares_deleteEntry_found held)
        rintro _ second - removed
        apply Work.settles_commit
        refine ⟨(), _, Work.outcome_log _ _ _ _, entry, there, ?_, ?_⟩
        · exact Entry.mayBeDeletedBy_iff.mpr (eq_false_of_ne_true closed)
        · intro truthful
          rw [idle.draft] at removed
          exact removed truthful

/-- A deletion that fails changes nothing. -/
theorem saved_of_delete_error {failure : Failure} {after : Session}
    (failed : (delete user entryId).outcome environment before =
      (.error failure, after)) : after.saved = before.saved := by
  rcases (delete_removes user entryId).exists_outcome with
    ⟨_, _, ended, unsaved⟩ | ⟨_, _, ended, -⟩
  · cases ended.symm.trans failed
    exact unsaved.saved
  · cases ended.symm.trans failed

/-- Without mishaps an entry that is not there is missing. -/
theorem delete_missing (missing : before.saved.entryWith? entryId = none) :
    ((delete user entryId).outcome environment.calm before).1 =
      .error (.because .entryMissing) := by
  have nothing : before.discarded.draft.entryWith? entryId = none := missing
  rw [delete, Work.outcome_transaction, Work.outcome_bind,
    Work.outcome_entryWith?_calm, nothing]
  rfl

/-- Without mishaps a user who may not delete an entry is refused. -/
theorem delete_forbidden (found : before.saved.entryWith? entryId = some entry)
    (denied : ¬entry.MayBeDeletedBy user) :
    ((delete user entryId).outcome environment.calm before).1 =
      .error (.because .deleteForbidden) := by
  have there : before.discarded.draft.entryWith? entryId = some entry := found
  have closed := eq_true_of_ne_false (mt Entry.mayBeDeletedBy_iff.mpr denied)
  rw [delete, Work.outcome_transaction, Work.outcome_bind,
    Work.outcome_entryWith?_calm, there]
  simp only [closed, ↓reduceIte]
  rfl

/-- Without mishaps a user who may delete an entry does. -/
theorem delete_allowed (found : before.saved.entryWith? entryId = some entry)
    (may : entry.MayBeDeletedBy user) :
    ((delete user entryId).outcome environment.calm before).1 = .ok () := by
  have opened := Entry.mayBeDeletedBy_iff.mp may
  have deletes : (delete user entryId).Calmly environment.calm before
      fun _ _ => True := by
    apply Work.calmly_transaction
    apply Work.calmly_bind (Work.calmly_lookup fun draft =>
      draft.entryWith? entryId)
    rintro present first ⟨looked, idle⟩
    cases looked.trans found
    have held : first.draft.entryWith? entryId = some entry := by
      rw [idle.draft]
      exact found
    simp only [opened, Bool.false_eq_true, ↓reduceIte]
    apply Work.calmly_bind (Work.calmly_deleteEntry held)
    rintro _ second -
    apply Work.calmly_bind Work.calmly_commit
    rintro _ third -
    exact (Work.calmly_log _ _).mono fun _ _ _ => trivial
  rcases deletes.exists_ok with ⟨_, after, ended⟩
  rw [ended]

end Catalog

/-! ## Where entries come from -/

namespace Store

variable {moment : Moment} {before after : Counters} {deed : Deed}
  {first last : Store} {entry : Entry}

/-- An entry has the identifier and the origin of one that was there, or its
identifier was made meanwhile. -/
theorem Does.descends (does : Store.Does moment before after deed first last)
    (member : entry ∈ last.entries) :
    (∃ old ∈ first.entries, old.id = entry.id ∧ old.origin = entry.origin) ∨
      before.Unmade entry.id := by
  have kept (held : entry ∈ first.entries) :
      (∃ old ∈ first.entries, old.id = entry.id ∧ old.origin = entry.origin) ∨
        before.Unmade entry.id := .inl ⟨entry, held, rfl, rfl⟩
  cases does with
  | create deposited | importOwn _ _ deposited =>
      rw [deposited.entries_eq] at member
      exact kept member
  | importOther found _ deposited =>
      rcases mem_replaceEntry member with ⟨held, -⟩ | rfl
      · rw [deposited.entries_eq] at held
        exact kept held
      · exact .inl ⟨_, (entryWith?_eq_some found).1, rfl, rfl⟩
  | update => exact kept member
  | publish new _ _ added =>
      rcases addEntry_eq_some.mp added with ⟨-, rfl⟩
      rcases List.mem_append.mp member with held | inserted
      · exact kept held
      · rw [List.mem_singleton.mp inserted]
        exact .inr ⟨_, new, rfl⟩
  | republish found =>
      rcases mem_replaceEntry member with ⟨held, -⟩ | rfl
      · exact kept held
      · exact .inl ⟨_, (entryByOrigin?_eq_some found).1, rfl, rfl⟩
  | delete => exact kept (List.mem_of_mem_filter member)
  | deleteNothing => exact kept member

end Store

namespace World

variable {world : World} {entry : Entry}

theorem Sound.descends_after (sound : world.Sound) (environment : Environment)
    (turn : Turn)
    (member : entry ∈ (world.after environment turn).store.entries) :
    (∃ old ∈ world.store.entries, old.id = entry.id ∧
        old.origin = entry.origin) ∨ world.counters.Unmade entry.id := by
  rcases after_cases world environment turn sound.workflowsDeclared with
    ⟨-, ⟨same, -⟩ | ⟨-, deed, -, does⟩⟩
  · rw [same] at member
    exact .inl ⟨entry, member, rfl, rfl⟩
  · exact does.descends member

/-- After some turns an entry has the identifier and the origin of one that was
there before them, or its identifier was made since. -/
theorem Sound.descends_run (sound : world.Sound)
    (turns : List (Environment × Turn))
    (member : entry ∈ (world.run turns).store.entries) :
    (∃ old ∈ world.store.entries, old.id = entry.id ∧
        old.origin = entry.origin) ∨ world.counters.Unmade entry.id := by
  induction turns generalizing world with
  | nil => exact .inl ⟨entry, member, rfl, rfl⟩
  | cons turn rest hypothesis =>
      rcases turn with ⟨environment, turn⟩
      rcases hypothesis (sound.step environment turn) member with
        ⟨middle, place, id, origin⟩ | ⟨number, new, named⟩
      · rw [← id, ← origin]
        exact sound.descends_after _ turn place
      · have most := (after_cases world (world.within environment) turn
          sound.workflowsDeclared).1
        exact .inr ⟨number, Nat.lt_of_le_of_lt (most .entry) new, named⟩

/-! ## What is gone -/

/-- No entry of a world has an identifier, and none will: it was made already. -/
structure Gone (world : World) (id : String) : Prop where
  sound : world.Sound
  made : ¬world.counters.Unmade (.text id)
  absent : ∀ entry ∈ world.store.entries, entry.id ≠ .text id

variable {id : String}

theorem Gone.after (gone : world.Gone id) (environment : Environment)
    (turn : Turn) : (world.after environment turn).Gone id where
  sound := gone.sound.after environment turn
  made := by
    rintro ⟨number, new, named⟩
    have most := (after_cases world environment turn
      gone.sound.workflowsDeclared).1
    exact gone.made ⟨number, Nat.lt_of_le_of_lt (most .entry) new, named⟩
  absent := by
    intro entry member named
    rcases gone.sound.descends_after environment turn member with
      ⟨old, held, same, -⟩ | unmade
    · exact gone.absent old held (same.trans named)
    · rw [named] at unmade
      exact gone.made unmade

/-- What is gone stays gone. -/
theorem Gone.run (gone : world.Gone id) (turns : List (Environment × Turn)) :
    (world.run turns).Gone id := by
  induction turns generalizing world with
  | nil => exact gone
  | cons turn rest hypothesis => exact hypothesis (gone.after _ turn.2)

theorem Gone.entryWith?_eq (gone : world.Gone id) :
    world.store.entryWith? id = none := by
  cases found : world.store.entryWith? id with
  | none => rfl
  | some entry =>
      rcases Store.entryWith?_eq_some found with ⟨member, named⟩
      exact absurd named (gone.absent entry member)

/-- An entry is neither listed nor shown, imported or deleted, in whatever
environment; without mishaps it is reported as missing. -/
structure Excludes (world : World) (id : String) : Prop where
  unlisted : ∀ (environment : Environment) (reader : User) summaries after,
    (Catalog.findAll reader).outcome environment world.session =
      (.ok summaries, after) → ∀ summary ∈ summaries, summary.id ≠ id
  unshown : ∀ (environment : Environment) (reader : User) detail after,
    (Catalog.get reader id).outcome environment world.session ≠
      (.ok detail, after)
  unimported : ∀ (environment : Environment) (reader : User) summary after,
    (Catalog.importEntry reader id).outcome environment world.session ≠
      (.ok summary, after)
  undeleted : ∀ (environment : Environment) (reader : User) after,
    (Catalog.delete reader id).outcome environment world.session ≠
      (.ok (), after)
  missing : ∀ (environment : Environment) (reader : User),
    ((Catalog.get reader id).outcome environment.calm world.session).1 =
        .error (.because .entryMissing) ∧
      ((Catalog.importEntry reader id).outcome environment.calm
        world.session).1 = .error (.because .entryMissing) ∧
      ((Catalog.delete reader id).outcome environment.calm world.session).1 =
        .error (.because .entryMissing)

theorem Gone.excludes (gone : world.Gone id) : world.Excludes id where
  unlisted := by
    intro environment reader summaries after ended summary member named
    have prepares : (Catalog.findAll reader).Prepares environment world.session
      _ := Catalog.findAll_prepares reader
    rcases (Work.Settles.of_ok prepares ended).2 summary member with
      ⟨entry, listed, shows⟩
    have held := (Store.mem_visibleEntries.mp listed).1
    have view := (gone.sound.store.entries entry held).shows shows
    rw [← named] at gone
    exact gone.absent entry held view.id
  unshown := by
    intro environment reader detail after ended
    have prepares : (Catalog.get reader id).Prepares environment world.session
      _ := Catalog.get_prepares reader id
    rcases (Work.Settles.of_ok prepares ended).2 with ⟨entry, found, -⟩
    cases gone.entryWith?_eq.symm.trans found
  unimported := by
    intro environment reader summary after ended
    have imports : (Catalog.importEntry reader id).Settles environment
      world.session _ := Catalog.importEntry_imports reader id
    rcases (imports.of_ok ended).adopts with ⟨entry, _, _, _, found, -⟩
    cases gone.entryWith?_eq.symm.trans found
  undeleted := by
    intro environment reader after ended
    have removes : (Catalog.delete reader id).Settles environment world.session
      _ := Catalog.delete_removes reader id
    rcases removes.of_ok ended with ⟨entry, found, -⟩
    cases gone.entryWith?_eq.symm.trans found
  missing := by
    intro environment reader
    have closed : world.store.entryWith? id = none := gone.entryWith?_eq
    have refused : world.store.importRefusal? reader id = some .entryMissing := by
      rw [Store.importRefusal?, closed]
    refine ⟨Catalog.outcome_get_closed fun entry found => ?_,
      Catalog.importEntry_refused gone.sound.store refused,
      Catalog.delete_missing closed⟩
    cases closed.symm.trans found

end World

/-! ## Publishing what was deleted -/

/-- A view is of an entry of an origin: one that was there before, or a first one,
without downloads and with an identifier that was not made before. -/
def EntrySummary.IsPlaced (summary : EntrySummary) (before : Session)
    (origin : Option TextCell × TextCell) : Prop :=
  ∃ entry, summary.Shows entry ∧ entry.origin = origin ∧
    ((∃ old ∈ before.saved.entries, old.id = entry.id ∧
        old.origin = entry.origin) ∨
      before.counters.Unmade entry.id ∧ entry.downloads = .int 0)

section Publishing

variable {environment : Environment} {before after : Session}
  {summary : EntrySummary}

theorem Publication.finish_isPlaced {publication : Publication}
    (keyed : before.saved.Keyed before.counters)
    (ended : publication.finish.outcome environment before =
      (.ok summary, after)) :
    summary.IsPlaced before (Entry.originOf publication.request.workflowId
      publication.user.id) := by
  cases publication.finishes environment before with
  | fails failed => cases failed.symm.trans ended
  | @saves description entry last _ _ places shown _ _ =>
      have fits := congrArg Prod.fst (shown.symm.trans ended)
      have keyedly : before.discarded.draft.Keyed before.discarded.counters :=
        keyed
      have shows : summary.Shows entry :=
        (Catalog.Places.sound keyedly places).shows fits
      refine ⟨entry, shows, places.member.2, ?_⟩
      cases places with
      | update found =>
          exact .inl ⟨_, (Store.entryByOrigin?_eq_some found).1, rfl, rfl⟩
      | insert => exact .inr ⟨⟨_, Nat.lt_succ_self _, rfl⟩, rfl⟩

theorem Catalog.publish_isPlaced {user : User} {request : PublishRequest}
    (keyed : before.saved.Keyed before.counters)
    (ended : (publish user request).outcome environment before =
      (.ok summary, after)) :
    summary.IsPlaced before (Entry.originOf request.workflowId user.id) := by
  rw [Publication.outcome_publish, Work.outcome_bind] at ended
  rcases Work.Settles.exists_outcome
      (Publication.begin_takes environment before user request) with
    ⟨_, _, beginning, -⟩ |
      ⟨publication, middle, beginning, unsaved, rfl, rfl, -, counters⟩
  · rw [beginning] at ended
    cases ended
  · rw [beginning] at ended
    rw [← unsaved.saved, ← counters] at keyed
    have placed := Publication.finish_isPlaced keyed ended
    rw [EntrySummary.IsPlaced, unsaved.saved, counters] at placed
    exact placed

end Publishing

namespace World

variable {world : World} {entry : Entry} {id : String}

/-- When work of an origin publishes, what it shows is another entry than one that
was deleted, and has no downloads if no entry of that origin was there before. -/
structure Replaces (world : World) (entry : Entry)
    (origin : Option TextCell × TextCell) (publishing : Work EntrySummary) :
    Prop where
  other : ∀ (environment : Environment) summary after,
    publishing.outcome environment world.session = (.ok summary, after) →
      entry.id ≠ .text summary.id
  uncounted : (∀ present ∈ world.store.entries, present.origin ≠ origin) →
    ∀ (environment : Environment) summary after,
      publishing.outcome environment world.session = (.ok summary, after) →
        summary.downloads = 0

theorem Gone.replaces (gone : world.Gone id) (named : entry.id = .text id)
    {origin : Option TextCell × TextCell} {publishing : Work EntrySummary}
    (placed : ∀ (environment : Environment) summary after,
      publishing.outcome environment world.session = (.ok summary, after) →
        summary.IsPlaced world.session origin) :
    world.Replaces entry origin publishing where
  other := by
    intro environment summary after ended same
    rcases placed environment summary after ended with
      ⟨new, shows, -, ⟨old, held, kept, -⟩ | ⟨unmade, -⟩⟩
    · apply gone.absent old held
      rw [kept, shows.id, ← same, named]
    · apply gone.made
      rw [← named, same, ← shows.id]
      exact unmade
  uncounted := by
    intro absent environment summary after ended
    rcases placed environment summary after ended with
      ⟨new, shows, origin, ⟨old, held, -, kept⟩ | ⟨-, none⟩⟩
    · exact absurd (kept.trans origin) (absent old held)
    · exact CountCell.int.inj (shows.downloads.symm.trans none)

/-- Publishing does not bring back an entry that was deleted, and without mishaps a
user who may publish a workflow and has no entry of it gets one. -/
structure Renews (world : World) (entry : Entry) : Prop where
  finishes : ∀ publication : Publication,
    world.Replaces entry (Entry.originOf publication.request.workflowId
      publication.user.id) publication.finish
  publishes : ∀ (author : User) (request : PublishRequest),
    world.Replaces entry (Entry.originOf request.workflowId author.id)
      (Catalog.publish author request)
  succeeds : ∀ (environment : Environment) (author : User)
    (request : PublishRequest) row copy description,
    (∀ present ∈ world.store.entries,
      present.origin ≠ Entry.originOf request.workflowId author.id) →
    world.store.accessibleWorkflow? author
      (Catalog.publishScopes environment.strict) request.workflowId = some row →
    (Heap.empty.copyGraph (LiveGraph.ofGraph row.graph).toValue).outcome =
      .ok copy →
    Catalog.descriptionOf environment request row.name.toValue copy =
      .ok description →
    ∃ summary after, (Catalog.publish author request).outcome environment.calm
      world.session = (.ok summary, after)

theorem Gone.renews (gone : world.Gone id) (named : entry.id = .text id) :
    world.Renews entry where
  finishes _ := gone.replaces named fun _ _ _ ended =>
    Publication.finish_isPlaced gone.sound.store.keyed ended
  publishes _ _ := gone.replaces named fun _ _ _ ended =>
    Catalog.publish_isPlaced gone.sound.store.keyed ended
  succeeds _ _ _ _ _ _ absent found copied described :=
    Catalog.publish_calm_of_absent gone.sound.store.keyed
      gone.sound.store.hasDistinctKeys found absent copied described

/-- A deletion takes out the one row of an entry, which is gone from then on. -/
theorem Sound.gone_of_deleted (sound : world.Sound) {environment : Environment}
    (truthful : environment.Truthful) {user : User} {after : Session}
    (ended : (Catalog.delete user id).outcome environment world.session =
      (.ok (), after)) :
    let last := world.after environment (.act (.delete user id))
    ∃ entry, world.store.entryWith? id = some entry ∧
      entry.MayBeDeletedBy user ∧ last.store = after.saved ∧
      Store.Loses entry world.store last.store ∧ last.Gone id := by
  intro last
  have removes : (Catalog.delete user id).Settles environment world.session _ :=
    Catalog.delete_removes user id
  rcases removes.of_ok ended with ⟨entry, found, may, removed⟩
  have saved : last.store = after.saved := by
    rw [store_after, World.outcome, work, Action.perform, Work.outcome_bind,
      ended]
    rfl
  have loses : Store.Loses entry world.store last.store := by
    rw [saved, removed truthful]
    exact Store.loses_removeEntry sound.store.ids found
  rcases Store.entryWith?_eq_some found with ⟨member, named⟩
  have next : last.Sound := sound.after environment _
  refine ⟨entry, found, may, saved, loses, next, ?_, ?_⟩
  · rintro ⟨number, new, same⟩
    have most := (after_cases world environment (.act (.delete user id))
      sound.workflowsDeclared).1
    exact sound.store.ne_of_unmade
      ⟨number, Nat.lt_of_le_of_lt (most .entry) new, same⟩ member named
  · intro present place
    rw [← named]
    exact (loses.apart sound.store place).1

/-- An entry of an origin that a world had none of was inserted since, and counts the
imports since. -/
theorem Sound.counted_anew (sound : world.Sound)
    (turns : List (Environment × Turn))
    (member : entry ∈ (world.run turns).store.entries)
    (absent : ∀ old ∈ world.store.entries, old.origin ≠ entry.origin) :
    entry.downloads = .counted (world.importCount entry turns) := by
  rcases sound.descends_run turns member with ⟨old, held, -, same⟩ | unmade
  · exact absurd same (absent old held)
  · rcases sound.counted_run turns member with ⟨old, held, grew⟩ | ⟨-, counted⟩
    · exact absurd grew.id (sound.store.ne_of_unmade unmade held)
    · exact counted

end World

/-! ## All runs -/

namespace World

/-- Take any world that a run leads to.  Without mishaps just an entry that is there
is deleted, by a global administrator or by its publisher, and a deletion that fails
changes nothing.  A deletion that succeeds takes out one row.  Whatever turns are
taken then, in whatever environments, the entry is never listed, shown, imported or
deleted again, and publications of its workflow, those included that waited while it
was deleted, make another entry, which begins without downloads. -/
theorem deletion_is_final (users : List User) (projects : List Project)
    (memberships : List Membership) (counters : Counters)
    (earlier : List (Environment × Turn)) (environment : Environment)
    (user : User) (id : String) :
    let world := (start users projects memberships counters).run earlier
    let last := world.after environment (.act (.delete user id))
    let deleting (weather : Environment) :=
      (Catalog.delete user id).outcome weather world.session
    ((deleting environment.calm).1 = .ok () ↔
      ∃ entry, world.store.entryWith? id = some entry ∧
        entry.MayBeDeletedBy user) ∧
    (world.store.entryWith? id = none →
      (deleting environment.calm).1 = .error (.because .entryMissing)) ∧
    (∀ entry, world.store.entryWith? id = some entry →
      ¬entry.MayBeDeletedBy user →
      (deleting environment.calm).1 = .error (.because .deleteForbidden)) ∧
    (∀ failure after, deleting environment = (.error failure, after) →
      after.saved = world.store) ∧
    (environment.Truthful → ∀ after, deleting environment = (.ok (), after) →
      ∃ entry, world.store.entryWith? id = some entry ∧
        entry.MayBeDeletedBy user ∧ last.store = after.saved ∧
        Store.Loses entry world.store after.saved ∧
        (∀ present ∈ after.saved.entries, present.origin ≠ entry.origin) ∧
        ∀ later : List (Environment × Turn),
          (last.run later).Excludes id ∧ (last.run later).Renews entry ∧
          ∀ present ∈ (last.run later).store.entries,
            present.origin = entry.origin →
            present.downloads = .counted (last.importCount present later)) := by
  intro world last deleting
  have sound : world.Sound :=
    (sound_start users projects memberships counters).run earlier
  refine ⟨⟨?_, ?_⟩, fun missing => Catalog.delete_missing missing,
    fun entry found denied => Catalog.delete_forbidden found denied,
    fun failure after failed => Catalog.saved_of_delete_error failed, ?_⟩
  · intro deletes
    rcases ended : deleting environment.calm with ⟨result, after⟩
    rw [ended] at deletes
    cases deletes
    rcases sound.gone_of_deleted environment.truthful_calm ended with
      ⟨entry, found, may, -⟩
    exact ⟨entry, found, may⟩
  · rintro ⟨entry, found, may⟩
    exact Catalog.delete_allowed found may
  · intro truthful after ended
    rcases sound.gone_of_deleted truthful ended with
      ⟨entry, found, may, saved, loses, gone⟩
    have named : entry.id = .text id := (Store.entryWith?_eq_some found).2
    have apart : ∀ present ∈ last.store.entries,
        present.origin ≠ entry.origin :=
      fun present place => (loses.apart sound.store place).2
    rw [← saved]
    refine ⟨entry, found, may, rfl, loses, apart, ?_⟩
    intro later
    refine ⟨(gone.run later).excludes, (gone.run later).renews named, ?_⟩
    intro present member origin
    apply gone.sound.counted_anew later member
    rw [origin]
    exact apart

/-- The author deletes an entry while a second publication of its workflow waits, and
finishing that one makes another entry. -/
theorem author_deletion_is_final :
    let world := Fair.start.run Fair.turns
    let last := world.after Fair.weather
      (.act (.delete (Fair.member "author") Fair.entryId))
    let finished := last.run [(Fair.weather, .finish 0)]
    finished.Excludes Fair.entryId ∧
      (finished.store.entries.map fun entry => (entry.id, entry.downloads)) =
        [(.text (Identifier.Kind.entry.numbered 2), .int 0)] := by
  intro world last finished
  have deletes : ((Catalog.delete (Fair.member "author") Fair.entryId).outcome
      Fair.weather world.session).1.toOption.isSome := by
    decide +kernel
  have truthful : Fair.weather.Truthful := by
    intro calls call met
    cases met
  rcases ended : (Catalog.delete (Fair.member "author") Fair.entryId).outcome
    Fair.weather world.session with ⟨failure | _, after⟩
  · rw [ended] at deletes
    cases deletes
  · rcases (deletion_is_final Fair.members Fair.projects Fair.memberships {}
        Fair.turns Fair.weather (Fair.member "author") Fair.entryId).2.2.2.2
        truthful after ended with ⟨entry, -, -, -, -, -, later⟩
    refine ⟨(later [(Fair.weather, .finish 0)]).1, ?_⟩
    decide +kernel

end World

end WorkflowExchange

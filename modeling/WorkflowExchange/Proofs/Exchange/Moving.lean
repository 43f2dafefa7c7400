import WorkflowExchange.Proofs.Exchange.Downloads

/-!
# When entries move

The moment of the last change of an entry decides where it is listed.  A turn moves an
entry to its own moment when it commits a publication to the origin of the entry, or an
entry's import by someone other than its author; no other turn changes the moment, and
none changes the moment at which the entry was made.  A step lemma follows the
stamps of an entry through each deed, and the run lemma puts the steps together:
`World.Sound.moved_run`.
-/

namespace WorkflowExchange

/-! ## What moves an entry -/

/-- The origin that a turn publishes to. -/
def Turn.origin? (waiting : List Publication) :
    Turn → Option (Option TextCell × TextCell)
  | .act (.publish user heap data) =>
    match PublishRequest.read heap data with
    | .fits request => some (Entry.originOf request.workflowId user.id)
    | _ => none
  | .finish position =>
    waiting[position]?.map fun publication =>
      Entry.originOf publication.request.workflowId publication.user.id
  | _ => none

/-- The origin that a deed publishes to. -/
def Deed.origin? : Deed → Option (Option TextCell × TextCell)
  | .publish user request => some (Entry.originOf request.workflowId user.id)
  | _ => none

theorem Turn.Means.origin?_eq {waiting : List Publication} {turn : Turn} {deed : Deed}
    (means : turn.Means waiting deed) : turn.origin? waiting = deed.origin? := by
  cases means with
  | publish fits => rw [Turn.origin?, fits, Deed.origin?]
  | finish waits => rw [Turn.origin?, waits, Deed.origin?, Option.map_some]
  | create | importEntry | update | delete => rfl

/-- Does a deed publish an entry, or import it for someone other than its author? -/
def Deed.moves (entry : Entry) (deed : Deed) : Bool :=
  deed.origin? = some entry.origin || deed.isImportOf entry

namespace World

/-- Does a turn commit a publication of an entry, or an import of it by someone other
than its author? -/
def moves (world : World) (entry : Entry) (environment : Environment) (turn : Turn) :
    Bool :=
  (turn.origin? world.waiting = some entry.origin || turn.isImportOf entry) &&
    world.commits environment turn

/-- The moment at which a turn moves an entry, if it does. -/
def movedAt? (world : World) (entry : Entry) (environment : Environment) (turn : Turn) :
    Option Moment :=
  if world.moves entry environment turn then some environment.now else none

/-- The last moment at which one of some turns moves an entry. -/
def lastMoved? (world : World) (entry : Entry) :
    List (Environment × Turn) → Option Moment
  | [] => none
  | (environment, turn) :: rest =>
    ((world.step environment turn).lastMoved? entry rest).or
      (world.movedAt? entry (world.within environment) turn)

end World

/-- From one version of an entry to another only the moment of the last change may be
another, and may only be a given one. -/
structure Entry.Moved (moment? : Option Moment) (old new : Entry) : Prop where
  id : old.id = new.id
  author : old.authorId = new.authorId
  origin : old.origin = new.origin
  createdAt : new.stamps.createdAt = old.stamps.createdAt
  updatedAt : new.stamps.updatedAt = moment?.getD old.stamps.updatedAt

namespace Entry.Moved

theorem refl (entry : Entry) : entry.Moved none entry :=
  ⟨rfl, rfl, rfl, rfl, rfl⟩

theorem trans {moment? later? : Option Moment} {first second third : Entry}
    (one : Moved moment? first second) (other : Moved later? second third) :
    Moved (later?.or moment?) first third where
  id := one.id.trans other.id
  author := one.author.trans other.author
  origin := one.origin.trans other.origin
  createdAt := other.createdAt.trans one.createdAt
  updatedAt := by
    rw [other.updatedAt, one.updatedAt]
    cases later? <;> rfl

theorem downloaded (entry : Entry) (moment : Moment) :
    entry.Moved (some moment) (entry.downloaded 1 moment) :=
  ⟨rfl, rfl, rfl, rfl, rfl⟩

theorem republished (entry : Entry) (fields : EntryFields) (snapshot : Json)
    (moment : Moment) :
    entry.Moved (some moment) (entry.republished fields snapshot moment) :=
  ⟨rfl, rfl, rfl, rfl, rfl⟩

end Entry.Moved

/-! ## One deed -/

namespace Store

variable {moment : Moment} {before after : Counters} {deed : Deed}
  {first last : Store} {entry : Entry}

/-- Where the entries of a store come from: an entry was there and stays where it is
listed, unless the deed moves it to its moment, or it is new and made at this moment. -/
theorem Does.moved (does : Store.Does moment before after deed first last)
    (sound : first.Sound before) (member : entry ∈ last.entries) :
    (∃ old ∈ first.entries,
        old.Moved (if deed.moves entry then some moment else none) entry) ∨
      before.Unmade entry.id ∧ deed.moves entry = true ∧ entry.stamps = .at moment := by
  have kept (held : entry ∈ first.entries) (stays : deed.moves entry = false) :
      (∃ old ∈ first.entries,
          old.Moved (if deed.moves entry then some moment else none) entry) ∨
        before.Unmade entry.id ∧ deed.moves entry = true ∧
          entry.stamps = .at moment := by
    rw [stays]
    exact .inl ⟨entry, held, .refl entry⟩
  cases does with
  | create deposited =>
      rw [deposited.entries_eq] at member
      exact kept member rfl
  | @importOwn _ _ user entryId present found own deposited =>
      rcases entryWith?_eq_some found with ⟨place, named⟩
      rw [deposited.entries_eq] at member
      apply kept member
      by_cases same : entry.id = .text entryId
      · have equal := eq_of_id_eq sound.ids member place (same.trans named.symm)
        rw [← equal] at own
        simp [Deed.moves, Deed.origin?, Deed.isImportOf, own]
      · simp [Deed.moves, Deed.origin?, Deed.isImportOf, same]
  | @importOther _ middle user entryId present found others deposited =>
      rcases entryWith?_eq_some found with ⟨place, named⟩
      rcases mem_replaceEntry member with ⟨held, apart⟩ | rfl
      · change entry.id ≠ present.id at apart
        rw [named] at apart
        rw [deposited.entries_eq] at held
        exact kept held (by simp [Deed.moves, Deed.origin?, Deed.isImportOf, apart])
      · have moving : (Deed.importEntry user entryId).moves
            (present.downloaded 1 moment) = true := by
          simp [Deed.moves, Deed.isImportOf, Entry.downloaded, named, others]
        rw [moving]
        exact .inl ⟨present, place, .downloaded present moment⟩
  | update => exact kept member rfl
  | @publish _ _ user request _ _ _ _ new made object added =>
      rcases addEntry_eq_some.mp added with ⟨apart, rfl⟩
      rcases List.mem_append.mp member with held | added
      · have different : Entry.originOf request.workflowId user.id ≠ entry.origin :=
          (sameOrigin_eq_false rfl).mp (apart entry held).2
        refine kept held ?_
        simpa [Deed.moves, Deed.origin?, Deed.isImportOf] using different
      · rw [List.mem_singleton.mp added]
        refine .inr ⟨⟨_, new, rfl⟩, ?_, rfl⟩
        simp [Deed.moves, Deed.origin?, Catalog.firstEntry, Entry.origin, Entry.originOf]
  | @republish _ user request description graph snapshot present found object =>
      rcases entryByOrigin?_eq_some found with ⟨place, origin⟩
      rcases mem_replaceEntry member with ⟨held, apart⟩ | rfl
      · refine kept held ?_
        have different : Entry.originOf request.workflowId user.id ≠ entry.origin := by
          rw [← origin]
          intro same
          have equal := List.inj_on_of_nodup_map sound.origins place held same
          exact apart (congrArg Entry.id equal).symm
        simpa [Deed.moves, Deed.origin?, Deed.isImportOf] using different
      · have moving : (Deed.publish user request).moves (present.republished
            (Catalog.entryFields request description graph) snapshot moment) = true := by
          rw [Deed.moves, Deed.origin?, ← origin]
          simp [Entry.republished, Entry.origin]
        rw [moving]
        exact .inl ⟨present, place, .republished present _ _ _⟩
  | delete => exact kept (List.mem_of_mem_filter member) rfl
  | deleteNothing => exact kept member rfl

end Store

/-! ## Turns and runs -/

namespace World

variable {world : World} {entry : Entry}

/-- An entry of a world was in an earlier one and has moved since as told, or it was
inserted since. -/
def Placed (world : World) (moment? : Option Moment) (entry : Entry) : Prop :=
  (∃ old ∈ world.store.entries, old.Moved moment? entry) ∨
    world.counters.Unmade entry.id ∧ moment? = some entry.stamps.updatedAt

/-- A turn moves an entry only as told. -/
theorem Sound.moved_after (sound : world.Sound) (environment : Environment) (turn : Turn)
    (member : entry ∈ (world.after environment turn).store.entries) :
    world.Placed (world.movedAt? entry environment turn) entry := by
  rw [movedAt?, moves]
  rcases after_cases world environment turn sound.workflowsDeclared with
    ⟨-, ⟨same, none⟩ | ⟨commits, deed, means, does⟩⟩
  · rw [same] at member
    rw [none, Bool.and_false]
    exact .inl ⟨entry, member, .refl entry⟩
  · rw [means.isImportOf_eq, means.origin?_eq, commits, Bool.and_true]
    rcases does.moved sound.store member with moved | ⟨unmade, moving, stamps⟩
    · exact .inl moved
    · rw [Deed.moves] at moving
      rw [moving]
      exact .inr ⟨unmade, by rw [stamps]; rfl⟩

theorem movedAt?_congr {other : Entry} {moment? : Option Moment}
    (moved : other.Moved moment? entry) (environment : Environment) (turn : Turn) :
    world.movedAt? other environment turn = world.movedAt? entry environment turn := by
  have same : turn.isImportOf other = turn.isImportOf entry := by
    unfold Turn.isImportOf
    rw [moved.id, moved.author]
  rw [movedAt?, movedAt?, moves, moves, same, moved.origin]

/-- The stamps of an entry after some turns. -/
theorem Sound.moved_run (sound : world.Sound) (turns : List (Environment × Turn))
    (member : entry ∈ (world.run turns).store.entries) :
    world.Placed (world.lastMoved? entry turns) entry := by
  induction turns generalizing world with
  | nil => exact .inl ⟨entry, member, .refl entry⟩
  | cons turn rest hypothesis =>
      rcases turn with ⟨environment, turn⟩
      rw [lastMoved?]
      have most := (after_cases world (world.within environment) turn
        sound.workflowsDeclared).1
      rcases hypothesis (sound.step environment turn) member with
        ⟨middle, place, later⟩ | ⟨⟨number, new, named⟩, last⟩
      · have first := sound.moved_after (world.within environment) turn place
        rw [movedAt?_congr later] at first
        rcases first with ⟨old, held, moved⟩ | ⟨unmade, moment⟩
        · exact .inl ⟨old, held, moved.trans later⟩
        · rw [later.id] at unmade
          refine .inr ⟨unmade, ?_⟩
          rw [moment, later.updatedAt]
          cases World.lastMoved? _ entry rest <;> rfl
      · rw [last]
        exact .inr ⟨⟨number, Nat.lt_of_le_of_lt (most .entry) new, named⟩, rfl⟩

end World

end WorkflowExchange

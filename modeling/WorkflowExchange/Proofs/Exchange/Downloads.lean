import WorkflowExchange.Proofs.Exchange.Imports

/-!
# Counting downloads

The number of downloads of an entry is the number of turns since the entry was
inserted that committed an import of it by someone other than its author:
`World.Sound.counted_run`.  A step lemma follows the number through each deed,
and the run lemma adds the steps up.

The number is counted in a column of integers of 64 bits: `CountCell.counted` is
the number itself as long as it is one of those, as it is along a whole run
(`World.run_counts_imports`).
-/

namespace WorkflowExchange

/-! ## What is counted -/

/-- Is a turn an import of an entry by someone other than its author? -/
def Turn.isImportOf (entry : Entry) : Turn → Bool
  | .act (.importEntry user entryId) =>
    entry.id = .text entryId && entry.authorId ≠ .text user.id
  | _ => false

namespace World

/-- Does a turn commit an import of an entry by someone other than its author? -/
def imports (world : World) (entry : Entry) (environment : Environment)
    (turn : Turn) : Bool :=
  turn.isImportOf entry && world.commits environment turn

/-- How many of some turns commit an import of an entry by someone other than its
author. -/
def importCount (world : World) (entry : Entry) :
    List (Environment × Turn) → Nat
  | [] => 0
  | (environment, turn) :: rest =>
    (world.imports entry (world.within environment) turn).toNat +
      (world.step environment turn).importCount entry rest

end World

/-! ## One deed -/

/-- Is a deed an import of an entry by someone other than its author? -/
def Deed.isImportOf (entry : Entry) : Deed → Bool
  | .importEntry user entryId =>
    entry.id = .text entryId && entry.authorId ≠ .text user.id
  | _ => false

theorem Turn.Means.isImportOf_eq {waiting : List Publication} {turn : Turn}
    {deed : Deed} (means : turn.Means waiting deed) (entry : Entry) :
    turn.isImportOf entry = deed.isImportOf entry := by
  cases means <;> rfl

/-- From one version of an entry to another some downloads were counted. -/
structure Entry.Grew (count : Nat) (old new : Entry) : Prop where
  id : old.id = new.id
  author : old.authorId = new.authorId
  downloads : ∀ earlier, old.downloads = .counted earlier →
    new.downloads = .counted (earlier + count)

namespace Entry.Grew

theorem refl (entry : Entry) : entry.Grew 0 entry :=
  ⟨rfl, rfl, fun _ equal => equal⟩

theorem trans {count more : Nat} {first second third : Entry}
    (one : Grew count first second) (other : Grew more second third) :
    Grew (count + more) first third where
  id := one.id.trans other.id
  author := one.author.trans other.author
  downloads := by
    intro earlier equal
    have later := other.downloads _ (one.downloads earlier equal)
    rw [Nat.add_assoc] at later
    exact later

theorem downloaded (entry : Entry) (moment : Moment) :
    entry.Grew 1 (entry.downloaded 1 moment) := by
  refine ⟨rfl, rfl, ?_⟩
  intro earlier equal
  rw [← CountCell.counted_plus, ← equal]
  rfl

end Entry.Grew

/-- An identifier of an entry that was not made yet. -/
def Counters.Unmade (counters : Counters) (id : TextCell) : Prop :=
  ∃ number, counters.entries < number ∧
    id = .text (Identifier.Kind.entry.numbered number)

namespace Store

variable {moment : Moment} {before after : Counters} {deed : Deed}
  {first last : Store} {entry : Entry}

/-- No entry has an identifier that was not made yet. -/
theorem Sound.ne_of_unmade {counters : Counters} {store : Store}
    (sound : store.Sound counters) {id : TextCell} (unmade : counters.Unmade id)
    (member : entry ∈ store.entries) : entry.id ≠ id := by
  rcases unmade with ⟨number, new, rfl⟩
  rcases (sound.entries entry member).id with ⟨other, bound, equal⟩
  rw [equal]
  intro clash
  have numbers := Identifier.Kind.numbered_injective (TextCell.text.inj clash)
  omega

/-- An entry that is not there yet is not imported. -/
theorem Does.isImportOf_unmade
    (does : Store.Does moment before after deed first last)
    (sound : first.Sound before) (unmade : before.Unmade entry.id) :
    deed.isImportOf entry = false := by
  cases does with
  | importOwn found =>
      rcases entryWith?_eq_some found with ⟨member, named⟩
      have apart := (sound.ne_of_unmade unmade member).symm
      rw [named] at apart
      simp [Deed.isImportOf, apart]
  | importOther found =>
      rcases entryWith?_eq_some found with ⟨member, named⟩
      have apart := (sound.ne_of_unmade unmade member).symm
      rw [named] at apart
      simp [Deed.isImportOf, apart]
  | create | update | publish | republish | delete | deleteNothing => rfl

/-- Where the entries of a store come from: an entry was there and is counted one
download if the deed is an import of it by someone other than its author, or it is
new and has none. -/
theorem Does.grew (does : Store.Does moment before after deed first last)
    (sound : first.Sound before) (member : entry ∈ last.entries) :
    (∃ old ∈ first.entries, old.Grew (deed.isImportOf entry).toNat entry) ∨
      before.Unmade entry.id ∧ entry.downloads = .counted 0 := by
  have kept (held : entry ∈ first.entries)
      (none : deed.isImportOf entry = false) :
      (∃ old ∈ first.entries, old.Grew (deed.isImportOf entry).toNat entry) ∨
        before.Unmade entry.id ∧ entry.downloads = .counted 0 := by
    rw [none]
    exact .inl ⟨entry, held, .refl entry⟩
  cases does with
  | create deposited =>
      rw [deposited.entries_eq] at member
      exact kept member rfl
  | @importOwn _ _ user entryId present found own deposited =>
      rcases entryWith?_eq_some found with ⟨place, named⟩
      rw [deposited.entries_eq] at member
      apply kept member
      by_cases same : entry.id = .text entryId
      · have equal := eq_of_id_eq sound.ids member place
          (same.trans named.symm)
        rw [← equal] at own
        simp [Deed.isImportOf, own]
      · simp [Deed.isImportOf, same]
  | @importOther _ middle user entryId present found others deposited =>
      rcases entryWith?_eq_some found with ⟨place, named⟩
      rcases mem_replaceEntry member with ⟨held, apart⟩ | rfl
      · change entry.id ≠ present.id at apart
        rw [named] at apart
        rw [deposited.entries_eq] at held
        exact kept held (by simp [Deed.isImportOf, apart])
      · have counted : (Deed.importEntry user entryId).isImportOf
            (present.downloaded 1 moment) = true := by
          simp [Deed.isImportOf, Entry.downloaded, named, others]
        rw [counted]
        exact .inl ⟨present, place, .downloaded present moment⟩
  | update => exact kept member rfl
  | publish new made object added =>
      rcases addEntry_eq_some.mp added with ⟨-, rfl⟩
      rcases List.mem_append.mp member with held | added
      · exact kept held rfl
      · rw [List.mem_singleton.mp added]
        exact .inr ⟨⟨_, new, rfl⟩, (CountCell.counted_of_lt (by decide)).symm⟩
  | republish found object =>
      rcases mem_replaceEntry member with ⟨held, -⟩ | rfl
      · exact kept held rfl
      · exact .inl ⟨_, (entryByOrigin?_eq_some found).1, rfl, rfl,
          fun _ equal => equal⟩
  | delete => exact kept (List.mem_of_mem_filter member) rfl
  | deleteNothing => exact kept member rfl

end Store

/-! ## Turns and runs -/

namespace World

variable {world : World} {entry : Entry}

/-- An entry of a world was in an earlier one, and some downloads were counted
since, or it was inserted since. -/
def Counted (world : World) (count : Nat) (entry : Entry) : Prop :=
  (∃ old ∈ world.store.entries, old.Grew count entry) ∨
    world.counters.Unmade entry.id ∧ entry.downloads = .counted count

theorem Sound.imports_unmade (sound : world.Sound) (environment : Environment)
    (turn : Turn) (unmade : world.counters.Unmade entry.id) :
    world.imports entry environment turn = false := by
  rw [imports]
  rcases after_cases world environment turn sound.workflowsDeclared with
    ⟨-, ⟨-, none⟩ | ⟨-, deed, means, does⟩⟩
  · rw [none, Bool.and_false]
  · rw [means.isImportOf_eq, does.isImportOf_unmade sound.store unmade,
      Bool.false_and]

/-- A turn counts a download of an entry when it commits an import of it by
someone other than its author. -/
theorem Sound.counted_after (sound : world.Sound) (environment : Environment)
    (turn : Turn)
    (member : entry ∈ (world.after environment turn).store.entries) :
    world.Counted (world.imports entry environment turn).toNat entry := by
  rw [imports]
  rcases after_cases world environment turn sound.workflowsDeclared with
    ⟨-, ⟨same, none⟩ | ⟨commits, deed, means, does⟩⟩
  · rw [same] at member
    rw [none, Bool.and_false]
    exact .inl ⟨entry, member, .refl entry⟩
  · rw [means.isImportOf_eq, commits, Bool.and_true]
    rcases does.grew sound.store member with grew | ⟨unmade, downloads⟩
    · exact .inl grew
    · rw [does.isImportOf_unmade sound.store unmade]
      exact .inr ⟨unmade, downloads⟩

theorem imports_congr {other : Entry} (id : other.id = entry.id)
    (author : other.authorId = entry.authorId) (environment : Environment)
    (turn : Turn) :
    world.imports other environment turn =
      world.imports entry environment turn := by
  have same : turn.isImportOf other = turn.isImportOf entry := by
    unfold Turn.isImportOf
    rw [id, author]
  rw [imports, imports, same]

/-- The number of downloads after some turns. -/
theorem Sound.counted_run (sound : world.Sound)
    (turns : List (Environment × Turn))
    (member : entry ∈ (world.run turns).store.entries) :
    world.Counted (world.importCount entry turns) entry := by
  induction turns generalizing world with
  | nil => exact .inl ⟨entry, member, .refl entry⟩
  | cons turn rest hypothesis =>
      rcases turn with ⟨environment, turn⟩
      rw [importCount]
      have most := (after_cases world (world.within environment) turn
        sound.workflowsDeclared).1
      rcases hypothesis (sound.step environment turn) member with
        ⟨middle, place, later⟩ | ⟨⟨number, new, named⟩, downloads⟩
      · have first := sound.counted_after (world.within environment) turn place
        rw [imports_congr later.id later.author] at first
        rcases first with ⟨old, held, grew⟩ | ⟨unmade, start⟩
        · exact .inl ⟨old, held, grew.trans later⟩
        · rw [later.id] at unmade
          exact .inr ⟨unmade, later.downloads _ start⟩
      · have unmade : world.counters.Unmade entry.id :=
          ⟨number, Nat.lt_of_le_of_lt (most .entry) new, named⟩
        rw [sound.imports_unmade _ turn unmade, Bool.toNat_false,
          Nat.zero_add]
        exact .inr ⟨unmade, downloads⟩

theorem run_append (world : World) (first second : List (Environment × Turn)) :
    world.run (first ++ second) = (world.run first).run second :=
  List.foldl_append

theorem run_singleton (world : World) (environment : Environment)
    (turn : Turn) :
    world.run [(environment, turn)] = world.step environment turn := rfl

end World

/-! ## A world with an entry for others to import -/

namespace Fair

/-- A member whose personal project has the same identifier. -/
def member (id : String) : User where
  id := id
  email := id
  firstName := none
  lastName := none
  role := "member"
  stamps := .at ⟨0⟩

/-- An author and a reader. -/
def members : List User := [member "author", member "reader"]

/-- The personal project of each member. -/
def projects : List Project :=
  members.map fun user => ⟨user.id, user.id, .personal, .at ⟨0⟩⟩

/-- Each member owns the personal project. -/
def memberships : List Membership :=
  members.map fun user => ⟨user.id, user.id, Role.personalOwner, .at ⟨0⟩⟩

/-- The world before anyone acts. -/
def start : World := .start members projects memberships {}

/-- An environment without mishaps and without a provider of descriptions. -/
def weather : Environment where
  now := ⟨0⟩
  generator := ⟨none, .usual, .null, 0, 0⟩
  strict := false
  mishap := fun _ _ => none

/-- The data of a request to publish the author's workflow under a name. -/
def publication (name : String) : Value :=
  .ofFields
    [("name", .text name), ("description", .text "Description"),
      ("category", .text "Category"),
      ("workflowId", .text (Identifier.Kind.workflow.numbered 1))]

/-- The author makes a workflow, begins to publish it twice, and finishes the
first publication. -/
def turns : List (Environment × Turn) :=
  let author := member "author"
  [(weather, .act (.create author .empty (.ofFields [("name", .text "Name")]))),
    (weather, .begin author .empty (publication "First")),
    (weather, .begin author .empty (publication "Second")),
    (weather, .finish 0)]

/-- The identifier of the author's entry. -/
def entryId : String := Identifier.Kind.entry.numbered 1

end Fair

end WorkflowExchange

import WorkflowExchange.Proofs.Exchange.Capacity

/-!
# Failing without a trace

A turn that fails leaves the tables as they were, whatever it had done to its
draft and whichever use of the store met a mishap.  Only a published entry is shown
after its commit, and showing it could fail only if its number of downloads had left
the integers of 64 bits: `World.Sound.saved_of_error`.  In a run it never does.
-/

namespace WorkflowExchange

/-- An entry whose downloads were counted was not inserted by publishing it. -/
theorem Store.Does.exists_of_publish {moment : Moment} {before after : Counters}
    {user : User} {request : PublishRequest} {first last : Store} {entry : Entry}
    (does : Store.Does moment before after (.publish user request) first last)
    (member : entry ∈ last.entries) (counted : entry.downloads ≠ .int 0) :
    ∃ old ∈ first.entries, old.origin = entry.origin ∧
      old.downloads = entry.downloads := by
  cases does with
  | publish new made object added =>
      rcases addEntry_eq_some.mp added with ⟨-, rfl⟩
      rcases List.mem_append.mp member with held | added
      · exact ⟨entry, held, rfl, rfl⟩
      · rw [List.mem_singleton.mp added] at counted
        exact absurd rfl counted
  | republish found object =>
      rcases mem_replaceEntry member with ⟨held, -⟩ | rfl
      · exact ⟨entry, held, rfl, rfl⟩
      · exact ⟨_, (entryByOrigin?_eq_some found).1, rfl, rfl⟩

namespace World

variable {world : World}

/-- A turn means to publish an entry again whose number of downloads has left the
integers of 64 bits. -/
def Overflows (world : World) (turn : Turn) : Prop :=
  ∃ user request entry,
    turn.Means world.waiting (.publish user request) ∧
    entry ∈ world.store.entries ∧
    entry.origin = Entry.originOf request.workflowId user.id ∧
    entry.downloads = .overflowed

/-- No number of downloads leaves them in a run. -/
theorem Bounded.not_overflows (bounded : world.Bounded) (turn : Turn) :
    ¬world.Overflows turn := by
  rintro ⟨user, request, entry, -, member, -, overflowed⟩
  rcases bounded.hasCounts entry member with ⟨count, counted⟩
  cases overflowed.symm.trans counted

/-- A turn of a sound world that fails saves nothing, unless it is such a turn. -/
theorem Sound.saved_of_error (sound : world.Sound) {environment : Environment}
    {turn : Turn} {failure : Failure}
    (failed : (world.outcome environment turn).1 = .error failure) :
    (world.after environment turn).store = world.store ∨
      world.Overflows turn ∧ failure = Catalog.countFailure := by
  have last := (sound.after environment turn).store
  cases turn_ends world environment turn sound.workflowsDeclared with
  | @unsaved result session outcome unsaved =>
      change world.outcome environment turn = _ at outcome
      left
      rw [store_after, outcome]
      exact unsaved.saved
  | @did result session deed outcome means did unshown =>
      change world.outcome environment turn = _ at outcome
      rw [outcome] at failed
      rcases unshown failure failed with
        ⟨user, request, entry, rfl, member, origin, shown⟩
      right
      rw [store_after, outcome] at last
      rcases EntrySummary.ofEntry_sound (last.entries entry member) with
        ⟨overflowed, misfit⟩ | ⟨-, summary, fits⟩
      · have counted : entry.downloads ≠ .int 0 := by
          rw [overflowed]
          intro none
          cases none
        rcases did.does.exists_of_publish member counted with
          ⟨old, held, same, downloads⟩
        refine ⟨⟨user, request, old, means, held, same.trans origin,
          downloads.trans overflowed⟩, ?_⟩
        rw [misfit] at shown
        exact (Except.error.inj shown).symm
      · rw [fits] at shown
        cases shown

/-- In every world that a run leads to a turn that fails leaves every table as it was,
whatever it does and whichever use of the store meets a mishap. -/
theorem error_saves_nothing (users : List User) (projects : List Project)
    (memberships : List Membership) (counters : Counters)
    (turns : List (Environment × Turn)) (environment : Environment)
    (turn : Turn) (failure : Failure)
    (failed : (((start users projects memberships counters).run turns).outcome
      environment turn).1 = .error failure) :
    let world := (start users projects memberships counters).run turns
    (world.after environment turn).store = world.store := by
  intro world
  have begun := bounded_start users projects memberships counters
  have sound := (sound_start users projects memberships counters).run turns
  rcases sound.saved_of_error failed with same | ⟨overflows, -⟩
  · exact same
  · exact absurd overflows ((begun.run turns).not_overflows turn)

/-- Deleting an entry that is not there fails. -/
theorem missing_saves_nothing :
    let turn := Turn.act (.delete (Fair.member "reader") Fair.entryId)
    (((start Fair.members Fair.projects Fair.memberships {}).run []).outcome
        Fair.weather turn).1 = .error (.because .entryMissing) ∧
      (Fair.start.after Fair.weather turn).store = Fair.start.store :=
  ⟨rfl, error_saves_nothing Fair.members Fair.projects Fair.memberships {} []
    Fair.weather _ _ rfl⟩

end World

end WorkflowExchange

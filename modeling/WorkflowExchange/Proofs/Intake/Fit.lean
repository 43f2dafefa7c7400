import WorkflowExchange.Intake.Request

/-!
# What fits

Readings that fit are taken apart: parts that are read together fit when each of
them does.  `Rule.Gives` says that something holds of all that a rule reads, and
is carried through the ways of making rules.
-/

namespace WorkflowExchange

namespace Fit

variable {α β : Type}

theorem map_eq_fits {change : α → β} {reading : Fit α} {result : β} :
    (change <$> reading) = .fits result ↔
      ∃ read, reading = .fits read ∧ change read = result := by
  cases reading with
  | fits read =>
      constructor
      · intro equal
        cases equal
        exact ⟨read, rfl, rfl⟩
      · rintro ⟨_, equal, rfl⟩
        cases equal
        rfl
  | misfits | breaks =>
      constructor
      · intro equal
        cases equal
      · rintro ⟨_, equal, -⟩
        cases equal

theorem seq_eq_fits {first : Fit (α → β)} {second : Fit α} {result : β} :
    (first <*> second) = .fits result ↔
      ∃ change read, first = .fits change ∧ second = .fits read ∧
        change read = result := by
  constructor
  · intro equal
    cases first <;> cases second <;> cases equal
    exact ⟨_, _, rfl, rfl, rfl⟩
  · rintro ⟨_, _, rfl, rfl, rfl⟩
    rfl

theorem toExcept_eq_ok {reading : Fit α} {result : α} :
    reading.toExcept = .ok result ↔ reading = .fits result := by
  cases reading <;> simp [toExcept]

theorem andThen_eq_fits {reading : Fit α} {next : α → Fit β} {result : β} :
    reading.andThen next = .fits result ↔
      ∃ read, reading = .fits read ∧ next read = .fits result := by
  cases reading with
  | fits read => simp [andThen]
  | misfits | breaks => simp [andThen]

theorem within_eq_fits {step : Step} {reading : Fit α} {result : α} :
    reading.within step = .fits result ↔ reading = .fits result := by
  cases reading <;> simp [within]

/-- Each of the results that were read together was read of some part. -/
theorem exists_part_of_all {read : α → Fit β} {parts : List α}
    {results : List β} (fits : all read parts = .fits results) :
    ∀ result ∈ results, ∃ part ∈ parts, read part = .fits result := by
  induction parts generalizing results with
  | nil =>
      cases fits
      simp
  | cons part rest hypothesis =>
      rcases seq_eq_fits.mp fits with ⟨_, others, headed, rested, rfl⟩
      rcases map_eq_fits.mp headed with ⟨first, fit, rfl⟩
      intro result member
      rcases List.mem_cons.mp member with rfl | member
      · exact ⟨part, List.mem_cons_self, fit⟩
      · rcases hypothesis rested result member with ⟨other, place, fit⟩
        exact ⟨other, List.mem_cons_of_mem _ place, fit⟩

/-- Parts that fit each fit together. -/
theorem exists_all_of_parts {read : α → Fit β} {parts : List α}
    (fits : ∀ part ∈ parts, ∃ result, read part = .fits result) :
    ∃ results, all read parts = .fits results := by
  induction parts with
  | nil => exact ⟨[], rfl⟩
  | cons part rest hypothesis =>
      rcases List.forall_mem_cons.mp fits with ⟨⟨first, fit⟩, fits⟩
      rcases hypothesis fits with ⟨others, rested⟩
      refine ⟨first :: others, ?_⟩
      rw [all, fit, rested]
      rfl

end Fit

namespace Rule

variable {α : Type} {rule : Rule α} {property : α → Prop}

/-- Something holds of all that a rule reads. -/
def Gives (rule : Rule α) (property : α → Prop) : Prop :=
  ∀ heap value result, rule heap value = .fits result → property result

/-- What is read of an optional value is read by the rule. -/
theorem exists_of_optional {heap : Heap} {value : Value} {result : Option α}
    (fits : rule.optional heap value = .fits result) :
    ∀ read ∈ result, ∃ source, rule heap source = .fits read := by
  rw [Rule.optional] at fits
  split at fits
  · cases fits
    simp
  · rcases Fit.map_eq_fits.mp fits with ⟨read, reading, rfl⟩
    intro other member
    cases member
    exact ⟨_, reading⟩

theorem Gives.optional (gives : rule.Gives property) :
    rule.optional.Gives fun result => ∀ read ∈ result, property read := by
  intro heap value result fits read member
  rcases exists_of_optional fits read member with ⟨source, reading⟩
  exact gives heap source read reading

theorem Gives.list (gives : rule.Gives property) :
    (Rule.list rule).Gives fun results => ∀ result ∈ results, property result := by
  intro heap value results fits
  have items (parts : List Value)
      (reading : Rule.list.read rule heap parts = .fits results) :
      ∀ result ∈ results, property result := by
    intro result member
    rcases Fit.exists_part_of_all reading result member with ⟨part, -, fit⟩
    exact gives heap part.1 result (Fit.within_eq_fits.mp fit)
  rw [Rule.list] at fits
  split at fits
  · exact items _ fits
  · exact items _ fits
  · exact items _ fits
  · cases fits

theorem Gives.shallow {toValue : α → Value} (gives : rule.Gives property) :
    (Rule.shallow toValue rule).Gives property := by
  intro heap value result fits
  rcases Fit.andThen_eq_fits.mp fits with ⟨read, reading, checked⟩
  split at checked
  · cases checked
  · rw [Fit.fits.injEq] at checked
    rw [← checked]
    exact gives heap value read reading
  · cases checked

theorem Gives.closed {close : Heap → α → α} (other : α → Prop)
    (gives : rule.Gives property)
    (closes : ∀ heap result, property result → other (close heap result)) :
    (Rule.closed close rule).Gives other := by
  intro heap value result fits
  rcases Fit.map_eq_fits.mp fits with ⟨read, reading, rfl⟩
  exact closes heap read (gives heap value read reading)

/-- What is read of a field that was sent is read by the rule. -/
theorem exists_of_sent {spelling : Spelling} {heap : Heap}
    {entries : List (Value × Value)} {sent : Sent α}
    (fits : spelling.sent rule heap entries = .fits sent) :
    ∀ read ∈ sent, ∃ source, rule heap source = .fits read := by
  rw [Spelling.sent] at fits
  split at fits
  · rcases Fit.map_eq_fits.mp fits with ⟨read, reading, rfl⟩
    intro other member
    cases member
    exact ⟨_, Fit.within_eq_fits.mp reading⟩
  · cases fits
    simp

theorem Gives.sent {spelling : Spelling} {heap : Heap}
    {entries : List (Value × Value)} {sent : Sent α}
    (gives : rule.Gives property)
    (fits : spelling.sent rule heap entries = .fits sent) :
    ∀ read ∈ sent, property read := by
  intro read member
  rcases exists_of_sent fits read member with ⟨source, reading⟩
  exact gives heap source read reading

end Rule

/-- Data that fits a dictionary of fields is one. -/
theorem readFields_eq_fits {α : Type} {request : String} {heap : Heap}
    {data : Value} {read : List (Value × Value) → Fit α} {result : α}
    (fits : readFields request heap data read = .fits result) :
    ∃ entries, read entries = .fits result := by
  rw [readFields] at fits
  split at fits
  · exact ⟨_, fits⟩
  · cases fits

end WorkflowExchange

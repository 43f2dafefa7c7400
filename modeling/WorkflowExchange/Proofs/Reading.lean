import Mathlib.Data.List.Forall2

/-!
# Reading one part after the other

A reading in steps ends with a result when each of its steps does, and a list is read
item by item.
-/

namespace WorkflowExchange

section Outcomes

variable {ε α β : Type} {outcome : Except ε α} {result : β}

theorem Except.map_eq_ok {change : α → β} :
    outcome.map change = .ok result ↔
      ∃ given, outcome = .ok given ∧ change given = result := by
  cases outcome <;> simp [Except.map]

theorem Except.bind_eq_ok {next : α → Except ε β} :
    (outcome >>= next) = .ok result ↔
      ∃ given, outcome = .ok given ∧ next given = .ok result := by
  cases outcome <;> simp [bind, Except.bind]

theorem Except.mapError_eq_ok {ω : Type} {result : α} {change : ε → ω} :
    outcome.mapError change = .ok result ↔ outcome = .ok result := by
  cases outcome <;> simp [Except.mapError]

end Outcomes

section Items

variable {ε α β : Type} {read : α → Except ε β} {items : List α}

/-- Reading a list fails as the reading of one of its items does. -/
theorem exists_of_mapM_eq_error {failure : ε}
    (fails : items.mapM read = .error failure) :
    ∃ item ∈ items, read item = .error failure := by
  induction items with
  | nil => cases fails
  | cons item rest hypothesis =>
      rw [List.mapM_cons] at fails
      cases first : read item with
      | error found =>
          rw [first] at fails
          cases fails
          exact ⟨item, List.mem_cons_self, first⟩
      | ok result =>
          cases others : rest.mapM read with
          | error found =>
              rw [first, others] at fails
              cases fails
              rcases hypothesis others with ⟨later, member, equal⟩
              exact ⟨later, List.mem_cons_of_mem _ member, equal⟩
          | ok results =>
              rw [first, others] at fails
              cases fails

/-- Every item of a list that was read could be read. -/
theorem exists_of_mapM_eq_ok {results : List β}
    (reads : items.mapM read = .ok results) :
    ∀ item ∈ items, ∃ result, read item = .ok result := by
  induction items generalizing results with
  | nil => simp
  | cons item rest hypothesis =>
      rw [List.mapM_cons] at reads
      rcases Except.bind_eq_ok.mp reads with ⟨result, first, reads⟩
      rcases Except.bind_eq_ok.mp reads with ⟨others, rested, -⟩
      exact List.forall_mem_cons.mpr ⟨⟨result, first⟩, hypothesis rested⟩

/-- A list is read item by item where every item can be read. -/
theorem exists_mapM_eq_ok {holds : β → α → Prop}
    (each : ∀ item ∈ items, ∃ result, read item = .ok result ∧
      holds result item) :
    ∃ results, items.mapM read = .ok results ∧
      List.Forall₂ holds results items := by
  induction items with
  | nil => exact ⟨[], rfl, .nil⟩
  | cons item rest hypothesis =>
      rcases each item List.mem_cons_self with ⟨result, first, holding⟩
      rcases hypothesis fun later member =>
        each later (List.mem_cons_of_mem _ member) with
        ⟨results, others, relating⟩
      refine ⟨result :: results, ?_, .cons holding relating⟩
      rw [List.mapM_cons, first, others]
      rfl

/-- What stands for some sources is read item by item where each item can be read. -/
theorem exists_mapM_of_forall₂ {γ : Type} {sources : List γ}
    {standsFor : γ → α → Prop} {holds : γ → β → Prop}
    (related : List.Forall₂ standsFor sources items)
    (each : ∀ source ∈ sources, ∀ {item}, standsFor source item →
      ∃ result, read item = .ok result ∧ holds source result) :
    ∃ results, items.mapM read = .ok results ∧
      List.Forall₂ holds sources results := by
  induction related with
  | nil => exact ⟨[], rfl, .nil⟩
  | cons standing rested hypothesis =>
      rcases List.forall_mem_cons.mp each with ⟨head, tail⟩
      rcases head standing with ⟨result, first, holding⟩
      rcases hypothesis tail with ⟨results, others, holdings⟩
      refine ⟨result :: results, ?_, .cons holding holdings⟩
      rw [List.mapM_cons, first, others]
      rfl

end Items

end WorkflowExchange

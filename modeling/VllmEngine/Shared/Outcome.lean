import Mathlib.Tactic.Common

set_option autoImplicit false

namespace VllmEngine.Outcome

variable {Error A B : Type} {next : A → Except Error B} {outcome : Except Error A} {result : B}
  {items : List A}

@[simp] theorem bind_eq_ok :
    (outcome >>= next) = .ok result ↔ ∃ value, outcome = .ok value ∧ next value = .ok result := by
  cases outcome <;> simp [bind, Except.bind]

@[simp] theorem ok_bind (value : A) (next : A → Except Error B) :
    ((.ok value : Except Error A) >>= next) = next value := rfl

@[simp] theorem map_eq_ok {change : A → B} :
    (change <$> outcome) = .ok result ↔ ∃ value, outcome = .ok value ∧ change value = result := by
  cases outcome <;> simp [Except.map]

@[simp] theorem pure_eq_ok {value result : A} :
    (pure value : Except Error A) = .ok result ↔ value = result := by
  simp [pure, Except.pure]

@[simp] theorem throw_eq_ok {error : Error} {result : A} :
    (throw error : Except Error A) = .ok result ↔ False := by
  simp [throw]

@[simp] theorem mapError_eq_ok {Other : Type} {change : Error → Other}
    {result : A} : outcome.mapError change = .ok result ↔ outcome = .ok result := by
  cases outcome <;> simp [Except.mapError]

theorem forall₂_of_mapM {results : List B} (taken : items.mapM next = .ok results) :
    List.Forall₂ (fun item result => next item = .ok result) items results := by
  induction items generalizing results with
  | nil =>
    cases taken
    exact .nil
  | cons item rest ih =>
    rw [List.mapM_cons] at taken
    simp only [bind_eq_ok, pure_eq_ok] at taken
    obtain ⟨_, done, _, run, rfl⟩ := taken
    exact .cons done (ih run)

theorem mapM_of_forall {value : A → B} (each : ∀ item ∈ items, next item = .ok (value item)) :
    items.mapM next = .ok (items.map value) := by
  induction items with
  | nil => rfl
  | cons item rest ih =>
    obtain ⟨first, others⟩ := List.forall_mem_cons.mp each
    rw [List.mapM_cons, first, ok_bind, ih others]
    rfl

end VllmEngine.Outcome

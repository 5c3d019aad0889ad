import VllmEngine.Shared.Outcome

set_option autoImplicit false

namespace VllmEngine.Outcome

variable {Error A B State : Type} {tolerated : Error → Prop}

-- A result with a property, or a tolerated error.
def Ensures (tolerated : Error → Prop) (good : A → Prop) : Except Error A → Prop
  | .ok value => good value
  | .error error => tolerated error

namespace Ensures

variable {good : A → Prop} {outcome : Except Error A}

theorem of_ok {value : A} (holds : good value) :
    Ensures tolerated good (.ok value) := holds

theorem imp {good wanted : A → Prop}
    (ensures : Ensures tolerated good outcome) (implies : ∀ value, good value → wanted value) :
    Ensures tolerated wanted outcome := by
  cases outcome with
  | ok value => exact implies value ensures
  | error error => exact ensures

theorem bind {wanted : B → Prop}
    {next : A → Except Error B} (ensures : Ensures tolerated good outcome)
    (then_ : ∀ value, good value → Ensures tolerated wanted (next value)) :
    Ensures tolerated wanted (outcome >>= next) := by
  cases outcome with
  | ok value => exact then_ value ensures
  | error error => exact ensures

theorem result {value : A}
    (ensures : Ensures tolerated good outcome) (ended : outcome = .ok value) : good value := by
  subst ended
  exact ensures

theorem failure {error : Error}
    (ensures : Ensures tolerated good outcome) (ended : outcome = .error error) :
    tolerated error := by
  subst ended
  exact ensures

theorem foldlM {invariant : State → Prop} {step : State → A → Except Error State} {items : List A}
    (kept : ∀ state, ∀ item ∈ items, invariant state →
      Ensures tolerated invariant (step state item))
    {state : State} (initial : invariant state) :
    Ensures tolerated invariant (items.foldlM step state) := by
  induction items generalizing state with
  | nil => exact initial
  | cons item rest ih =>
    rw [List.foldlM_cons]
    refine bind (kept state item List.mem_cons_self initial) fun next holds => ?_
    exact ih (fun state item member => kept state item (List.mem_cons_of_mem _ member)) holds

end Ensures

end VllmEngine.Outcome

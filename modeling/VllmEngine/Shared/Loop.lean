import VllmEngine.Shared.Ensures

set_option autoImplicit false

namespace VllmEngine

variable {Error State Result : Type}

inductive Round (State Result : Type) where
  | next (state : State)
  | done (result : Result)

def Round.Holds (invariant : State → Prop) (good : Result → Prop) : Round State Result → Prop
  | .next state => invariant state
  | .done result => good result

def iterate (exhausted : Error) (round : State → Except Error (Round State Result)) :
    Nat → State → Except Error Result
  | 0, _ => .error exhausted
  | fuel + 1, state =>
    match round state with
    | .error error => .error error
    | .ok (.next state) => iterate exhausted round fuel state
    | .ok (.done result) => .ok result

variable {exhausted : Error} {round : State → Except Error (Round State Result)}
  {tolerated : Error → Prop} {invariant : State → Prop} {good : Result → Prop}

def rounds (round : State → Except Error (Round State Result)) : Nat → State → List State
  | 0, _ => []
  | fuel + 1, state => state ::
    match round state with
    | .ok (.next next) => rounds round fuel next
    | _ => []

theorem iterate_rounds (allowed : State → Prop) (invariant : List State → State → Prop)
    (good : List State → Result → Prop)
    (kept : ∀ history state outcome, invariant history state → allowed state →
      round state = .ok outcome →
      outcome.Holds (invariant (history ++ [state])) (good (history ++ [state])))
    {fuel : Nat} (history : List State) {state : State} {result : Result}
    (initial : invariant history state) (meets : ∀ begun ∈ rounds round fuel state, allowed begun)
    (ended : iterate exhausted round fuel state = .ok result) :
    good (history ++ rounds round fuel state) result := by
  induction fuel generalizing history state with
  | zero => cases ended
  | succ fuel ih =>
    obtain ⟨here, later⟩ := List.forall_mem_cons.mp meets
    unfold iterate at ended
    unfold rounds
    cases taken : round state with
    | error error =>
      rw [taken] at ended
      cases ended
    | ok outcome =>
      have holds := kept history state outcome initial here taken
      rw [taken] at ended later
      cases outcome with
      | next state =>
        rw [List.append_cons]
        exact ih _ holds later ended
      | done last =>
        cases ended
        exact holds

theorem iterate_result (invariant : State → Prop) (good : Result → Prop)
    (kept : ∀ state outcome, invariant state → round state = .ok outcome →
      outcome.Holds invariant good)
    {fuel : Nat} {state : State} {result : Result} (initial : invariant state)
    (ended : iterate exhausted round fuel state = .ok result) : good result := by
  apply iterate_rounds (fun _ => True) (fun _ => invariant) (fun _ => good) _ [] initial
    (fun _ _ => trivial) ended
  intro _ state outcome holds _
  exact kept state outcome holds

end VllmEngine

import Mathlib.Tactic.Common

set_option autoImplicit false

namespace VllmEngine

variable {Event : Type}

-- A history has its newest event first.
def Throughout (holds : Event → List Event → Prop) : List Event → Prop
  | [] => True
  | event :: earlier => holds event earlier ∧ Throughout holds earlier

instance decidableThroughout (holds : Event → List Event → Prop)
    [∀ event earlier, Decidable (holds event earlier)] :
    ∀ history, Decidable (Throughout holds history)
  | [] => isTrue trivial
  | _ :: earlier =>
    have := decidableThroughout holds earlier
    inferInstanceAs (Decidable (_ ∧ _))

theorem throughout_of_forall {holds : Event → List Event → Prop} {history : List Event}
    (each : ∀ event ∈ history, ∀ earlier, holds event earlier) : Throughout holds history := by
  induction history with
  | nil => trivial
  | cons event earlier ih =>
    obtain ⟨first, others⟩ := List.forall_mem_cons.mp each
    exact ⟨first earlier, ih others⟩

end VllmEngine

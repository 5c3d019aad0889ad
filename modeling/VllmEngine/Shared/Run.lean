import Mathlib.Tactic.Common

set_option autoImplicit false

namespace VllmEngine.Run

variable {Error State Op : Type}

def Always (step : State → Op → Except Error State) (holds : State → Prop) :
    State → List Op → Prop
  | state, [] => holds state
  | state, op :: rest =>
    holds state ∧ ∀ next, step state op = .ok next → Always step holds next rest

def Meets (step : State → Op → Except Error State) (allowed : State → Op → Prop) :
    State → List Op → Prop
  | _, [] => True
  | state, op :: rest =>
    (∀ next, step state op = .ok next → allowed state op) ∧
      ∀ next, step state op = .ok next → Meets step allowed next rest

variable {step : State → Op → Except Error State} {allowed : State → Op → Prop} {state : State}
  {op : Op} {holds : State → Prop} {ops : List Op} {rest : List Op} {first second : List Op}

theorem meets_cons_of_ok {next : State} (taken : step state op = .ok next) :
    allowed state op ∧ Meets step allowed next rest ↔
      Meets step allowed state (op :: rest) := by
  simp only [Meets, taken, Except.ok.injEq, forall_eq']

theorem meets_cons_of_error {error : Error} (taken : step state op = .error error) :
    Meets step allowed state (op :: rest) := by
  simp only [Meets, taken, reduceCtorEq, false_implies, implies_true, and_self]

instance decidableMeets (step : State → Op → Except Error State) (allowed : State → Op → Prop)
    [∀ state op, Decidable (allowed state op)] :
    ∀ state ops, Decidable (Meets step allowed state ops)
  | _, [] => isTrue trivial
  | state, op :: rest =>
    match taken : step state op with
    | .error _ => isTrue (meets_cons_of_error taken)
    | .ok next =>
      have := decidableMeets step allowed next rest
      decidable_of_iff (allowed state op ∧ Meets step allowed next rest) (meets_cons_of_ok taken)

theorem Always.start (run : Always step holds state ops) : holds state := by
  cases ops with
  | nil => exact run
  | cons op rest => exact run.1

theorem always_of_kept
    (kept : ∀ state, ∀ op ∈ ops, ∀ next, step state op = .ok next → holds state → holds next)
    (initial : holds state) : Always step holds state ops := by
  induction ops generalizing state with
  | nil => exact initial
  | cons op rest ih =>
    refine ⟨initial, fun next taken => ?_⟩
    apply ih
    · intro current other member
      exact kept current other (List.mem_cons_of_mem op member)
    · exact kept state op List.mem_cons_self next taken initial

theorem Always.imp {wanted : State → Prop} (run : Always step holds state ops)
    (implies : ∀ state, holds state → wanted state) : Always step wanted state ops := by
  induction ops generalizing state with
  | nil => exact implies state run
  | cons op rest ih =>
    refine ⟨implies state run.1, fun next taken => ?_⟩
    exact ih (run.2 next taken)

theorem always_of_meets
    (kept : ∀ state op next, step state op = .ok next → allowed state op → holds state →
      holds next) (meets : Meets step allowed state ops) (initial : holds state) :
    Always step holds state ops := by
  induction ops generalizing state with
  | nil => exact initial
  | cons op rest ih =>
    refine ⟨initial, fun next taken => ?_⟩
    apply ih (meets.2 next taken)
    exact kept state op next taken (meets.1 next taken) initial

theorem foldlM_append_ok {final : State} (run : (first ++ second).foldlM step state = .ok final) :
    ∃ middle, first.foldlM step state = .ok middle ∧ second.foldlM step middle = .ok final := by
  rw [List.foldlM_append] at run
  cases taken : first.foldlM step state with
  | error error =>
    rw [taken] at run
    cases run
  | ok middle =>
    rw [taken] at run
    exact ⟨middle, rfl, run⟩

theorem foldlM_cons_ok {final : State} (run : (op :: rest).foldlM step state = .ok final) :
    ∃ next, step state op = .ok next ∧ rest.foldlM step next = .ok final := by
  rw [List.foldlM_cons] at run
  cases taken : step state op with
  | error error =>
    rw [taken] at run
    cases run
  | ok next =>
    rw [taken] at run
    exact ⟨next, rfl, run⟩

section

variable (run : Always step holds state ops)

include run

theorem Always.final {final : State} (ended : ops.foldlM step state = .ok final) : holds final := by
  induction ops generalizing state with
  | nil =>
    cases ended
    exact run
  | cons op rest ih =>
    obtain ⟨next, taken, ended⟩ := foldlM_cons_ok ended
    exact ih (run.2 next taken) ended

theorem Always.exists_view {Seen : Type} (view : State → Seen) (seen : Seen)
    (ended : (ops.foldlM step state).toOption.map view = some seen) :
    ∃ final, holds final ∧ view final = seen := by
  cases last : ops.foldlM step state with
  | error error =>
    rw [last] at ended
    cases ended
  | ok final =>
    rw [last] at ended
    exact ⟨final, run.final last, Option.some.inj ended⟩

theorem Always.exists_final (progress : ∀ state op, holds state → ∃ next, step state op = .ok next) :
    ∃ final, ops.foldlM step state = .ok final := by
  induction ops generalizing state with
  | nil => exact ⟨state, rfl⟩
  | cons op rest ih =>
    obtain ⟨next, taken⟩ := progress state op run.1
    rw [List.foldlM_cons, taken]
    exact ih (run.2 next taken)

end

theorem foldlM_kept (invariant : State → Prop) {final : State}
    (kept : ∀ state, ∀ op ∈ ops, ∀ next, step state op = .ok next → invariant state →
      invariant next) (initial : invariant state) (run : ops.foldlM step state = .ok final) :
    invariant final :=
  (always_of_kept kept initial).final run

theorem Meets.exists_allowed {final : State} (meets : Meets step allowed state ops)
    (run : ops.foldlM step state = .ok final) (member : op ∈ ops) :
    ∃ current, allowed current op := by
  induction ops generalizing state with
  | nil => exact absurd member List.not_mem_nil
  | cons first rest ih =>
    obtain ⟨next, taken, run⟩ := foldlM_cons_ok run
    rcases List.mem_cons.mp member with rfl | later
    · exact ⟨state, meets.1 next taken⟩
    · exact ih (meets.2 next taken) run later

theorem Meets.append (meets : Meets step allowed state (first ++ second)) :
    Meets step allowed state first ∧
      ∀ middle, first.foldlM step state = .ok middle → Meets step allowed middle second := by
  induction first generalizing state with
  | nil =>
    refine ⟨trivial, fun middle run => ?_⟩
    cases run
    exact meets
  | cons op rest ih =>
    refine ⟨⟨meets.1, fun next taken => (ih (meets.2 next taken)).1⟩, fun middle run => ?_⟩
    obtain ⟨next, taken, run⟩ := foldlM_cons_ok run
    exact (ih (meets.2 next taken)).2 middle run

theorem always_iff_meets {given : State → Prop}
    (precise : ∀ state, ∀ op ∈ ops, ∀ next, step state op = .ok next → given state → given next →
      holds state → (holds next ↔ allowed state op)) (known : Always step given state ops)
    (initial : holds state) :
    Always step holds state ops ↔ Meets step allowed state ops := by
  induction ops generalizing state with
  | nil => simpa [Always, Meets] using initial
  | cons op rest ih =>
    obtain ⟨now, later⟩ := known
    have tail : ∀ state, ∀ op ∈ rest, ∀ next, step state op = .ok next → given state →
        given next → holds state → (holds next ↔ allowed state op) :=
      fun current other member => precise current other (List.mem_cons_of_mem op member)
    have head (next : State) (taken : step state op = .ok next) :
        holds next ↔ allowed state op :=
      precise state op List.mem_cons_self next taken now (later next taken).start initial
    constructor
    · rintro ⟨_, run⟩
      refine ⟨fun next taken => ?_, fun next taken => ?_⟩
      · exact (head next taken).mp (run next taken).start
      · exact (ih tail (later next taken) (run next taken).start).mp (run next taken)
    · rintro ⟨permitted, run⟩
      refine ⟨initial, fun next taken => ?_⟩
      have kept : holds next := (head next taken).mpr (permitted next taken)
      exact (ih tail (later next taken) kept).mpr (run next taken)

def Simulates {View : Type} (relates : State → View → Prop) :
    Except Error State → Except Error View → Prop
  | .ok state, .ok view => relates state view
  | .error error, .error other => error = other
  | _, _ => False

theorem simulates_of_meets {View : Type} {model : View → Op → Except Error View}
    {relates : State → View → Prop} {permitted : View → Op → Prop} {view : View}
    (refined : ∀ state view op, relates state view →
      (∀ next, model view op = .ok next → permitted view op) →
      Simulates relates (step state op) (model view op))
    (meets : Meets model permitted view ops) (initial : relates state view) :
    Simulates relates (ops.foldlM step state) (ops.foldlM model view) := by
  induction ops generalizing state view with
  | nil => exact initial
  | cons op rest ih =>
    have head := refined state view op initial meets.1
    rw [List.foldlM_cons, List.foldlM_cons]
    cases taken : step state op <;> cases modelled : model view op <;>
      rw [taken, modelled] at head
    · exact head
    · exact head.elim
    · exact head.elim
    · exact ih (meets.2 _ modelled) head

end VllmEngine.Run

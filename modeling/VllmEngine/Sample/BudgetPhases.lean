import VllmEngine.Sample.ThinkingUpdate

set_option autoImplicit false

namespace VllmEngine

open ThinkMarkers

structure ThinkMarkers.Separate (markers : ThinkMarkers) : Prop where
  borderless : Borderless markers.thinkEndTokenIds
  startApart : NotWithin markers.thinkStartTokenIds markers.thinkEndTokenIds

-- An open section of the prompt has used up the budget there, or is the only one and its start
-- marker has one token.
def ThinkMarkers.CountsPrompt (markers : ThinkMarkers) (prompt : List Int) (budget : Nat) : Prop :=
  ∀ i ≤ prompt.length, markers.OpenAt prompt i → budget ≤ markers.thought prompt i ∨
    markers.thinkStartTokenIds.length = 1 ∧ ∀ j ≤ prompt.length, markers.OpenAt prompt j → j = i

instance (markers : ThinkMarkers) (prompt : List Int) (budget : Nat) :
    Decidable (markers.CountsPrompt prompt budget) :=
  inferInstanceAs (Decidable (∀ i ≤ _, _))

namespace BudgetRun

variable (markers : ThinkMarkers)

def SeenBySampling (run : BudgetRun) (sampled : Int) : Prop :=
  run.due markers = none →
    (∀ i ≤ run.tokens.length, OccursAt markers.thinkStartTokenIds (run.tokens ++ [sampled]) i →
      i + markers.thinkStartTokenIds.length = run.tokens.length + 1 → run.prompt.length ≤ i) ∧
    ∀ i ≤ run.tokens.length, OccursAt markers.thinkEndTokenIds (run.tokens ++ [sampled]) i →
      i + markers.thinkEndTokenIds.length = run.tokens.length + 1 →
        run.prompt.length ≤ i ∧ ∃ j ≤ run.tokens.length, markers.OpenAt run.tokens j

instance (run : BudgetRun) (sampled : Int) : Decidable (run.SeenBySampling markers sampled) :=
  inferInstanceAs (Decidable (_ → _))

structure Entered (entry : ThinkState) (run : BudgetRun) : Prop where
  output : entry.outputTokIds = run.output
  noDrafts : entry.specTokenIds = []
  budget : entry.thinkingTokenBudget = run.budget
  prompt : entry.promptTokIds = run.promptTokIds
  notForced : entry.bonusTokenForced = false

structure Idle (run : BudgetRun) : Prop where
  entered : Entered run.entry run
  pending : run.pending = 0
  noStart : run.entry.startThinking = -1
  noEnd : run.entry.endThinking = -1
  notEnding : run.entry.inEnd = false
  notContinued : run.entry.continueThinking = false
  countdown : run.entry.checkCountDown = run.budget
  previous : run.entry.prevOutputLength ≤ run.output.length
  offset : run.entry.scanOffset ≤ run.output.length
  startAbsent : ∀ i ≥ run.entry.scanOffset, ¬OccursAt markers.thinkStartTokenIds run.output i
  endAbsent : ∀ i ≥ run.entry.scanOffset, ¬OccursAt markers.thinkEndTokenIds run.output i
  boundary : run.entry.scanOffset = 0 ∨ ∃ i, OccursAt markers.thinkEndTokenIds run.output i ∧
    i + markers.thinkEndTokenIds.length = run.entry.scanOffset
  closed : ∀ i, ¬markers.OpenAt run.tokens i

structure Thinking (run : BudgetRun) (start place : Nat) : Prop where
  entered : Entered run.entry run
  pending : run.pending = 0
  started : run.entry.startThinking = start
  noEnd : run.entry.endThinking = -1
  notEnding : run.entry.inEnd = false
  stands : markers.StandsFor run.entry start place
  previous : run.entry.prevOutputLength = run.output.length
  offset : run.entry.scanOffset ≤ run.output.length
  endAbsent : ∀ i ≥ run.entry.scanOffset, ¬OccursAt markers.thinkEndTokenIds run.output i
  isOpen : markers.OpenAt run.tokens place
  first : ∀ i, markers.OpenAt run.tokens i → place ≤ i
  within : markers.thought run.tokens place < run.budget
  countdown : run.entry.checkCountDown ≤ run.budget - (markers.thought run.tokens place : Int)

structure Forcing (run : BudgetRun) : Prop where
  entered : Entered run.entry run
  ending : run.entry.inEnd = true
  count : run.entry.endCount = run.pending
  partly : run.pending < markers.thinkEndTokenIds.length
  index : run.entry.forceIndex = [0]
  started : 0 ≤ run.entry.startThinking
  previous : run.entry.prevOutputLength = run.output.length
  since : ∃ before, run.output = before ++ markers.thinkEndTokenIds.take run.pending ∧
    markers.Spent run.budget (run.prompt ++ before) ∧
    ∀ i, markers.OpenAt (run.prompt ++ before) i →
      markers.thought (run.prompt ++ before) i ≤ max run.budget (markers.thought run.prompt i)

inductive Phase (run : BudgetRun) : Prop
  | idle (phase : run.Idle markers)
  | thinking (start place : Nat) (phase : run.Thinking markers start place)
  | forcing (phase : run.Forcing markers)

variable {markers} {run : BudgetRun} {start place : Nat} {state : ThinkState}

theorem forced_of_not_ending (notEnding : state.inEnd = false) :
    markers.forced false state = [] := by
  simp [ThinkMarkers.forced, ThinkMarkers.beforeForcing, notEnding]

theorem beforeForcing_of_ending (ending : state.inEnd = true)
    (notForced : state.bonusTokenForced = false) :
    beforeForcing false state = some state := by
  have same : { state with bonusTokenForced := false } = state := by rw [← notForced]
  rw [beforeForcing, if_neg (by simp [ending])]
  simp only [Bool.false_eq_true, false_and, if_false, same, ite_self]

theorem forced_of_ending (ending : state.inEnd = true)
    (notForced : state.bonusTokenForced = false) (index : state.forceIndex = [0]) :
    markers.forced false state =
      (markers.thinkEndTokenIds[state.endCount]?).toList.map fun token => (0, token) := by
  rw [ThinkMarkers.forced, beforeForcing_of_ending ending notForced]
  dsimp only
  rw [notForced, index]
  cases markers.thinkEndTokenIds[state.endCount]? <;> rfl

theorem afterForcing_eq (notForced : state.bonusTokenForced = false) :
    markers.afterForcing false state = state := by
  cases ending : state.inEnd with
  | false => simp [afterForcing, beforeForcing, ending]
  | true =>
    rw [afterForcing, beforeForcing_of_ending ending notForced]
    simp

theorem Idle.not_spent (phase : run.Idle markers) : ¬markers.Spent run.budget run.tokens := by
  rw [spent_iff]
  rintro ⟨i, isOpen, -⟩
  exact phase.closed i isOpen

theorem Thinking.not_spent (phase : run.Thinking markers start place) :
    ¬markers.Spent run.budget run.tokens := by
  rw [spent_iff]
  rintro ⟨i, isOpen, spent⟩
  have later := phase.first i isOpen
  have within := phase.within
  rw [thought] at within spent
  omega

theorem due_of_not_spent (pending : run.pending = 0)
    (notSpent : ¬markers.Spent run.budget run.tokens) : run.due markers = none := by
  rw [due, ThinkMarkers.due, pending, if_neg (Nat.lt_irrefl 0), if_neg notSpent]

theorem exact_of_not_spent (pending : run.pending = 0) (notEnding : run.entry.inEnd = false)
    (notSpent : ¬markers.Spent run.budget run.tokens) : run.Exact markers := by
  have nothing := due_of_not_spent pending notSpent
  refine ⟨?_, ?_, ?_⟩
  · rw [forced_of_not_ending notEnding, nothing]
    rfl
  · rw [nothing]
    intro some
    cases some
  · intro i isOpen
    have within : ¬run.budget ≤ markers.thought run.tokens i :=
      fun spent => notSpent (spent_iff.mpr ⟨i, isOpen, spent⟩)
    omega

theorem Forcing.due_eq (phase : run.Forcing markers) :
    run.due markers = markers.thinkEndTokenIds[run.pending]? := by
  rw [due, ThinkMarkers.due]
  by_cases begun : 0 < run.pending
  · rw [if_pos begun]
  · have pending : run.pending = 0 := Nat.eq_zero_of_not_pos begun
    obtain ⟨_, output, spent, -⟩ := phase.since
    rw [pending, List.take_zero, List.append_nil] at output
    rw [if_neg begun, tokens, output, if_pos spent, pending, List.head?_eq_getElem?]

theorem Forcing.exact (separate : markers.Separate) (phase : run.Forcing markers) :
    run.Exact markers := by
  obtain ⟨before, output, spent, bounded⟩ := phase.since
  have tokens : run.tokens =
      (run.prompt ++ before) ++ markers.thinkEndTokenIds.take run.pending := by
    rw [BudgetRun.tokens, output, List.append_assoc]
  have length : (markers.thinkEndTokenIds.take run.pending).length = run.pending :=
    List.length_take_of_le phase.partly.le
  refine ⟨?_, fun _ => ?_, fun i isOpen => ?_⟩
  · rw [forced_of_ending phase.ending phase.entered.notForced phase.index, phase.count,
      phase.due_eq]
  · -- What has been forced so far does not close the section.
    obtain ⟨i, isOpen, -⟩ := spent_iff.mp spent
    refine ⟨i, ?_⟩
    rw [tokens]
    exact isOpen.append fun _ _ occurs =>
      OccursAt.of_append_take separate.borderless phase.partly occurs
  · rw [tokens] at isOpen ⊢
    by_cases before : i + markers.thinkStartTokenIds.length ≤ (run.prompt ++ before).length
    · have earlier := isOpen.of_append before
      rw [earlier.thought_append, length]
      exact Nat.add_le_add_right (bounded i earlier) _
    · rw [thought, List.length_append, length]
      omega

theorem Phase.exact (separate : markers.Separate) (phase : run.Phase markers) :
    run.Exact markers := by
  cases phase with
  | idle phase => exact exact_of_not_spent phase.pending phase.notEnding phase.not_spent
  | thinking start place phase =>
    exact exact_of_not_spent phase.pending phase.notEnding phase.not_spent
  | forcing phase => exact phase.exact separate

end BudgetRun

end VllmEngine

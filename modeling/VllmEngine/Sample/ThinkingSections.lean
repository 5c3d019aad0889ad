import VllmEngine.Sample.ThinkingBudget
import VllmEngine.Shared.Occurs
import VllmEngine.Shared.Run

set_option autoImplicit false

namespace VllmEngine

namespace ThinkMarkers

variable (markers : ThinkMarkers)

def OpenAt (tokens : List Int) (i : Nat) : Prop :=
  OccursAt markers.thinkStartTokenIds tokens i ∧
    ∀ j ≤ tokens.length, i < j → ¬OccursAt markers.thinkEndTokenIds tokens j

instance (tokens : List Int) (i : Nat) : Decidable (markers.OpenAt tokens i) :=
  inferInstanceAs (Decidable (_ ∧ _))

def thought (tokens : List Int) (i : Nat) : Nat :=
  tokens.length - (i + markers.thinkStartTokenIds.length)

def Spent (budget : Nat) (tokens : List Int) : Prop :=
  ∃ i ≤ tokens.length, markers.OpenAt tokens i ∧ budget ≤ markers.thought tokens i

instance (budget : Nat) (tokens : List Int) : Decidable (markers.Spent budget tokens) :=
  inferInstanceAs (Decidable (∃ i ≤ _, _))

-- `pending` tokens of an end marker have been forced already.
def due (budget : Nat) (tokens : List Int) (pending : Nat) : Option Int :=
  if 0 < pending then markers.thinkEndTokenIds[pending]?
  else if markers.Spent budget tokens then markers.thinkEndTokenIds.head?
  else none

variable {markers} {tokens rest : List Int} {i : Nat}

theorem OpenAt.not_occursAt (isOpen : markers.OpenAt tokens i) {j : Nat} (later : i < j) :
    ¬OccursAt markers.thinkEndTokenIds tokens j :=
  fun occurs => isOpen.2 j occurs.1 later occurs

theorem openAt_iff : markers.OpenAt tokens i ↔
    OccursAt markers.thinkStartTokenIds tokens i ∧
      ∀ j, i < j → ¬OccursAt markers.thinkEndTokenIds tokens j :=
  ⟨fun isOpen => ⟨isOpen.1, fun _ later => isOpen.not_occursAt later⟩,
    fun unclosed => ⟨unclosed.1, fun j _ => unclosed.2 j⟩⟩

theorem spent_iff {budget : Nat} : markers.Spent budget tokens ↔
    ∃ i, markers.OpenAt tokens i ∧ budget ≤ markers.thought tokens i :=
  ⟨fun ⟨i, _, spent⟩ => ⟨i, spent⟩, fun ⟨i, isOpen, spent⟩ => ⟨i, isOpen.1.1, isOpen, spent⟩⟩

theorem OpenAt.thought_add (isOpen : markers.OpenAt tokens i) :
    markers.thought tokens i + (i + markers.thinkStartTokenIds.length) = tokens.length := by
  have fits := isOpen.1.add_length_le
  rw [thought]
  omega

theorem OpenAt.thought_append (isOpen : markers.OpenAt tokens i) :
    markers.thought (tokens ++ rest) i = markers.thought tokens i + rest.length := by
  have fits := isOpen.1.add_length_le
  rw [thought, thought, List.length_append]
  omega

theorem OpenAt.of_append (isOpen : markers.OpenAt (tokens ++ rest) i)
    (before : i + markers.thinkStartTokenIds.length ≤ tokens.length) :
    markers.OpenAt tokens i :=
  openAt_iff.mpr
    ⟨isOpen.1.of_append before, fun _ later occurs => isOpen.not_occursAt later occurs.append⟩

theorem OpenAt.append (isOpen : markers.OpenAt tokens i)
    (uncompleted : ∀ j, i < j → OccursAt markers.thinkEndTokenIds (tokens ++ rest) j →
      OccursAt markers.thinkEndTokenIds tokens j) : markers.OpenAt (tokens ++ rest) i :=
  openAt_iff.mpr
    ⟨isOpen.1.append, fun j later occurs => isOpen.not_occursAt later (uncompleted j later occurs)⟩

end ThinkMarkers

-- `pending` counts the forced tokens of the end marker since the last token that was not forced.
structure BudgetRun where
  promptTokIds : Option (List Int)
  budget : Nat
  entry : ThinkState
  output : List Int
  pending : Nat

namespace BudgetRun

variable (markers : ThinkMarkers)

def create (promptTokIds : Option (List Int)) (budget : Nat) : BudgetRun where
  promptTokIds := promptTokIds
  budget := budget
  entry := markers.refresh false [] [] (markers.initStateEntry promptTokIds budget)
  output := []
  pending := 0

def prompt (run : BudgetRun) : List Int := run.promptTokIds.getD []

def tokens (run : BudgetRun) : List Int := run.prompt ++ run.output

def forced (run : BudgetRun) : Option Int := (markers.forced false run.entry).head?.map (·.2)

def step (run : BudgetRun) (sampled : Int) : Except Empty BudgetRun :=
  let output := run.output ++ [(run.forced markers).getD sampled]
  .ok
    { run with
      entry := markers.refresh false output [] (markers.afterForcing false run.entry)
      output := output
      pending :=
        if (run.forced markers).isSome then (run.pending + 1) % markers.thinkEndTokenIds.length
        else 0 }

def due (run : BudgetRun) : Option Int := markers.due run.budget run.tokens run.pending

structure Exact (run : BudgetRun) : Prop where
  forced : markers.forced false run.entry = (run.due markers).toList.map fun token => (0, token)
  withinSection : (run.due markers).isSome → ∃ i, markers.OpenAt run.tokens i
  bounded : ∀ i, markers.OpenAt run.tokens i →
    markers.thought run.tokens i ≤ max run.budget (markers.thought run.prompt i) + run.pending

end BudgetRun

end VllmEngine

import VllmEngine.Sample.ThinkingSections

set_option autoImplicit false

namespace VllmEngine

section Search

variable {targetList tokenIds : List Int} {i : Nat}

theorem take_drop_eq_iff (within : i ≤ targetList.length) :
    (targetList.drop i).take tokenIds.length = tokenIds ↔ OccursAt tokenIds targetList i := by
  rw [OccursAt, List.prefix_iff_eq_take, and_iff_right within]
  exact eq_comm

theorem findLastFrom_spec {last : Nat} (within : last ≤ targetList.length) :
    (findLastFrom targetList tokenIds last = -1 ∧ ∀ i ≤ last, ¬OccursAt tokenIds targetList i) ∨
    ∃ i : Nat, findLastFrom targetList tokenIds last = i ∧ OccursAt tokenIds targetList i ∧
      ∀ j ≤ last, OccursAt tokenIds targetList j → j ≤ i := by
  induction last with
  | zero =>
    have here : (targetList.drop 0).take tokenIds.length = tokenIds ↔
        OccursAt tokenIds targetList 0 := take_drop_eq_iff within
    rw [List.drop_zero] at here
    by_cases found : OccursAt tokenIds targetList 0
    · refine .inr ⟨0, ?_, found, fun j bound _ => bound⟩
      rw [findLastFrom, if_pos (here.mpr found)]
      rfl
    · refine .inl ⟨?_, fun i bound => ?_⟩
      · rw [findLastFrom, if_neg fun same => found (here.mp same)]
      · rwa [Nat.le_zero.mp bound]
  | succ last ih =>
    have here : (targetList.drop (last + 1)).take tokenIds.length = tokenIds ↔
        OccursAt tokenIds targetList (last + 1) := take_drop_eq_iff within
    by_cases found : OccursAt tokenIds targetList (last + 1)
    · refine .inr ⟨last + 1, ?_, found, fun j bound _ => bound⟩
      rw [findLastFrom, if_pos (here.mpr found)]
    · have before (j : Nat) (bound : j ≤ last + 1) (occurs : OccursAt tokenIds targetList j) :
          j ≤ last := by
        rcases Nat.le_succ_iff.mp bound with below | rfl
        · exact below
        · exact absurd occurs found
      rw [findLastFrom, if_neg fun same => found (here.mp same)]
      rcases ih (by omega) with ⟨none, absent⟩ | ⟨i, some, occurs, last⟩
      · exact .inl ⟨none, fun i bound occurs => absent i (before i bound occurs) occurs⟩
      · exact .inr ⟨i, some, occurs, fun j bound occurs => last j (before j bound occurs) occurs⟩

theorem findLastSequenceIndex_spec (targetList : List Int) (nonempty : tokenIds ≠ []) :
    (findLastSequenceIndex targetList tokenIds = -1 ∧ ∀ i, ¬OccursAt tokenIds targetList i) ∨
    ∃ i : Nat, findLastSequenceIndex targetList tokenIds = i ∧ OccursAt tokenIds targetList i ∧
      ∀ j, OccursAt tokenIds targetList j → j ≤ i := by
  rw [findLastSequenceIndex, if_neg (by simpa using nonempty)]
  by_cases short : targetList.length < tokenIds.length
  · rw [if_pos short]
    refine .inl ⟨rfl, fun i occurs => ?_⟩
    have fits := occurs.add_length_le
    omega
  · rw [if_neg short]
    have within (j : Nat) (occurs : OccursAt tokenIds targetList j) :
        j ≤ targetList.length - tokenIds.length := by
      have fits := occurs.add_length_le
      omega
    have inside : targetList.length - tokenIds.length ≤ targetList.length := Nat.sub_le _ _
    rcases findLastFrom_spec inside with ⟨none, absent⟩ | ⟨i, some, occurs, last⟩
    · exact .inl ⟨none, fun i occurs => absent i (within i occurs) occurs⟩
    · exact .inr ⟨i, some, occurs, fun j occurs => last j (within j occurs) occurs⟩

theorem findLastSequenceIndex_of_absent (nonempty : tokenIds ≠ [])
    (absent : ∀ i, ¬OccursAt tokenIds targetList i) :
    findLastSequenceIndex targetList tokenIds = -1 := by
  rcases findLastSequenceIndex_spec targetList nonempty with ⟨none, -⟩ | ⟨i, -, occurs, -⟩
  · exact none
  · exact absurd occurs (absent i)

theorem findLastSequenceIndex_of_last (nonempty : tokenIds ≠ [])
    (occurs : OccursAt tokenIds targetList i) (last : ∀ j, OccursAt tokenIds targetList j → j ≤ i) :
    findLastSequenceIndex targetList tokenIds = i := by
  rcases findLastSequenceIndex_spec targetList nonempty with ⟨-, absent⟩ | ⟨found, some, there, greatest⟩
  · exact absurd occurs (absent i)
  · rw [some, Nat.le_antisymm (last found there) (greatest i occurs)]

end Search

namespace ThinkMarkers

variable {markers : ThinkMarkers} {state : ThinkState} {marker : List Int}

theorem scan_of_absent (nonempty : marker ≠ [])
    (absent : ∀ i ≥ state.scanOffset, ¬OccursAt marker state.outputTokIds i)
    (within : state.scanOffset ≤ state.outputTokIds.length) : scan state marker = -1 := by
  have none : findLastSequenceIndex (state.outputTokIds.drop state.scanOffset) marker = -1 := by
    apply findLastSequenceIndex_of_absent nonempty
    intro i occurs
    rw [OccursAt.drop _ within] at occurs
    exact absent _ (Nat.le_add_right _ _) occurs
  rw [scan, none]
  rfl

theorem scan_of_completed (nonempty : marker ≠ []) {i : Nat}
    (occurs : OccursAt marker state.outputTokIds i)
    (completed : i + marker.length = state.outputTokIds.length)
    (after : state.scanOffset ≤ i) : scan state marker = i := by
  have within : state.scanOffset ≤ state.outputTokIds.length := after.trans occurs.1
  have found : findLastSequenceIndex (state.outputTokIds.drop state.scanOffset) marker =
      (i - state.scanOffset : Nat) := by
    apply findLastSequenceIndex_of_last nonempty
    · rwa [OccursAt.drop _ within, Nat.add_sub_cancel' after]
    · intro j later
      rw [OccursAt.drop _ within] at later
      have fits := later.add_length_le
      omega
  rw [scan, found, if_pos (Int.natCast_nonneg _)]
  omega

section Locate

variable {start stop : Int} (endScan : scan state markers.thinkEndTokenIds = stop)
  (noEnd : state.endThinking = -1)
include endScan noEnd

theorem locate_absent (noStart : state.startThinking = -1)
    (startScan : scan state markers.thinkStartTokenIds = start) :
    markers.locate state = { state with startThinking := start, endThinking := stop } := by
  rw [locate, if_pos noStart, if_pos noEnd, startScan, endScan]

theorem locate_open (started : state.startThinking = start) (some : start ≠ -1) :
    markers.locate state = { state with startThinking := start, endThinking := stop } := by
  rw [locate, started, if_neg some, if_pos noEnd, endScan]

end Locate

theorem sampledTokensFromPreviousStep_located (start stop : Int) :
    markers.sampledTokensFromPreviousStep
        { state with startThinking := start, endThinking := stop } =
      markers.sampledTokensFromPreviousStep state := rfl

theorem locate_of_started (started : 0 ≤ state.startThinking) :
    ∃ stop, markers.locate state =
      { state with startThinking := state.startThinking, endThinking := stop } := by
  rw [locate, if_neg (by omega)]
  exact ⟨_, rfl⟩

theorem resetAfterThinkingBlock_of_completed {stop : Nat} (closed : state.endThinking = stop)
    (completed : stop + markers.thinkEndTokenIds.length = state.outputTokIds.length) :
    markers.resetAfterThinkingBlock state =
      { state with
        inThink := false
        thinkCount := 0
        continueThinking := false
        startThinking := -1
        endThinking := -1
        scanOffset := state.outputTokIds.length
        prevOutputLength := state.outputTokIds.length
        checkCountDown := state.thinkingTokenBudget } := by
  have boundary : ((stop : Int) + (markers.thinkEndTokenIds.length : Int)).toNat =
      state.outputTokIds.length := by omega
  simp only [resetAfterThinkingBlock, closed, Int.natCast_nonneg, if_true, boundary]
  rw [Nat.max_eq_left (Nat.sub_le _ _)]

section Budget

variable (noDrafts : state.specTokenIds = [])
include noDrafts

theorem checkBudget_spent (thinking : state.inThink = true)
    (spent : state.thinkingTokenBudget ≤ state.thinkCount) :
    checkBudget state =
      { state with
        inThink := false
        inEnd := true
        endCount := 0
        checkCountDown := state.thinkingTokenBudget
        forceIndex := [0] } := by
  have passed : state.thinkingTokenBudget < state.thinkCount + ((0 : Nat) : Int) + 1 := by omega
  have position : forcePosition (state.thinkingTokenBudget - state.thinkCount) 0 = 0 := by
    rw [forcePosition, if_neg (by omega), if_pos (by omega)]
  simp only [checkBudget, noDrafts, thinking, List.length_nil, passed, true_and, if_true, position]

theorem checkBudget_within (thinking : state.inThink = true)
    (within : state.thinkCount < state.thinkingTokenBudget) :
    checkBudget state =
      { state with checkCountDown := state.thinkingTokenBudget - state.thinkCount } := by
  have under : ¬state.thinkingTokenBudget < state.thinkCount + ((0 : Nat) : Int) + 1 := by omega
  have left : max 0 (state.thinkingTokenBudget - state.thinkCount) =
      state.thinkingTokenBudget - state.thinkCount := by omega
  simp only [checkBudget, noDrafts, thinking, List.length_nil, under, and_false, if_false, if_true,
    left]

end Budget

theorem checkBudget_outside (notThinking : state.inThink = false) :
    checkBudget state = { state with checkCountDown := state.thinkingTokenBudget } := by
  simp only [checkBudget, notThinking, Bool.false_eq_true, false_and, if_false]

theorem processNewTokens_forcing (ending : state.inEnd = true) (taken : state.endCount = 0 →
      markers.thinkEndTokenIds.head?.any
        (· ∈ state.outputTokIds.drop state.prevOutputLength) = true) :
    markers.processNewTokens state =
      markers.forceEnd { state with prevOutputLength := state.outputTokIds.length } := by
  have stopping : ¬(state.inEnd = true ∧ state.endCount = 0 ∧ markers.thinkEndTokenIds.head?.all
        (· ∉ state.outputTokIds.drop state.prevOutputLength) = true) := by
    rintro ⟨-, first, _⟩
    have present := taken first
    cases head : markers.thinkEndTokenIds.head? with
    | none => simp [head] at present
    | some token => simp_all
  simp only [processNewTokens, if_neg stopping]
  rw [if_pos ending]

theorem processNewTokens_thinking (thinking : state.inEnd = false) (unclosed : state.endThinking = -1) :
    markers.processNewTokens state = checkBudget (markers.recount state.startThinking (-1)
        { state with prevOutputLength := state.outputTokIds.length }) := by
  simp [processNewTokens, thinking, unclosed]

theorem processNewTokens_closed (thinking : state.inEnd = false) (closed : 0 ≤ state.endThinking)
    (continued : state.continueThinking = true) (started : 0 ≤ state.startThinking)
    (inPrompt : state.startThinking < (state.promptTokIds.getD []).length) :
    markers.processNewTokens state = checkBudget (markers.resetAfterThinkingBlock
        { state with
          prevOutputLength := state.outputTokIds.length
          inThink := false
          thinkCount := 0
          continueThinking := false }) := by
  have later : state.continueThinking = true ∧ -1 < state.endThinking := by
    refine ⟨continued, ?_⟩
    omega
  have order : ¬state.endThinking + ((state.promptTokIds.getD []).length : Int) <
      state.startThinking := by omega
  have both : 0 ≤ state.startThinking ∧
      0 ≤ state.endThinking + ((state.promptTokIds.getD []).length : Int) := by omega
  simp only [processNewTokens, thinking, Bool.false_eq_true, false_and, if_false, if_pos later,
    recount, if_pos both, if_neg order]

def StandsFor (markers : ThinkMarkers) (state : ThinkState) (start place : Nat) : Prop :=
  state.continueThinking = false ∧ place = (state.promptTokIds.getD []).length + start ∧
      state.scanOffset ≤ start ∨
    state.continueThinking = true ∧ state.inThink = true ∧ state.scanOffset = 0 ∧
      markers.thinkStartTokenIds.length = 1 ∧ place = start ∧
      start < (state.promptTokIds.getD []).length

theorem recount_of_standsFor {start place : Nat} (stands : StandsFor markers state start place) :
    markers.recount start (-1) state =
      { state with
        inThink := true
        thinkCount := (state.promptTokIds.getD []).length + state.outputTokIds.length -
          (place + markers.thinkStartTokenIds.length) } := by
  rcases stands with ⟨notContinued, rfl, -⟩ | ⟨continued, thinking, -, -, rfl, -⟩
  · have count : (state.outputTokIds.length : Int) - (start + markers.thinkStartTokenIds.length) =
        (state.promptTokIds.getD []).length + state.outputTokIds.length -
          (((state.promptTokIds.getD []).length + start : Nat) +
            markers.thinkStartTokenIds.length) := by omega
    simp only [recount, notContinued, count]
    rw [if_neg (by omega), if_pos ⟨by omega, rfl⟩]
  · have count : (state.outputTokIds.length : Int) + ((state.promptTokIds.getD []).length -
        (place + markers.thinkStartTokenIds.length)) =
        (state.promptTokIds.getD []).length + state.outputTokIds.length -
          (place + markers.thinkStartTokenIds.length) := by omega
    simp only [recount, continued, thinking, count]
    rw [if_neg (by omega), if_neg (by simp), if_neg (by omega), if_pos trivial]

section Update

variable (budgeted : state.thinkingTokenBudget ≠ -1) (endNonempty : markers.thinkEndTokenIds ≠ [])
  {start stop : Int}
  (located : markers.locate state = { state with startThinking := start, endThinking := stop })
include budgeted endNonempty located

theorem updateThinkState_absent (absent : start = -1) :
    markers.updateThinkState state =
      { state with startThinking := start, endThinking := stop } := by
  simp only [updateThinkState, located, if_neg budgeted, List.isEmpty_iff, endNonempty, absent]
  simp

variable (started : 0 ≤ start)
include started

theorem updateThinkState_initial (ending : state.inEnd = true) (empty : state.outputTokIds = []) :
    markers.updateThinkState state =
      { state with startThinking := start, endThinking := stop, forceIndex := [0] } := by
  have notAbsent : ¬start = -1 := by omega
  simp only [updateThinkState, located, if_neg budgeted, List.isEmpty_iff, endNonempty, ending,
    empty, notAbsent, Bool.not_true, Bool.false_eq_true, false_and, if_false, if_true]

theorem updateThinkState_process (longer : state.prevOutputLength < state.outputTokIds.length)
    (unclosed : state.inEnd = true ∨ state.continueThinking = true ∨ stop = -1)
    (looked : state.inEnd = true ∨
      state.checkCountDown - markers.sampledTokensFromPreviousStep state ≤ 0 ∨
      state.continueThinking = true ∧ stop ≠ -1) :
    markers.updateThinkState state =
      markers.processNewTokens { state with startThinking := start, endThinking := stop } := by
  have notAbsent : ¬start = -1 := by omega
  have notShorter : ¬state.outputTokIds.length ≤ state.prevOutputLength := by omega
  have someOutput : ¬state.outputTokIds = [] := by
    rw [← List.length_eq_zero_iff]
    omega
  simp only [updateThinkState, located, if_neg budgeted, List.isEmpty_iff, endNonempty, if_false,
    sampledTokensFromPreviousStep_located]
  rw [if_neg, if_neg notAbsent, if_neg, if_neg someOutput, if_neg notShorter]
  · rintro ⟨thinking, _, -, noEnd⟩
    rcases looked with ending | _ | ⟨continued, closed⟩
    · simp [ending] at thinking
    · omega
    · simp [continued, closed] at noEnd
  · rintro ⟨thinking, -, _, _, notContinued⟩
    rcases unclosed with ending | continued | _
    · simp [ending] at thinking
    · simp [continued] at notContinued
    · omega

theorem updateThinkState_counted (noDrafts : state.specTokenIds = [])
    (thinking : state.inEnd = false) (unclosed : stop = -1)
    (left : 0 < state.checkCountDown - markers.sampledTokensFromPreviousStep state) :
    markers.updateThinkState state =
      { state with
        startThinking := start
        endThinking := stop
        checkCountDown := state.checkCountDown - markers.sampledTokensFromPreviousStep state
        prevOutputLength := state.outputTokIds.length } := by
  have predicted : 0 ≤ state.checkCountDown - markers.sampledTokensFromPreviousStep state -
      (state.specTokenIds.length : Int) - 1 := by
    rw [noDrafts, List.length_nil]
    omega
  simp only [updateThinkState, located, if_neg budgeted, List.isEmpty_iff, endNonempty, if_false,
    sampledTokensFromPreviousStep_located]
  rw [if_neg (by omega), if_neg (by omega), if_pos]
  exact ⟨by rw [thinking]; rfl, predicted, by omega, by simp [unclosed]⟩

end Update

section Open

variable (budgeted : state.thinkingTokenBudget ≠ -1) (endNonempty : markers.thinkEndTokenIds ≠ [])
  (notEnding : state.inEnd = false) {start place : Nat}
  (stands : StandsFor markers state start place)
include budgeted endNonempty notEnding stands

theorem updateThinkState_recounted
    (located : markers.locate state = { state with startThinking := start, endThinking := -1 })
    (longer : state.prevOutputLength < state.outputTokIds.length)
    (used : state.checkCountDown - markers.sampledTokensFromPreviousStep state ≤ 0) :
    markers.updateThinkState state = checkBudget
        { state with
          startThinking := start
          endThinking := -1
          prevOutputLength := state.outputTokIds.length
          inThink := true
          thinkCount := (state.promptTokIds.getD []).length + state.outputTokIds.length -
            (place + markers.thinkStartTokenIds.length) } := by
  rw [updateThinkState_process budgeted endNonempty located (Int.natCast_nonneg start) longer
    (.inr (.inr rfl)) (.inr (.inl used)), processNewTokens_thinking, recount_of_standsFor]
  · exact stands
  · exact notEnding
  · rfl

theorem updateThinkState_completed {stop : Nat}
    (located : markers.locate state = { state with startThinking := start, endThinking := stop })
    (longer : state.prevOutputLength < state.outputTokIds.length)
    (after : place < (state.promptTokIds.getD []).length + stop)
    (completed : stop + markers.thinkEndTokenIds.length = state.outputTokIds.length) :
    markers.updateThinkState state =
      { state with
        inThink := false
        thinkCount := 0
        continueThinking := false
        startThinking := -1
        endThinking := -1
        scanOffset := state.outputTokIds.length
        prevOutputLength := state.outputTokIds.length
        checkCountDown := state.thinkingTokenBudget } := by
  have started : (0 : Int) ≤ start := Int.natCast_nonneg start
  have later : (0 : Int) ≤ stop := Int.natCast_nonneg stop
  rcases stands with ⟨notContinued, rfl, -⟩ | ⟨continued, -, -, -, rfl, inPrompt⟩
  · have order : (start : Int) < stop := by omega
    simp only [updateThinkState, located, if_neg budgeted, List.isEmpty_iff, endNonempty, notEnding,
      notContinued, order]
    exact resetAfterThinkingBlock_of_completed (by rfl) (by exact completed)
  · have found : (stop : Int) ≠ -1 := by omega
    have inFront : (place : Int) < (state.promptTokIds.getD []).length := by exact_mod_cast inPrompt
    rw [updateThinkState_process budgeted endNonempty located started longer
      (.inr (.inl continued)) (.inr (.inr ⟨continued, found⟩)),
      processNewTokens_closed, resetAfterThinkingBlock_of_completed, checkBudget_outside]
    · rfl
    · rfl
    · exact completed
    · exact notEnding
    · exact later
    · exact continued
    · exact started
    · exact inFront

end Open

end ThinkMarkers

end VllmEngine

import VllmEngine.Sample.BudgetPhases

set_option autoImplicit false

namespace VllmEngine

open List ThinkMarkers OccursAt

namespace BudgetRun

variable {markers : ThinkMarkers} {run next : BudgetRun} {start place : Nat} {sampled : Int}

theorem tokens_length : run.tokens.length = run.prompt.length + run.output.length := by
  rw [tokens, length_append]

theorem occursAt_tokens {marker : List Int} {i : Nat} :
    OccursAt marker run.tokens (run.prompt.length + i) ↔ OccursAt marker run.output i := by
  rw [tokens, append_left]

section Step

variable (separate : markers.Separate) (startNonempty : markers.thinkStartTokenIds ≠ [])
  (endNonempty : markers.thinkEndTokenIds ≠ []) {entry : ThinkState}

include separate startNonempty in
theorem not_openAt_of_completed {tokens : List Int} {j : Nat}
    (occurs : OccursAt markers.thinkEndTokenIds tokens j)
    (completed : j + markers.thinkEndTokenIds.length = tokens.length) (i : Nat) :
    ¬markers.OpenAt tokens i := by
  intro isOpen
  rcases not_within separate.startApart occurs isOpen.1 with before | after
  · exact isOpen.not_occursAt before occurs
  · have inside := isOpen.1.lt_length startNonempty
    omega

include separate startNonempty endNonempty in
theorem idle_of_completed (entered : Entered run.entry run) (pending : run.pending = 0)
    (noStart : run.entry.startThinking = -1) (noEnd : run.entry.endThinking = -1)
    (notEnding : run.entry.inEnd = false) (notContinued : run.entry.continueThinking = false)
    (countdown : run.entry.checkCountDown = run.budget)
    (previous : run.entry.prevOutputLength = run.output.length)
    (offset : run.entry.scanOffset = run.output.length) {stop : Nat}
    (occurs : OccursAt markers.thinkEndTokenIds run.output stop)
    (completed : stop + markers.thinkEndTokenIds.length = run.output.length) :
    run.Idle markers where
  entered := entered
  pending := pending
  noStart := noStart
  noEnd := noEnd
  notEnding := notEnding
  notContinued := notContinued
  countdown := countdown
  previous := previous.le
  offset := offset.le
  startAbsent i bound there := by
    have inside := there.lt_length startNonempty
    omega
  endAbsent i bound there := by
    have inside := there.lt_length endNonempty
    omega
  boundary := .inr ⟨stop, occurs, completed.trans offset.symm⟩
  closed := by
    apply not_openAt_of_completed separate startNonempty (occursAt_tokens.mpr occurs)
    rw [tokens_length]
    omega

def renewed (run : BudgetRun) (output : List Int) : ThinkState :=
  { run.entry with outputTokIds := output, specTokenIds := [], inSpecMode := false, forceIndex := [] }

theorem step_eq (notForced : run.entry.bonusTokenForced = false) {token : Int}
    (taken : (run.forced markers).getD sampled = token) (ran : run.step markers sampled = .ok next) :
    next =
      { run with
        entry := markers.updateThinkState (run.renewed (run.output ++ [token]))
        output := run.output ++ [token]
        pending :=
          if (run.forced markers).isSome then (run.pending + 1) % markers.thinkEndTokenIds.length
          else 0 } := by
  have made := Except.ok.inj ran
  rw [← made]
  simp only [taken, afterForcing_eq notForced]
  rfl

structure Sampling (markers : ThinkMarkers) (run next : BudgetRun) (sampled : Int) : Prop where
  prompt : next.promptTokIds = run.promptTokIds
  budget : next.budget = run.budget
  output : next.output = run.output ++ [sampled]
  pending : next.pending = 0
  entry : next.entry = markers.updateThinkState (run.renewed next.output)
  entered : Entered (run.renewed next.output) next

theorem sampling_of_step (entered : Entered run.entry run) (exact : run.Exact markers)
    (nothing : run.due markers = none)
    (ran : run.step markers sampled = .ok next) : Sampling markers run next sampled := by
  have notForced : run.forced markers = none := by
    rw [forced, exact.forced, nothing]
    rfl
  have taken : (run.forced markers).getD sampled = sampled := by rw [notForced]; rfl
  have made := step_eq entered.notForced taken ran
  rw [made, notForced]
  exact ⟨rfl, rfl, rfl, rfl, rfl, ⟨rfl, rfl, entered.budget, entered.prompt, entered.notForced⟩⟩

section

variable (sampling : Sampling markers run next sampled)

include sampling

theorem Sampling.tokens :
    next.tokens = run.tokens ++ [sampled] := by
  rw [BudgetRun.tokens, BudgetRun.tokens, BudgetRun.prompt, BudgetRun.prompt, sampling.prompt,
    sampling.output, append_assoc]

theorem Sampling.samePrompt :
    next.prompt = run.prompt := by
  rw [BudgetRun.prompt, BudgetRun.prompt, sampling.prompt]

theorem Sampling.length :
    next.output.length = run.output.length + 1 := by
  rw [sampling.output, length_append, length_singleton]

end

theorem Entered.promptLength (entered : Entered entry run) :
    (entry.promptTokIds.getD []).length = run.prompt.length := by
  rw [entered.prompt, BudgetRun.prompt]

theorem Entered.budgeted (entered : Entered entry run) :
    entry.thinkingTokenBudget ≠ -1 := by
  rw [entered.budget]
  omega

section

variable (updated : next.entry = markers.updateThinkState entry) (entered : Entered entry next)
  (pending : next.pending = 0)

include endNonempty updated entered pending

theorem idle_of_absent
    (located : markers.locate entry = { entry with startThinking := -1, endThinking := -1 })
    (notEnding : entry.inEnd = false) (notContinued : entry.continueThinking = false)
    (countdown : entry.checkCountDown = next.budget)
    (previous : entry.prevOutputLength ≤ next.output.length)
    (offset : entry.scanOffset ≤ next.output.length)
    (startAbsent : ∀ i ≥ entry.scanOffset, ¬OccursAt markers.thinkStartTokenIds next.output i)
    (endAbsent : ∀ i ≥ entry.scanOffset, ¬OccursAt markers.thinkEndTokenIds next.output i)
    (boundary : entry.scanOffset = 0 ∨ ∃ i, OccursAt markers.thinkEndTokenIds next.output i ∧
      i + markers.thinkEndTokenIds.length = entry.scanOffset)
    (closed : ∀ i, ¬markers.OpenAt next.tokens i) : next.Idle markers := by
  rw [updateThinkState_absent entered.budgeted endNonempty located rfl] at updated
  cases next
  dsimp only at updated
  subst updated
  exact ⟨⟨entered.1, entered.2, entered.3, entered.4, entered.5⟩, pending, rfl, rfl, notEnding,
    notContinued, countdown, previous, offset, startAbsent, endAbsent, boundary, closed⟩

variable
  (located : markers.locate entry = { entry with startThinking := start, endThinking := -1 })
  (notEnding : entry.inEnd = false) (stands : markers.StandsFor entry start place)
  (offset : entry.scanOffset ≤ next.output.length)
  (endAbsent : ∀ i ≥ entry.scanOffset, ¬OccursAt markers.thinkEndTokenIds next.output i)
  (isOpen : markers.OpenAt next.tokens place)
  (first : ∀ i, markers.OpenAt next.tokens i → place ≤ i)
  (countdown : entry.checkCountDown - markers.sampledTokensFromPreviousStep entry ≤
    next.budget - (markers.thought next.tokens place : Int))

include located notEnding stands offset endAbsent isOpen first countdown

theorem phase_of_left
    (left : 0 < entry.checkCountDown - markers.sampledTokensFromPreviousStep entry) :
    next.Phase markers := by
  rw [updateThinkState_counted entered.budgeted endNonempty located (Int.natCast_nonneg start)
    entered.noDrafts notEnding rfl left, entered.output] at updated
  cases next
  dsimp only at updated
  subst updated
  exact .thinking start place
    { entered := ⟨rfl, entered.2, entered.3, entered.4, entered.5⟩
      pending := pending
      started := rfl
      noEnd := rfl
      notEnding := notEnding
      stands := stands
      previous := rfl
      offset := offset
      endAbsent := endAbsent
      isOpen := isOpen
      first := first
      within := by omega
      countdown := countdown }

theorem phase_of_open (longer : entry.prevOutputLength < next.output.length)
    (within : markers.thought next.tokens place ≤ next.budget) : next.Phase markers := by
  by_cases left : 0 < entry.checkCountDown - markers.sampledTokensFromPreviousStep entry
  · exact phase_of_left endNonempty updated entered pending located notEnding stands offset
      endAbsent isOpen first countdown left
  · have longer' : entry.prevOutputLength < entry.outputTokIds.length := by
      rwa [entered.output]
    generalize counted : markers.thought next.tokens place = thought at countdown within
    have count : ((entry.promptTokIds.getD []).length : Int) + next.output.length -
        (place + markers.thinkStartTokenIds.length) = thought := by
      have total := isOpen.thought_add
      rw [tokens_length] at total
      rw [entered.promptLength]
      omega
    rw [updateThinkState_recounted entered.budgeted endNonempty notEnding stands located longer'
      (by omega), entered.output, count] at updated
    by_cases spent : thought = next.budget
    · rw [checkBudget_spent] at updated
      · cases next
        dsimp only at updated pending spent
        subst updated pending
        refine .forcing
          { entered := ⟨rfl, entered.2, entered.3, entered.4, entered.5⟩
            ending := rfl
            count := rfl
            partly := length_pos_of_ne_nil endNonempty
            index := rfl
            started := Int.natCast_nonneg start
            previous := rfl
            since := ⟨_, (append_nil _).symm, spent_iff.mpr ⟨_, isOpen, (counted.trans spent).ge⟩, ?_⟩ }
        intro i here
        have later := first i here
        have total := here.thought_add
        have whole := isOpen.thought_add
        rw [tokens_length] at whole
        rw [length_append] at total
        omega
      · exact entered.noDrafts
      · rfl
      · dsimp only
        rw [spent, entered.budget]
    · rw [checkBudget_within] at updated
      · cases next
        dsimp only at updated
        subst updated
        exact .thinking start place
          { entered := ⟨rfl, entered.2, entered.3, entered.4, entered.5⟩
            pending := pending
            started := rfl
            noEnd := rfl
            notEnding := notEnding
            stands := stands.imp id fun continued => ⟨continued.1, rfl, continued.2.2⟩
            previous := rfl
            offset := offset
            endAbsent := endAbsent
            isOpen := isOpen
            first := first
            within := counted.trans_lt (Nat.lt_of_le_of_ne within spent)
            countdown := by rw [counted, entered.budget] }
      · exact entered.noDrafts
      · rfl
      · dsimp only
        rw [entered.budget]
        omega

end

theorem Sampling.completed {marker : List Int} (sampling : Sampling markers run next sampled)
    {i : Nat} (occurs : OccursAt marker next.output i) (absent : ¬OccursAt marker run.output i) :
    i + marker.length = next.output.length := by
  rw [sampling.length]
  rw [sampling.output] at occurs
  exact occurs.of_concat.resolve_left absent

section Idle

variable (phase : run.Idle markers) (sampling : Sampling markers run next sampled)

include phase sampling

theorem Idle.offset_next : run.entry.scanOffset ≤ next.output.length := by
  have length := sampling.length
  exact phase.offset.trans (by omega)

-- A section that is open now begins with the marker that the sampled token completes.
theorem Idle.openAt_next {i : Nat} (isOpen : markers.OpenAt next.tokens i) :
    i + markers.thinkStartTokenIds.length = run.tokens.length + 1 := by
  rw [sampling.tokens] at isOpen
  refine isOpen.1.of_concat.resolve_left fun before => ?_
  exact phase.closed i (isOpen.of_append before.add_length_le)

-- A start marker that is completed without being seen began before an end marker.
include separate startNonempty in
theorem Idle.closed_next (seen : run.SeenBySampling markers sampled)
    (nothing : run.due markers = none) (startAbsent : ∀ i ≥ run.entry.scanOffset,
      ¬OccursAt markers.thinkStartTokenIds next.output i) (i : Nat) :
    ¬markers.OpenAt next.tokens i := by
  intro isOpen
  have ends := phase.openAt_next sampling isOpen
  have there := isOpen.1
  rw [sampling.tokens] at there
  have some := length_pos_of_ne_nil startNonempty
  obtain ⟨start, rfl⟩ := Nat.exists_eq_add_of_le ((seen nothing).1 i (by omega) there ends)
  rw [← sampling.samePrompt] at isOpen
  have late : start < run.entry.scanOffset := by
    by_contra bound
    exact startAbsent start (Nat.le_of_not_lt bound) (occursAt_tokens.mp isOpen.1)
  rcases phase.boundary with zero | ⟨j, occurs, boundary⟩
  · omega
  · have closing : OccursAt markers.thinkEndTokenIds next.tokens (next.prompt.length + j) := by
      rw [occursAt_tokens, sampling.output]
      exact occurs.append
    rcases not_within separate.startApart closing isOpen.1 with before | after
    · exact isOpen.not_occursAt before closing
    · omega

include endNonempty

-- No section is open, so the sampled token completes no end marker.
theorem Idle.endAbsent_next (seen : run.SeenBySampling markers sampled)
    (nothing : run.due markers = none) :
    ∀ i ≥ run.entry.scanOffset, ¬OccursAt markers.thinkEndTokenIds next.output i := by
  intro i bound occurs
  have completed := sampling.completed occurs (phase.endAbsent i bound)
  have there := occursAt_tokens.mpr occurs
  have length := sampling.length
  rw [sampling.tokens, sampling.samePrompt] at there
  have some := length_pos_of_ne_nil endNonempty
  obtain ⟨-, j, -, isOpen⟩ :=
    (seen nothing).2 _ (by rw [tokens_length]; omega) there (by rw [tokens_length]; omega)
  exact phase.closed j isOpen

variable (endAbsent : ∀ i ≥ run.entry.scanOffset, ¬OccursAt markers.thinkEndTokenIds next.output i)

include endAbsent

theorem Idle.endScan_next : scan (run.renewed next.output) markers.thinkEndTokenIds = -1 :=
  scan_of_absent endNonempty endAbsent (phase.offset_next sampling)

include startNonempty in
theorem Idle.begins (bound : run.entry.scanOffset ≤ start)
    (occurs : OccursAt markers.thinkStartTokenIds next.output start) : next.Phase markers := by
  have length := sampling.length
  have offset := phase.offset_next sampling
  have completed := sampling.completed occurs (phase.startAbsent start bound)
  have located := locate_absent (phase.endScan_next endNonempty sampling endAbsent) phase.noEnd
    phase.noStart (scan_of_completed startNonempty occurs completed bound)
  have isOpen : markers.OpenAt next.tokens (next.prompt.length + start) := by
    refine openAt_iff.mpr ⟨occursAt_tokens.mpr occurs, fun i later there => ?_⟩
    obtain ⟨j, rfl⟩ := Nat.exists_eq_add_of_lt later
    rw [Nat.add_assoc, Nat.add_assoc, occursAt_tokens] at there
    exact endAbsent _ (by omega) there
  have empty : markers.thought next.tokens (next.prompt.length + start) = 0 := by
    rw [thought, tokens_length]
    omega
  have place : next.prompt.length + start =
      ((run.renewed next.output).promptTokIds.getD []).length + start := by
    rw [sampling.entered.promptLength]
  apply phase_of_open endNonempty sampling.entry sampling.entered sampling.pending located
    phase.notEnding (.inl ⟨phase.notContinued, place, bound⟩) offset endAbsent isOpen
  · intro i other
    have ends := phase.openAt_next sampling other
    rw [tokens_length, ← sampling.samePrompt] at ends
    omega
  · rw [empty]
    have countdown := phase.countdown
    have sampledCount :
        0 ≤ markers.sampledTokensFromPreviousStep (run.renewed next.output) := by
      have previous := phase.previous
      simp only [sampledTokensFromPreviousStep, renewed, phase.notContinued,
        Bool.false_eq_true, if_false]
      split <;> omega
    rw [sampling.budget]
    simp only [renewed] at sampledCount ⊢
    omega
  · exact phase.previous.trans_lt (by omega)
  · rw [empty]
    exact Nat.zero_le _

end Idle

include endNonempty startNonempty separate in
theorem Idle.step (phase : run.Idle markers) (seen : run.SeenBySampling markers sampled)
    (nothing : run.due markers = none) (sampling : Sampling markers run next sampled) :
    next.Phase markers := by
  have endAbsent := phase.endAbsent_next endNonempty sampling seen nothing
  by_cases began : ∃ start ≥ run.entry.scanOffset,
      OccursAt markers.thinkStartTokenIds next.output start
  · obtain ⟨start, bound, occurs⟩ := began
    exact phase.begins startNonempty endNonempty sampling endAbsent bound occurs
  · -- Nothing changes but the output.
    have offset := phase.offset_next sampling
    have startAbsent : ∀ i ≥ run.entry.scanOffset,
        ¬OccursAt markers.thinkStartTokenIds next.output i :=
      fun i bound occurs => began ⟨i, bound, occurs⟩
    have located := locate_absent (phase.endScan_next endNonempty sampling endAbsent) phase.noEnd
      phase.noStart (scan_of_absent startNonempty startAbsent offset)
    have length := sampling.length
    apply Phase.idle
    apply idle_of_absent endNonempty sampling.entry sampling.entered sampling.pending located
      phase.notEnding phase.notContinued _ (phase.previous.trans (by omega)) offset startAbsent
      endAbsent
    · rw [sampling.output]
      exact phase.boundary.imp id fun ends => ends.imp fun _ => And.imp_left append
    · exact phase.closed_next separate startNonempty sampling seen nothing startAbsent
    · rw [sampling.budget]
      exact phase.countdown

section Thinking

variable (phase : run.Thinking markers start place) (sampling : Sampling markers run next sampled)

include phase sampling

theorem Thinking.longer : run.entry.prevOutputLength < next.output.length := by
  rw [phase.previous, sampling.length]
  exact Nat.lt_succ_self _

include startNonempty in
theorem Thinking.sampledTokens :
    markers.sampledTokensFromPreviousStep (run.renewed next.output) = 1 := by
  have length := sampling.length
  have some := length_pos_of_ne_nil startNonempty
  have fits := phase.isOpen.1.add_length_le
  rcases phase.stands with ⟨notContinued, rfl, -⟩ | ⟨continued, -⟩
  · rw [phase.entered.promptLength, tokens_length] at fits
    have notFirst : ¬run.output.length = 0 := by omega
    simp only [sampledTokensFromPreviousStep, renewed, notContinued,
      phase.previous, notFirst, Bool.false_eq_true, if_false]
    omega
  · simp only [sampledTokensFromPreviousStep, renewed, continued, phase.previous, if_true]
    omega

include endNonempty startNonempty

include separate in
theorem Thinking.closes {stop : Nat}
    (closing : OccursAt markers.thinkEndTokenIds next.output stop)
    (ends : stop + markers.thinkEndTokenIds.length = next.output.length) :
    next.Phase markers := by
  have fits := phase.isOpen.1.add_length_le
  have length := sampling.length
  have opened : OccursAt markers.thinkStartTokenIds next.tokens place := by
    rw [sampling.tokens]
    exact phase.isOpen.1.append
  have after : place < run.prompt.length + stop := by
    have there := occursAt_tokens.mpr closing
    rw [sampling.samePrompt] at there
    rcases not_within separate.startApart there opened with before | after
    · exact before
    · have some := length_pos_of_ne_nil endNonempty
      rw [tokens_length] at fits
      omega
  have bound : run.entry.scanOffset ≤ stop := by
    rcases phase.stands with ⟨-, rfl, bound⟩ | ⟨-, -, zero, -⟩
    · rw [phase.entered.promptLength] at after
      omega
    · omega
  have endScan : scan (run.renewed next.output) markers.thinkEndTokenIds = stop :=
    scan_of_completed endNonempty closing ends bound
  have located := locate_open endScan phase.noEnd phase.started (by omega)
  have entered := sampling.entered
  have updated := sampling.entry
  rw [updateThinkState_completed entered.budgeted endNonempty phase.notEnding phase.stands located
    (phase.longer sampling) _ ends] at updated
  · apply Phase.idle
    apply idle_of_completed separate startNonempty endNonempty _ sampling.pending
      (by rw [updated]) (by rw [updated]) (by rw [updated]; exact phase.notEnding)
      (by rw [updated]) (by rw [updated]; exact entered.budget) (by rw [updated]; rfl)
      (by rw [updated]; rfl) closing ends
    rw [updated]
    exact ⟨rfl, rfl, entered.3, entered.4, entered.5⟩
  · rwa [entered.promptLength, sampling.samePrompt]

theorem Thinking.goesOn (uncompleted : ∀ i, OccursAt markers.thinkEndTokenIds next.tokens i →
    OccursAt markers.thinkEndTokenIds run.tokens i) : next.Phase markers := by
  have fits := phase.isOpen.1.add_length_le
  have length := sampling.length
  have offset : run.entry.scanOffset ≤ next.output.length := phase.offset.trans (by omega)
  have endAbsent : ∀ i ≥ run.entry.scanOffset,
      ¬OccursAt markers.thinkEndTokenIds next.output i := by
    intro i bound occurs
    have before := uncompleted _ (occursAt_tokens.mpr occurs)
    rw [sampling.samePrompt, occursAt_tokens] at before
    exact phase.endAbsent i bound before
  have endScan : scan (run.renewed next.output) markers.thinkEndTokenIds = -1 :=
    scan_of_absent endNonempty endAbsent offset
  have located := locate_open endScan phase.noEnd phase.started (by omega)
  have isOpen : markers.OpenAt next.tokens place := by
    rw [sampling.tokens] at uncompleted ⊢
    exact phase.isOpen.append fun i _ => uncompleted i
  have count : markers.thought next.tokens place = markers.thought run.tokens place + 1 := by
    rw [sampling.tokens, phase.isOpen.thought_append, length_singleton]
  apply phase_of_open endNonempty sampling.entry sampling.entered sampling.pending located
    phase.notEnding phase.stands offset endAbsent isOpen _ _ (phase.longer sampling)
  · rw [count, sampling.budget]
    exact phase.within
  · intro i other
    rw [sampling.tokens] at other
    rcases other.1.of_concat with before | completed
    · exact phase.first i (other.of_append before.add_length_le)
    · omega
  · have countdown := phase.countdown
    rw [phase.sampledTokens startNonempty sampling, count, sampling.budget]
    simp only [renewed]
    omega

end Thinking

include endNonempty startNonempty separate in
theorem Thinking.step (phase : run.Thinking markers start place)
    (seen : run.SeenBySampling markers sampled) (nothing : run.due markers = none)
    (sampling : Sampling markers run next sampled) : next.Phase markers := by
  by_cases closes : ∃ i, OccursAt markers.thinkEndTokenIds next.tokens i ∧
      i + markers.thinkEndTokenIds.length = next.tokens.length
  · obtain ⟨i, closing, completed⟩ := closes
    rw [sampling.tokens] at closing
    rw [tokens_length, sampling.length, sampling.samePrompt] at completed
    have some := length_pos_of_ne_nil endNonempty
    obtain ⟨inOutput, -⟩ :=
      (seen nothing).2 i (by rw [tokens_length]; omega) closing (by rw [tokens_length]; omega)
    obtain ⟨stop, rfl⟩ := Nat.exists_eq_add_of_le inOutput
    rw [← sampling.tokens, ← sampling.samePrompt, occursAt_tokens] at closing
    have length := sampling.length
    exact phase.closes separate startNonempty endNonempty sampling closing (by omega)
  · refine phase.goesOn startNonempty endNonempty sampling fun i occurs => ?_
    have there := occurs
    rw [sampling.tokens] at there
    refine there.of_concat.resolve_right fun completed => closes ⟨i, occurs, ?_⟩
    rw [completed, sampling.tokens, length_append, length_singleton]

structure Forced (markers : ThinkMarkers) (run next : BudgetRun) : Prop where
  prompt : next.promptTokIds = run.promptTokIds
  budget : next.budget = run.budget
  output : ∃ token, markers.thinkEndTokenIds[run.pending]? = some token ∧
    next.output = run.output ++ [token]
  pending : next.pending = (run.pending + 1) % markers.thinkEndTokenIds.length
  entry : next.entry = markers.updateThinkState (run.renewed next.output)

section Forcing

variable (phase : run.Forcing markers)

include phase

include separate in
theorem Forcing.forced_next (ran : run.step markers sampled = .ok next) :
    Forced markers run next := by
  have exact := phase.exact separate
  obtain ⟨token, here⟩ : ∃ token, markers.thinkEndTokenIds[run.pending]? = some token :=
    ⟨_, getElem?_eq_getElem phase.partly⟩
  have forced : run.forced markers = some token := by
    rw [BudgetRun.forced, exact.forced, phase.due_eq, here]
    rfl
  have taken : (run.forced markers).getD sampled = token := by rw [forced, Option.getD_some]
  have made := step_eq phase.entered.notForced taken ran
  rw [forced, Option.isSome_some, if_pos rfl] at made
  rw [made]
  exact ⟨rfl, rfl, ⟨token, here, rfl⟩, rfl, rfl⟩

variable (forced : Forced markers run next)

include forced

theorem Forcing.since_next : ∃ before,
    next.output = before ++ markers.thinkEndTokenIds.take (run.pending + 1) ∧
    markers.Spent run.budget (run.prompt ++ before) ∧
    ∀ i, markers.OpenAt (run.prompt ++ before) i →
      markers.thought (run.prompt ++ before) i ≤ max run.budget (markers.thought run.prompt i) := by
  obtain ⟨before, since, rest⟩ := phase.since
  obtain ⟨token, here, output⟩ := forced.output
  refine ⟨before, ?_, rest⟩
  rw [output, since, append_assoc, take_add_one, here]
  rfl

include endNonempty

-- The forced token was taken, so the end mode goes on to the next token of the marker.
theorem Forcing.entry_next : ∃ stop, next.entry = markers.forceEnd
    { run.renewed next.output with
      endThinking := stop
      prevOutputLength := next.output.length } := by
  obtain ⟨token, here, output⟩ := forced.output
  have started : 0 ≤ (run.renewed next.output).startThinking := phase.started
  obtain ⟨stop, located⟩ := locate_of_started started
  have longer : (run.renewed next.output).prevOutputLength <
      (run.renewed next.output).outputTokIds.length := by
    simp only [renewed, phase.previous, output, length_append, length_singleton]
    exact Nat.lt_succ_self _
  refine ⟨stop, ?_⟩
  rw [forced.entry, updateThinkState_process (by exact phase.entered.budgeted) endNonempty located
    started longer (.inl phase.ending) (.inl phase.ending), processNewTokens_forcing]
  · rfl
  · exact phase.ending
  · intro first
    have head : markers.thinkEndTokenIds.head? = some token := by
      rw [head?_eq_getElem?, ← here, ← phase.count]
      exact congrArg _ first.symm
    simp only [renewed, head, Option.any_some, phase.previous, output, drop_left,
      mem_singleton, decide_true]

include separate startNonempty in
theorem Forcing.completes (whole : markers.thinkEndTokenIds.length ≤ run.pending + 1) :
    next.Idle markers := by
  have entered := phase.entered
  obtain ⟨stop, updated⟩ := phase.entry_next endNonempty forced
  simp only [forceEnd, matchDrafts, renewed, phase.count, length_nil, Nat.cast_zero] at updated
  rw [if_pos whole] at updated
  obtain ⟨before, forcedSoFar, -⟩ := phase.since_next forced
  rw [take_of_length_le whole] at forcedSoFar
  have occurs : OccursAt markers.thinkEndTokenIds next.output before.length := by
    rw [forcedSoFar]
    exact concat_end before
  apply idle_of_completed separate startNonempty endNonempty _ _
    (by rw [updated]) (by rw [updated]) (by rw [updated]) (by rw [updated])
    (by rw [updated, forced.budget]; exact entered.budget) (by rw [updated]) (by rw [updated])
    occurs (by rw [forcedSoFar, length_append])
  · rw [updated]
    exact ⟨rfl, rfl, by rw [forced.budget]; exact entered.budget,
      by rw [forced.prompt]; exact entered.prompt, entered.notForced⟩
  · have last : run.pending + 1 = markers.thinkEndTokenIds.length :=
      Nat.le_antisymm phase.partly whole
    rw [forced.pending, last, Nat.mod_self]

theorem Forcing.goesOn (left : ¬markers.thinkEndTokenIds.length ≤ run.pending + 1) :
    next.Forcing markers := by
  have entered := phase.entered
  obtain ⟨stop, updated⟩ := phase.entry_next endNonempty forced
  simp only [forceEnd, matchDrafts, renewed, phase.count, length_nil, Nat.cast_zero] at updated
  rw [if_neg left] at updated
  have begun : next.pending = run.pending + 1 := by
    rw [forced.pending, Nat.mod_eq_of_lt (Nat.lt_of_not_le left)]
  have since := phase.since_next forced
  have samePrompt := forced.prompt
  have sameBudget := forced.budget
  cases next
  dsimp only at updated
  subst updated
  exact
    { entered := ⟨rfl, rfl, entered.budget.trans (congrArg Nat.cast sameBudget.symm),
        entered.prompt.trans samePrompt.symm, entered.notForced⟩
      ending := phase.ending
      count := congrArg Nat.cast begun.symm
      partly := begun.trans_lt (Nat.lt_of_not_le left)
      index := rfl
      started := phase.started
      previous := rfl
      since := by
        rw [begun, prompt, samePrompt, sameBudget]
        exact since }

end Forcing

include endNonempty startNonempty separate in
theorem Forcing.step (phase : run.Forcing markers) (ran : run.step markers sampled = .ok next) :
    next.Phase markers := by
  have forced := phase.forced_next separate ran
  by_cases whole : markers.thinkEndTokenIds.length ≤ run.pending + 1
  · exact .idle (phase.completes separate startNonempty endNonempty forced whole)
  · exact .forcing (phase.goesOn endNonempty forced whole)

theorem ThinkMarkers.openAt_prompt (separate : markers.Separate)
    (startNonempty : markers.thinkStartTokenIds ≠ []) (endNonempty : markers.thinkEndTokenIds ≠ [])
    (prompt : List Int) :
    (∃ i : Nat, findLastSequenceIndex prompt markers.thinkStartTokenIds = i ∧
      findLastSequenceIndex prompt markers.thinkEndTokenIds < i ∧ markers.OpenAt prompt i) ∨
    findLastSequenceIndex prompt markers.thinkStartTokenIds ≤
      findLastSequenceIndex prompt markers.thinkEndTokenIds ∧ ∀ i, ¬markers.OpenAt prompt i := by
  rcases findLastSequenceIndex_spec prompt startNonempty with
    ⟨_, absent⟩ | ⟨i, lastStart, occurs, greatest⟩
  · refine .inr ⟨?_, fun i isOpen => absent i isOpen.1⟩
    rcases findLastSequenceIndex_spec prompt endNonempty with ⟨noEnd, -⟩ | ⟨j, lastEnd, -⟩ <;> omega
  · rcases findLastSequenceIndex_spec prompt endNonempty with
      ⟨noEnd, absent⟩ | ⟨j, lastEnd, closing, final⟩
    · refine .inl ⟨i, lastStart, by omega, openAt_iff.mpr ⟨occurs, ?_⟩⟩
      exact fun j _ => absent j
    · by_cases order : j < i
      · refine .inl ⟨i, lastStart, by omega, openAt_iff.mpr ⟨occurs, ?_⟩⟩
        intro k later there
        have bound := final k there
        omega
      · refine .inr ⟨by omega, fun k isOpen => ?_⟩
        have bound := greatest k isOpen.1
        have some := length_pos_of_ne_nil endNonempty
        rcases not_within separate.startApart closing isOpen.1 with before | _
        · exact isOpen.not_occursAt before closing
        · omega

section Create

variable {promptTokIds : Option (List Int)} {budget : Nat}

def firstEntry (markers : ThinkMarkers) (promptTokIds : Option (List Int)) (budget : Nat) :
    ThinkState :=
  { markers.initStateEntry promptTokIds budget with
    outputTokIds := [], specTokenIds := [], inSpecMode := false, forceIndex := [] }

theorem create_tokens : (create markers promptTokIds budget).tokens = promptTokIds.getD [] :=
  append_nil _

theorem entered_create :
    Entered (firstEntry markers promptTokIds budget) (create markers promptTokIds budget) :=
  ⟨rfl, rfl, rfl, rfl, rfl⟩

theorem not_occursAt_nil {marker : List Int} (nonempty : marker ≠ []) (i : Nat) :
    ¬OccursAt marker [] i :=
  fun occurs => Nat.not_lt_zero i (occurs.lt_length nonempty)

theorem scan_firstEntry {marker : List Int} (nonempty : marker ≠ []) :
    scan (firstEntry markers promptTokIds budget) marker = -1 :=
  scan_of_absent nonempty (fun i _ => not_occursAt_nil nonempty i) le_rfl

section

variable {i : Nat}
  (lastStart : findLastSequenceIndex (promptTokIds.getD []) markers.thinkStartTokenIds = i)
  (later : findLastSequenceIndex (promptTokIds.getD []) markers.thinkEndTokenIds < i)
  (isOpen : markers.OpenAt (promptTokIds.getD []) i)

include startNonempty lastStart later isOpen

theorem firstEntry_open :
    (firstEntry markers promptTokIds budget).inThink = true ∧
      (firstEntry markers promptTokIds budget).startThinking =
        (i + markers.thinkStartTokenIds.length - 1 : Nat) ∧
      (firstEntry markers promptTokIds budget).checkCountDown =
        budget - (markers.thought (promptTokIds.getD []) i : Int) ∧
      (firstEntry markers promptTokIds budget).inEnd =
        decide ((budget : Int) - (markers.thought (promptTokIds.getD []) i : Int) ≤ 0) := by
  have nonempty := length_pos_of_ne_nil startNonempty
  have total := isOpen.thought_add
  have count : ((promptTokIds.getD []).length : Int) -
      (i + markers.thinkStartTokenIds.length) = markers.thought (promptTokIds.getD []) i := by
    omega
  simp only [firstEntry, initStateEntry, lastStart, later, decide_true, if_true, count,
    Bool.true_and, and_self, and_true, true_and]
  omega

include endNonempty

theorem forcing_create (spent : budget ≤ markers.thought (promptTokIds.getD []) i) :
    (create markers promptTokIds budget).Forcing markers := by
  obtain ⟨-, started, -, inEnd⟩ :=
    @firstEntry_open markers startNonempty _ budget _ lastStart later isOpen
  have located := locate_open (scan_firstEntry endNonempty) rfl started (by omega)
  have ending : (firstEntry markers promptTokIds budget).inEnd = true := by
    rw [inEnd]
    exact decide_eq_true (by omega)
  have updated : (create markers promptTokIds budget).entry = _ :=
    updateThinkState_initial entered_create.budgeted endNonempty located (Int.natCast_nonneg _)
      ending rfl
  exact
    { entered := by rw [updated]; exact ⟨rfl, rfl, rfl, rfl, rfl⟩
      ending := by rw [updated]; exact ending
      count := by rw [updated]; rfl
      partly := length_pos_of_ne_nil endNonempty
      index := by rw [updated]
      started := by rw [updated]; exact Int.natCast_nonneg _
      previous := by rw [updated]; rfl
      since := by
        refine ⟨[], rfl, ?_, fun j _ => ?_⟩
        · rw [append_nil]
          exact spent_iff.mpr ⟨i, isOpen, spent⟩
        · rw [append_nil]
          exact le_max_right _ _ }

theorem thinking_create (counts : markers.CountsPrompt (promptTokIds.getD []) budget)
    (within : ¬budget ≤ markers.thought (promptTokIds.getD []) i) :
    (create markers promptTokIds budget).Phase markers := by
  obtain ⟨inThink, started, countdown, inEnd⟩ :=
    @firstEntry_open markers startNonempty _ budget _ lastStart later isOpen
  obtain ⟨single, only⟩ := (counts i isOpen.1.1 isOpen).resolve_left within
  have total := isOpen.thought_add
  have located := locate_open (scan_firstEntry endNonempty) rfl started (by omega)
  have notEnding : (firstEntry markers promptTokIds budget).inEnd = false := by
    rw [inEnd]
    exact decide_eq_false (by omega)
  have place : i + markers.thinkStartTokenIds.length - 1 = i := by omega
  rw [place] at located
  have inPrompt : i < (promptTokIds.getD []).length := by omega
  have none : markers.sampledTokensFromPreviousStep (firstEntry markers promptTokIds budget) = 0 := by
    rw [sampledTokensFromPreviousStep, if_pos (by exact inThink)]
    rfl
  apply phase_of_left endNonempty rfl entered_create rfl located notEnding
    (.inr ⟨inThink, inThink, rfl, single, rfl, inPrompt⟩) le_rfl
    (fun j _ => not_occursAt_nil endNonempty j)
  · rw [create_tokens]
    exact isOpen
  · rw [create_tokens]
    exact fun j other => (only j other.1.1 other).ge
  · rw [create_tokens, none, countdown, Int.sub_zero]
    exact le_rfl
  · rw [none, countdown]
    omega

end

include endNonempty startNonempty in
theorem idle_create (order : findLastSequenceIndex (promptTokIds.getD []) markers.thinkStartTokenIds ≤
      findLastSequenceIndex (promptTokIds.getD []) markers.thinkEndTokenIds)
    (closed : ∀ i, ¬markers.OpenAt (promptTokIds.getD []) i) :
    (create markers promptTokIds budget).Idle markers := by
  have inThink : (firstEntry markers promptTokIds budget).inThink = false := by
    simp only [firstEntry, initStateEntry]
    exact decide_eq_false (by omega)
  have notThinking : ¬(firstEntry markers promptTokIds budget).inThink = true := by simp [inThink]
  have endScan : scan (firstEntry markers promptTokIds budget) markers.thinkEndTokenIds = -1 :=
    scan_firstEntry endNonempty
  have located := locate_absent endScan rfl (if_neg notThinking) (scan_firstEntry startNonempty)
  have notEnding : (firstEntry markers promptTokIds budget).inEnd = false :=
    Bool.and_eq_false_imp.mpr fun thinking => absurd thinking notThinking
  apply idle_of_absent endNonempty rfl entered_create rfl located notEnding inThink
    (if_neg notThinking) le_rfl le_rfl (fun i _ => not_occursAt_nil startNonempty i)
    (fun i _ => not_occursAt_nil endNonempty i) (.inl rfl)
  rw [create_tokens]
  exact closed

end Create

include endNonempty startNonempty separate in
theorem phase_create (promptTokIds : Option (List Int)) (budget : Nat)
    (counts : markers.CountsPrompt (promptTokIds.getD []) budget) :
    (create markers promptTokIds budget).Phase markers := by
  rcases ThinkMarkers.openAt_prompt separate startNonempty endNonempty (promptTokIds.getD []) with
    ⟨i, lastStart, later, isOpen⟩ | ⟨order, closed⟩
  · by_cases spent : budget ≤ markers.thought (promptTokIds.getD []) i
    · exact .forcing (forcing_create startNonempty endNonempty lastStart later isOpen spent)
    · exact thinking_create startNonempty endNonempty lastStart later isOpen counts spent
  · exact .idle (idle_create startNonempty endNonempty order closed)

include endNonempty startNonempty separate in
theorem Phase.step (phase : run.Phase markers) (seen : run.SeenBySampling markers sampled)
    (ran : run.step markers sampled = .ok next) : next.Phase markers := by
  have exact := phase.exact separate
  cases phase with
  | idle phase =>
    have nothing := due_of_not_spent phase.pending phase.not_spent
    have sampling := sampling_of_step phase.entered exact nothing ran
    exact phase.step separate startNonempty endNonempty seen nothing sampling
  | thinking start place phase =>
    have nothing := due_of_not_spent phase.pending phase.not_spent
    have sampling := sampling_of_step phase.entered exact nothing ran
    exact phase.step separate startNonempty endNonempty seen nothing sampling
  | forcing phase => exact phase.step separate startNonempty endNonempty ran

end Step

theorem budget_exact (markers : ThinkMarkers) (startNonempty : markers.thinkStartTokenIds ≠ [])
    (endNonempty : markers.thinkEndTokenIds ≠ []) (separate : markers.Separate)
    (promptTokIds : Option (List Int)) (budget : Nat)
    (counts : markers.CountsPrompt (promptTokIds.getD []) budget) (sampled : List Int)
    (seen : Run.Meets (step markers) (SeenBySampling markers)
      (create markers promptTokIds budget) sampled) :
    Run.Always (step markers) (Exact markers) (create markers promptTokIds budget) sampled := by
  have phases : Run.Always (step markers) (Phase markers) (create markers promptTokIds budget)
      sampled := by
    apply Run.always_of_meets _ seen
      (phase_create separate startNonempty endNonempty promptTokIds budget counts)
    intro run sampled next ran allowed phase
    exact phase.step separate startNonempty endNonempty allowed ran
  exact phases.imp fun run phase => phase.exact separate

-- The prompt ends within a section; its budget is used up with the first token.
theorem budget_exact_continued :
    Run.Always (step ⟨[1], [8, 9]⟩) (Exact ⟨[1], [8, 9]⟩)
      (create ⟨[1], [8, 9]⟩ (some [7, 1, 5]) 2) [6, 0, 0, 7] := by
  exact budget_exact _ (by decide) (by decide) ⟨by decide, by decide⟩ _ _ (by decide) _ (by decide)

def view (markers : ThinkMarkers) (run : BudgetRun) : List (Int × Int) × Option Int × Bool :=
  (markers.forced false run.entry, run.due markers,
    decide (∃ i ≤ run.tokens.length, markers.OpenAt run.tokens i))

theorem not_always_exact {state : BudgetRun} {sampled : List Int} (forced : List (Int × Int))
    (due : Option Int) (isOpen : Bool) (seen : (sampled.foldlM (step markers) state).toOption.map
      (view markers) = some (forced, due, isOpen))
    (wrong : ¬(forced = due.toList.map (fun token => (0, token)) ∧
      (due.isSome = true → isOpen = true))) :
    ¬Run.Always (step markers) (Exact markers) state sampled := by
  intro always
  obtain ⟨final, exact, same⟩ := always.exists_view _ _ seen
  obtain ⟨rfl, rfl, rfl⟩ := same
  refine wrong ⟨exact.forced, fun some => decide_eq_true ?_⟩
  obtain ⟨i, isOpen⟩ := exact.withinSection some
  exact ⟨i, isOpen.1.1, isOpen⟩

theorem budget_not_exact :
    ¬Run.Always (step ⟨[1, 2], [9]⟩) (Exact ⟨[1, 2], [9]⟩)
        (create ⟨[1, 2], [9]⟩ (some [1, 2]) 1) [5] ∧
      ¬Run.Always (step ⟨[1], [9]⟩) (Exact ⟨[1], [9]⟩)
        (create ⟨[1], [9]⟩ (some [1, 5, 1]) 2) [5] ∧
      ¬Run.Always (step ⟨[1, 2], [9]⟩) (Exact ⟨[1, 2], [9]⟩)
        (create ⟨[1, 2], [9]⟩ (some [1]) 1) [2, 5] ∧
      ¬Run.Always (step ⟨[1], [9]⟩) (Exact ⟨[1], [9]⟩)
        (create ⟨[1], [9]⟩ (some []) 2) [9, 1, 5, 9] ∧
      ¬Run.Always (step ⟨[1], [9, 9]⟩) (Exact ⟨[1], [9, 9]⟩)
        (create ⟨[1], [9, 9]⟩ (some []) 2) [1, 5, 9, 5] := by
  refine ⟨?_, ?_, ?_, ?_, ?_⟩
  · exact not_always_exact [] (some 9) true rfl (by decide)
  · exact not_always_exact [] (some 9) true rfl (by decide)
  · exact not_always_exact [] (some 9) true rfl (by decide)
  · exact not_always_exact [(0, 9)] none false rfl (by decide)
  · exact not_always_exact [(0, 9)] (some 9) false rfl (by decide)

end BudgetRun

end VllmEngine

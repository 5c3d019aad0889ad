import Mathlib.Data.List.TakeWhile
import VllmEngine.Shared.Run
import VllmEngine.Structured.Manager

set_option autoImplicit false

namespace VllmEngine.Structured

structure AdvanceRun where
  request : Request
  passed : List (List Int)

inductive AdvanceOp where
  | updateFromOutput (newTokenIds : List Int)
  | updateDraftTokenIds
  | fillBitmask
  -- The scheduler moves the request's counters, as every step, preemption or failed load does.
  | counters (numComputedTokens numOutputPlaceholders : Int)

variable (manager : StructuredOutputManager) (parser : BaseThinkingReasoningParser Int)

open StructuredOutputManager List BaseThinkingReasoningParser

namespace AdvanceRun

def appendOutputTokenIds (run : AdvanceRun) (tokenIds : List Int) : AdvanceRun :=
  { run with request := { run.request with allTokenIds := run.request.allTokenIds ++ tokenIds } }

def advanceGrammar (run : AdvanceRun) (newTokenIds : List Int) : AdvanceRun :=
  let (advance, request) := manager.shouldAdvance run.request newTokenIds
  if advance then
    let advanceTokenIds := trimReasoningForAdvance request newTokenIds
    if advanceTokenIds ≠ [] then
      ⟨request, run.passed ++ [advanceTokenIds]⟩
    else
      ⟨request, run.passed⟩
  else
    ⟨request, run.passed⟩

def updateFromOutput (run : AdvanceRun) (newTokenIds : List Int) : AdvanceRun :=
  if newTokenIds = [] then run
  else (run.appendOutputTokenIds newTokenIds).advanceGrammar manager newTokenIds

def step (run : AdvanceRun) : AdvanceOp → Except Unit (AdvanceRun)
  | .updateFromOutput newTokenIds => .ok (run.updateFromOutput manager newTokenIds)
  | .updateDraftTokenIds => .ok { run with request := (manager.shouldAdvance run.request []).2 }
  | .fillBitmask => .ok { run with request := (manager.shouldFillBitmask run.request).2 }
  | .counters numComputedTokens numOutputPlaceholders =>
    .ok { run with request := { run.request with numComputedTokens, numOutputPlaceholders } }

def generated (run : AdvanceRun) : List Int :=
  run.request.allTokenIds.drop run.request.promptTokenIds.length

def GrammarSees (run : AdvanceRun) : Prop :=
  run.passed.flatten = (run.generated.dropWhile (· ≠ parser.endTokenId)).tail

-- A call between steps looks at no end marker of the prompt.
def WindowClear (run : AdvanceRun) : AdvanceOp → Prop
  | .updateDraftTokenIds =>
    run.request.reasoningEnded = some true ∨
      parser.endTokenId ∉ run.request.promptTokenIds.drop (deltaStart run.request [])
  | _ => True

instance (run : AdvanceRun) : Decidable (GrammarSees parser run) :=
  inferInstanceAs (Decidable (_ = _))

instance (run : AdvanceRun) : ∀ op, Decidable (WindowClear parser run op)
  | .updateDraftTokenIds => inferInstanceAs (Decidable (_ ∨ _))
  | .updateFromOutput _ | .fillBitmask | .counters _ _ => isTrue trivial

end AdvanceRun

theorem findReasoningEndIndex_append {before middle after : List Int}
    (first : parser.endTokenId ∉ middle) :
    findReasoningEndIndex parser.reasoner (before ++ (middle ++ parser.endTokenId :: after))
      before.length = before.length + middle.length := by
  have found : (range' before.length
      ((before ++ (middle ++ parser.endTokenId :: after)).length - before.length)).find? (fun idx =>
        parser.reasoner.isReasoningEndStreaming
          ((before ++ (middle ++ parser.endTokenId :: after)).take (idx + 1))
          [(before ++ (middle ++ parser.endTokenId :: after)).getD idx 0]) =
      some (before.length + middle.length) := by
    rw [find?_range'_eq_some]
    refine ⟨by simp [reasoner], by simp, fun idx low high => ?_⟩
    obtain ⟨offset, rfl⟩ := Nat.exists_eq_add_of_le low
    have short : offset < middle.length := by omega
    have other : parser.endTokenId ≠ middle[offset] :=
      fun equal => first (equal ▸ getElem_mem short)
    simpa [reasoner, getElem?_append_right, getElem?_append_left, short] using other
  simp only [findReasoningEndIndex, found, Int.natCast_add]

variable {manager parser} {request : Request}

theorem trimReasoningForAdvance_inside {token : Int} {earlier middle after : List Int}
    (all : request.allTokenIds = earlier ++ (middle ++ token :: after))
    (index : request.reasoningEndTokenIndex = some (earlier.length + middle.length : Int)) :
    trimReasoningForAdvance request (middle ++ token :: after) = after := by
  have count : (earlier.length + middle.length : Int) + 1 -
      (request.allTokenIds.length - (middle ++ token :: after).length) =
      ((middle.length + 1 : Nat) : Int) := by
    simp only [all, length_append]
    omega
  simp only [trimReasoningForAdvance, index, count]
  rw [if_neg (by omega), Int.toNat_natCast]
  simp

section

variable (off : manager.enableInReasoning = false)
  (reasons : request.reasoner = some parser.reasoner)

include off reasons

theorem shouldAdvance_ended (newTokenIds : List Int) (ended : request.reasoningEnded = some true) :
    manager.shouldAdvance request newTokenIds = (true, request) := by
  simp [shouldAdvance, reasons, off, ended]

theorem shouldAdvance_unmarked (newTokenIds : List Int)
    (thinking : request.reasoningEnded ≠ some true) (unmarked : parser.endTokenId ∉
      if newTokenIds ≠ [] then newTokenIds
      else request.allTokenIds.drop (deltaStart request newTokenIds)) :
    manager.shouldAdvance request newTokenIds = (false, request) := by
  simp only [shouldAdvance, reasons, off, thinking, reasoner, unmarked]
  rfl

theorem shouldAdvance_marked {earlier middle after : List Int}
    (thinking : request.reasoningEnded ≠ some true) (first : parser.endTokenId ∉ middle)
    (all : request.allTokenIds = earlier ++ (middle ++ parser.endTokenId :: after)) :
    manager.shouldAdvance request (middle ++ parser.endTokenId :: after) =
      (true, { request with
        reasoningEnded := some true
        reasoningEndTokenIndex := some (earlier.length + middle.length) }) := by
  have start : deltaStart request (middle ++ parser.endTokenId :: after) = earlier.length := by
    simp [deltaStart, all]
  have ends : parser.reasoner.isReasoningEndStreaming request.allTokenIds
      (middle ++ parser.endTokenId :: after) = true := by
    simp [reasoner]
  have index : findReasoningEndIndex parser.reasoner request.allTokenIds earlier.length =
      earlier.length + middle.length := by
    rw [all, findReasoningEndIndex_append parser first]
  simp [shouldAdvance, reasons, off, thinking, start, ends, index]

end

namespace AdvanceRun

variable {run next : AdvanceRun}

def Phase (parser : BaseThinkingReasoningParser Int) (run : AdvanceRun)
    (generated : List Int) : Prop :=
  run.request.reasoningEnded ≠ some true ∧ parser.endTokenId ∉ generated ∧ run.passed = [] ∨
    ∃ before after, generated = before ++ parser.endTokenId :: after ∧
      parser.endTokenId ∉ before ∧ run.request.reasoningEnded = some true ∧
      run.request.reasoningEndTokenIndex =
        some (run.request.promptTokenIds.length + before.length : Int) ∧
      run.passed.flatten = after

structure Tracks (manager : StructuredOutputManager)
    (parser : BaseThinkingReasoningParser Int) (run : AdvanceRun) : Prop where
  off : manager.enableInReasoning = false
  reasoner : run.request.reasoner = some parser.reasoner
  prompt : parser.isReasoningEnd run.request.promptTokenIds = false
  phase : ∃ generated, run.request.allTokenIds = run.request.promptTokenIds ++ generated ∧
    Phase parser run generated

theorem Tracks.grammarSees (tracks : Tracks manager parser run) : GrammarSees parser run := by
  obtain ⟨generated, all, ⟨-, unmarked, none⟩ | ⟨before, after, rfl, first, -, -, given⟩⟩ :=
    tracks.phase
  · have skipped : generated.dropWhile (· ≠ parser.endTokenId) = [] := by
      simp only [dropWhile_eq_nil_iff, decide_eq_true_eq]
      exact fun token member equal => unmarked (equal ▸ member)
    simp only [GrammarSees, AdvanceRun.generated, all, drop_left, skipped, none,
      flatten_nil, tail_nil]
  · have skipped : (before ++ parser.endTokenId :: after).dropWhile (· ≠ parser.endTokenId) =
        parser.endTokenId :: after := by
      rw [dropWhile_append_of_pos]
      · simp
      · simp only [decide_eq_true_eq]
        exact fun token member equal => first (equal ▸ member)
    simp only [GrammarSees, AdvanceRun.generated, all, drop_left, skipped, given, tail_cons]

theorem advanceGrammar_of_advance {newTokenIds : List Int} {request : Request}
    (advances : manager.shouldAdvance run.request newTokenIds = (true, request)) :
    (run.advanceGrammar manager newTokenIds).request = request ∧
      (run.advanceGrammar manager newTokenIds).passed.flatten =
        run.passed.flatten ++ trimReasoningForAdvance request newTokenIds := by
  simp only [advanceGrammar, advances]
  by_cases empty : trimReasoningForAdvance request newTokenIds = []
  · simp [empty]
  · simp [empty]

theorem tracks_advanceGrammar {generated newTokenIds : List Int}
    (off : manager.enableInReasoning = false)
    (reasons : run.request.reasoner = some parser.reasoner)
    (prompt : parser.isReasoningEnd run.request.promptTokenIds = false)
    (all : run.request.allTokenIds = run.request.promptTokenIds ++ generated ++ newTokenIds)
    (sampled : newTokenIds ≠ []) (phase : Phase parser run generated) :
    Tracks manager parser (run.advanceGrammar manager newTokenIds) := by
  rcases phase with ⟨thinking, unmarked, none⟩ | ⟨before, after, rfl, first, ended, index, given⟩
  · by_cases marked : parser.endTokenId ∈ newTokenIds
    · obtain ⟨middle, after, rfl, first⟩ := eq_append_cons_of_mem marked
      obtain ⟨same, passed⟩ := advanceGrammar_of_advance
        (shouldAdvance_marked off reasons thinking first all)
      refine ⟨off, by rw [same, reasons], by rw [same, prompt], _, ?_, .inr
        ⟨generated ++ middle, after, rfl, ?_, by rw [same], ?_, ?_⟩⟩
      · simp only [same, all, append_assoc]
      · simp only [mem_append, unmarked, first, or_self, not_false_eq_true]
      · simp only [same, length_append, Int.natCast_add, Int.add_assoc]
      · rw [passed, none, flatten_nil, nil_append]
        apply trimReasoningForAdvance_inside
        · exact all
        · rfl
    · have stays := shouldAdvance_unmarked off reasons newTokenIds thinking
        (by rwa [if_pos sampled])
      have same : run.advanceGrammar manager newTokenIds = run := by
        simp only [advanceGrammar, stays, Bool.false_eq_true, if_false]
      rw [same]
      refine ⟨off, reasons, prompt, generated ++ newTokenIds, ?_, .inl ⟨thinking, ?_, none⟩⟩
      · rw [all, append_assoc]
      · simp only [mem_append, unmarked, marked, or_self, not_false_eq_true]
  · obtain ⟨same, passed⟩ := advanceGrammar_of_advance
      (shouldAdvance_ended off reasons newTokenIds ended)
    have behind : (run.request.promptTokenIds.length + before.length : Int) +
        newTokenIds.length < run.request.allTokenIds.length := by
      simp only [all, length_append, length_cons]
      omega
    refine ⟨off, by rw [same, reasons], by rw [same, prompt], _, ?_, .inr
      ⟨before, after ++ newTokenIds, rfl, first, by rw [same, ended], by rw [same, index], ?_⟩⟩
    · simp only [same, all, append_assoc, cons_append]
    · rw [passed, given]
      simp only [trimReasoningForAdvance, index]
      rw [if_pos (by omega)]

theorem Tracks.step {op : AdvanceOp} (taken : run.step manager op = .ok next)
    (clear : WindowClear parser run op) (tracks : Tracks manager parser run) :
    Tracks manager parser next := by
  obtain ⟨off, reasons, prompt, generated, all, phase⟩ := tracks
  cases op with
  | counters computed placeholders =>
    cases taken
    exact ⟨off, reasons, prompt, generated, all, phase⟩
  | fillBitmask =>
    cases taken
    have same : (manager.shouldFillBitmask run.request).2 = { run.request with
        reasoningEnded := some (run.request.reasoningEnded.getD false) } := by
      simp [shouldFillBitmask, reasons, off, BaseThinkingReasoningParser.reasoner, prompt]
    rw [same]
    refine ⟨off, reasons, prompt, generated, all, ?_⟩
    rcases phase with ⟨thinking, rest⟩ | ⟨before, after, split, first, ended, rest⟩
    · refine .inl ⟨fun ended => thinking ?_, rest⟩
      cases before : run.request.reasoningEnded <;> simp_all
    · exact .inr ⟨before, after, split, first, by rw [ended]; rfl, rest⟩
  | updateDraftTokenIds =>
    cases taken
    have same : (manager.shouldAdvance run.request []).2 = run.request := by
      by_cases ended : run.request.reasoningEnded = some true
      · rw [shouldAdvance_ended off reasons [] ended]
      · rw [shouldAdvance_unmarked off reasons [] ended]
        obtain ⟨-, unmarked, -⟩ | ⟨_, _, _, _, finished, _⟩ := phase
        · have clear := clear.resolve_left ended
          rw [all, drop_append]
          simp only [ne_eq, not_true_eq_false, if_false, mem_append, clear, false_or]
          exact fun member => unmarked (mem_of_mem_drop member)
        · exact absurd finished ended
    rw [same]
    exact ⟨off, reasons, prompt, generated, all, phase⟩
  | updateFromOutput newTokenIds =>
    cases taken
    by_cases sampled : newTokenIds = []
    · simpa only [updateFromOutput, if_pos sampled] using
        (⟨off, reasons, prompt, generated, all, phase⟩ : Tracks manager parser run)
    · simp only [updateFromOutput, if_neg sampled]
      have longer : (run.appendOutputTokenIds newTokenIds).request.allTokenIds =
          run.request.promptTokenIds ++ generated ++ newTokenIds := by
        rw [← all]
        rfl
      exact tracks_advanceGrammar off reasons prompt longer sampled phase

theorem grammar_sees_content {ops : List AdvanceOp} (off : manager.enableInReasoning = false)
    (reasons : request.reasoner = some parser.reasoner)
    (unprocessed : request.allTokenIds = request.promptTokenIds)
    (thinking : request.reasoningEnded ≠ some true)
    (prompt : parser.isReasoningEnd request.promptTokenIds = false)
    (clear : Run.Meets (step manager) (WindowClear parser) ⟨request, []⟩ ops) :
    Run.Always (step manager) (GrammarSees parser) ⟨request, []⟩ ops := by
  have start : Tracks manager parser ⟨request, []⟩ := by
    refine ⟨off, reasons, prompt, [], ?_, .inl ⟨thinking, not_mem_nil, rfl⟩⟩
    rw [unprocessed, append_nil]
  have tracked : Run.Always (step manager) (Tracks manager parser) ⟨request, []⟩ ops :=
    Run.always_of_meets (fun _ _ _ taken => Tracks.step taken) clear start
  exact tracked.imp fun _ => Tracks.grammarSees

def thinkParser : BaseThinkingReasoningParser Int where
  startToken := "<think>".toList
  endToken := "</think>".toList
  startTokenId := 1
  endTokenId := 2
  startToken_ne := by decide
  endToken_ne := by decide
  ids_ne := by decide

def secondTurn : Request where
  promptTokenIds := [1, 2, 7, 1]
  allTokenIds := [1, 2, 7, 1]
  numComputedTokens := 0
  numOutputPlaceholders := 0
  reasoner := some thinkParser.reasoner
  reasoningEnded := none
  reasoningEndTokenIndex := none

theorem grammar_sees_content_second_turn :
    Run.Always (step ⟨false⟩) (GrammarSees thinkParser) ⟨secondTurn, []⟩
      [.counters 4 0, .fillBitmask, .updateFromOutput [8], .updateDraftTokenIds,
        .updateFromOutput [9, 2, 7]] :=
  grammar_sees_content rfl rfl rfl (by decide) (by decide) (by decide)

-- A failed load takes the computed tokens back into the prompt, where the drafts find an end
-- marker.
theorem grammar_sees_reasoning :
    thinkParser.isReasoningEnd secondTurn.promptTokenIds = false ∧
      ¬ Run.Always (step ⟨false⟩) (GrammarSees thinkParser) ⟨secondTurn, []⟩
        [.counters 4 0, .fillBitmask, .counters 0 0, .updateDraftTokenIds,
          .updateFromOutput [8]] := by
  refine ⟨by decide, fun run => ?_⟩
  have seen := run.final rfl
  revert seen
  decide

end AdvanceRun

end VllmEngine.Structured

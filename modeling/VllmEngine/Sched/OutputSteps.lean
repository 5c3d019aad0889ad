import VllmEngine.Sched.EngineCore

set_option autoImplicit false

namespace VllmEngine.Sched

open Outcome

namespace SchedRequest

variable {request updated : SchedRequest} {maxModelLen : Nat} {stopped isStale : Bool}
  {tokens kept : List TokenId} {config : SchedulerConfig} {result : StepResult}
  {reqId : RequestId} {numDraftTokens : Nat}

theorem checkStop_ok (taken : request.checkStop maxModelLen = .ok (updated, stopped)) :
    stopped = false ∧ updated = request ∨
      stopped = true ∧ ∃ status, status.isFinished = true ∧ updated = request.withStatus status := by
  unfold checkStop at taken
  split at taken
  · cases taken
  · rename_i params _
    by_cases early : request.numOutputTokens < params.minTokens
    · rw [if_pos early] at taken
      cases taken
      exact .inl ⟨rfl, rfl⟩
    · rw [if_neg early] at taken
      cases last : request.outputTokenIds.getLast? with
      | none =>
        rw [last] at taken
        cases taken
      | some token =>
        rw [last] at taken
        dsimp only at taken
        split_ifs at taken <;> cases taken
        · exact .inr ⟨rfl, _, rfl, rfl⟩
        · exact .inr ⟨rfl, _, rfl, rfl⟩
        · exact .inr ⟨rfl, _, rfl, rfl⟩
        · exact .inr ⟨rfl, _, rfl, rfl⟩
        · exact .inl ⟨rfl, rfl⟩

def withOutput (request : SchedRequest) (tokens : List TokenId) (status : RequestStatus) :
    SchedRequest :=
  { request with
    outputTokenIds := request.outputTokenIds ++ tokens
    allTokenIds := request.allTokenIds ++ tokens
    status := status }

theorem appendUntilStop_ok
    (taken : request.appendUntilStop maxModelLen tokens = .ok (updated, kept, stopped)) :
    kept <+: tokens ∧ ∃ status, updated = request.withOutput kept status ∧
      (stopped = false ∧ kept = tokens ∧ status = request.status ∨
        stopped = true ∧ kept ≠ [] ∧ status.isFinished = true) := by
  induction tokens generalizing request updated kept stopped with
  | nil =>
    cases taken
    refine ⟨List.nil_prefix, request.status, ?_, .inl ⟨rfl, rfl, rfl⟩⟩
    simp [withOutput]
  | cons token rest ih =>
    unfold appendUntilStop at taken
    obtain ⟨⟨_, _⟩, checked, taken⟩ := bind_eq_ok.mp taken
    rcases checkStop_ok checked with ⟨rfl, rfl⟩ | ⟨rfl, status, finished, rfl⟩
    · simp only [Bool.false_eq_true, if_false, bind_eq_ok] at taken
      obtain ⟨⟨_, _, _⟩, later, same⟩ := taken
      cases same
      obtain ⟨within, status, rfl, cases⟩ := ih later
      refine ⟨List.cons_prefix_cons.mpr ⟨rfl, within⟩, status, ?_, ?_⟩
      · simp [withOutput, appendOutputTokenId]
      · rcases cases with ⟨rfl, rfl, same⟩ | ⟨rfl, -, finished⟩
        · exact .inl ⟨rfl, rfl, same⟩
        · exact .inr ⟨rfl, List.cons_ne_nil _ _, finished⟩
    · simp only [if_true] at taken
      cases taken
      refine ⟨List.cons_prefix_cons.mpr ⟨rfl, List.nil_prefix⟩, status, rfl, ?_⟩
      exact .inr ⟨rfl, List.cons_ne_nil _ _, finished⟩

theorem updateWithOutput_status
    (taken : request.updateWithOutput config tokens isStale = .ok (updated, kept, stopped)) :
    updated.resumable = request.resumable ∧ (stopped = false → updated.status = request.status) ∧
      (stopped = true → updated.status.isFinished = true) := by
  unfold updateWithOutput at taken
  obtain ⟨⟨_, tokens, ends⟩, append, taken⟩ := bind_eq_ok.mp taken
  obtain ⟨-, status, rfl, cases⟩ := appendUntilStop_ok append
  have facts : (ends = false → status = request.status) ∧
      (ends = true → status.isFinished = true) := by
    rcases cases with ⟨rfl, -, same⟩ | ⟨rfl, -, finished⟩
    · exact ⟨fun _ => same, fun stops => by cases stops⟩
    · exact ⟨fun goes => (by cases goes), fun _ => finished⟩
  split_ifs at taken
  · cases taken
    exact ⟨rfl, facts⟩
  · obtain ⟨-, -, taken⟩ := bind_eq_ok.mp taken
    cases taken
    exact ⟨rfl, facts⟩

theorem applyOutput_status (taken : request.applyOutput config result reqId numDraftTokens isStale =
      .ok (updated, stopped)) :
    (updated.resumable = true → request.resumable = true) ∧ (stopped = false →
        updated.status = request.status ∧ updated.resumable = request.resumable) ∧
      (stopped = true → updated.status.isFinished = true) := by
  unfold applyOutput at taken
  obtain ⟨⟨output, kept, ends⟩, generated, taken⟩ := bind_eq_ok.mp taken
  generalize rolls : request.rollBackRejected config numDraftTokens
    (result.sampledTokenIds reqId).length isStale = rolled at generated
  have same : rolled.status = request.status ∧ rolled.resumable = request.resumable := by
    rw [← rolls, rollBackRejected]
    split_ifs <;> exact ⟨rfl, rfl⟩
  have facts : output.resumable = request.resumable ∧
      (ends = false → output.status = request.status) ∧
      (ends = true → output.status.isFinished = true) := by
    rw [← same.1, ← same.2]
    unfold takeTokens at generated
    split_ifs at generated
    · exact updateWithOutput_status generated
    · cases generated
      exact ⟨rfl, fun goes => (by cases goes), fun _ => rfl⟩
    · cases generated
      exact ⟨rfl, fun _ => rfl, fun stops => by cases stops⟩
  cases taken
  cases rejected : (!kept.isEmpty && result.grammarRejects reqId) with
  | false =>
    simp only [Bool.or_false]
    exact ⟨fun resumable => facts.1 ▸ resumable,
      fun goes => ⟨facts.2.1 goes, facts.1⟩, facts.2.2⟩
  | true =>
    simp only [Bool.or_true]
    exact ⟨fun resumable => (by cases resumable), fun goes => (by cases goes), fun _ => rfl⟩

theorem updateWithOutput_frame
    (taken : request.updateWithOutput config tokens isStale = .ok (updated, kept, stopped)) :
    ∃ outputs all status placeholders, updated =
      { request with
        outputTokenIds := outputs
        allTokenIds := all
        status := status
        numOutputPlaceholders := placeholders } := by
  unfold updateWithOutput at taken
  obtain ⟨⟨_, tokens, _⟩, append, taken⟩ := bind_eq_ok.mp taken
  obtain ⟨-, status, rfl, -⟩ := appendUntilStop_ok append
  split_ifs at taken
  · cases taken
    exact ⟨_, _, _, _, rfl⟩
  · obtain ⟨-, -, taken⟩ := bind_eq_ok.mp taken
    cases taken
    exact ⟨_, _, _, _, rfl⟩

theorem applyOutput_frame (taken : request.applyOutput config result reqId numDraftTokens isStale =
      .ok (updated, stopped)) :
    ∃ outputs all status computed placeholders resumable stats, updated =
      { request with
        outputTokenIds := outputs
        allTokenIds := all
        status := status
        numComputedTokens := computed
        numOutputPlaceholders := placeholders
        resumable := resumable
        hasPrefillStats := stats } := by
  unfold applyOutput at taken
  obtain ⟨⟨output, _, _⟩, generated, taken⟩ := bind_eq_ok.mp taken
  cases taken
  have rolled : ∃ computed placeholders,
      request.rollBackRejected config numDraftTokens (result.sampledTokenIds reqId).length
        isStale = { request with
          numComputedTokens := computed, numOutputPlaceholders := placeholders } := by
    unfold rollBackRejected
    split_ifs <;> exact ⟨_, _, rfl⟩
  obtain ⟨computed, placeholders, rolled⟩ := rolled
  rw [rolled] at generated
  have taken : ∃ outputs all status placeholders, output =
      { request with
        outputTokenIds := outputs
        allTokenIds := all
        status := status
        numComputedTokens := computed
        numOutputPlaceholders := placeholders } := by
    unfold takeTokens at generated
    split_ifs at generated
    · obtain ⟨outputs, all, status, placeholders, rfl⟩ := updateWithOutput_frame generated
      exact ⟨_, _, _, _, rfl⟩
    · cases generated
      exact ⟨_, _, _, _, rfl⟩
    · cases generated
      exact ⟨_, _, _, _, rfl⟩
  obtain ⟨outputs, all, status, placeholders, rfl⟩ := taken
  unfold takePrefillStats rejectByGrammar
  split_ifs <;> exact ⟨_, _, _, _, _, _, _, rfl⟩

theorem settle_ok {numTokensScheduled : Int}
    (taken : request.settle numTokensScheduled = .ok (updated, isStale)) :
    isStale = decide (0 < request.numStaleOutputTokens) ∧
      updated = { request with
        numInFlightTokens := request.numInFlightTokens - numTokensScheduled
        numStaleOutputTokens :=
          if 0 < request.numStaleOutputTokens then
            request.numStaleOutputTokens - numTokensScheduled
          else request.numStaleOutputTokens } ∧
      (0 < request.numStaleOutputTokens →
        0 ≤ request.numStaleOutputTokens - numTokensScheduled) := by
  unfold settle at taken
  dsimp only at taken
  split_ifs at taken with stale
  · simp only [bind_eq_ok, pyAssert_eq_ok, decide_eq_true_eq] at taken
    obtain ⟨-, drained, taken⟩ := taken
    cases taken
    simp only [stale, decide_true, if_true, true_and]
    exact fun _ => drained
  · cases taken
    simp only [stale, decide_false, if_false, true_and]
    exact fun positive => absurd positive not_false

end SchedRequest

end VllmEngine.Sched

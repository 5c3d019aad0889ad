import VllmEngine.Sched.FenceSteps

set_option autoImplicit false

namespace VllmEngine.Sched

open Outcome Scheduler.Recorded Nat Bool

namespace Processing

variable {processing next : Processing} {reqId : RequestId} {request : SchedRequest}
  {result : StepResult} {output : SchedulerOutput} {failed : List RequestId} {sent done : Nat}

theorem addStopped_scheduler (processing : Processing) (scheduler : Scheduler)
    (reqId : RequestId) (status : RequestStatus) :
    (processing.addStopped scheduler reqId status).scheduler = scheduler := by
  unfold addStopped
  split_ifs <;> rfl

theorem fenced_handleStoppedRequest {scheduler after : Scheduler} {stopped : SchedRequest}
    {finished : Bool} (fenced : scheduler.Fenced sent done)
    (found : scheduler.requests.lookup reqId = some request)
    (taken : scheduler.handleStoppedRequest reqId request = .ok (finished, stopped, after)) :
    after.Fenced sent done ∧ (finished = true → after = scheduler ∧
      stopped.lastSchedSeq = request.lastSchedSeq) := by
  unfold Scheduler.handleStoppedRequest at taken
  split_ifs at taken with resumable
  · cases taken
    exact ⟨fenced, fun _ => ⟨rfl, rfl⟩⟩
  · have session : request.resumable = true := by simpa using resumable
    split at taken
    · cases taken
      exact ⟨fenced, fun _ => ⟨rfl, rfl⟩⟩
    · rename_i update rest _
      simp only [bind_eq_ok] at taken
      obtain ⟨_, updates, record, -, same⟩ := taken
      cases same
      have seq : ({ request with streamingQueue := some rest } : SchedRequest).lastSchedSeq =
          request.lastSchedSeq := rfl
      have updated := fenced.updateRequestAsSession found seq (.inl session) updates
      exact ⟨updated.enqueueWaitingRequest reqId _, fun never => by cases never⟩
    · cases taken
      have waits : (scheduler.setRequest reqId
          (request.withStatus .waitingForStreamingReq)).Fenced sent done := by
        refine fenced.record found ⟨rfl, fun plain _ => ?_, fun loads => ?_⟩
        · change request.resumable = false at plain
          rw [session] at plain
          cases plain
        · cases loads
      have counted : ({ scheduler.setRequest reqId
            (request.withStatus .waitingForStreamingReq) with
          numWaitingForStreamingInput := scheduler.numWaitingForStreamingInput + 1 } :
            Scheduler).Fenced sent done := waits.of_same ⟨rfl, rfl, rfl, rfl, rfl⟩ rfl
      exact ⟨counted.enqueueWaitingRequest reqId _, fun never => by cases never⟩

section

variable (fenced : processing.scheduler.Fenced sent done)
  (found : processing.scheduler.requests.lookup reqId = some request)

include fenced found

theorem fenced_stop {status : RequestStatus}
    (taken : processing.stop result reqId status request = .ok next) :
    next.scheduler.Fenced sent done := by
  unfold stop at taken
  obtain ⟨⟨finished, _, _⟩, handled, taken⟩ := bind_eq_ok.mp taken
  obtain ⟨after, ends⟩ := fenced_handleStoppedRequest fenced found handled
  cases finished with
  | false =>
    cases taken
    rw [addStopped_scheduler]
    exact after
  | true =>
    obtain ⟨rfl, same⟩ := ends rfl
    simp only [Bool.not_true, Bool.false_eq_true, if_false, bind_eq_ok] at taken
    obtain ⟨_, freed, taken⟩ := taken
    cases taken
    rw [addStopped_scheduler]
    exact fenced.freeRequest found same freed

theorem fenced_deliver {isStale : Bool}
    (taken : processing.deliver result output reqId request isStale = .ok next) :
    next.scheduler.Fenced sent done := by
  unfold Processing.deliver at taken
  obtain ⟨⟨updated, stopped⟩, applied, taken⟩ := bind_eq_ok.mp taken
  obtain ⟨_, kept, ended⟩ := SchedRequest.applyOutput_status applied
  have lastSchedSeq : updated.lastSchedSeq = request.lastSchedSeq := by
    obtain ⟨_, _, _, _, _, _, _, rfl⟩ := SchedRequest.applyOutput_frame applied
    rfl
  cases stopped with
  | false =>
    cases taken
    obtain ⟨status, sameResumable⟩ := kept rfl
    exact fenced.record found (of_same lastSchedSeq sameResumable status)
  | true =>
    have finished := ended rfl
    have marked := fenced.record found (of_isFinished lastSchedSeq finished)
    exact fenced_stop marked (AList.lookup_insert _) taken

end

theorem fenced_processRequest (fenced : processing.scheduler.Fenced sent done)
    (taken : processRequest result output failed processing reqId = .ok next) :
    next.scheduler.Fenced sent done := by
  unfold Processing.processRequest at taken
  obtain ⟨-, -, taken⟩ := bind_eq_ok.mp taken
  split at taken
  · cases taken
    exact fenced
  · rename_i request found
    simp only [bind_eq_ok] at taken
    obtain ⟨⟨counted, _⟩, settles, taken⟩ := taken
    obtain ⟨-, same, -⟩ := SchedRequest.settle_ok settles
    have recorded : Scheduler.Recorded request counted := by
      rw [same]
      exact of_same rfl rfl rfl
    have settled := fenced.record found recorded
    split_ifs at taken
    · cases taken
      exact settled
    · exact fenced_deliver settled (AList.lookup_insert _) taken

end Processing

namespace Scheduler

variable {scheduler next : Scheduler} {reqId : RequestId} {answers : FreeAnswers}
  {result : StepResult} {output : SchedulerOutput} {sent done : Nat}

section

variable (fenced : scheduler.Fenced sent done)

include fenced

theorem Fenced.countProcessed (pending : 0 < output.totalNumScheduledTokens → done < sent) :
    (scheduler.countProcessed output).Fenced sent
      (done + if 0 < output.totalNumScheduledTokens then 1 else 0) := by
  refine fenced.mono ?_ (countProcessed_same scheduler output).requests
    (fenced.ledger.countProcessed pending)
  unfold Scheduler.countProcessed
  dsimp only
  split_ifs
  · unfold drainDeferredFrees
    dsimp only
    rw [foldl_giveBack]
    exact ⟨fun _ => le_refl _, le_refl _, le_succ _⟩
  · exact ⟨fun _ => le_refl _, le_refl _, le_succ _⟩
  · exact Eases.refl

theorem Fenced.handleInvalidBlocks (invalidLoads : RequestId → Option Int) :
    (scheduler.handleInvalidBlocks invalidLoads).2.Fenced sent done := by
  have truncated (ids : List RequestId) :
      (ids.foldl (truncateLoad invalidLoads) scheduler).Fenced sent done := by
    refine List.foldlRecOn (motive := fun next : Scheduler => next.Fenced sent done) _ _ fenced
      fun scheduler fenced reqId _ => ?_
    unfold truncateLoad
    split
    · rename_i found _
      exact fenced.record found (.of_same rfl rfl rfl)
    · exact fenced
  unfold Scheduler.handleInvalidBlocks
  split_ifs
  · exact truncated _
  · exact (truncated _).of_same ⟨rfl, rfl, rfl, rfl, rfl⟩ rfl

theorem Fenced.updateFromOutput (pending : 0 < output.totalNumScheduledTokens → done < sent)
    (taken : scheduler.updateFromOutput output result = .ok next) :
    next.Fenced sent (done + if 0 < output.totalNumScheduledTokens then 1 else 0) := by
  unfold Scheduler.updateFromOutput at taken
  simp only [bind_eq_ok] at taken
  obtain ⟨processing, loop, errors, finishes, _, receives, sends⟩ := taken
  have start := (fenced.countProcessed pending).handleInvalidBlocks result.invalidLoads
  generalize (done + if 0 < output.totalNumScheduledTokens then 1 else 0) = done at start ⊢
  set failed := ((scheduler.countProcessed output).handleInvalidBlocks result.invalidLoads).1
  have processKept (state : Processing) (reqId : RequestId)
      (_ : reqId ∈ output.numScheduledTokens.keys) (after : Processing)
      (taken : Processing.processRequest result output failed state reqId = .ok after)
      (fenced : state.scheduler.Fenced sent done) : after.scheduler.Fenced sent done :=
    Processing.fenced_processRequest fenced taken
  have looped := (Run.always_of_kept processKept start).final loop
  have cleared : ({ removeStopped processing with grammarCompileErrorReqs := [] } :
      Scheduler).Fenced sent done := looped.of_same ⟨rfl, rfl, rfl, rfl, rfl⟩ rfl
  have finished : errors.Fenced sent done := cleared.finishRequests finishes
  exact connectorReports_kept (fun state => state.Fenced sent done)
    (fun _ _ fenced => fenced.of_same ⟨rfl, rfl, rfl, rfl, rfl⟩ rfl)
    (fun _ _ _ _ _ fenced found => fenced.freeBlocks found) finished receives sends

end

end Scheduler

end VllmEngine.Sched

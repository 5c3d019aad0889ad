import VllmEngine.Sched.Placement

set_option autoImplicit false

namespace VllmEngine.Sched

open List Scheduler.Placed Scheduler Pass

namespace Scheduler

variable {scheduler : Scheduler} {reqId : RequestId} {request : SchedRequest} {fromSkipped : Bool}
  {whole : Prop} {held : List RequestId}

theorem count_popWaiting (member : reqId ∈ queueOf scheduler fromSkipped) (other : RequestId) :
    (popWaiting scheduler fromSkipped reqId).waiting.count other +
        (popWaiting scheduler fromSkipped reqId).skippedWaiting.count other +
        [reqId].count other =
      scheduler.waiting.count other + scheduler.skippedWaiting.count other := by
  unfold queueOf at member
  unfold popWaiting RequestQueue.popRequest
  split_ifs at member ⊢ with skipped
  · have count := (perm_cons_erase member).count_eq other
    rw [count_cons] at count
    rw [count_singleton]
    dsimp only
    omega
  · have count := (perm_cons_erase member).count_eq other
    rw [count_cons] at count
    rw [count_singleton]
    dsimp only
    omega

theorem popWaiting_frame (scheduler : Scheduler) (fromSkipped : Bool) (reqId : RequestId) :
    (popWaiting scheduler fromSkipped reqId).requests = scheduler.requests ∧
      (popWaiting scheduler fromSkipped reqId).running = scheduler.running ∧
      (popWaiting scheduler fromSkipped reqId).numWaitingForStreamingInput =
        scheduler.numWaitingForStreamingInput := by
  unfold popWaiting
  split_ifs <;> exact ⟨rfl, rfl, rfl⟩

section

variable (placed : scheduler.Placed whole held) (member : reqId ∈ queueOf scheduler fromSkipped)

include placed member

theorem waits_queueOf : waits (scheduler.statusOf reqId) = 1 := by
  apply placed.of_mem_waiting
  unfold queueOf at member
  split_ifs at member
  · exact .inr member
  · exact .inl member

theorem Placed.unblocked (found : scheduler.requests.lookup reqId = some request)
    (unblocked : isBlockedWaitingStatus request.status = false) :
    request.status = .waiting ∨ request.status = .preempted := by
  have waits := waits_queueOf placed member
  rw [statusOf_of_lookup found] at waits
  cases status : request.status <;> simp_all [Sched.waits, isBlockedWaitingStatus]

end

end Scheduler

namespace Pass

variable {answers : ScheduleAnswers} {deferPrefills : Bool} {pass next : Pass} {whole : Prop}

def Placed (pass : Pass) (whole : Prop) : Prop :=
  pass.scheduler.Placed whole pass.stepSkippedWaiting

variable {fromSkipped : Bool} {reqId : RequestId} {request : SchedRequest} {cached : CachedTokens}

theorem Placed.skipWaiting (placed : pass.Placed whole)
    (member : reqId ∈ queueOf pass.scheduler fromSkipped) :
    (pass.skipWaiting fromSkipped reqId).Placed whole := by
  obtain ⟨requests, running, counter⟩ := popWaiting_frame pass.scheduler fromSkipped reqId
  have statuses : (popWaiting pass.scheduler fromSkipped reqId).statusOf =
      pass.scheduler.statusOf := by
    unfold statusOf
    rw [requests]
  refine ⟨fun other => ?_, fun other => ?_, ?_⟩
  · change (popWaiting pass.scheduler fromSkipped reqId).running.count other =
      runs ((popWaiting pass.scheduler fromSkipped reqId).statusOf other)
    rw [running, statuses]
    exact Scheduler.Placed.running placed other
  · have same : (popWaiting pass.scheduler fromSkipped reqId).queued
        (reqId :: pass.stepSkippedWaiting) other =
        pass.scheduler.queued pass.stepSkippedWaiting other := by
      have count := count_popWaiting member other
      rw [count_singleton] at count
      unfold queued
      rw [count_cons]
      omega
    change Fits whole _ (waits ((popWaiting pass.scheduler fromSkipped reqId).statusOf other))
    rw [statuses]
    exact (waiting placed other).of_count same
  · intro whole
    change (popWaiting pass.scheduler fromSkipped reqId).numWaitingForStreamingInput =
      ((popWaiting pass.scheduler fromSkipped reqId).streaming : Int)
    unfold Scheduler.streaming
    rw [counter, requests]
    exact streaming placed whole

section

variable (placed : pass.Placed whole) (member : reqId ∈ queueOf pass.scheduler fromSkipped)
  (found : pass.scheduler.requests.lookup reqId = some request)
  (unblocked : isBlockedWaitingStatus request.status = false)

include placed member found unblocked

theorem Placed.startLoad : (pass.startLoad fromSkipped reqId request cached).Placed whole := by
  have status := Scheduler.Placed.unblocked placed member found unblocked
  have skipped := placed.skipWaiting member
  have was : (popWaiting pass.scheduler fromSkipped reqId).statusOf reqId =
      some request.status := by
    apply statusOf_of_lookup
    rw [(popWaiting_frame pass.scheduler fromSkipped reqId).1]
    exact found
  apply Scheduler.Placed.restatus skipped was
  all_goals rcases status with same | same <;> rw [same] <;> rfl

theorem Placed.run {updated : SchedRequest} (running : updated.status = .running) :
    (((popWaiting pass.scheduler fromSkipped reqId).withRunning
      (pass.scheduler.running ++ [reqId])).setRequest reqId updated).Placed whole
      pass.stepSkippedWaiting := by
  have status := Scheduler.Placed.unblocked placed member found unblocked
  have was : pass.scheduler.statusOf reqId = some request.status :=
    statusOf_of_lookup found
  obtain ⟨requests, -, counter⟩ := popWaiting_frame pass.scheduler fromSkipped reqId
  generalize joined : (popWaiting pass.scheduler fromSkipped reqId).withRunning
    (pass.scheduler.running ++ [reqId]) = after
  have statuses : after.statusOf = pass.scheduler.statusOf := by
    unfold statusOf
    rw [← requests, ← joined]
    rfl
  have tallied : after.streaming = pass.scheduler.streaming := by
    unfold Scheduler.streaming
    rw [← requests, ← joined]
    rfl
  have queues (other : RequestId) : after.queued pass.stepSkippedWaiting other +
      [reqId].count other = pass.scheduler.queued pass.stepSkippedWaiting other := by
    have count := count_popWaiting member other
    unfold queued
    rw [← joined]
    dsimp only [withRunning]
    omega
  have set := streaming_setRequest after reqId updated
  rw [statuses, tallied, running] at set
  refine Scheduler.Placed.move placed
    (?_ : _ = Function.update pass.scheduler.statusOf reqId (some RequestStatus.running)) set
    ?_ ?_ ?_
  · rw [statusOf_setRequest, statuses, running]
  · rw [was, ← joined]
    change (popWaiting pass.scheduler fromSkipped reqId).numWaitingForStreamingInput + _ = _
    rw [counter]
    rcases status with same | same <;> rw [same] <;> rfl
  · have count := queues reqId
    have waited := (Scheduler.Placed.waiting placed reqId).1
    rw [waits_queueOf placed member] at waited
    have idle : pass.scheduler.running.count reqId = 0 := by
      rw [Scheduler.Placed.running placed, was]
      rcases status with same | same <;> rw [same] <;> rfl
    rw [count_singleton_self] at count
    refine ⟨?_, .of_eq (Nat.le_zero.mp (Nat.le_of_succ_le_succ (count.trans_le waited)))⟩
    rw [← joined]
    change (pass.scheduler.running ++ [reqId]).count reqId = 1
    rw [count_append, count_singleton_self, idle]
  · intro other different
    have count := queues other
    have apart : [reqId].count other = 0 := by
      rw [count_singleton, if_neg (by simpa using different.symm)]
    rw [apart] at count
    refine ⟨?_, count⟩
    rw [← joined]
    change (pass.scheduler.running ++ [reqId]).count other = _
    rw [count_append, apart, Nat.add_zero]

end

theorem admit_scheduler {padSpecDecode : Bool} {numNewTokens : Int}
    (taken : pass.admitWaiting fromSkipped reqId request cached numNewTokens padSpecDecode =
      .ok next) : next.scheduler = ((popWaiting pass.scheduler fromSkipped reqId).withRunning
        (pass.scheduler.running ++ [reqId])).setRequest reqId
        { request with status := .running, numComputedTokens := cached.numComputedTokens } ∧
      next.stepSkippedWaiting = pass.stepSkippedWaiting := by
  have running := (popWaiting_frame pass.scheduler fromSkipped reqId).2.1
  unfold admitWaiting at taken
  dsimp only at taken
  rw [running] at taken
  split at taken
  · cases taken
    exact ⟨rfl, rfl⟩
  · cases taken
    exact ⟨rfl, rfl⟩
  · cases taken

theorem Placed.promote {after : Scheduler} (placed : pass.Placed whole)
    (found : pass.scheduler.requests.lookup reqId = some request)
    (promotion : Promotion answers reqId request pass.scheduler after) :
    (pass.withScheduler after).Placed whole := by
  obtain ⟨_, _, _, computed, status, rfl, waits, -, -⟩ := promotion.result
  have set : (pass.scheduler.setRequest reqId
      { request with numComputedTokens := computed, status := status }).Placed whole
      pass.stepSkippedWaiting := by
    apply restatus placed (statusOf_of_lookup found)
    all_goals
      rcases promotion.blocked with was | was <;> rcases waits with rfl | rfl <;> rw [was] <;> rfl
  exact ⟨set.running, set.waiting, set.streaming⟩

theorem Placed.requeueSkipped (placed : pass.Placed whole) (deferPrefills : Bool) :
    (pass.requeueSkipped deferPrefills).Placed whole := by
  refine ⟨placed.running, fun other => ?_, placed.streaming⟩
  have same : pass.scheduler.waiting.count other +
      (pass.stepSkippedWaiting.reverse ++ pass.scheduler.skippedWaiting).count other + 0 =
      pass.scheduler.queued pass.stepSkippedWaiting other := by
    rw [count_append, count_reverse, queued]
    omega
  exact (waiting placed other).of_count same

theorem RunningStep.placed {bounded : Prop} (step : RunningStep answers bounded pass next)
    (placed : pass.Placed whole) : next.Placed whole := by
  cases step with
  | skip | countAllocation => exact placed
  | preempt found taken unscheduled =>
    obtain ⟨held, _, left, preempts⟩ := preempt_scheduler found taken
    unfold Placed
    rw [held]
    exact preemptRequest placed left preempts
  | schedule member fresh found => exact setRequest placed found rfl

theorem WaitingStep.placed (step : WaitingStep answers deferPrefills pass next)
    (placed : pass.Placed whole) : next.Placed whole := by
  cases step with
  | countAllocation => exact placed
  | skip member => exact placed.skipWaiting member
  | promote found taken =>
    rcases tryPromote_ok taken with ⟨-, _, rfl⟩ | ⟨-, promotion⟩
    · exact ⟨placed.running, placed.waiting, placed.streaming⟩
    · exact placed.promote found promotion
  | setBoundary boundary found => exact setRequest placed found rfl
  | startLoad admissible lookedUp loads =>
    exact Placed.startLoad placed admissible.member admissible.found admissible.unblocked
  | admitWaiting admissible lookedUp computes tokens taken =>
    obtain ⟨after, held⟩ := admit_scheduler taken
    unfold Placed
    rw [after, held]
    exact Placed.run placed admissible.member admissible.found admissible.unblocked rfl

end Pass

namespace Scheduler

variable {scheduler next : Scheduler} {whole : Prop} {held : List RequestId} {answers : ScheduleAnswers}
  {output : SchedulerOutput}

theorem Placed.modifyAll {change : RequestId → SchedRequest → SchedRequest}
    (kept : ∀ reqId request, (change reqId request).status = request.status)
    {ids : List RequestId} (placed : scheduler.Placed whole held)
    (taken : ids.foldlM (modify change) scheduler = .ok next) : next.Placed whole held := by
  induction ids generalizing scheduler with
  | nil =>
    cases taken
    exact placed
  | cons reqId rest ih =>
    obtain ⟨_, first, others⟩ := Run.foldlM_cons_ok taken
    unfold modify at first
    simp only [Outcome.bind_eq_ok, Outcome.pure_eq_ok, request_eq_ok] at first
    obtain ⟨request, found, rfl⟩ := first
    exact ih (placed.setRequest found (kept reqId request)) others

theorem Placed.updateAfterSchedule (placed : scheduler.Placed whole held)
    (taken : scheduler.updateAfterSchedule output = .ok next) : next.Placed whole held := by
  unfold Scheduler.updateAfterSchedule at taken
  obtain ⟨middle, counted, taken⟩ := Outcome.bind_eq_ok.mp taken
  have advanced : middle.Placed whole held := by
    refine placed.modifyAll ?_ counted
    intro reqId request
    rfl
  split_ifs at taken
  · cases taken
    exact advanced
  · refine advanced.modifyAll (fun reqId request => ?_) taken
    unfold SchedRequest.afterScheduleAsync
    split_ifs <;> rfl

theorem closeStep_same (scheduler : Scheduler) (answers : ScheduleAnswers)
    (output : SchedulerOutput) : SameQueues scheduler (scheduler.closeStep answers output) := by
  have retained : SameQueues scheduler
      (if answers.cowRetainedBlocks.isEmpty then scheduler
        else scheduler.freeCowRetainedBlocks answers.cowRetainedBlocks
          (scheduler.schedStepSeq + 1)) := by
    split_ifs
    · exact ⟨rfl, rfl, rfl, rfl, rfl⟩
    · exact freeCowRetainedBlocks_same _ _ _
  unfold closeStep
  split_ifs at retained ⊢
  all_goals exact ⟨retained.requests, retained.running, retained.waiting, retained.skippedWaiting,
    retained.counter⟩

theorem Placed.running_nodup (placed : scheduler.Placed whole held) : scheduler.running.Nodup := by
  rw [nodup_iff_count_le_one]
  intro reqId
  rw [placed.running]
  unfold runs
  split_ifs <;> omega

theorem Placed.schedule (placed : scheduler.Placed whole [])
    (taken : scheduler.schedule answers = .ok (output, next)) : next.Placed whole [] := by
  obtain ⟨pass, scheduled, -, -, -, -, -, closed⟩ :=
    schedule_ok placed.running_nodup (fun never : False => never.elim) taken
  have ended : pass.Placed whole := by
    apply scheduled.keeps (fun _ _ step kept => step.placed kept) (fun _ _ kept => kept)
      (fun _ _ step kept => step.placed kept) (fun _ kept => Pass.Placed.requeueSkipped kept _)
    exact ⟨placed.running, placed.waiting, placed.streaming⟩
  unfold Pass.Placed at ended
  rw [scheduled.stepSkippedWaiting] at ended
  exact (ended.of_same (closeStep_same _ _ _)).updateAfterSchedule closed

end Scheduler

end VllmEngine.Sched

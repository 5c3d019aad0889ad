import VllmEngine.Sched.QueueSteps

set_option autoImplicit false

namespace VllmEngine.Sched

open List Function Outcome RequestQueue

theorem count_removeRequests (queue toRemove : List RequestId) (reqId : RequestId) :
    (removeRequests queue toRemove).count reqId =
      if reqId ∈ toRemove then 0 else queue.count reqId := by
  split_ifs with removed
  · rw [count_eq_zero]
    intro member
    exact (by simpa using (List.mem_filter.mp member).2 : reqId ∉ toRemove) removed
  · exact count_filter (by simpa using removed)

theorem count_removeAll {items : List RequestId} (toRemove : List RequestId) (reqId : RequestId)
    (once : items.count reqId ≤ 1) :
    (removeAll items toRemove).count reqId =
      if reqId ∈ toRemove then 0 else items.count reqId := by
  unfold removeAll
  split
  · simp
  · rename_i item
    by_cases same : reqId = item
    · subst same
      rw [if_pos mem_cons_self, count_erase_self]
      omega
    · rw [if_neg (by simpa using same), count_erase_of_ne same]
  · exact count_removeRequests items _ reqId

theorem runs_le_one (status : Option RequestStatus) : runs status ≤ 1 := by
  unfold runs
  split_ifs <;> omega

namespace Scheduler

variable {scheduler next : Scheduler} {reqId : RequestId} {request : SchedRequest}
  {answers : FreeAnswers} {blocks : List GpuBlockId} {finishedStatus : RequestStatus}
  {ids : List RequestId} {status : RequestStatus} {update : SessionUpdate} {whole : Prop}

def Retired : Option RequestStatus → Prop
  | none => True
  | some status => status.isFinished = true

theorem Retired.absent {status : Option RequestStatus} (retired : Retired status) :
    runs status = 0 ∧ waits status = 0 ∧ streams status = 0 := by
  cases status with
  | none => exact ⟨rfl, rfl, rfl⟩
  | some status =>
    exact ⟨runs_of_isFinished retired, waits_of_isFinished retired, streams_of_isFinished retired⟩

structure Retires (scheduler : Scheduler) (reqId : RequestId) (next : Scheduler) : Prop where
  status : ∃ status, Retired status ∧
    next.statusOf = Function.update scheduler.statusOf reqId status
  streaming : next.streaming + streams (scheduler.statusOf reqId) = scheduler.streaming
  running : next.running = scheduler.running
  waiting : next.waiting = scheduler.waiting
  skippedWaiting : next.skippedWaiting = scheduler.skippedWaiting
  counter : next.numWaitingForStreamingInput = scheduler.numWaitingForStreamingInput

theorem freeBlocks_retires (taken : scheduler.freeBlocks reqId request blocks = .ok next) :
    Retires scheduler reqId next := by
  unfold freeBlocks at taken
  simp only [bind_eq_ok, pure_eq_ok] at taken
  obtain ⟨-, -, rfl⟩ := taken
  obtain ⟨_, _, freed⟩ := freeRequestBlocks_eq scheduler reqId request blocks
  rw [freed]
  refine ⟨⟨none, trivial, ?_⟩, ?_, rfl, rfl, rfl, rfl⟩
  · exact statusOf_eraseRequest scheduler reqId
  · exact streaming_eraseRequest scheduler reqId

theorem setRequest_retires (scheduler : Scheduler) (reqId : RequestId)
    (finished : request.isFinished = true) :
    Retires scheduler reqId (scheduler.setRequest reqId request) := by
  have counted := streaming_setRequest scheduler reqId request
  rw [streams_of_isFinished finished] at counted
  exact ⟨⟨some request.status, finished, statusOf_setRequest scheduler reqId request⟩, counted,
    rfl, rfl, rfl, rfl⟩

theorem Retires.trans {middle : Scheduler} (first : Retires scheduler reqId middle)
    (second : Retires middle reqId next) : Retires scheduler reqId next := by
  obtain ⟨_, retired, statuses⟩ := first.status
  obtain ⟨status, retiredAfter, after⟩ := second.status
  have counted := second.streaming
  rw [statuses, update_self, retired.absent.2.2] at counted
  refine ⟨⟨status, retiredAfter, ?_⟩, ?_, second.running.trans first.running,
    second.waiting.trans first.waiting, second.skippedWaiting.trans first.skippedWaiting,
    second.counter.trans first.counter⟩
  · rw [after, statuses, update_idem]
  · have before := first.streaming
    omega

theorem freeRequest_retires {delayFreeBlocks : Bool}
    (taken : scheduler.freeRequest answers reqId request delayFreeBlocks = .ok next) :
    Retires scheduler reqId next := by
  unfold freeRequest at taken
  simp only [bind_eq_ok, pyAssert_eq_ok] at taken
  obtain ⟨-, finished, taken⟩ := taken
  have set := setRequest_retires scheduler reqId finished
  split_ifs at taken
  · cases taken
    exact set
  · exact set.trans (freeBlocks_retires taken)

structure Leaving (scheduler : Scheduler) (whole : Prop) (leaving : List RequestId) : Prop where
  running : ∀ reqId, scheduler.running.count reqId =
    if reqId ∈ leaving then 0 else runs (scheduler.statusOf reqId)
  waiting : ∀ reqId, Fits whole
    (scheduler.waiting.count reqId + scheduler.skippedWaiting.count reqId)
    (if reqId ∈ leaving then 0 else waits (scheduler.statusOf reqId))
  streaming : whole → scheduler.numWaitingForStreamingInput +
    (leaving.map fun reqId => streams (scheduler.statusOf reqId)).sum = scheduler.streaming

theorem Leaving.placed (left : scheduler.Leaving whole []) : scheduler.Placed whole [] := by
  refine ⟨fun reqId => ?_, fun reqId => ?_, ?_⟩
  · simpa using left.running reqId
  · simpa using left.waiting reqId
  · simpa using left.streaming

theorem Leaving.retire {rest : List RequestId} (left : scheduler.Leaving whole (reqId :: rest))
    (apart : reqId ∉ rest) (retires : Retires scheduler reqId next) : next.Leaving whole rest := by
  obtain ⟨status, retired, statuses⟩ := retires.status
  obtain ⟨noRun, noWait, _⟩ := retired.absent
  refine ⟨fun other => ?_, fun other => ?_, ?_⟩
  · have before := left.running other
    rw [retires.running, before, statuses]
    by_cases same : other = reqId
    · subst same
      rw [if_pos mem_cons_self, if_neg apart, update_self, noRun]
    · rw [update_of_ne same]
      simp only [mem_cons, same, false_or]
  · have before := left.waiting other
    rw [retires.waiting, retires.skippedWaiting, statuses]
    by_cases same : other = reqId
    · subst same
      rw [if_pos mem_cons_self] at before
      rwa [if_neg apart, update_self, noWait]
    · rw [update_of_ne same]
      simpa only [mem_cons, same, false_or] using before
  · intro whole
    have before := left.streaming whole
    have counted := retires.streaming
    have others : (rest.map fun other => streams (next.statusOf other)) =
        rest.map fun other => streams (scheduler.statusOf other) := by
      refine map_congr_left fun other member => ?_
      rw [statuses, update_of_ne]
      rintro rfl
      exact apart member
    rw [map_cons, sum_cons] at before
    rw [others, retires.counter]
    omega

theorem finishRequest_retires
    (taken : finishRequest answers finishedStatus scheduler reqId = .ok next) :
    Retires scheduler reqId next := by
  unfold finishRequest at taken
  simp only [bind_eq_ok] at taken
  obtain ⟨_, -, taken⟩ := taken
  split_ifs at taken
  · have retires := freeRequest_retires taken
    exact ⟨retires.status, retires.streaming, retires.running, retires.waiting,
      retires.skippedWaiting, retires.counter⟩
  · exact freeRequest_retires taken

theorem Leaving.finishAll (left : scheduler.Leaving whole ids) (apart : ids.Nodup)
    (taken : ids.foldlM (finishRequest answers finishedStatus) scheduler = .ok next) :
    next.Placed whole [] := by
  induction ids generalizing scheduler with
  | nil =>
    cases taken
    exact left.placed
  | cons reqId rest ih =>
    obtain ⟨_, first, others⟩ := Run.foldlM_cons_ok taken
    obtain ⟨notMem, apart⟩ := List.nodup_cons.mp apart
    exact ih (left.retire notMem (finishRequest_retires first)) apart others

theorem hasStatus_iff :
    scheduler.hasStatus status reqId = true ↔ scheduler.statusOf reqId = some status := by
  unfold hasStatus statusOf
  cases scheduler.requests.lookup reqId <;> simp

theorem sum_streams (scheduler : Scheduler) (ids : List RequestId) :
    (ids.filter (scheduler.hasStatus .waitingForStreamingReq)).length =
      (ids.map fun reqId => streams (scheduler.statusOf reqId)).sum := by
  induction ids with
  | nil => rfl
  | cons reqId rest ih =>
    rw [map_cons, sum_cons, filter_cons, ← ih]
    unfold streams
    by_cases waits : scheduler.statusOf reqId = some .waitingForStreamingReq
    · rw [if_pos (hasStatus_iff.mpr waits), if_pos waits, length_cons, Nat.add_comm]
    · rw [if_neg (fun has => waits (hasStatus_iff.mp has)), if_neg waits, Nat.zero_add]

theorem Placed.removeFromQueues (placed : scheduler.Placed whole []) (ids : List RequestId) :
    (scheduler.removeFromQueues ids).Leaving whole (scheduler.liveIds ids) := by
  refine ⟨fun reqId => ?_, fun reqId => ?_, ?_⟩
  · have running := placed.running reqId
    change (removeAll scheduler.running _).count reqId =
      if reqId ∈ scheduler.liveIds ids then 0 else runs (scheduler.statusOf reqId)
    rw [count_removeAll _ _ (by rw [running]; exact runs_le_one _), running]
    simp only [mem_filter, hasStatus_iff]
    by_cases leaves : reqId ∈ scheduler.liveIds ids
    · by_cases runs : scheduler.statusOf reqId = some .running
      · rw [if_pos ⟨leaves, runs⟩, if_pos leaves]
      · rw [if_neg (fun both => runs both.2), if_pos leaves, Sched.runs, if_neg runs]
    · rw [if_neg (fun both => leaves both.1), if_neg leaves]
  · have waiting := placed.waiting reqId
    change Fits whole ((removeRequests scheduler.waiting _).count reqId +
        (removeRequests scheduler.skippedWaiting _).count reqId)
      (if reqId ∈ scheduler.liveIds ids then 0 else waits (scheduler.statusOf reqId))
    rw [count_removeRequests, count_removeRequests]
    simp only [mem_filter, Bool.not_eq_true', ← Bool.not_eq_true, hasStatus_iff]
    by_cases leaves : reqId ∈ scheduler.liveIds ids
    · by_cases runs : scheduler.statusOf reqId = some .running
      · rw [runs] at waiting
        rw [if_neg (fun both => both.2 runs), if_neg (fun both => both.2 runs), if_pos leaves]
        exact waiting
      · rw [if_pos ⟨leaves, runs⟩, if_pos ⟨leaves, runs⟩, if_pos leaves]
        exact .of_eq rfl
    · rw [if_neg (fun both => leaves both.1), if_neg (fun both => leaves both.1), if_neg leaves]
      exact waiting
  · intro whole
    have streaming := placed.streaming whole
    have counted := sum_streams scheduler (scheduler.liveIds ids)
    change scheduler.numWaitingForStreamingInput - (((scheduler.liveIds ids).filter
          (scheduler.hasStatus .waitingForStreamingReq)).length : Int) +
      ((scheduler.liveIds ids).map fun reqId => streams (scheduler.statusOf reqId)).sum =
        scheduler.streaming
    rw [counted, streaming]
    omega

theorem Placed.finishRequests (placed : scheduler.Placed whole [])
    (taken : scheduler.finishRequests answers ids finishedStatus = .ok next) : next.Placed whole [] := by
  unfold Scheduler.finishRequests at taken
  obtain ⟨-, -, taken⟩ := bind_eq_ok.mp taken
  exact (placed.removeFromQueues ids.dedup).finishAll ((nodup_dedup ids).filter _) taken

theorem updateAsSession_status {session updated : SchedRequest}
    (taken : session.updateAsSession update = .ok updated) : updated.status = .waiting := by
  unfold SchedRequest.updateAsSession at taken
  split at taken
  · cases taken
  · cases taken
    rfl

theorem Placed.updateRequestAsSession (placed : scheduler.Placed whole [])
    (found : scheduler.requests.lookup reqId = some request)
    (waits : request.status = .waitingForStreamingReq)
    (taken : scheduler.updateRequestAsSession reqId request update = .ok next) :
    next.Placed whole [] := by
  unfold Scheduler.updateRequestAsSession at taken
  simp only [bind_eq_ok, pure_eq_ok, if_pos waits] at taken
  obtain ⟨updated, session, rfl⟩ := taken
  have status := updateAsSession_status session
  have was : scheduler.statusOf reqId = some .waitingForStreamingReq := by
    rw [← waits]
    exact statusOf_of_lookup found
  have set := streaming_setRequest scheduler reqId updated
  rw [status] at set
  refine placed.move
    (?_ : _ = Function.update scheduler.statusOf reqId (some RequestStatus.waiting)) set ?_ ?_ ?_
  · rw [← status]
    exact statusOf_setRequest scheduler reqId updated
  · rw [was]
    change scheduler.numWaitingForStreamingInput - 1 + 1 = scheduler.numWaitingForStreamingInput + 0
    omega
  · have running := placed.running reqId
    have waiting := placed.waiting reqId
    rw [was] at running waiting
    exact ⟨running, waiting⟩
  · intro other _
    exact ⟨rfl, rfl⟩

theorem enqueueWaitingRequest_frame (scheduler : Scheduler) (reqId : RequestId)
    (status : RequestStatus) :
    (scheduler.enqueueWaitingRequest reqId status).requests = scheduler.requests ∧
      (scheduler.enqueueWaitingRequest reqId status).running = scheduler.running ∧
      (scheduler.enqueueWaitingRequest reqId status).numWaitingForStreamingInput =
        scheduler.numWaitingForStreamingInput := by
  unfold enqueueWaitingRequest
  split_ifs <;> exact ⟨rfl, rfl, rfl⟩

theorem queued_enqueueWaitingRequest (scheduler : Scheduler) (reqId : RequestId)
    (status : RequestStatus) (other : RequestId) :
    (scheduler.enqueueWaitingRequest reqId status).queued [] other =
      scheduler.queued [] other + [reqId].count other := by
  unfold enqueueWaitingRequest queued RequestQueue.addRequest
  split_ifs <;> dsimp only <;> rw [count_append] <;> omega

theorem Placed.enqueue (placed : scheduler.Placed whole [])
    (absent : Retired (scheduler.statusOf reqId)) (same : request.status = status)
    (waits : waits (some status) = 1) (idle : streams (some status) = 0) :
    ((scheduler.enqueueWaitingRequest reqId status).setRequest reqId request).Placed whole [] := by
  subst same
  obtain ⟨noRun, noWait, noStream⟩ := absent.absent
  have running := placed.running reqId
  have waiting := placed.waiting reqId
  have frame := enqueueWaitingRequest_frame scheduler reqId request.status
  have queues := queued_enqueueWaitingRequest scheduler reqId request.status
  have statuses : (scheduler.enqueueWaitingRequest reqId request.status).statusOf =
      scheduler.statusOf := by
    unfold statusOf
    rw [frame.1]
  have tallied : (scheduler.enqueueWaitingRequest reqId request.status).streaming =
      scheduler.streaming := by
    unfold Scheduler.streaming
    rw [frame.1]
  generalize scheduler.enqueueWaitingRequest reqId request.status = after at *
  have set := streaming_setRequest after reqId request
  rw [statuses, tallied] at set
  refine placed.move
    (?_ : _ = update scheduler.statusOf reqId (some request.status)) set ?_ ?_ ?_
  · rw [statusOf_setRequest, statuses]
  · rw [noStream, idle]
    exact congrArg (· + 0) frame.2.2
  · refine ⟨?_, ?_⟩
    · change after.running.count reqId = _
      have total := runs_add_waits request.status
      rw [frame.2.1, running, noRun]
      split_ifs at total <;> omega
    · change Fits whole (after.queued [] reqId) _
      rw [noWait] at waiting
      rw [queues, count_singleton_self, waits, queued]
      exact .of_eq (congrArg (· + 1) (Nat.le_zero.mp waiting.1))
  · intro other different
    refine ⟨?_, ?_⟩
    · change after.running.count other = _
      rw [frame.2.1]
    · change after.queued [] other = _
      rw [queues, count_singleton, if_neg (by simpa using different.symm), Nat.add_zero]

theorem create_status (new : NewRequest) :
    (SchedRequest.create new).status = .waiting ∨
      (SchedRequest.create new).status = .waitingForStructuredOutputGrammar := by
  unfold SchedRequest.create
  split_ifs <;> simp

section

variable (placed : scheduler.Placed whole [])

include placed

theorem Placed.addNewRequest (new : NewRequest)
    (absent : scheduler.requests.lookup new.requestId = none) :
    (scheduler.addNewRequest (.create new)).Placed whole [] := by
  have gone : Retired (scheduler.statusOf new.requestId) := by
    unfold statusOf
    rw [absent]
    trivial
  unfold Scheduler.addNewRequest
  rcases create_status new with status | status <;> split_ifs
  all_goals
    refine placed.enqueue gone rfl ?_ ?_
    · simp only [status]
      rfl
    · simp only [status]
      rfl

theorem Placed.addRequest {new : NewRequest}
    (taken : scheduler.addRequest answers (.create new) = .ok next) : next.Placed whole [] := by
  unfold Scheduler.addRequest at taken
  split at taken
  · rename_i absent
    cases taken
    exact placed.addNewRequest new absent
  · rename_i existing found
    split_ifs at taken with waits
    · split at taken
      · cases taken
      · cases taken
        exact placed.setRequest found rfl
    · split at taken
      · exact placed.updateRequestAsSession found (by simpa using waits) taken
      · exact placed.finishRequests taken

theorem Placed.resetRunningRequests {blocksOf : RequestId → List GpuBlockId}
    (taken : scheduler.resetRunningRequests blocksOf = .ok next) : next.Placed whole [] := by
  unfold Scheduler.resetRunningRequests at taken
  generalize order : scheduler.running.reverse = ids at taken
  induction ids generalizing scheduler with
  | nil =>
    cases taken
    exact placed
  | cons reqId rest ih =>
    obtain ⟨middle, first, others⟩ := Run.foldlM_cons_ok taken
    have running : scheduler.running = rest.reverse ++ [reqId] := by
      rw [← reverse_cons, ← order, reverse_reverse]
    unfold resetRunningRequests.resetRunningRequest at first
    rw [running, dropLast_concat] at first
    have left : scheduler.running.Perm (reqId :: rest.reverse) := by
      rw [running]
      exact perm_append_singleton reqId _
    have after : middle.running = rest.reverse := by
      obtain ⟨_, _, _, -, -, rfl⟩ := preemptRequest_frame first
      rfl
    apply ih (placed.preemptRequest left first)
    · rw [after, reverse_reverse]
    · exact others

theorem Placed.updateDraftTokenIds
    (drafts : List (RequestId × List Int)) : (scheduler.updateDraftTokenIds drafts).Placed whole [] := by
  unfold Scheduler.updateDraftTokenIds
  refine foldlRecOn (motive := fun next : Scheduler => next.Placed whole []) _ _ placed
    fun scheduler placed draft _ => ?_
  unfold updateDraftTokenIds.update
  split
  · exact placed
  · rename_i found
    split_ifs
    · exact placed
    · exact placed.setRequest found rfl
    · exact placed.setRequest found rfl

end

end Scheduler

end VllmEngine.Sched

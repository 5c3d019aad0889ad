import VllmEngine.Sched.QueueLifecycle
import VllmEngine.Sched.OutputSteps

set_option autoImplicit false

namespace VllmEngine.Sched

open Outcome Function List Scheduler AList SchedRequest

-- The output of a step reaches a streaming session only while the session runs.
def Settled (request : SchedRequest) : Prop :=
  request.resumable = true ∨ request.status = .waitingForStreamingReq →
    request.status = .running ∨ request.isFinished = true ∨
      0 < request.numStaleOutputTokens ∧ request.dropStaleOutput = true

instance (request : SchedRequest) : Decidable (Settled request) :=
  inferInstanceAs (Decidable (_ → _))

namespace Processing

variable {processing next : Processing} {reqId : RequestId} {request : SchedRequest}
  {result : StepResult} {output : SchedulerOutput} {failed : List RequestId} {whole : Prop}

structure Placed (processing : Processing) (whole : Prop) : Prop where
  running : ∀ reqId, processing.scheduler.running.count reqId =
    runs (processing.scheduler.statusOf reqId) + processing.stoppedRunningReqs.count reqId
  waiting : ∀ reqId, Fits whole
    (processing.scheduler.waiting.count reqId + processing.scheduler.skippedWaiting.count reqId)
    (waits (processing.scheduler.statusOf reqId) + processing.stoppedPreemptedReqs.count reqId)
  streaming : whole →
    processing.scheduler.numWaitingForStreamingInput = processing.scheduler.streaming
  once : ∀ reqId,
    runs (processing.scheduler.statusOf reqId) + processing.stoppedRunningReqs.count reqId ≤ 1 ∧
      (whole → waits (processing.scheduler.statusOf reqId) +
        processing.stoppedPreemptedReqs.count reqId ≤ 1)

def Untouched (processing : Processing) (reqId : RequestId) : Prop :=
  reqId ∉ processing.stoppedRunningReqs ∧ reqId ∉ processing.stoppedPreemptedReqs

theorem Placed.move (placed : processing.Placed whole) {status : Option RequestStatus}
    (statuses : next.scheduler.statusOf = update processing.scheduler.statusOf reqId status)
    (streaming : whole → next.scheduler.numWaitingForStreamingInput = next.scheduler.streaming)
    (running : next.scheduler.running = processing.scheduler.running)
    (waiting : ∀ other, other ≠ reqId →
      next.scheduler.waiting.count other + next.scheduler.skippedWaiting.count other =
        processing.scheduler.waiting.count other + processing.scheduler.skippedWaiting.count other)
    (stopped : ∀ other, other ≠ reqId →
      next.stoppedRunningReqs.count other = processing.stoppedRunningReqs.count other ∧
        next.stoppedPreemptedReqs.count other = processing.stoppedPreemptedReqs.count other)
    (runningHere : processing.scheduler.running.count reqId =
      runs status + next.stoppedRunningReqs.count reqId)
    (waitingHere : Fits whole
      (next.scheduler.waiting.count reqId + next.scheduler.skippedWaiting.count reqId)
      (waits status + next.stoppedPreemptedReqs.count reqId))
    (once : runs status + next.stoppedRunningReqs.count reqId ≤ 1 ∧
      (whole → waits status + next.stoppedPreemptedReqs.count reqId ≤ 1)) : next.Placed whole := by
  refine ⟨fun other => ?_, fun other => ?_, streaming, fun other => ?_⟩ <;> rw [statuses] <;>
    rcases eq_or_ne other reqId with rfl | different
  · rwa [running, update_self]
  · rw [running, update_of_ne different, (stopped other different).1]
    exact placed.running other
  · rwa [update_self]
  · rw [update_of_ne different, (stopped other different).2, waiting other different]
    exact placed.waiting other
  · rwa [update_self]
  · rw [update_of_ne different, (stopped other different).1, (stopped other different).2]
    exact placed.once other

def withScheduler (processing : Processing) (scheduler : Scheduler) : Processing :=
  { processing with scheduler := scheduler }

theorem Placed.setRequest (placed : processing.Placed whole) {before : SchedRequest}
    (found : processing.scheduler.requests.lookup reqId = some before)
    (kept : request.status = before.status) :
    (processing.withScheduler (processing.scheduler.setRequest reqId request)).Placed whole := by
  have was : processing.scheduler.statusOf reqId = some request.status := by
    rw [kept]
    exact statusOf_of_lookup found
  have set := streaming_setRequest processing.scheduler reqId request
  rw [was] at set
  refine placed.move (statusOf_setRequest _ _ _) ?_ rfl (fun _ _ => rfl)
    (fun _ _ => ⟨rfl, rfl⟩) ?_ ?_ ?_
  · intro whole
    have before := placed.streaming whole
    change processing.scheduler.numWaitingForStreamingInput =
      ((processing.scheduler.setRequest reqId request).streaming : Int)
    omega
  all_goals rw [← was]
  · exact placed.running reqId
  · exact placed.waiting reqId
  · exact placed.once reqId

inductive Stops (scheduler : Scheduler) (reqId : RequestId) (next : Scheduler) : Prop
  | finishes (retires : Scheduler.Retires scheduler reqId next)
  | waits (status : RequestStatus) (waits : waits (some status) = 1)
      (statuses : next.statusOf = update scheduler.statusOf reqId (some status))
      (tallied : next.streaming + streams (scheduler.statusOf reqId) =
        scheduler.streaming + streams (some status))
      (counter : next.numWaitingForStreamingInput =
        scheduler.numWaitingForStreamingInput + streams (some status))
      (running : next.running = scheduler.running)
      (queued : ∀ other, next.queued [] other = scheduler.queued [] other + [reqId].count other)

variable {scheduler after : Scheduler} {middle : Scheduler} {status : RequestStatus}
  {finished : Bool} {stopped : SchedRequest} {other : RequestId}

theorem Stops.after_retires (first : Scheduler.Retires scheduler reqId middle)
    (stops : Stops middle reqId after) : Stops scheduler reqId after := by
  cases stops with
  | finishes retires => exact .finishes (first.trans retires)
  | waits status waits statuses tallied counter running queued =>
    obtain ⟨_, retired, marked⟩ := first.status
    refine .waits status waits ?_ ?_ ?_ ?_ ?_
    · rw [statuses, marked, update_idem]
    · have before := first.streaming
      rw [marked, update_self, retired.absent.2.2] at tallied
      omega
    · rw [counter, first.counter]
    · rw [running, first.running]
    · intro other
      rw [queued, Scheduler.queued, Scheduler.queued, first.waiting, first.skippedWaiting]

theorem runs_of_waits (waits : waits (some status) = 1) : runs (some status) = 0 := by
  have total := runs_add_waits status
  split_ifs at total <;> omega

structure Leaves (scheduler : Scheduler) (reqId : RequestId) (next : Scheduler)
    (left : Option RequestStatus) : Prop where
  statuses : next.statusOf = update scheduler.statusOf reqId left
  stopped : runs left = 0
  tallied : next.streaming + streams (scheduler.statusOf reqId) = scheduler.streaming + streams left
  counter : next.numWaitingForStreamingInput = scheduler.numWaitingForStreamingInput + streams left
  running : next.running = scheduler.running
  queued : ∀ other, next.queued [] other =
    scheduler.queued [] other + if other = reqId then waits left else 0

theorem leaves_of_retires (retires : Scheduler.Retires scheduler reqId after) :
    ∃ left, waits left = 0 ∧ Leaves scheduler reqId after left := by
  obtain ⟨left, retired, statuses⟩ := retires.status
  obtain ⟨noRun, noWait, noStream⟩ := retired.absent
  refine ⟨left, noWait, statuses, noRun, ?_, ?_, retires.running, fun other => ?_⟩
  · rw [noStream]
    exact retires.streaming
  · rw [noStream, retires.counter]
    exact (Int.add_zero _).symm
  · rw [noWait, ite_self, queued, queued, retires.waiting, retires.skippedWaiting, Nat.add_zero]

theorem leaves_of_stops (stops : Stops scheduler reqId after) :
    ∃ left, waits left ≤ 1 ∧ Leaves scheduler reqId after left := by
  cases stops with
  | finishes retires =>
    obtain ⟨left, _, leaves⟩ := leaves_of_retires retires
    exact ⟨left, by omega, leaves⟩
  | waits status waits statuses tallied counter running queued =>
    refine ⟨some status, waits.le, statuses, runs_of_waits waits, tallied, counter, running,
      fun other => ?_⟩
    rw [queued, waits, count_singleton]
    simp only [beq_iff_eq, @eq_comm _ other]

theorem waits_of_live (live : status.isFinished = false)
    (waiting : status ≠ .running) : waits (some status) = 1 := by
  cases status <;> first | rfl | exact absurd rfl waiting | cases live

theorem count_addStopped (live : status.isFinished = false) (other : RequestId) :
    (processing.addStopped after reqId status).stoppedRunningReqs.count other =
        processing.stoppedRunningReqs.count other +
          (if other = reqId then runs (some status) else 0) ∧
      (processing.addStopped after reqId status).stoppedPreemptedReqs.count other =
        processing.stoppedPreemptedReqs.count other +
          if other = reqId then waits (some status) else 0 := by
  by_cases running : status = .running
  · simp [addStopped, running, runs, waits, count_singleton, @eq_comm _ other]
  · simp [addStopped, running, runs, waits_of_live live running, count_singleton, @eq_comm _ other]

theorem Placed.stop {left : Option RequestStatus}
    (placed : processing.Placed whole) (untouched : processing.Untouched reqId)
    (was : processing.scheduler.statusOf reqId = some status) (live : status.isFinished = false)
    (noStream : whole → streams (some status) = 0)
    (leaves : Leaves processing.scheduler reqId after left)
    (once : whole → waits left + waits (some status) ≤ 1) :
    (processing.addStopped after reqId status).Placed whole := by
  have same : (processing.addStopped after reqId status).scheduler = after := by
    unfold addStopped
    split_ifs <;> rfl
  have running := placed.running reqId
  have waiting := placed.waiting reqId
  have tallied := leaves.tallied
  have counter := leaves.counter
  have here := leaves.queued reqId
  have counts := @count_addStopped processing reqId after status live
  rw [was, count_eq_zero.mpr untouched.1] at running
  rw [was, count_eq_zero.mpr untouched.2] at waiting
  rw [was] at tallied
  rw [if_pos rfl, queued, queued, count_nil] at here
  have stoppedHere := counts reqId
  rw [if_pos rfl, if_pos rfl, count_eq_zero.mpr untouched.1,
    count_eq_zero.mpr untouched.2] at stoppedHere
  have oneRun := runs_le_one (some status)
  have noRun := leaves.stopped
  apply placed.move <;> try rw [same]
  · exact leaves.statuses
  · intro whole
    have streaming := placed.streaming whole
    rw [noStream whole] at tallied
    omega
  · exact leaves.running
  · intro other different
    have joined := leaves.queued other
    rwa [if_neg different] at joined
  · intro other different
    have elsewhere := counts other
    rwa [if_neg different, if_neg different] at elsewhere
  · omega
  · have fits := waiting.1
    refine ⟨by omega, fun whole => ?_⟩
    have same := waiting.2 whole
    omega
  · refine ⟨by omega, fun whole => ?_⟩
    have single := once whole
    omega

theorem updateRequestAsSession_stops {record : SchedRequest}
    {update : SessionUpdate} {rest : List (Option SessionUpdate)}
    (ended : request.isFinished = true) (updates : scheduler.updateRequestAsSession reqId
      { request with streamingQueue := some rest } update = .ok middle)
    (found : middle.request reqId = .ok record) :
    Stops scheduler reqId (middle.enqueueWaitingRequest reqId record.status) := by
  unfold updateRequestAsSession at updates
  have idle : request.status ≠ .waitingForStreamingReq := by
    intro waits
    unfold isFinished at ended
    rw [waits] at ended
    cases ended
  simp only [bind_eq_ok, pure_eq_ok, if_neg idle] at updates
  obtain ⟨updated, session, rfl⟩ := updates
  have status := updateAsSession_status session
  have same : record = updated := by
    have known := request_eq_ok.mp found
    unfold setRequest at known
    rw [lookup_insert] at known
    exact (Option.some.inj known).symm
  subst same
  rw [status]
  refine .waits .waiting rfl ?_ ?_ ?_ rfl ?_
  · have set := statusOf_setRequest scheduler reqId record
    rw [status] at set
    exact set
  · have set := streaming_setRequest scheduler reqId record
    rw [status] at set
    exact set
  · exact (Int.add_zero _).symm
  · exact queued_enqueueWaitingRequest (scheduler.setRequest reqId record) reqId .waiting

theorem handleStoppedRequest_stops (ended : request.isFinished = true)
    (taken : scheduler.handleStoppedRequest reqId request = .ok (finished, stopped, after)) :
    finished = true ∧ after = scheduler ∧ stopped.isFinished = true ∨
      finished = false ∧ request.resumable = true ∧ Stops scheduler reqId after := by
  unfold handleStoppedRequest at taken
  split_ifs at taken with resumable
  · cases taken
    exact .inl ⟨rfl, rfl, ended⟩
  · have session : request.resumable = true := by simpa using resumable
    split at taken
    · cases taken
      exact .inl ⟨rfl, rfl, ended⟩
    · rename_i update rest _
      simp only [bind_eq_ok] at taken
      obtain ⟨_, updates, _, found, same⟩ := taken
      cases same
      exact .inr ⟨rfl, session, updateRequestAsSession_stops ended updates found⟩
    · cases taken
      refine .inr ⟨rfl, session, .waits .waitingForStreamingReq rfl ?_ ?_ rfl rfl ?_⟩
      · exact statusOf_setRequest scheduler reqId _
      · exact streaming_setRequest scheduler reqId _
      · exact queued_enqueueWaitingRequest scheduler reqId .waitingForStreamingReq

structure Touches (processing : Processing) (reqId : RequestId) (next : Processing) : Prop where
  lookup : ∀ other, other ≠ reqId →
    next.scheduler.requests.lookup other = processing.scheduler.requests.lookup other
  untouched : ∀ other, other ≠ reqId → processing.Untouched other → next.Untouched other

theorem touches_setRequest (processing : Processing) (reqId : RequestId) (request : SchedRequest) :
    processing.Touches reqId
      (processing.withScheduler (processing.scheduler.setRequest reqId request)) :=
  ⟨fun _ different => lookup_insert_ne different, fun _ _ untouched => untouched⟩

theorem Touches.trans {middle : Processing} (first : processing.Touches reqId middle)
    (second : middle.Touches reqId next) : processing.Touches reqId next :=
  ⟨fun other different => (second.lookup other different).trans (first.lookup other different),
    fun other different untouched =>
      second.untouched other different (first.untouched other different untouched)⟩

theorem touches_addStopped (elsewhere : ∀ other, other ≠ reqId →
      after.requests.lookup other = processing.scheduler.requests.lookup other) :
    processing.Touches reqId (processing.addStopped after reqId status) := by
  unfold addStopped
  split_ifs
  all_goals
    refine ⟨elsewhere, fun other different untouched => ?_⟩
    unfold Untouched at untouched ⊢
    simpa [different] using untouched

theorem freeRequest_elsewhere {answers : FreeAnswers} {delayFreeBlocks : Bool}
    (taken : scheduler.freeRequest answers reqId request delayFreeBlocks = .ok after)
    (different : other ≠ reqId) :
    after.requests.lookup other = scheduler.requests.lookup other := by
  unfold freeRequest freeBlocks at taken
  obtain ⟨-, -, taken⟩ := bind_eq_ok.mp taken
  split_ifs at taken
  · cases taken
    exact lookup_insert_ne different
  · simp only [bind_eq_ok, pure_eq_ok] at taken
    obtain ⟨-, -, rfl⟩ := taken
    rw [lookup_erase_ne different, (freeRequestBlocks_same _ _ _ _).requests]
    exact lookup_insert_ne different

theorem handleStoppedRequest_elsewhere
    (taken : scheduler.handleStoppedRequest reqId request = .ok (finished, stopped, after))
    (different : other ≠ reqId) :
    after.requests.lookup other = scheduler.requests.lookup other := by
  unfold handleStoppedRequest at taken
  split_ifs at taken
  · cases taken
    rfl
  · split at taken
    · cases taken
      rfl
    · unfold updateRequestAsSession at taken
      simp only [bind_eq_ok, pure_eq_ok] at taken
      obtain ⟨_, ⟨_, -, rfl⟩, _, -, same⟩ := taken
      cases same
      rw [(enqueueWaitingRequest_frame _ _ _).1]
      refine (lookup_insert_ne different).trans ?_
      split_ifs <;> rfl
    · cases taken
      rw [(enqueueWaitingRequest_frame _ _ _).1]
      exact lookup_insert_ne different

theorem stop_spec (ended : request.isFinished = true)
    (taken : processing.stop result reqId status request = .ok next) :
    ∃ after, next = processing.addStopped after reqId status ∧
      Stops processing.scheduler reqId after ∧
      (request.resumable = false → Scheduler.Retires processing.scheduler reqId after) ∧
      processing.Touches reqId next := by
  unfold stop at taken
  obtain ⟨⟨_, _, middle⟩, handled, taken⟩ := bind_eq_ok.mp taken
  rcases handleStoppedRequest_stops ended handled with ⟨rfl, rfl, -⟩ | ⟨rfl, session, stops⟩
  · simp only [Bool.not_true, Bool.false_eq_true, if_false, bind_eq_ok] at taken
    obtain ⟨after, freed, taken⟩ := taken
    cases taken
    have retires := freeRequest_retires freed
    exact ⟨after, rfl, .finishes retires, fun _ => retires,
      touches_addStopped fun other different => freeRequest_elsewhere freed different⟩
  · cases taken
    refine ⟨middle, rfl, stops, fun plain => ?_,
      touches_addStopped fun other different => handleStoppedRequest_elsewhere handled different⟩
    rw [session] at plain
    cases plain

section

variable (placed : processing.Placed whole)

include placed

theorem Placed.deliver (untouched : processing.Untouched reqId) {isStale : Bool}
    (found : processing.scheduler.requests.lookup reqId = some request)
    (live : request.isFinished = false)
    (session : whole → request.resumable = true ∨ request.status = .waitingForStreamingReq →
      request.status = .running)
    (taken : processing.deliver result output reqId request isStale = .ok next) :
    next.Placed whole ∧ processing.Touches reqId next := by
  unfold Processing.deliver at taken
  obtain ⟨⟨updated, stopped⟩, applied, taken⟩ := bind_eq_ok.mp taken
  obtain ⟨resumable, kept, ended⟩ := applyOutput_status applied
  cases stopped with
  | false =>
    cases taken
    exact ⟨placed.setRequest found (kept rfl).1, touches_setRequest processing reqId updated⟩
  | true =>
    -- The stop is handled in the state in which the request has its finished status already.
    have finished := ended rfl
    obtain ⟨_, rfl, stops, retires, touches⟩ := stop_spec finished taken
    have marked := setRequest_retires processing.scheduler reqId finished
    have was := statusOf_of_lookup found
    refine ⟨?_, (touches_setRequest processing reqId updated).trans touches⟩
    by_cases running : request.status = .running
    · obtain ⟨left, once, leaves⟩ := leaves_of_stops (stops.after_retires marked)
      rw [running] at was ⊢
      exact placed.stop untouched was rfl (fun _ => rfl) leaves fun _ => once
    · have noStream (whole : whole) : streams (some request.status) = 0 :=
        if_neg fun streams => running (session whole (.inr (Option.some.inj streams)))
      cases plain : updated.resumable with
      | false =>
        obtain ⟨left, noWait, leaves⟩ := leaves_of_retires (marked.trans (retires plain))
        refine placed.stop untouched was live noStream leaves fun _ => ?_
        rw [noWait, waits_of_live live running]
      | true =>
        obtain ⟨left, _, leaves⟩ := leaves_of_stops (stops.after_retires marked)
        exact placed.stop untouched was live noStream leaves fun whole =>
          absurd (session whole (.inl (resumable plain))) running

theorem Placed.processRequest (untouched : processing.Untouched reqId)
    (settled : whole → ∀ request, processing.scheduler.requests.lookup reqId = some request →
      Settled request) (taken : processRequest result output failed processing reqId = .ok next) :
    next.Placed whole ∧ processing.Touches reqId next := by
  unfold Processing.processRequest at taken
  obtain ⟨-, -, taken⟩ := bind_eq_ok.mp taken
  split at taken
  · cases taken
    exact ⟨placed, fun _ _ => rfl, fun _ _ same => same⟩
  · rename_i request found
    simp only [bind_eq_ok] at taken
    obtain ⟨⟨counted, _⟩, settles, taken⟩ := taken
    obtain ⟨stale, record, -⟩ := settle_ok settles
    have status : counted.status = request.status := by rw [record]
    have placedAfter := placed.setRequest found status
    have touches := touches_setRequest processing reqId counted
    split_ifs at taken with leftOut
    · cases taken
      exact ⟨placedAfter, touches⟩
    · have live : counted.isFinished = false := by
        simp only [not_or, Bool.not_eq_true] at leftOut
        exact leftOut.2.1
      have delivered := placedAfter.deliver untouched (lookup_insert _) live ?_ taken
      · exact ⟨delivered.1, touches.trans delivered.2⟩
      · -- A session that does not run has its output dropped, so it does not get here.
        intro whole session
        have session : request.resumable = true ∨ request.status = .waitingForStreamingReq := by
          rw [record] at session
          exact session
        rcases settled whole request found session with running | finished | ⟨positive, drop⟩
        · rw [status, running]
        · unfold isFinished at live finished
          rw [status, finished] at live
          cases live
        · refine absurd (.inr (.inr ⟨?_, ?_⟩)) leftOut
          · rw [stale]
            exact decide_eq_true positive
          · rw [record]
            exact drop

theorem Placed.processAll {ids : List RequestId} (apart : ids.Nodup)
    (untouched : ∀ reqId ∈ ids, processing.Untouched reqId)
    (settled : whole → ∀ reqId ∈ ids, ∀ request,
      processing.scheduler.requests.lookup reqId = some request → Settled request)
    (taken : ids.foldlM (Processing.processRequest result output failed) processing = .ok next) :
    next.Placed whole := by
  induction ids generalizing processing with
  | nil =>
    cases taken
    exact placed
  | cons reqId rest ih =>
    obtain ⟨_, first, others⟩ := Run.foldlM_cons_ok taken
    obtain ⟨notMem, apart⟩ := nodup_cons.mp apart
    obtain ⟨after, touches⟩ := placed.processRequest (untouched reqId mem_cons_self)
      (fun whole => settled whole reqId mem_cons_self) first
    have different (other : RequestId) (member : other ∈ rest) : other ≠ reqId := by
      rintro rfl
      exact notMem member
    refine ih after apart ?_ ?_ others
    · intro other member
      exact touches.untouched other (different other member)
        (untouched other (mem_cons_of_mem _ member))
    · intro whole other member
      rw [touches.lookup other (different other member)]
      exact settled whole other (mem_cons_of_mem _ member)

theorem Placed.removeStopped : (removeStopped processing).Placed whole [] := by
  refine ⟨fun reqId => ?_, fun reqId => ?_, placed.streaming⟩
  · have running := placed.running reqId
    have once := (placed.once reqId).1
    change (removeAll processing.scheduler.running processing.stoppedRunningReqs).count reqId =
      runs (processing.scheduler.statusOf reqId)
    rw [count_removeAll _ _ (by omega)]
    split_ifs with stopped
    · have positive := count_pos_iff.mpr stopped
      omega
    · rw [count_eq_zero.mpr stopped] at running
      exact running
  · have waiting := placed.waiting reqId
    have once := (placed.once reqId).2
    change Fits whole ((RequestQueue.removeRequests processing.scheduler.waiting
        processing.stoppedPreemptedReqs).count reqId +
      (RequestQueue.removeRequests processing.scheduler.skippedWaiting
        processing.stoppedPreemptedReqs).count reqId + 0)
      (waits (processing.scheduler.statusOf reqId))
    rw [count_removeRequests, count_removeRequests]
    split_ifs with stopped
    · have positive := count_pos_iff.mpr stopped
      refine ⟨Nat.zero_le _, fun whole => ?_⟩
      have single := once whole
      omega
    · rw [count_eq_zero.mpr stopped] at waiting
      exact waiting

end

theorem Placed.start (placed : scheduler.Placed whole []) :
    (⟨scheduler, [], []⟩ : Processing).Placed whole := by
  refine ⟨placed.running, placed.waiting, placed.streaming, fun reqId => ⟨?_, ?_⟩⟩
  · exact runs_le_one _
  · intro _
    change waits (scheduler.statusOf reqId) ≤ 1
    unfold waits
    split <;> omega

end Processing

namespace Scheduler

variable {scheduler next : Scheduler} {reqId : RequestId} {answers : FreeAnswers}
  {result : StepResult} {output : SchedulerOutput} {whole : Prop}

theorem connectorReports_kept {received : Scheduler} (invariant : Scheduler → Prop)
    (told : ∀ (state : Scheduler) ids, invariant state →
      invariant { state with finishedRecvingKvReqIds := ids })
    (freed : ∀ (state : Scheduler) reqId request blocks next, invariant state →
      state.requests.lookup reqId = some request →
      state.freeBlocks reqId request blocks = .ok next → invariant next)
    (initial : invariant scheduler)
    (receives : result.finishedRecving.foldlM (finishRecving answers) scheduler = .ok received)
    (sends : result.finishedSending.foldlM (finishSending answers) received = .ok next) :
    invariant next := by
  have afterReceives : invariant received := by
    refine Run.foldlM_kept invariant (fun state reqId _ after taken before => ?_) initial receives
    unfold finishRecving at taken
    split at taken
    · cases taken
    · split_ifs at taken
      · cases taken
        exact told state _ before
      · exact freed _ _ _ _ _ before ‹_› taken
  refine Run.foldlM_kept invariant (fun state reqId _ after taken before => ?_) afterReceives sends
  unfold finishSending at taken
  split at taken
  · cases taken
  · exact freed _ _ _ _ _ before ‹_› taken

def SameButComputed (scheduler next : Scheduler) : Prop :=
  ∀ reqId request, next.requests.lookup reqId = some request →
    ∃ before computed, scheduler.requests.lookup reqId = some before ∧
      request = { before with numComputedTokens := computed }

section

variable (placed : scheduler.Placed whole [])

include placed

theorem Placed.truncateLoads {invalidLoads : RequestId → Option Int} {ids : List RequestId} :
    (ids.foldl (truncateLoad invalidLoads) scheduler).Placed whole [] ∧
      SameButComputed scheduler (ids.foldl (truncateLoad invalidLoads) scheduler) := by
  refine foldlRecOn
    (motive := fun next : Scheduler => next.Placed whole [] ∧ SameButComputed scheduler next) _ _
    ⟨placed, fun reqId request found => ⟨request, _, found, rfl⟩⟩
    fun next ⟨placed, same⟩ reqId _ => ?_
  unfold truncateLoad
  split
  · rename_i request valid found _
    refine ⟨placed.setRequest found rfl, fun other record known => ?_⟩
    rw [Scheduler.setRequest, Dict.lookup_insert_ite] at known
    split_ifs at known with here
    · cases known
      obtain ⟨before, _, was, rfl⟩ := same reqId request found
      exact ⟨before, valid, here ▸ was, rfl⟩
    · exact same other record known
  · exact ⟨placed, same⟩

theorem Placed.handleInvalidBlocks (invalidLoads : RequestId → Option Int) :
    (scheduler.handleInvalidBlocks invalidLoads).2.Placed whole [] ∧
      SameButComputed scheduler (scheduler.handleInvalidBlocks invalidLoads).2 := by
  unfold Scheduler.handleInvalidBlocks
  split_ifs
  · exact placed.truncateLoads
  · obtain ⟨after, same⟩ := placed.truncateLoads
    exact ⟨after.of_same ⟨rfl, rfl, rfl, rfl, rfl⟩, same⟩

theorem Placed.retire (retired : Retired (scheduler.statusOf reqId))
    (retires : Retires scheduler reqId next) : next.Placed whole [] := by
  obtain ⟨status, retiredAfter, statuses⟩ := retires.status
  obtain ⟨noRun, noWait, noStream⟩ := retired.absent
  obtain ⟨noRunAfter, noWaitAfter, noStreamAfter⟩ := retiredAfter.absent
  have running := placed.running reqId
  have waiting := placed.waiting reqId
  refine placed.move statuses ?_ ?_ ?_ ?_
  · rw [noStreamAfter]
    exact retires.streaming
  · rw [noStream, noStreamAfter, retires.counter]
  · rw [noWait] at waiting
    rw [noRunAfter, noWaitAfter, queued, retires.running, retires.waiting, retires.skippedWaiting,
      running]
    exact ⟨noRun, waiting⟩
  · intro other _
    rw [queued, queued, retires.running, retires.waiting, retires.skippedWaiting]
    exact ⟨rfl, rfl⟩

theorem Placed.freeBlocks {request : SchedRequest} {blocks : List GpuBlockId}
    (found : scheduler.requests.lookup reqId = some request)
    (taken : scheduler.freeBlocks reqId request blocks = .ok next) : next.Placed whole [] := by
  refine placed.retire ?_ (freeBlocks_retires taken)
  unfold Scheduler.freeBlocks at taken
  simp only [bind_eq_ok, pyAssert_eq_ok] at taken
  obtain ⟨-, finished, -⟩ := taken
  rw [statusOf_of_lookup found]
  exact finished

theorem Placed.finishErrors {failed : List RequestId}
    (taken : scheduler.finishErrors result failed = .ok next) : next.Placed whole [] := by
  have cleared : ({ scheduler with grammarCompileErrorReqs := [] } : Scheduler).Placed whole [] :=
    placed.of_same ⟨rfl, rfl, rfl, rfl, rfl⟩
  exact cleared.finishRequests taken

theorem Placed.updateFromOutput
    (settled : whole → ∀ reqId ∈ output.numScheduledTokens.keys, ∀ request,
      scheduler.requests.lookup reqId = some request → Settled request)
    (taken : scheduler.updateFromOutput output result = .ok next) : next.Placed whole [] := by
  unfold Scheduler.updateFromOutput at taken
  simp only [bind_eq_ok] at taken
  obtain ⟨_, loop, _, finishes, _, receives, sends⟩ := taken
  have counted := countProcessed_same scheduler output
  obtain ⟨placed, computed⟩ :=
    (placed.of_same counted).handleInvalidBlocks result.invalidLoads
  have looped := (Processing.Placed.start placed).processAll
    output.numScheduledTokens.keys_nodup ?_ ?_ loop
  · have finished := looped.removeStopped.finishErrors finishes
    exact connectorReports_kept (fun state => state.Placed whole [])
      (fun _ _ placed => placed.of_same ⟨rfl, rfl, rfl, rfl, rfl⟩)
      (fun _ _ _ _ _ placed found => placed.freeBlocks found) finished receives sends
  · intro reqId _
    exact ⟨not_mem_nil, not_mem_nil⟩
  · intro whole reqId member request found
    obtain ⟨before, _, was, rfl⟩ := computed reqId request found
    rw [counted.requests] at was
    exact settled whole reqId member before was

end

end Scheduler

end VllmEngine.Sched

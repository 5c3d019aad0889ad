import VllmEngine.Sched.QueueOutput

set_option autoImplicit false

namespace VllmEngine.Sched

open List

namespace Scheduler

variable {scheduler next : Scheduler}

def queues (scheduler : Scheduler) : List RequestId :=
  scheduler.waiting ++ scheduler.skippedWaiting ++ scheduler.running

-- A request whose blocks are being received is held in `skipped_waiting`.
structure Partitioned (scheduler : Scheduler) : Prop where
  complete : ∀ reqId request, scheduler.requests.lookup reqId = some request →
    request.isFinished = false → reqId ∈ scheduler.queues
  disjoint : scheduler.queues.Nodup
  live : ∀ reqId ∈ scheduler.queues, ∃ request,
    scheduler.requests.lookup reqId = some request ∧ request.isFinished = false
  running : ∀ reqId, reqId ∈ scheduler.running ↔ ∃ request,
    scheduler.requests.lookup reqId = some request ∧ request.status = .running
  streaming : scheduler.numWaitingForStreamingInput =
    ((scheduler.waiting ++ scheduler.skippedWaiting).filter
      (scheduler.hasStatus .waitingForStreamingReq)).length

theorem count_queues (placed : scheduler.Placed True []) (reqId : RequestId) :
    scheduler.queues.count reqId =
      runs (scheduler.statusOf reqId) + waits (scheduler.statusOf reqId) := by
  have running := placed.running reqId
  have waiting := (placed.waiting reqId).2 trivial
  rw [count_nil] at waiting
  unfold queues
  rw [count_append, count_append]
  omega

theorem statusOf_eq_some {status : RequestStatus} {reqId : RequestId} :
    scheduler.statusOf reqId = some status ↔
      ∃ request, scheduler.requests.lookup reqId = some request ∧ request.status = status := by
  unfold statusOf
  rw [Option.map_eq_some_iff]

section

variable (placed : scheduler.Placed True [])

include placed

theorem Placed.mem_queues (reqId : RequestId) :
    reqId ∈ scheduler.queues ↔ ∃ request,
      scheduler.requests.lookup reqId = some request ∧ request.isFinished = false := by
  rw [← count_pos_iff, count_queues placed]
  unfold statusOf
  cases found : scheduler.requests.lookup reqId with
  | none => simp [runs, waits]
  | some request =>
    have total := runs_add_waits request.status
    rw [Option.map_some, total]
    unfold SchedRequest.isFinished
    cases finished : request.status.isFinished <;> simp [finished]

theorem Placed.queues_nodup : scheduler.queues.Nodup := by
  rw [nodup_iff_count_le_one]
  intro reqId
  rw [count_queues placed]
  cases scheduler.statusOf reqId with
  | none => exact Nat.zero_le _
  | some status =>
    rw [runs_add_waits]
    split_ifs <;> omega

theorem Placed.streaming_eq :
    scheduler.streaming = ((scheduler.waiting ++ scheduler.skippedWaiting).filter
      (scheduler.hasStatus .waitingForStreamingReq)).length := by
  have counted : scheduler.streaming =
      (scheduler.requests.keys.filter (scheduler.hasStatus .waitingForStreamingReq)).length := by
    have indicator := tally_indicator
      (fun request : SchedRequest => decide (request.status = .waitingForStreamingReq))
      scheduler.requests
    simp only [decide_eq_true_eq] at indicator
    simp only [Scheduler.streaming, streams, Option.some.injEq]
    exact indicator
  rw [counted]
  apply List.Perm.length_eq
  rw [perm_ext_iff_of_nodup]
  · intro reqId
    rw [mem_filter, mem_filter, hasStatus_iff]
    refine and_congr_left fun status => ?_
    obtain ⟨request, found, -⟩ := statusOf_eq_some.mp status
    have waiting := (placed.waiting reqId).2 trivial
    rw [status, count_nil, Nat.add_zero, ← count_append] at waiting
    have queued : reqId ∈ scheduler.waiting ++ scheduler.skippedWaiting := by
      rw [← count_pos_iff, waiting]
      exact Nat.one_pos
    have known : reqId ∈ scheduler.requests.keys := by
      rw [← AList.mem_keys, ← AList.lookup_isSome, found]
      rfl
    exact iff_of_true known queued
  · exact scheduler.requests.keys_nodup.filter _
  · exact (nodup_append.mp placed.queues_nodup).1.filter _

theorem Placed.partitioned : scheduler.Partitioned where
  complete reqId request found live := (placed.mem_queues reqId).mpr ⟨request, found, live⟩
  disjoint := placed.queues_nodup
  live reqId member := (placed.mem_queues reqId).mp member
  running reqId := by
    rw [← statusOf_eq_some, ← count_pos_iff, placed.running reqId]
    unfold runs
    split_ifs with running <;> simp [running]
  streaming := by rw [placed.streaming trivial, placed.streaming_eq]

end

theorem placed_create (whole : Prop) (config : SchedulerConfig) :
    (create config).Placed whole [] :=
  ⟨fun _ => rfl, fun _ => .of_eq rfl, fun _ => rfl⟩

end Scheduler

namespace EngineCore

variable {engine next : EngineCore} {call : EngineCall}

-- Each session of the step that is processed still runs, or its output is not used.
def SessionsRun (engine : EngineCore) : EngineCall → Prop
  | .updateFromOutput _ =>
    ∀ output ∈ engine.inFlight.head?, ∀ reqId ∈ output.numScheduledTokens.keys,
      ∀ request ∈ engine.scheduler.requests.lookup reqId, Settled request
  | _ => True

instance (engine : EngineCore) (call : EngineCall) : Decidable (engine.SessionsRun call) :=
  match call with
  | .updateFromOutput _ => inferInstanceAs (Decidable (∀ _ ∈ _, _))
  | .addRequest .. | .schedule _ | .updateDraftTokenIds _ | .finishRequests ..
  | .resetPrefixCache .. | .setPauseState _ => isTrue trivial

theorem step_placed {whole : Prop} (taken : engine.step call = .ok next)
    (allowed : whole → engine.SessionsRun call) (placed : engine.scheduler.Placed whole []) :
    next.scheduler.Placed whole [] := by
  cases steps_of_step taken with
  | addRequest added => exact placed.addRequest added
  | schedule scheduled => exact placed.schedule scheduled
  | updateFromOutput inFlight updated =>
    refine placed.updateFromOutput (fun whole => allowed whole _ ?_) updated
    rw [inFlight]
    exact rfl
  | updateDraftTokenIds drafts => exact placed.updateDraftTokenIds drafts
  | finishRequests finished => exact placed.finishRequests finished
  | resetRunning reset => exact placed.resetRunningRequests reset
  | resetCache blocks => exact placed
  | setPauseState pauseState => exact placed.of_same ⟨rfl, rfl, rfl, rfl, rfl⟩

theorem queues_partition (config : SchedulerConfig) (calls : List EngineCall)
    (sessions : Run.Meets step SessionsRun (create config) calls) :
    Run.Always step (fun engine => engine.scheduler.Partitioned) (create config) calls := by
  have placed := Run.always_of_meets
    (fun _ _ _ taken allowed => step_placed taken fun _ : True => allowed) sessions
    (Scheduler.placed_create True config)
  exact placed.imp fun _ placed => placed.partitioned

def asyncConfig : SchedulerConfig where
  policy := .fcfs
  isAsync := true
  maxNumRunningReqs := 2
  maxNumScheduledTokens := 8
  maxModelLen := 16
  numSampledTokensPerStep := 1
  numSpecTokens := 0
  dynamicSdLookup := none
  longPrefillTokenThreshold := 0
  enableChunkedPrefill := true
  maxLoras := none
  blockSize := 4
  hashBlockSize := 4
  useEagle := false
  needMambaBlockAlignedSplit := false
  mambaPartialCacheHit := false
  hasConnector := false
  hasEcConnector := false
  deferBlockFree := false
  requiresKvDelivery := false
  recomputeKvLoadFailures := false
  useV2ModelRunner := false
  ppSize := 1
  blockSize_pos := by decide
  numSampledTokensPerStep_le := by decide
  dynamicSdLookup_covers := by simp

def roomy : ScheduleAnswers where
  throttlePrefills := false
  allocateSlots := fun _ => true
  blocks := fun _ => []
  getComputedBlocks := fun _ => (0, 0)
  getComputedBlocksForConnector := fun _ => (0, 0, false)
  getNumNewMatchedTokens := fun _ _ => (some 0, false)
  ensureCacheAvailable := fun _ => true
  tryScheduleEncoderInputs := fun _ _ numNewTokens => numNewTokens
  grammar := fun _ => some true
  cowRetainedBlocks := []

def freed : FreeAnswers where
  delayFreeBlocks := fun _ => false
  blocks := fun _ => []

def sampled (token : TokenId) : StepResult where
  toFreeAnswers := freed
  sampledTokenIds := fun reqId => if reqId = 0 then [token] else []
  hasPoolerOutput := fun _ => false
  grammarRejects := fun _ => false
  invalidLoads := fun _ => none
  finishedRecving := []
  finishedSending := []

def session : NewRequest where
  requestId := 0
  priority := 0
  arrivalTime := 0
  samplingParams := some ⟨0, some 7, [], fun _ => false⟩
  maxTokens := 8
  promptTokenIds := some [1]
  numPromptTokens := 1
  hasEncoderInputs := false
  loraIntId := none
  structuredOutput := false
  resumable := true

def turnEndsTwice : List EngineCall :=
  [.addRequest freed session, .schedule roomy, .schedule roomy, .updateFromOutput (sampled 7),
    .updateFromOutput (sampled 7)]

theorem queues_partition_one_turn :
    Run.Always step (fun engine => engine.scheduler.Partitioned) (create asyncConfig)
      [.addRequest freed session, .schedule roomy, .schedule roomy, .updateFromOutput (sampled 3),
        .updateFromOutput (sampled 7)] :=
  queues_partition asyncConfig _ (by decide +kernel)

-- The session waits for input and is in no queue.
theorem queues_lose_session :
    ¬ Run.Always step (fun engine => engine.scheduler.Partitioned) (create asyncConfig)
      turnEndsTwice := by
  intro always
  obtain ⟨engine, partitioned, seen⟩ := always.exists_view
    (fun engine => (engine.scheduler.statusOf 0, engine.scheduler.queues))
    (some .waitingForStreamingReq, []) (by decide +kernel)
  obtain ⟨status, queues⟩ := Prod.mk.inj seen
  obtain ⟨request, found, waits⟩ := Scheduler.statusOf_eq_some.mp status
  have member := partitioned.complete 0 request found (by
    unfold SchedRequest.isFinished
    rw [waits]
    rfl)
  rw [queues] at member
  exact not_mem_nil member

end EngineCore

end VllmEngine.Sched

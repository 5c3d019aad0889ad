import VllmEngine.Sched.RequestQueue

set_option autoImplicit false

namespace VllmEngine.Sched

abbrev GpuBlockId := Nat

inductive PauseState where
  | unpaused
  | pausedNew
  | pausedAll
  deriving DecidableEq, Repr

-- `isAsync` selects the `AsyncScheduler`; a dynamic speculation table has an entry for every number
-- of requests.
structure SchedulerConfig where
  policy : SchedulingPolicy
  isAsync : Bool
  maxNumRunningReqs : Nat
  maxNumScheduledTokens : Nat
  maxModelLen : Nat
  -- 1, or 0 for a diffusion model.
  numSampledTokensPerStep : Nat
  numSpecTokens : Nat
  dynamicSdLookup : Option (List Nat)
  longPrefillTokenThreshold : Nat
  enableChunkedPrefill : Bool
  maxLoras : Option Nat
  blockSize : Nat
  hashBlockSize : Nat
  useEagle : Bool
  needMambaBlockAlignedSplit : Bool
  mambaPartialCacheHit : Bool
  hasConnector : Bool
  hasEcConnector : Bool
  deferBlockFree : Bool
  requiresKvDelivery : Bool
  recomputeKvLoadFailures : Bool
  useV2ModelRunner : Bool
  ppSize : Nat
  blockSize_pos : 0 < blockSize
  numSampledTokensPerStep_le : numSampledTokensPerStep ≤ 1
  dynamicSdLookup_covers :
    ∀ lookup, dynamicSdLookup = some lookup → maxNumRunningReqs < lookup.length

-- `newestStep` is no value of the source: it is the number of the newest step that uses the blocks.
structure PoppedBlocks where
  blocks : List GpuBlockId
  newestStep : Nat
  deriving DecidableEq, Repr

-- The request ids of each step with tokens, the number of steps processed, and the block lists that
-- were given up and returned.
structure FreeLog where
  steps : List (List RequestId)
  numProcessed : Nat
  emptiedAt : RequestId → Nat
  popped : List PoppedBlocks
  returned : List (PoppedBlocks × Nat)

namespace FreeLog

def empty : FreeLog where
  steps := []
  numProcessed := 0
  emptiedAt := fun _ => 0
  popped := []
  returned := []

-- The number of the newest step that has the request and is later than the first `since`; 0 when
-- there is none.
def newestStep (reqId : RequestId) (since : Nat) (steps : List (List RequestId)) : Nat :=
  (((steps.drop since).zipIdx (since + 1)).filter fun step => reqId ∈ step.1).foldl
    (fun newest step => max newest step.2) 0

def blocksOf (log : FreeLog) (reqId : RequestId) (blocks : List GpuBlockId) : PoppedBlocks where
  blocks := blocks
  newestStep := newestStep reqId (log.emptiedAt reqId) log.steps

def emptied (log : FreeLog) (reqId : RequestId) : FreeLog :=
  { log with emptiedAt := Function.update log.emptiedAt reqId log.steps.length }

def pop (log : FreeLog) (popped : PoppedBlocks) : FreeLog :=
  { log with popped := log.popped ++ [popped] }

def giveBack (log : FreeLog) (popped : PoppedBlocks) : FreeLog :=
  { log with returned := log.returned ++ [(popped, log.numProcessed)] }

end FreeLog

structure Scheduler where
  config : SchedulerConfig
  requests : Requests
  waiting : List RequestId
  skippedWaiting : List RequestId
  running : List RequestId
  numWaitingForStreamingInput : Int
  finishedRecvingKvReqIds : List RequestId
  failedRecvingKvReqIds : List RequestId
  grammarCompileErrorReqs : List RequestId
  currentStep : Nat
  prefillCapacityBound : Bool
  pauseState : PauseState
  schedStepSeq : Nat
  processedStepSeq : Nat
  deferredFrees : List (Nat × PoppedBlocks)
  log : FreeLog

namespace Scheduler

def create (config : SchedulerConfig) : Scheduler where
  config := config
  requests := ∅
  waiting := []
  skippedWaiting := []
  running := []
  numWaitingForStreamingInput := 0
  finishedRecvingKvReqIds := []
  failedRecvingKvReqIds := []
  grammarCompileErrorReqs := []
  currentStep := 0
  prefillCapacityBound := false
  pauseState := .unpaused
  schedStepSeq := 0
  processedStepSeq := 0
  deferredFrees := []
  log := .empty

def request (scheduler : Scheduler) (reqId : RequestId) : Except PyError SchedRequest :=
  match scheduler.requests.lookup reqId with
  | some request => .ok request
  | none => .error .keyError

variable (scheduler : Scheduler)

def setRequest (reqId : RequestId) (request : SchedRequest) : Scheduler :=
  { scheduler with requests := scheduler.requests.insert reqId request }

def withRunning (running : List RequestId) : Scheduler :=
  { scheduler with running := running }

def free (reqId : RequestId) (blocks : List GpuBlockId) : Scheduler :=
  let popped := scheduler.log.blocksOf reqId blocks
  { scheduler with log := (((scheduler.log.pop popped).emptied reqId).giveBack popped) }

def freeRequestBlocks (reqId : RequestId) (request : SchedRequest)
    (blocks : List GpuBlockId) : Scheduler :=
  if !scheduler.config.deferBlockFree ∨ request.lastSchedSeq ≤ scheduler.processedStepSeq then
    scheduler.free reqId blocks
  else if blocks.isEmpty then
    { scheduler with log := scheduler.log.emptied reqId }
  else
    let popped := scheduler.log.blocksOf reqId blocks
    { scheduler with
      deferredFrees := scheduler.deferredFrees ++ [(scheduler.schedStepSeq, popped)]
      log := (scheduler.log.pop popped).emptied reqId }

def freeCowRetainedBlocks (blocks : List GpuBlockId) (fenceSeq : Nat) : Scheduler :=
  let popped : PoppedBlocks := ⟨blocks, scheduler.log.steps.length + 1⟩
  if !scheduler.config.deferBlockFree ∨ fenceSeq ≤ scheduler.processedStepSeq then
    { scheduler with log := (scheduler.log.pop popped).giveBack popped }
  else
    { scheduler with
      deferredFrees := scheduler.deferredFrees ++ [(fenceSeq, popped)]
      log := scheduler.log.pop popped }

def drainDeferredFrees : Scheduler :=
  let due := scheduler.deferredFrees.takeWhile fun entry => entry.1 ≤ scheduler.processedStepSeq
  { scheduler with
    deferredFrees := scheduler.deferredFrees.drop due.length
    log := due.foldl (fun log entry => log.giveBack entry.2) scheduler.log }

-- `_preempt_request`; the caller has taken the request out of `running`.
def preemptRequest (reqId : RequestId) (dropStaleOutput : Bool)
    (blocks : List GpuBlockId) : Except PyError Scheduler := do
  let request ← scheduler.request reqId
  pyAssert (request.status = .running)
  let scheduler := scheduler.freeRequestBlocks reqId request blocks
  let scheduler := scheduler.setRequest reqId (request.preempt dropStaleOutput)
  return { scheduler with waiting := RequestQueue.prependRequest scheduler.waiting reqId }

def isBlockedWaitingStatus : RequestStatus → Bool
  | .waitingForStructuredOutputGrammar | .waitingForRemoteKvs | .waitingForStreamingReq => true
  | _ => false

def enqueueWaitingRequest (reqId : RequestId) (status : RequestStatus) : Scheduler :=
  if isBlockedWaitingStatus status then
    { scheduler with
      skippedWaiting := RequestQueue.addRequest scheduler.skippedWaiting reqId }
  else { scheduler with waiting := RequestQueue.addRequest scheduler.waiting reqId }

end Scheduler

end VllmEngine.Sched

import VllmEngine.Sched.Scheduler
import Mathlib.Data.List.Dedup

set_option autoImplicit false

namespace VllmEngine.Sched

structure FreeAnswers where
  delayFreeBlocks : RequestId → Bool
  blocks : RequestId → List GpuBlockId

-- A prompt without token ids has embeddings, for `numPromptTokens` tokens.
structure NewRequest where
  requestId : RequestId
  priority : Int
  arrivalTime : Nat
  samplingParams : Option SamplingParams
  maxTokens : Nat
  promptTokenIds : Option (List TokenId)
  numPromptTokens : Nat
  hasEncoderInputs : Bool
  loraIntId : Option Nat
  structuredOutput : Bool
  resumable : Bool

namespace SchedRequest

def create (new : NewRequest) : SchedRequest where
  requestId := new.requestId
  priority := new.priority
  arrivalTime := new.arrivalTime
  samplingParams := new.samplingParams
  maxTokens := if new.samplingParams.isSome then new.maxTokens else 1
  promptTokenIds := new.promptTokenIds
  numPromptTokens := (new.promptTokenIds.map List.length).getD new.numPromptTokens
  outputTokenIds := []
  allTokenIds := new.promptTokenIds.getD (List.replicate new.numPromptTokens 0)
  hasEncoderInputs := new.hasEncoderInputs
  loraIntId := new.loraIntId
  useStructuredOutput := new.samplingParams.isSome && new.structuredOutput
  resumable := new.resumable
  streamingQueue := none
  status :=
    if new.samplingParams.isSome && new.structuredOutput then .waitingForStructuredOutputGrammar
    else .waiting
  numComputedTokens := 0
  numOutputPlaceholders := 0
  numStaleOutputTokens := 0
  dropStaleOutput := false
  numInFlightTokens := 0
  nextDecodeEligibleStep := 0
  lastSchedSeq := 0
  specTokenIds := []
  isPrefillChunk := false
  sharedPrefixBoundary := 0
  numPreemptions := 0
  hasPrefillStats := true

end SchedRequest

namespace Scheduler

variable (scheduler : Scheduler)

def freeBlocks (reqId : RequestId) (request : SchedRequest)
    (blocks : List GpuBlockId) : Except PyError Scheduler := do
  pyAssert request.isFinished
  let scheduler := scheduler.freeRequestBlocks reqId request blocks
  return { scheduler with requests := scheduler.requests.erase reqId }

def freeRequest (answers : FreeAnswers) (reqId : RequestId)
    (request : SchedRequest) (delayFreeBlocks : Bool) : Except PyError Scheduler := do
  pyAssert request.isFinished
  let scheduler := scheduler.setRequest reqId request
  if delayFreeBlocks || answers.delayFreeBlocks reqId then return scheduler
  scheduler.freeBlocks reqId request (answers.blocks reqId)

def liveIds (ids : List RequestId) : List RequestId :=
  ids.filter fun reqId => (scheduler.requests.lookup reqId).any fun request => !request.isFinished

def hasStatus (status : RequestStatus) (reqId : RequestId) : Bool :=
  (scheduler.requests.lookup reqId).any fun request => request.status = status

def removeFromQueues (ids : List RequestId) : Scheduler :=
  let valid := scheduler.liveIds ids
  let runningToRemove := valid.filter (scheduler.hasStatus .running)
  let waitingToRemove := valid.filter fun reqId => !scheduler.hasStatus .running reqId
  { scheduler with
    numWaitingForStreamingInput := scheduler.numWaitingForStreamingInput -
      (valid.filter (scheduler.hasStatus .waitingForStreamingReq)).length
    running := removeAll scheduler.running runningToRemove
    waiting := RequestQueue.removeRequests scheduler.waiting waitingToRemove
    skippedWaiting := RequestQueue.removeRequests scheduler.skippedWaiting waitingToRemove }

def finishRequest (answers : FreeAnswers) (finishedStatus : RequestStatus) (scheduler : Scheduler)
    (reqId : RequestId) : Except PyError Scheduler := do
  let request ← scheduler.request reqId
  -- A load that is not finished still writes the blocks.
  let loading := request.status = .waitingForRemoteKvs
  let delayFreeBlocks := loading ∧ reqId ∉ scheduler.finishedRecvingKvReqIds
  let scheduler :=
    if loading then
      { scheduler with
        finishedRecvingKvReqIds := scheduler.finishedRecvingKvReqIds.erase reqId
        failedRecvingKvReqIds := scheduler.failedRecvingKvReqIds.erase reqId }
    else scheduler
  scheduler.freeRequest answers reqId (request.withStatus finishedStatus) delayFreeBlocks

def finishRequests (answers : FreeAnswers) (ids : List RequestId)
    (finishedStatus : RequestStatus) : Except PyError Scheduler := do
  pyAssert finishedStatus.isFinished
  let valid := scheduler.liveIds ids.dedup
  valid.foldlM (finishRequest answers finishedStatus) (scheduler.removeFromQueues ids.dedup)

def updateRequestAsSession (reqId : RequestId) (session : SchedRequest)
    (update : SessionUpdate) : Except PyError Scheduler := do
  let updated ← session.updateAsSession update
  let scheduler :=
    if session.status = .waitingForStreamingReq then
      { scheduler with
        numWaitingForStreamingInput := scheduler.numWaitingForStreamingInput - 1 }
    else scheduler
  return scheduler.setRequest reqId updated

def addNewRequest (request : SchedRequest) : Scheduler :=
  let request :=
    if request.resumable then { request with streamingQueue := some [] } else request
  (scheduler.enqueueWaitingRequest request.requestId request.status).setRequest request.requestId
    request

def addRequest (answers : FreeAnswers) (request : SchedRequest) : Except PyError Scheduler :=
  match scheduler.requests.lookup request.requestId with
  | none => .ok (scheduler.addNewRequest request)
  | some existing =>
    if existing.status ≠ .waitingForStreamingReq then
      match existing.streamingQueue with
      | none => .error .assertionError
      | some queue =>
        .ok (scheduler.setRequest request.requestId
          { existing with streamingQueue := some (queue ++ [request.toUpdate]) })
    else
      match request.toUpdate with
      | some update => scheduler.updateRequestAsSession request.requestId existing update
      | none => scheduler.finishRequests answers [request.requestId] .finishedAborted

-- The reset of the prefix cache itself does not touch the scheduler.
def resetRunningRequests (blocks : RequestId → List GpuBlockId) : Except PyError Scheduler :=
  scheduler.running.reverse.foldlM (resetRunningRequest blocks) scheduler
where
  resetRunningRequest (blocks : RequestId → List GpuBlockId) (scheduler : Scheduler)
      (reqId : RequestId) : Except PyError Scheduler :=
    (scheduler.withRunning scheduler.running.dropLast).preemptRequest reqId true (blocks reqId)

def updateDraftTokenIds (drafts : List (RequestId × List Int)) : Scheduler :=
  drafts.foldl update scheduler
where
  update (scheduler : Scheduler) (draft : RequestId × List Int) : Scheduler :=
    match scheduler.requests.lookup draft.1 with
    | none => scheduler
    | some request =>
      if request.isFinished then scheduler
      else
        scheduler.setRequest draft.1
          { request with specTokenIds := if request.isPrefillChunk then [] else draft.2 }

end Scheduler

end VllmEngine.Sched

import VllmEngine.Sched.Schedule
import VllmEngine.Sched.Lifecycle

set_option autoImplicit false

namespace VllmEngine.Sched

-- The requests with blocks that could not be loaded come with the number of tokens that are valid.
structure StepResult extends FreeAnswers where
  sampledTokenIds : RequestId → List TokenId
  hasPoolerOutput : RequestId → Bool
  grammarRejects : RequestId → Bool
  invalidLoads : RequestId → Option Int
  finishedRecving : List RequestId
  finishedSending : List RequestId

namespace SchedRequest

variable (request : SchedRequest)

def settle (numTokensScheduled : Int) : Except PyError (SchedRequest × Bool) := do
  let request := { request with
    numInFlightTokens := request.numInFlightTokens - numTokensScheduled }
  if 0 < request.numStaleOutputTokens then
    let request := { request with
      numStaleOutputTokens := request.numStaleOutputTokens - numTokensScheduled }
    pyAssert (0 ≤ request.numStaleOutputTokens)
    return (request, true)
  return (request, false)

def rollBack (numRejected : Int) : SchedRequest :=
  { request with
    numComputedTokens :=
      if 0 < request.numComputedTokens then request.numComputedTokens - numRejected
      else request.numComputedTokens
    numOutputPlaceholders :=
      if 0 < request.numOutputPlaceholders then request.numOutputPlaceholders - numRejected
      else request.numOutputPlaceholders }

variable (config : SchedulerConfig)

def rollBackRejected (request : SchedRequest) (numDraftTokens : Nat)
    (numGenerated : Nat) (isStale : Bool) : SchedRequest :=
  if numDraftTokens ≠ 0 ∧ (numGenerated ≠ 0 ∨ config.numSampledTokensPerStep = 0) ∧ !isStale then
    let numAccepted : Int := max ((numGenerated : Int) - config.numSampledTokensPerStep) 0
    request.rollBack (numDraftTokens - numAccepted)
  else request

def updateWithOutput (request : SchedRequest) (newTokenIds : List TokenId) (isStale : Bool) :
    Except PyError (SchedRequest × List TokenId × Bool) := do
  let (request, newTokenIds, stopped) ← request.appendUntilStop config.maxModelLen newTokenIds
  if !config.isAsync ∨ isStale then return (request, newTokenIds, stopped)
  let request := { request with
    numOutputPlaceholders := request.numOutputPlaceholders - newTokenIds.length }
  pyAssert (0 ≤ request.numOutputPlaceholders)
  return (request, newTokenIds, stopped)

def takeTokens (result : StepResult) (reqId : RequestId) (isStale : Bool) (request : SchedRequest) :
    Except PyError (SchedRequest × List TokenId × Bool) :=
  if !(result.sampledTokenIds reqId).isEmpty then
    request.updateWithOutput config (result.sampledTokenIds reqId) isStale
  else if request.samplingParams.isNone ∧ result.hasPoolerOutput reqId then
    .ok (request.withStatus .finishedStopped, [], true)
  else .ok (request, [], false)

def rejectByGrammar (rejected : Bool) : SchedRequest :=
  if rejected then { request.withStatus .finishedError with resumable := false } else request

def takePrefillStats (shouldEmitOutput : Bool) : SchedRequest :=
  { request with hasPrefillStats := request.hasPrefillStats && !shouldEmitOutput }

def applyOutput (result : StepResult) (reqId : RequestId)
    (numDraftTokens : Nat) (isStale : Bool) (request : SchedRequest) :
    Except PyError (SchedRequest × Bool) := do
  let numGenerated := (result.sampledTokenIds reqId).length
  let (request, newTokenIds, stopped) ←
    (request.rollBackRejected config numDraftTokens numGenerated isStale).takeTokens config result
      reqId isStale
  let rejected := !newTokenIds.isEmpty && result.grammarRejects reqId
  let stopped := stopped || rejected
  let shouldEmitOutput := !newTokenIds.isEmpty || result.hasPoolerOutput reqId || stopped
  return ((request.rejectByGrammar rejected).takePrefillStats shouldEmitOutput, stopped)

end SchedRequest

namespace Scheduler

def handleStoppedRequest (scheduler : Scheduler) (reqId : RequestId) (request : SchedRequest) :
    Except PyError (Bool × SchedRequest × Scheduler) :=
  if !request.resumable then .ok (true, request, scheduler)
  else
    match request.streamingQueue with
    | some (none :: rest) =>
      .ok (true, { request with streamingQueue := some rest }, scheduler)
    | some (some update :: rest) => do
      let session := { request with streamingQueue := some rest }
      let scheduler ← scheduler.updateRequestAsSession reqId session update
      let session ← scheduler.request reqId
      return (false, session, scheduler.enqueueWaitingRequest reqId session.status)
    | _ =>
      let request := request.withStatus .waitingForStreamingReq
      let scheduler := { scheduler.setRequest reqId request with
        numWaitingForStreamingInput := scheduler.numWaitingForStreamingInput + 1 }
      .ok (false, request, scheduler.enqueueWaitingRequest reqId request.status)

end Scheduler

structure Processing where
  scheduler : Scheduler
  stoppedRunningReqs : List RequestId
  stoppedPreemptedReqs : List RequestId

namespace Processing

variable (processing : Processing)

def addStopped (scheduler : Scheduler) (reqId : RequestId)
    (statusBeforeStop : RequestStatus) : Processing :=
  if statusBeforeStop = .running then
    { processing with
      scheduler := scheduler
      stoppedRunningReqs := processing.stoppedRunningReqs ++ [reqId] }
  else
    { processing with
      scheduler := scheduler
      stoppedPreemptedReqs := processing.stoppedPreemptedReqs ++ [reqId] }

def stop (result : StepResult) (reqId : RequestId)
    (statusBeforeStop : RequestStatus) (request : SchedRequest) : Except PyError Processing := do
  let (finished, request, scheduler) ←
    processing.scheduler.handleStoppedRequest reqId request
  if !finished then
    return processing.addStopped scheduler reqId statusBeforeStop
  let scheduler ← scheduler.freeRequest result.toFreeAnswers reqId request false
  return processing.addStopped scheduler reqId statusBeforeStop

def deliver (result : StepResult) (output : SchedulerOutput)
    (reqId : RequestId) (request : SchedRequest) (isStale : Bool) : Except PyError Processing := do
  let (updated, stopped) ← request.applyOutput processing.scheduler.config result reqId
    (output.specTokens reqId).length isStale
  let processing := { processing with
    scheduler := processing.scheduler.setRequest reqId updated }
  if !stopped then return processing
  processing.stop result reqId request.status updated

def processRequest (result : StepResult) (output : SchedulerOutput)
    (failedKvLoadReqIds : List RequestId) (processing : Processing) (reqId : RequestId) :
    Except PyError Processing := do
  pyAssert (0 < output.numScheduled reqId)
  match processing.scheduler.requests.lookup reqId with
  | none => return processing
  | some request =>
    let (request, isStale) ← request.settle (output.numScheduled reqId)
    let processing := { processing with
      scheduler := processing.scheduler.setRequest reqId request }
    if reqId ∈ failedKvLoadReqIds ∨ request.isFinished ∨ (isStale ∧ request.dropStaleOutput) then
      return processing
    processing.deliver result output reqId request isStale

end Processing

namespace Scheduler

def truncateLoad (invalidLoads : RequestId → Option Int) (scheduler : Scheduler)
    (reqId : RequestId) : Scheduler :=
  match scheduler.requests.lookup reqId, invalidLoads reqId with
  | some request, some valid =>
    scheduler.setRequest reqId { request with numComputedTokens := valid }
  | _, _ => scheduler

variable (scheduler : Scheduler)

def handleInvalidBlocks (invalidLoads : RequestId → Option Int) : List RequestId × Scheduler :=
  let isAffected := fun reqId => (invalidLoads reqId).isSome
  let asyncFailed := (scheduler.skippedWaiting.filter
    (scheduler.hasStatus .waitingForRemoteKvs)).filter isAffected
  let syncFailed := scheduler.running.filter isAffected
  let truncated := (asyncFailed ++ syncFailed).foldl (truncateLoad invalidLoads) scheduler
  if !scheduler.config.recomputeKvLoadFailures then (asyncFailed ++ syncFailed, truncated)
  else
    (syncFailed,
      { truncated with
        failedRecvingKvReqIds := truncated.failedRecvingKvReqIds ++ asyncFailed })

def finishRecving (answers : FreeAnswers) (scheduler : Scheduler) (reqId : RequestId) :
    Except PyError Scheduler :=
  match scheduler.requests.lookup reqId with
  | none => .error .assertionError
  | some request =>
    if request.status = .waitingForRemoteKvs then
      .ok { scheduler with
        finishedRecvingKvReqIds := scheduler.finishedRecvingKvReqIds.insert reqId }
    else scheduler.freeBlocks reqId request (answers.blocks reqId)

def finishSending (answers : FreeAnswers) (scheduler : Scheduler) (reqId : RequestId) :
    Except PyError Scheduler :=
  match scheduler.requests.lookup reqId with
  | none => .error .assertionError
  | some request => scheduler.freeBlocks reqId request (answers.blocks reqId)

def countProcessed (output : SchedulerOutput) : Scheduler :=
  if 0 < output.totalNumScheduledTokens then
    let scheduler := { scheduler with
      log := { scheduler.log with numProcessed := scheduler.log.numProcessed + 1 } }
    if scheduler.config.deferBlockFree then
      { scheduler with processedStepSeq := scheduler.processedStepSeq + 1 }.drainDeferredFrees
    else scheduler
  else scheduler

def removeStopped (processing : Processing) : Scheduler :=
  let scheduler := processing.scheduler
  { scheduler with
    running := removeAll scheduler.running processing.stoppedRunningReqs
    waiting := RequestQueue.removeRequests scheduler.waiting processing.stoppedPreemptedReqs
    skippedWaiting :=
      RequestQueue.removeRequests scheduler.skippedWaiting processing.stoppedPreemptedReqs }

def finishErrors (result : StepResult)
    (failedKvLoadReqIds : List RequestId) : Except PyError Scheduler :=
  let errorReqIds :=
    if scheduler.config.recomputeKvLoadFailures then scheduler.grammarCompileErrorReqs
    else scheduler.grammarCompileErrorReqs ++ failedKvLoadReqIds
  { scheduler with grammarCompileErrorReqs := [] }.finishRequests result.toFreeAnswers errorReqIds
    .finishedError

def updateFromOutput (output : SchedulerOutput) (result : StepResult) :
    Except PyError Scheduler := do
  let scheduler := scheduler.countProcessed output
  let (failedKvLoadReqIds, scheduler) := scheduler.handleInvalidBlocks result.invalidLoads
  let processing ← output.numScheduledTokens.keys.foldlM
    (Processing.processRequest result output failedKvLoadReqIds) ⟨scheduler, [], []⟩
  let scheduler ← (removeStopped processing).finishErrors result failedKvLoadReqIds
  let scheduler ← result.finishedRecving.foldlM (finishRecving result.toFreeAnswers) scheduler
  result.finishedSending.foldlM (finishSending result.toFreeAnswers) scheduler

end Scheduler

end VllmEngine.Sched

import VllmEngine.Sched.MambaSplit
import VllmEngine.Shared.Loop
import Mathlib.Algebra.GroupWithZero.Nat
import Mathlib.Algebra.Ring.Int.Defs

set_option autoImplicit false

namespace VllmEngine.Sched

-- A request is asked about once in a call, except for its slots: `allocateSlots n` answers the
-- `n`-th allocation.
structure ScheduleAnswers where
  throttlePrefills : Bool
  allocateSlots : Nat → Bool
  blocks : RequestId → List GpuBlockId
  -- The locally cached tokens and the shared prefix boundary.
  getComputedBlocks : RequestId → Nat × Nat
  -- The same for a connector, and whether the hit diverges across groups.
  getComputedBlocksForConnector : RequestId → Nat × Nat × Bool
  getNumNewMatchedTokens : RequestId → Nat → Option Nat × Bool
  ensureCacheAvailable : RequestId → Bool
  -- The number of tokens that `_try_schedule_encoder_inputs` leaves of those offered.
  tryScheduleEncoderInputs : RequestId → Int → Int → Int
  -- `none`: not compiled yet; `some false`: the compilation failed.
  grammar : RequestId → Option Bool
  -- The retained blocks of the copies of this step; empty when there is no copy.
  cowRetainedBlocks : List GpuBlockId

structure Pass where
  scheduler : Scheduler
  tokenBudget : Int
  reqIndex : Nat
  scheduledNewReqs : List RequestId
  scheduledResumedReqs : List RequestId
  scheduledRunningReqs : List RequestId
  preemptedReqs : List RequestId
  numScheduledTokens : AList fun _ : RequestId => Int
  scheduledSpecDecodeTokens : AList fun _ : RequestId => List Int
  prefillScheduled : Bool
  scheduledLoras : List Nat
  stepSkippedWaiting : List RequestId
  numAllocations : Nat

def capLongPrefill (config : SchedulerConfig) (numNewTokens : Int) : Int :=
  if 0 < config.longPrefillTokenThreshold ∧ config.longPrefillTokenThreshold < numNewTokens then
    config.longPrefillTokenThreshold
  else numNewTokens

def passesOver (scheduler : Scheduler) (deferPrefills : Bool) (request : SchedRequest) : Bool :=
  (decide (0 < request.numOutputPlaceholders) &&
    decide ((request.numPromptTokens : Int) + request.maxTokens ≤
      request.numComputedTokens + 2 - request.numOutputPlaceholders)) ||
  decide (scheduler.currentStep < request.nextDecodeEligibleStep) ||
  (deferPrefills && request.isPrefillChunk)

def runningTokens (config : SchedulerConfig) (answers : ScheduleAnswers) (request : SchedRequest)
    (tokenBudget : Int) : Int :=
  let numNewTokens :=
    request.numTokensWithSpec + request.numOutputPlaceholders - request.numComputedTokens
  let numNewTokens := min (capLongPrefill config numNewTokens) tokenBudget
  let numNewTokens := min numNewTokens
    (config.maxModelLen - request.numComputedTokens - config.numSampledTokensPerStep)
  let numNewTokens :=
    if request.hasEncoderInputs then
      answers.tryScheduleEncoderInputs request.requestId request.numComputedTokens numNewTokens
    else numNewTokens
  if config.needMambaBlockAlignedSplit then mambaBlockAlignedSplit config request numNewTokens 0 0
  else numNewTokens

def greatest (requests : Requests) : List RequestId → Option RequestId
  | [] => none
  | reqId :: rest =>
    match greatest requests rest with
    | none => some reqId
    | some other => if later reqId other then some other else some reqId
where
  later (reqId other : RequestId) : Bool :=
    match requests.lookup reqId, requests.lookup other with
    | some request, some against =>
      decide (request.priority < against.priority ∨
        request.priority = against.priority ∧ request.arrivalTime < against.arrivalTime)
    | _, _ => false

namespace Pass

variable (pass : Pass)

def withScheduler (scheduler : Scheduler) : Pass := { pass with scheduler := scheduler }

def victim : Option RequestId :=
  match pass.scheduler.config.policy with
  | .fcfs => pass.scheduler.running.getLast?
  | .priority => greatest pass.scheduler.requests pass.scheduler.running

def unschedule (preempted : RequestId) : Pass :=
  { pass with
    scheduledRunningReqs := pass.scheduledRunningReqs.erase preempted
    tokenBudget := pass.tokenBudget + (pass.numScheduledTokens.lookup preempted).getD 0
    numScheduledTokens := pass.numScheduledTokens.erase preempted
    scheduledSpecDecodeTokens := pass.scheduledSpecDecodeTokens.erase preempted
    reqIndex := pass.reqIndex - 1 }

def removeVictim (preempted : RequestId) : Pass :=
  match pass.scheduler.config.policy with
  | .fcfs =>
    pass.withScheduler (pass.scheduler.withRunning pass.scheduler.running.dropLast)
  | .priority =>
    let pass := pass.withScheduler
      (pass.scheduler.withRunning (pass.scheduler.running.erase preempted))
    if preempted ∈ pass.scheduledRunningReqs then pass.unschedule preempted else pass

def countAllocation : Pass :=
  { pass with numAllocations := pass.numAllocations + 1 }

variable (answers : ScheduleAnswers)

def preempt (pass : Pass) (preempted : RequestId) : Except PyError Pass := do
  let pass := pass.removeVictim preempted
  let scheduler ← pass.scheduler.preemptRequest preempted
    pass.scheduler.config.requiresKvDelivery (answers.blocks preempted)
  return { pass with
    scheduler := scheduler
    preemptedReqs := pass.preemptedReqs ++ [preempted] }

def allocateRound (reqId : RequestId) (pass : Pass) : Except PyError (Round Pass (Bool × Pass)) :=
  let allocated := answers.allocateSlots pass.numAllocations
  let pass := pass.countAllocation
  if allocated then .ok (.done (true, pass))
  else
    match pass.victim with
    | none => .error .indexError
    | some preempted => do
      let pass ← pass.preempt answers preempted
      if preempted = reqId then return .done (false, pass)
      return .next pass

def allocateRunning (reqId : RequestId) (pass : Pass) : Except PyError (Bool × Pass) :=
  iterate .outOfFuel (allocateRound answers reqId) (pass.scheduler.running.length + 1) pass

def specTokensFor (request : SchedRequest) (numNewTokens : Int) : List Int :=
  let numScheduledSpecTokens := numNewTokens + request.numComputedTokens - request.numTokens -
    request.numOutputPlaceholders
  request.specTokenIds.take numScheduledSpecTokens.toNat

def scheduleRunning (reqId : RequestId) (request : SchedRequest) (numNewTokens : Int) : Pass :=
  let specTokenIds := specTokensFor request numNewTokens
  { pass with
    scheduler := pass.scheduler.setRequest reqId { request with specTokenIds := [] }
    scheduledRunningReqs := pass.scheduledRunningReqs ++ [reqId]
    prefillScheduled := pass.prefillScheduled || request.isPrefillChunk
    numScheduledTokens := pass.numScheduledTokens.insert reqId numNewTokens
    scheduledSpecDecodeTokens :=
      if specTokenIds.isEmpty then pass.scheduledSpecDecodeTokens
      else pass.scheduledSpecDecodeTokens.insert reqId specTokenIds
    tokenBudget := pass.tokenBudget - numNewTokens
    reqIndex := pass.reqIndex + 1 }

def skipRunning : Pass := { pass with reqIndex := pass.reqIndex + 1 }

def runningRound (deferPrefills : Bool) (pass : Pass) : Except PyError (Round Pass Pass) :=
  match pass.scheduler.running[pass.reqIndex]? with
  | none => .ok (.done pass)
  | some reqId =>
    if pass.tokenBudget ≤ 0 then .ok (.done pass)
    else do
      let request ← pass.scheduler.request reqId
      if passesOver pass.scheduler deferPrefills request then
        return .next pass.skipRunning
      let numNewTokens := runningTokens pass.scheduler.config answers request pass.tokenBudget
      if numNewTokens = 0 then
        return .next pass.skipRunning
      let (allocated, pass) ← allocateRunning answers reqId pass
      if !allocated then
        return .done pass
      let request ← pass.scheduler.request reqId
      return .next (pass.scheduleRunning reqId request numNewTokens)

def scheduleRunningRequests (deferPrefills : Bool) (pass : Pass) : Except PyError Pass :=
  iterate .outOfFuel (runningRound answers deferPrefills) (pass.scheduler.running.length + 1) pass

def runningLoras : List Nat :=
  (pass.scheduledRunningReqs.filterMap fun reqId =>
    (pass.scheduler.requests.lookup reqId).bind fun request =>
      request.loraIntId.filter (0 < ·)).dedup

def recordLoras : Except PyError Pass :=
  match pass.scheduler.config.maxLoras with
  | none => .ok pass
  | some maxLoras => do
    pyAssert (pass.runningLoras.length ≤ maxLoras)
    return { pass with scheduledLoras := pass.runningLoras }

variable (scheduler : Scheduler)

-- `_select_waiting_queue_for_scheduling`, and the request at the front of that queue; `true` stands
-- for `skipped_waiting`.
def selectWaiting : Option (Bool × RequestId) :=
  let front := RequestQueue.peekRequest scheduler.config.policy scheduler.requests
  match front scheduler.waiting, front scheduler.skippedWaiting with
  | none, none => none
  | some reqId, none => some (false, reqId)
  | none, some reqId => some (true, reqId)
  | some waitingReq, some skippedReq =>
    match scheduler.config.policy with
    | .fcfs => some (true, skippedReq)
    | .priority =>
      if scheduler.requests.before waitingReq skippedReq then some (false, waitingReq)
      else some (true, skippedReq)

def queueOf (fromSkipped : Bool) : List RequestId :=
  if fromSkipped then scheduler.skippedWaiting else scheduler.waiting

def popWaiting (fromSkipped : Bool) (reqId : RequestId) : Scheduler :=
  if fromSkipped then
    { scheduler with
      skippedWaiting := RequestQueue.popRequest scheduler.skippedWaiting reqId }
  else { scheduler with waiting := RequestQueue.popRequest scheduler.waiting reqId }

def skipWaiting (fromSkipped : Bool) (reqId : RequestId) : Pass :=
  { pass with
    scheduler := popWaiting pass.scheduler fromSkipped reqId
    stepSkippedWaiting := RequestQueue.prependRequest pass.stepSkippedWaiting reqId }

def updateWaitingForRemoteKv (reqId : RequestId) (request : SchedRequest)
    (blocks : List GpuBlockId) : Except PyError (Scheduler × SchedRequest) := do
  pyAssert scheduler.config.hasConnector
  let received := { scheduler with
    finishedRecvingKvReqIds := scheduler.finishedRecvingKvReqIds.erase reqId }
  if reqId ∈ scheduler.failedRecvingKvReqIds then
    let received := { received with
      failedRecvingKvReqIds := scheduler.failedRecvingKvReqIds.erase reqId }
    if request.numComputedTokens ≠ 0 then return (received, request)
    return (received.free reqId blocks, request)
  if request.numComputedTokens = request.numTokens then
    return (received, { request with numComputedTokens := request.numTokens - 1 })
  return (received, request)

def tryPromote (answers : ScheduleAnswers) (reqId : RequestId)
    (request : SchedRequest) : Except PyError (Bool × Scheduler) :=
  match request.status with
  | .waitingForRemoteKvs =>
    if reqId ∉ scheduler.finishedRecvingKvReqIds then .ok (false, scheduler)
    else do
      let (scheduler, request) ←
        updateWaitingForRemoteKv scheduler reqId request (answers.blocks reqId)
      let status : RequestStatus := if 0 < request.numPreemptions then .preempted else .waiting
      return (true, scheduler.setRequest reqId (request.withStatus status))
  | .waitingForStructuredOutputGrammar =>
    match answers.grammar reqId with
    | none => .ok (false, scheduler)
    | some false =>
      .ok (false, { scheduler with
        grammarCompileErrorReqs := scheduler.grammarCompileErrorReqs.insert reqId })
    | some true => .ok (true, scheduler.setRequest reqId (request.withStatus .waiting))
  | .waitingForStreamingReq => do
    pyAssert (request.streamingQueue.getD []).isEmpty
    return (false, scheduler)
  | _ => .error .assertionError

structure CachedTokens where
  numNewLocalComputedTokens : Nat
  numExternalComputedTokens : Nat
  loadKvAsync : Bool
  numComputedTokens : Int
  sharedPrefixBoundary : Nat

variable (config : SchedulerConfig)

-- `none` when the connector cannot tell yet.
def connectorTokens (answers : ScheduleAnswers) (reqId : RequestId) : Option CachedTokens × Nat :=
  let (localTokens, boundary, hitDiverged) := answers.getComputedBlocksForConnector reqId
  let partialTail := localTokens % config.blockSize
  let blockAlignedLocal := localTokens - partialTail
  match answers.getNumNewMatchedTokens reqId blockAlignedLocal with
  | (none, _) => (none, boundary)
  | (some extTokens, loadKvAsync) =>
    let (localTokens, external, loadKvAsync) :=
      if partialTail ≠ 0 then
        if partialTail < extTokens then (blockAlignedLocal, extTokens, loadKvAsync)
        else (localTokens, 0, false)
      else (localTokens, extTokens, loadKvAsync)
    let (localTokens, boundary) :=
      if hitDiverged ∧ external = 0 then answers.getComputedBlocks reqId
      else (localTokens, boundary)
    (some ⟨localTokens, external, loadKvAsync, localTokens + external, boundary⟩, boundary)

def lookupTokens (answers : ScheduleAnswers) (reqId : RequestId) : Option CachedTokens × Nat :=
  if config.hasConnector then connectorTokens config answers reqId
  else
    let (localTokens, boundary) := answers.getComputedBlocks reqId
    (some ⟨localTokens, 0, false, localTokens, boundary⟩, boundary)

def cachedTokens (answers : ScheduleAnswers) (reqId : RequestId)
    (request : SchedRequest) : Except PyError (Option CachedTokens × SchedRequest) :=
  if request.numComputedTokens ≠ 0 then
    .ok (some ⟨0, 0, false, request.numComputedTokens, request.sharedPrefixBoundary⟩, request)
  else
    let (found, boundary) := lookupTokens config answers reqId
    let request := { request with sharedPrefixBoundary := boundary }
    match found with
    | none => .ok (none, request)
    | some found => do
      pyAssert (found.numComputedTokens ≤ request.numTokens)
      if config.hasEcConnector ∧ request.hasEncoderInputs ∧
          !answers.ensureCacheAvailable reqId then
        return (none, request)
      if request.hasPrefillStats ∧ request.numPreemptions = 0 then
        pyAssert (found.numComputedTokens ≤ request.numPromptTokens)
      return (some found, request)

def padsSpecDecode (numNewTokens : Int) : Bool :=
  let config := pass.scheduler.config
  decide (0 < config.numSpecTokens) && config.dynamicSdLookup.isNone &&
    decide (0 < config.numSampledTokensPerStep) && decide (numNewTokens = 1) &&
    !pass.scheduledRunningReqs.isEmpty && !pass.prefillScheduled

-- `none` ends the pass.
def clipWaiting (answers : ScheduleAnswers) (reqId : RequestId)
    (request : SchedRequest) (cached : CachedTokens) (numNewTokens : Int) : Option Int :=
  let numNewTokens :=
    if request.hasEncoderInputs then
      answers.tryScheduleEncoderInputs reqId cached.numComputedTokens numNewTokens
    else numNewTokens
  if numNewTokens = 0 then none
  else if config.needMambaBlockAlignedSplit then
    let numNewTokens := mambaBlockAlignedSplit config request numNewTokens
      cached.numNewLocalComputedTokens cached.numExternalComputedTokens
    if numNewTokens = 0 then none else some numNewTokens
  else some numNewTokens

-- `none` ends the pass.
def waitingTokens (deferPrefills : Bool) (pass : Pass)
    (reqId : RequestId) (request : SchedRequest) (cached : CachedTokens) :
    Except PyError (Option (Int × Bool)) :=
  let config := pass.scheduler.config
  if cached.loadKvAsync then do
    pyAssert (0 < cached.numExternalComputedTokens)
    return some (0, false)
  else if deferPrefills ∧ cached.numComputedTokens < request.numTokens - 1 then .ok none
  else
    let numNewTokens := request.numTokens - cached.numComputedTokens
    let pads := pass.padsSpecDecode numNewTokens
    let padded : Int := 1 + config.numSpecTokens
    if pads ∧ (pass.tokenBudget < padded ∨
        config.maxModelLen < cached.numComputedTokens + padded) then .ok none
    else
      let numNewTokens := capLongPrefill config (if pads then padded else numNewTokens)
      if !config.enableChunkedPrefill ∧ pass.tokenBudget < numNewTokens then .ok none
      else do
        let numNewTokens := min numNewTokens pass.tokenBudget
        pyAssert (0 < numNewTokens)
        return (clipWaiting config answers reqId request cached numNewTokens).map (·, pads)

def startLoad (fromSkipped : Bool) (reqId : RequestId) (request : SchedRequest)
    (cached : CachedTokens) : Pass :=
  let pass := pass.skipWaiting fromSkipped reqId
  pass.withScheduler (pass.scheduler.setRequest reqId
    { request with
      status := .waitingForRemoteKvs
      numComputedTokens := cached.numComputedTokens })

def admitWaiting (fromSkipped : Bool) (reqId : RequestId) (request : SchedRequest)
    (cached : CachedTokens) (numNewTokens : Int) (padSpecDecode : Bool) : Except PyError Pass := do
  let config := pass.scheduler.config
  let scheduler := popWaiting pass.scheduler fromSkipped reqId
  let scheduler := { scheduler with running := scheduler.running ++ [reqId] }
  let pass := { pass with
    scheduler := scheduler.setRequest reqId
      { request with status := .running, numComputedTokens := cached.numComputedTokens }
    scheduledLoras :=
      if config.maxLoras.isSome then
        request.loraIntId.elim pass.scheduledLoras fun lora => pass.scheduledLoras.insert lora
      else pass.scheduledLoras
    numScheduledTokens := pass.numScheduledTokens.insert reqId numNewTokens
    tokenBudget := pass.tokenBudget - numNewTokens
    scheduledSpecDecodeTokens :=
      if padSpecDecode then
        pass.scheduledSpecDecodeTokens.insert reqId (List.replicate config.numSpecTokens (-1))
      else pass.scheduledSpecDecodeTokens }
  match request.status with
  | .waiting => return { pass with scheduledNewReqs := pass.scheduledNewReqs ++ [reqId] }
  | .preempted => return { pass with scheduledResumedReqs := pass.scheduledResumedReqs ++ [reqId] }
  | _ => throw (.runtimeError "Invalid request status")

def exceedsLoras (request : SchedRequest) : Bool :=
  match pass.scheduler.config.maxLoras, request.loraIntId with
  | some maxLoras, some lora =>
    decide (pass.scheduledLoras.length = maxLoras) && decide (lora ∉ pass.scheduledLoras)
  | _, _ => false

def tryAdmit (deferPrefills fromSkipped : Bool) (reqId : RequestId)
    (request : SchedRequest) (cached : CachedTokens) (pass : Pass) :
    Except PyError (Round Pass Pass) := do
  match ← pass.waitingTokens answers deferPrefills reqId request cached with
  | none => return .done pass
  | some (numNewTokens, padSpecDecode) =>
    let allocated := answers.allocateSlots pass.numAllocations
    let pass := pass.countAllocation
    if !allocated then return .done pass
    if cached.loadKvAsync then
      return .next (pass.startLoad fromSkipped reqId request cached)
    return .next
      (← pass.admitWaiting fromSkipped reqId request cached numNewTokens padSpecDecode)

def considerWaiting (deferPrefills fromSkipped : Bool)
    (reqId : RequestId) (pass : Pass) : Except PyError (Round Pass Pass) := do
  let request ← pass.scheduler.request reqId
  -- Its output in flight could deliver a position that would be sampled again.
  if 0 < request.numStaleOutputTokens ∧ !request.dropStaleOutput then
    return .next (pass.skipWaiting fromSkipped reqId)
  if pass.exceedsLoras request then
    return .next (pass.skipWaiting fromSkipped reqId)
  let (cached, request) ← cachedTokens pass.scheduler.config answers reqId request
  let pass := pass.withScheduler (pass.scheduler.setRequest reqId request)
  match cached with
  | none => return .next (pass.skipWaiting fromSkipped reqId)
  | some cached => tryAdmit answers deferPrefills fromSkipped reqId request cached pass

def unblock (reqId : RequestId) (scheduler : Scheduler) : Except PyError (Bool × Scheduler) := do
  let request ← scheduler.request reqId
  if Scheduler.isBlockedWaitingStatus request.status then
    tryPromote scheduler answers reqId request
  else return (true, scheduler)

def waitingRound (deferPrefills : Bool) (pass : Pass) : Except PyError (Round Pass Pass) :=
  match selectWaiting pass.scheduler with
  | none => .ok (.done pass)
  | some (fromSkipped, reqId) =>
    if pass.tokenBudget ≤ 0 then .ok (.done pass)
    else if pass.scheduler.config.maxNumRunningReqs ≤
        pass.scheduler.running.length + pass.scheduler.numWaitingForStreamingInput then
      .ok (.done pass)
    else do
      let (ready, scheduler) ← unblock answers reqId pass.scheduler
      let pass := pass.withScheduler scheduler
      if !ready then return .next (pass.skipWaiting fromSkipped reqId)
      considerWaiting answers deferPrefills fromSkipped reqId pass

def requeueSkipped (deferPrefills : Bool) : Pass :=
  let scheduler := pass.scheduler
  { pass with
    scheduler :=
      { scheduler with
        skippedWaiting :=
          RequestQueue.prependRequests scheduler.skippedWaiting pass.stepSkippedWaiting
        prefillCapacityBound :=
          if deferPrefills then scheduler.prefillCapacityBound else !scheduler.waiting.isEmpty }
    stepSkippedWaiting := [] }

def scheduleWaitingRequests (deferPrefills : Bool) (pass : Pass) : Except PyError Pass :=
  if !pass.preemptedReqs.isEmpty ∨ pass.scheduler.pauseState ≠ .unpaused then .ok pass
  else do
    let pass ← iterate .outOfFuel (waitingRound answers deferPrefills)
      (pass.scheduler.waiting.length + pass.scheduler.skippedWaiting.length + 1) pass
    return pass.requeueSkipped deferPrefills

def totalNumScheduledTokens : Int :=
  (pass.numScheduledTokens.entries.map fun entry => entry.2).sum

def checkConstraints : Except PyError Unit := do
  let config := pass.scheduler.config
  pyAssert (pass.totalNumScheduledTokens ≤ config.maxNumScheduledTokens)
  pyAssert (0 ≤ pass.tokenBudget)
  pyAssert (pass.scheduler.running.length ≤ config.maxNumRunningReqs)
  pyAssert (pass.scheduledNewReqs.length + pass.scheduledResumedReqs.length +
    pass.scheduledRunningReqs.length ≤ pass.scheduler.running.length)

end Pass

structure SchedulerOutput where
  numScheduledTokens : AList fun _ : RequestId => Int
  totalNumScheduledTokens : Int
  scheduledSpecDecodeTokens : AList fun _ : RequestId => List Int
  numSpecTokensToSchedule : Nat
  preemptedReqs : List RequestId

namespace SchedulerOutput

def numScheduled (output : SchedulerOutput) (reqId : RequestId) : Int :=
  (output.numScheduledTokens.lookup reqId).getD 0

def specTokens (output : SchedulerOutput) (reqId : RequestId) : List Int :=
  (output.scheduledSpecDecodeTokens.lookup reqId).getD []

end SchedulerOutput

namespace SchedRequest

def afterSchedule (config : SchedulerConfig) (schedStepSeq : Nat) (numScheduledTokens : Int)
    (request : SchedRequest) : SchedRequest :=
  { request with
    numComputedTokens := request.numComputedTokens + numScheduledTokens
    numInFlightTokens := request.numInFlightTokens + numScheduledTokens
    lastSchedSeq := if config.deferBlockFree then schedStepSeq else request.lastSchedSeq
    isPrefillChunk := request.numComputedTokens + numScheduledTokens <
      request.numTokens + request.numOutputPlaceholders }

def afterScheduleAsync (config : SchedulerConfig) (currentStep numSpecTokensToSchedule : Nat)
    (curNumSpecTokens : Nat) (request : SchedRequest) : SchedRequest :=
  if request.isPrefillChunk then request
  else
    { request with
      numOutputPlaceholders :=
        request.numOutputPlaceholders + (config.numSampledTokensPerStep + curNumSpecTokens)
      specTokenIds := List.replicate numSpecTokensToSchedule (-1)
      nextDecodeEligibleStep :=
        if config.useV2ModelRunner then currentStep + config.ppSize
        else request.nextDecodeEligibleStep }

end SchedRequest

namespace Scheduler

def modify (change : RequestId → SchedRequest → SchedRequest) (scheduler : Scheduler)
    (reqId : RequestId) : Except PyError Scheduler := do
  let request ← scheduler.request reqId
  return scheduler.setRequest reqId (change reqId request)

variable (scheduler : Scheduler)

def updateAfterSchedule (output : SchedulerOutput) : Except PyError Scheduler := do
  let config := scheduler.config
  let seq := scheduler.schedStepSeq
  let currentStep := scheduler.currentStep
  let scheduler ← output.numScheduledTokens.keys.foldlM
    (modify fun reqId request => request.afterSchedule config seq (output.numScheduled reqId))
    scheduler
  if !config.isAsync then return scheduler
  output.numScheduledTokens.keys.foldlM
    (modify fun reqId request => request.afterScheduleAsync config currentStep
      output.numSpecTokensToSchedule (output.specTokens reqId).length)
    scheduler

def beginPass : Pass where
  scheduler := { scheduler with currentStep := scheduler.currentStep + 1 }
  tokenBudget :=
    if scheduler.pauseState = .pausedAll then 0 else scheduler.config.maxNumScheduledTokens
  reqIndex := 0
  scheduledNewReqs := []
  scheduledResumedReqs := []
  scheduledRunningReqs := []
  preemptedReqs := []
  numScheduledTokens := ∅
  scheduledSpecDecodeTokens := ∅
  prefillScheduled := false
  scheduledLoras := []
  stepSkippedWaiting := []
  numAllocations := 0

def deferPrefills (answers : ScheduleAnswers) : Bool :=
  answers.throttlePrefills && !scheduler.prefillCapacityBound &&
    scheduler.running.any fun reqId =>
      (scheduler.requests.lookup reqId).any fun request => !request.isPrefillChunk

def numSpecTokensToSchedule (config : SchedulerConfig) (numReqs : Nat) : Except PyError Nat :=
  match config.dynamicSdLookup with
  | none => .ok config.numSpecTokens
  | some lookup =>
    if numReqs = 0 then .ok config.numSpecTokens
    else
      match lookup[numReqs]? with
      | none => .error .indexError
      | some numSpecTokens => .ok numSpecTokens

def closeStep (answers : ScheduleAnswers) (output : SchedulerOutput) : Scheduler :=
  let scheduler :=
    if answers.cowRetainedBlocks.isEmpty then scheduler
    else scheduler.freeCowRetainedBlocks answers.cowRetainedBlocks (scheduler.schedStepSeq + 1)
  if 0 < output.totalNumScheduledTokens then
    { scheduler with
      schedStepSeq :=
        if scheduler.config.deferBlockFree then scheduler.schedStepSeq + 1
        else scheduler.schedStepSeq
      log :=
        { scheduler.log with
          steps := scheduler.log.steps ++ [output.numScheduledTokens.keys] } }
  else scheduler

def schedule (answers : ScheduleAnswers) : Except PyError (SchedulerOutput × Scheduler) := do
  let deferPrefills := scheduler.deferPrefills answers
  let pass ← scheduler.beginPass.scheduleRunningRequests answers deferPrefills
  let pass ← pass.recordLoras
  let pass ← pass.scheduleWaitingRequests answers deferPrefills
  pass.checkConstraints
  let numSpecTokensToSchedule ←
    numSpecTokensToSchedule scheduler.config pass.numScheduledTokens.keys.length
  let output : SchedulerOutput :=
    { numScheduledTokens := pass.numScheduledTokens
      totalNumScheduledTokens := pass.totalNumScheduledTokens
      scheduledSpecDecodeTokens := pass.scheduledSpecDecodeTokens
      numSpecTokensToSchedule := numSpecTokensToSchedule
      preemptedReqs := pass.preemptedReqs }
  let scheduler ← (pass.scheduler.closeStep answers output).updateAfterSchedule output
  return (output, scheduler)

end Scheduler

end VllmEngine.Sched

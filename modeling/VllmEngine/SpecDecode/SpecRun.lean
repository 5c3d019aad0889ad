import VllmEngine.SpecDecode.Verify
import VllmEngine.Hashing.Request
import VllmEngine.Shared.Run

set_option autoImplicit false

namespace VllmEngine

structure SpecConfig where
  numSpecTokens : Nat
  longPrefillTokenThreshold : Nat
  maxModelLen : Nat
  vocabSize : Nat
  dynamicSd : Bool

structure StopParams where
  minTokens : Nat
  maxTokens : Nat
  eosTokenId : Option Int
  stopTokenIds : List Int
  repeats : List Int → Bool

inductive SpecStatus where
  | waiting
  | running
  | preempted
  | finished
  | aborted
  deriving DecidableEq, Repr

structure SpecRequest where
  promptTokenIds : List Int
  outputTokenIds : List Int
  params : StopParams
  status : SpecStatus
  numComputedTokens : Int
  specTokenIds : List Int
  isPrefillChunk : Bool
  runnerOutputTokenIds : List Int
  kv : List Int

namespace SpecRequest

def create (promptTokenIds : List Int) (params : StopParams) : SpecRequest where
  promptTokenIds := promptTokenIds
  outputTokenIds := []
  params := params
  status := .waiting
  numComputedTokens := 0
  specTokenIds := []
  isPrefillChunk := false
  runnerOutputTokenIds := []
  kv := []

def allTokenIds (request : SpecRequest) : List Int :=
  request.promptTokenIds ++ request.outputTokenIds

def numTokens (request : SpecRequest) : Nat := request.allTokenIds.length

def checkStop (config : SpecConfig) (request : SpecRequest) (outputTokenIds : List Int) : Bool :=
  if outputTokenIds.length < request.params.minTokens then false
  else
    outputTokenIds.getLast? = request.params.eosTokenId && request.params.eosTokenId.isSome ||
    outputTokenIds.getLast?.any (· ∈ request.params.stopTokenIds) ||
    config.maxModelLen ≤ request.promptTokenIds.length + outputTokenIds.length ||
    request.params.maxTokens ≤ outputTokenIds.length ||
    request.params.repeats outputTokenIds

def updateWithOutput (stops : List Int → Bool) : List Int → List Int → List Int × Bool
  | outputTokenIds, [] => (outputTokenIds, false)
  | outputTokenIds, token :: rest =>
    if stops (outputTokenIds ++ [token]) then (outputTokenIds ++ [token], true)
    else updateWithOutput stops (outputTokenIds ++ [token]) rest

def preempt (request : SpecRequest) : SpecRequest :=
  { request with status := .preempted, numComputedTokens := 0, specTokenIds := [], kv := [] }

end SpecRequest

structure ScheduledRequest where
  reqId : RequestId
  request : SpecRequest
  numScheduledTokens : Nat
  specDecodeTokens : List Int

-- What `schedule` decides about a request. `limit` is what the encoder budget and the block-aligned
-- split leave, and for a running request the token budget; `hit` is that of the prefix cache.
inductive SpecCall where
  | running (reqId : RequestId) (limit : Nat)
  | admitted (reqId : RequestId) (hit tokenBudget limit : Nat)

namespace SpecCall

variable (config : SpecConfig)

def cap (numNewTokens : Nat) : Nat :=
  if 0 < config.longPrefillTokenThreshold ∧ config.longPrefillTokenThreshold < numNewTokens then
    config.longPrefillTokenThreshold
  else numNewTokens

def scheduleRunning (reqId : RequestId) (request : SpecRequest)
    (limit : Nat) : Option ScheduledRequest :=
  let numTokensWithSpec := request.numTokens + request.specTokenIds.length
  let numNewTokens := cap config ((numTokensWithSpec : Int) - request.numComputedTokens).toNat
  let numNewTokens := min (min numNewTokens limit)
    ((config.maxModelLen : Int) - request.numComputedTokens - 1).toNat
  if numNewTokens = 0 then none
  else
    let numScheduledSpecTokens :=
      (numNewTokens : Int) + request.numComputedTokens - (request.numTokens : Int)
    some
      { reqId := reqId
        request := { request with specTokenIds := [] }
        numScheduledTokens := numNewTokens
        specDecodeTokens := request.specTokenIds.take numScheduledSpecTokens.toNat }

def padsSpecDecode (pads : Bool) (numNewTokens : Nat) : Bool :=
  0 < config.numSpecTokens && !config.dynamicSd && numNewTokens = 1 && pads

-- `pads`: running requests were scheduled, and no prefill among them.
def scheduleAdmitted (pads : Bool) (reqId : RequestId)
    (request : SpecRequest) (hit tokenBudget limit : Nat) : Option ScheduledRequest :=
  if request.numTokens ≤ hit then none
  else
    let pad := padsSpecDecode config pads (request.numTokens - hit)
    let numNewTokens := if pad then 1 + config.numSpecTokens else request.numTokens - hit
    if pad ∧ (tokenBudget < numNewTokens ∨ config.maxModelLen < hit + numNewTokens) then none
    else
      let numNewTokens := min (min (cap config numNewTokens) tokenBudget) limit
      if numNewTokens = 0 then none
      else
        some
          { reqId := reqId
            request :=
              { request with
                status := .running
                numComputedTokens := hit
                kv := request.allTokenIds.take hit }
            numScheduledTokens := numNewTokens
            specDecodeTokens :=
              if pad then List.replicate config.numSpecTokens placeholderTokenId else [] }

def schedule (requests : RequestId → Option SpecRequest) (pads : Bool) :
    SpecCall → Option ScheduledRequest
  | running reqId limit =>
    (requests reqId).bind fun request =>
      if request.status = .running then scheduleRunning config reqId request limit else none
  | admitted reqId hit tokenBudget limit =>
    (requests reqId).bind fun request =>
      if request.status = .waiting ∨ request.status = .preempted then
        scheduleAdmitted config pads reqId request hit tokenBudget limit
      else none

end SpecCall

namespace ScheduledRequest

def inputIds (scheduled : ScheduledRequest) : List Int :=
  ((scheduled.request.promptTokenIds ++ scheduled.request.runnerOutputTokenIds ++
    scheduled.specDecodeTokens).drop scheduled.request.numComputedTokens.toNat).take
      scheduled.numScheduledTokens

def kv (scheduled : ScheduledRequest) : List Int :=
  let computed := scheduled.request.numComputedTokens.toNat
  scheduled.request.kv.take computed ++ scheduled.inputIds ++
    scheduled.request.kv.drop (computed + scheduled.numScheduledTokens)

def discard (scheduled : ScheduledRequest) : Bool :=
  scheduled.request.numComputedTokens + (scheduled.numScheduledTokens : Int) <
    ((scheduled.request.promptTokenIds ++ scheduled.request.runnerOutputTokenIds).length : Int)

-- The maximum of the logits at a position is at `next` of what the cache has up to there.
def row (next : List Int → Int) (scheduled : ScheduledRequest) : StepRow where
  inputIds := scheduled.inputIds
  argmax := (List.range scheduled.inputIds.length).map fun j =>
    next (scheduled.kv.take (scheduled.request.numComputedTokens.toNat + j + 1))
  numDraftTokens := scheduled.specDecodeTokens.length
  discard := scheduled.discard

-- `_update_after_schedule`, and the roll back in `update_from_output`.
def numComputedTokens (scheduled : ScheduledRequest) (generated : List Int) : Int :=
  let computed := scheduled.request.numComputedTokens + (scheduled.numScheduledTokens : Int)
  if scheduled.specDecodeTokens ≠ [] ∧ generated ≠ [] then
    let numAccepted : Nat := generated.length - 1
    let numRejected : Int := scheduled.specDecodeTokens.length - numAccepted
    if 0 < computed then computed - numRejected else computed
  else computed

-- The request after the step: `_bookkeeping_sync`, `update_from_output` and
-- `update_draft_token_ids`.
def finish (config : SpecConfig) (scheduled : ScheduledRequest) (generated : List Int)
    (drafts : Option (List Int)) : SpecRequest :=
  let request := scheduled.request
  let isPrefillChunk : Bool :=
    request.numComputedTokens + (scheduled.numScheduledTokens : Int) < (request.numTokens : Int)
  let updated :=
    SpecRequest.updateWithOutput (request.checkStop config) request.outputTokenIds generated
  { request with
    outputTokenIds := updated.1
    status := if updated.2 then .finished else request.status
    numComputedTokens := scheduled.numComputedTokens generated
    isPrefillChunk := isPrefillChunk
    specTokenIds :=
      if updated.2 then request.specTokenIds
      else drafts.elim request.specTokenIds fun ids => if isPrefillChunk then [] else ids
    runnerOutputTokenIds := request.runnerOutputTokenIds ++ generated
    kv := scheduled.kv }

end ScheduledRequest

structure SpecOutput where
  reqId : RequestId
  discarded : Bool
  numNewTokens : Nat
  deriving DecidableEq, Repr

structure SpecState where
  requests : RequestId → Option SpecRequest
  outputs : List SpecOutput

inductive SpecOp where
  | add (reqId : RequestId) (promptTokenIds : List Int) (nonempty : promptTokenIds ≠ [])
      (params : StopParams)
  | preempt (reqId : RequestId)
  | abort (reqId : RequestId)
  -- `calls` are in the order of the persistent batch, `drafts` what the drafter proposes.
  | step (calls : List SpecCall) (drafts : RequestId → Option (List Int))

namespace SpecState

def create : SpecState := ⟨fun _ => none, []⟩

def pads (config : SpecConfig) (state : SpecState) (calls : List SpecCall) : Bool :=
  let ran := calls.filterMap fun call =>
    match call with
    | .running .. => call.schedule config state.requests false
    | .admitted .. => none
  !ran.isEmpty && ran.all fun scheduled => !scheduled.request.isPrefillChunk

def scheduled (config : SpecConfig) (state : SpecState) (calls : List SpecCall) :
    List ScheduledRequest :=
  calls.filterMap (SpecCall.schedule config state.requests (state.pads config calls))

def runStep (next : List Int → Int) (config : SpecConfig) (state : SpecState)
    (calls : List SpecCall) (drafts : RequestId → Option (List Int)) : SpecState :=
  let batch := state.scheduled config calls
  let sampled := StepRow.sample config.vocabSize (batch.map (ScheduledRequest.row next))
  let results := List.zipWith
    (fun entry generated => (entry, entry.finish config generated (drafts entry.reqId)))
    batch sampled
  { requests := fun reqId =>
      ((results.find? fun result => result.1.reqId = reqId).map (·.2)).or (state.requests reqId)
    outputs := results.map fun result =>
      { reqId := result.1.reqId
        discarded := result.1.discard
        numNewTokens :=
          result.2.outputTokenIds.length - result.1.request.outputTokenIds.length } }

def step (next : List Int → Int) (config : SpecConfig) (state : SpecState) :
    SpecOp → Except Empty SpecState
  | .add reqId promptTokenIds _ params =>
    .ok
      { requests := fun other =>
          if other = reqId ∧ (state.requests reqId).isNone then
            some (SpecRequest.create promptTokenIds params)
          else state.requests other
        outputs := [] }
  | .preempt reqId =>
    .ok
      { requests := fun other =>
          if other = reqId then
            (state.requests reqId).map fun request =>
              if request.status = .running then request.preempt else request
          else state.requests other
        outputs := [] }
  | .abort reqId =>
    .ok
      { requests := fun other =>
          if other = reqId then
            (state.requests reqId).map fun request =>
              if request.status = .finished then request else { request with status := .aborted }
          else state.requests other
        outputs := [] }
  | .step calls drafts => .ok (state.runStep next config calls drafts)

end SpecState

end VllmEngine

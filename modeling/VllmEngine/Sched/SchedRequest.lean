import VllmEngine.Hashing.Request

set_option autoImplicit false

namespace VllmEngine.Sched

-- `repeats` is the repetition detection, `False` throughout when it is off.
structure SamplingParams where
  minTokens : Nat
  eosTokenId : Option TokenId
  stopTokenIds : List TokenId
  repeats : List TokenId → Bool

-- `StreamingUpdate`, without the multimodal features.
structure SessionUpdate where
  promptTokenIds : Option (List TokenId)
  arrivalTime : Nat
  samplingParams : Option SamplingParams

structure SchedRequest where
  requestId : RequestId
  priority : Int
  arrivalTime : Nat
  samplingParams : Option SamplingParams
  maxTokens : Nat
  promptTokenIds : Option (List TokenId)
  numPromptTokens : Nat
  outputTokenIds : List TokenId
  allTokenIds : List TokenId
  hasEncoderInputs : Bool
  loraIntId : Option Nat
  useStructuredOutput : Bool
  resumable : Bool
  streamingQueue : Option (List (Option SessionUpdate))
  status : RequestStatus
  numComputedTokens : Int
  numOutputPlaceholders : Int
  numStaleOutputTokens : Int
  dropStaleOutput : Bool
  numInFlightTokens : Int
  nextDecodeEligibleStep : Nat
  lastSchedSeq : Nat
  specTokenIds : List Int
  isPrefillChunk : Bool
  sharedPrefixBoundary : Nat
  numPreemptions : Nat
  hasPrefillStats : Bool

namespace SchedRequest

variable (request : SchedRequest)

def numTokens : Nat := request.allTokenIds.length

def numOutputTokens : Nat := request.outputTokenIds.length

def numTokensWithSpec : Nat :=
  request.allTokenIds.length + request.specTokenIds.length

def isFinished (request : SchedRequest) : Bool := request.status.isFinished

def before (request other : SchedRequest) : Bool :=
  if request.priority ≠ other.priority then request.priority < other.priority
  else if request.arrivalTime ≠ other.arrivalTime then request.arrivalTime < other.arrivalTime
  else request.requestId < other.requestId

def appendOutputTokenId (token : TokenId) : SchedRequest :=
  { request with
    outputTokenIds := request.outputTokenIds ++ [token]
    allTokenIds := request.allTokenIds ++ [token] }

def withStatus (status : RequestStatus) : SchedRequest :=
  { request with status := status }

def checkStop (maxModelLen : Nat) : Except PyError (SchedRequest × Bool) :=
  match request.samplingParams with
  | none => .error .assertionError
  | some params =>
    if request.numOutputTokens < params.minTokens then .ok (request, false)
    else
      match request.outputTokenIds.getLast? with
      | none => .error .indexError
      | some lastTokenId =>
        if params.eosTokenId = some lastTokenId then
          .ok (request.withStatus .finishedStopped, true)
        else if lastTokenId ∈ params.stopTokenIds then
          .ok (request.withStatus .finishedStopped, true)
        else if maxModelLen ≤ request.numTokens ∨ request.maxTokens ≤ request.numOutputTokens then
          .ok (request.withStatus .finishedLengthCapped, true)
        else if params.repeats request.outputTokenIds then
          .ok (request.withStatus .finishedRepetition, true)
        else .ok (request, false)

def appendUntilStop (maxModelLen : Nat) :
    SchedRequest → List TokenId → Except PyError (SchedRequest × List TokenId × Bool)
  | request, [] => .ok (request, [], false)
  | request, token :: rest => do
    let (request, stopped) ← (request.appendOutputTokenId token).checkStop maxModelLen
    if stopped then return (request, [token], true)
    let (request, kept, stopped) ← appendUntilStop maxModelLen request rest
    return (request, token :: kept, stopped)

def toUpdate : Option SessionUpdate :=
  if request.resumable then
    some
      { promptTokenIds := request.promptTokenIds
        arrivalTime := request.arrivalTime
        samplingParams := request.samplingParams }
  else none

def preempt (dropStaleOutput : Bool) : SchedRequest :=
  { request with
    status := .preempted
    numComputedTokens := 0
    specTokenIds := []
    dropStaleOutput :=
      dropStaleOutput || (request.dropStaleOutput && decide (0 < request.numStaleOutputTokens))
    numStaleOutputTokens := request.numInFlightTokens
    numOutputPlaceholders := 0
    numPreemptions := request.numPreemptions + 1 }

-- Slices as Python has them for a number of computed tokens that is not negative.
def updateAsSession (session : SchedRequest) (update : SessionUpdate) :
    Except PyError SchedRequest :=
  let kept := session.allTokenIds.take session.numComputedTokens.toNat
  match session.promptTokenIds with
  | none => .error .assertionError
  | some prompt =>
    let prompt := prompt ++ kept.drop session.numPromptTokens ++ update.promptTokenIds.getD []
    .ok
      { session with
        outputTokenIds := []
        allTokenIds := kept ++ update.promptTokenIds.getD []
        promptTokenIds := some prompt
        numPromptTokens := prompt.length
        arrivalTime := update.arrivalTime
        samplingParams := update.samplingParams
        status := .waiting }

end SchedRequest

end VllmEngine.Sched

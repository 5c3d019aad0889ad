import VllmEngine.Encoder.EncoderCacheManager
import VllmEngine.Shared.Run

set_option autoImplicit false

namespace VllmEngine

namespace EncoderInput

def getEmbedsIndicesInRange (input : EncoderInput) (startIdx endIdx : Nat) : Nat × Nat :=
  match input.isEmbed with
  | none => (startIdx, endIdx)
  | some mask => ((mask.take startIdx).count true, (mask.take endIdx).count true)

end EncoderInput

def bisectLeft {A : Type} (items : List A) (bound : Int) (key : A → Int) : Nat :=
  (items.takeWhile fun item => key item < bound).length

def getMmFeaturesInWindow (mmFeatures : List EncoderInput) (start stop : Int) :
    Nat × Nat :=
  (bisectLeft mmFeatures (start + 1) fun feature => feature.stop,
    bisectLeft mmFeatures stop fun feature => feature.offset)

structure EncoderConfig where
  disableChunkedMmInput : Bool
  useEagle : Bool

def EncoderConfig.shiftComputedTokens (config : EncoderConfig) : Nat :=
  if config.useEagle then 1 else 0

-- `hasCacheItem` answers for the external encoder cache connector, `False` without one.
structure EncoderCall where
  numComputedTokens : Nat
  numNewTokens : Nat
  encoderComputeBudget : Int
  hasCacheItem : MmHash → Bool

structure EncoderPlan where
  manager : EncoderCacheManager
  encoderInputsToSchedule : List Nat
  externalLoadEncoderInput : List Nat
  mmHashesToSchedule : List MmHash
  numEmbedsToSchedule : Int
  encoderComputeBudget : Int
  numNewTokens : Int

namespace EncoderPlan

def schedule (plan : EncoderPlan) (inputId : Nat) (mmHash : MmHash) (embeds : Nat) : EncoderPlan :=
  { plan with
    encoderInputsToSchedule := plan.encoderInputsToSchedule ++ [inputId]
    mmHashesToSchedule := plan.mmHashesToSchedule ++ [mmHash]
    numEmbedsToSchedule := plan.numEmbedsToSchedule + embeds
    encoderComputeBudget := plan.encoderComputeBudget - embeds }

def load (plan : EncoderPlan) (inputId : Nat) (mmHash : MmHash) (embeds : Nat) : EncoderPlan :=
  { plan with
    externalLoadEncoderInput := plan.externalLoadEncoderInput ++ [inputId]
    mmHashesToSchedule := plan.mmHashesToSchedule ++ [mmHash]
    numEmbedsToSchedule := plan.numEmbedsToSchedule + embeds }

end EncoderPlan

inductive EncoderRound where
  | next (plan : EncoderPlan)
  | stop (plan : EncoderPlan)

def scheduleEncoderInput (config : EncoderConfig) (request : EncoderRequest)
    (call : EncoderCall) (plan : EncoderPlan) (inputId : Nat) : Except PyError EncoderRound := do
  let feature ← request.mmFeature inputId
  let computed : Int := call.numComputedTokens
  let shift : Int := config.shiftComputedTokens
  let startPos : Int := feature.offset
  let numEncoderTokens : Int := feature.mmPosition.length
  let embeds := feature.getNumEmbeds
  if feature.identifier ∈ plan.mmHashesToSchedule then
    return .next plan
  let found ← plan.manager.checkAndUpdateCache request inputId
  let plan := { plan with manager := found.2 }
  if found.1 then
    return .next plan
  if config.disableChunkedMmInput ∧ computed < startPos ∧
      computed + plan.numNewTokens < startPos + numEncoderTokens then
    return .stop { plan with numNewTokens := max 0 (startPos - (computed + shift)) }
  let room ← plan.manager.canAllocate request inputId plan.encoderComputeBudget
    plan.numEmbedsToSchedule
  let plan := { plan with manager := room.2 }
  if !room.1 then
    return .stop { plan with
      numNewTokens := if computed + shift < startPos then startPos - (computed + shift) else 0 }
  let startIdx := max 0 (computed - startPos)
  let endIdx := min numEncoderTokens (computed + plan.numNewTokens - startPos)
  let window := feature.getEmbedsIndicesInRange startIdx.toNat endIdx.toNat
  if window.1 = window.2 then
    return .next plan
  if call.hasCacheItem feature.identifier then
    return .next (plan.load inputId feature.identifier embeds)
  return .next (plan.schedule inputId feature.identifier embeds)

def scheduleEncoderInputs (config : EncoderConfig) (request : EncoderRequest)
    (call : EncoderCall) : EncoderPlan → List Nat → Except PyError EncoderPlan
  | plan, [] => .ok plan
  | plan, inputId :: rest =>
    match scheduleEncoderInput config request call plan inputId with
    | .error error => .error error
    | .ok (.stop plan) => .ok plan
    | .ok (.next plan) => scheduleEncoderInputs config request call plan rest

def tryScheduleEncoderInputs (config : EncoderConfig) (manager : EncoderCacheManager)
    (request : EncoderRequest) (call : EncoderCall) : Except PyError EncoderPlan :=
  let plan : EncoderPlan :=
    { manager := manager
      encoderInputsToSchedule := []
      externalLoadEncoderInput := []
      mmHashesToSchedule := []
      numEmbedsToSchedule := 0
      encoderComputeBudget := call.encoderComputeBudget
      numNewTokens := call.numNewTokens }
  if call.numNewTokens = 0 ∨ request.mmFeatures = [] then
    .ok plan
  else
    let window := getMmFeaturesInWindow request.mmFeatures call.numComputedTokens
      (call.numComputedTokens + call.numNewTokens + config.shiftComputedTokens)
    scheduleEncoderInputs config request call plan
      (List.range' window.1 (window.2 - window.1))

inductive EncoderOutcome where
  | skipped
  -- The KV cache has no room: the preempted requests are freed, and the request itself.
  | refused (preempted : List RequestId)
  | scheduled (preempted : List RequestId)

structure EncoderAttempt where
  requestId : RequestId
  call : EncoderCall
  outcome : EncoderOutcome

-- `allocated` lists the hashes that entered the cache and `reported` those passed on as freed,
-- since the last reset; `embeds` has the size with which a hash last entered the cache.
structure EncoderState where
  manager : EncoderCacheManager
  requests : OrderedDict RequestId (List EncoderInput)
  allocated : List MmHash
  reported : List MmHash
  embeds : MmHash → Nat

inductive EncoderOp where
  | addRequest (request : EncoderRequest)
  | extendSession (requestId : RequestId) (mmFeatures : List EncoderInput)
  | schedule (attempts : List EncoderAttempt)
  -- `_free_encoder_inputs`, with the tokens of the request that are computed for good.
  | freeProcessed (requestId : RequestId) (numComputedTokens : Int)
  | preempt (requestId : RequestId)
  | finish (requestId : RequestId)
  | reset

namespace EncoderState

def create (cacheSize : Nat) : EncoderState where
  manager := .create cacheSize
  requests := .empty
  allocated := []
  reported := []
  embeds := fun _ => 0

variable (state : EncoderState)

def request (requestId : RequestId) : Except (Option PyError) EncoderRequest :=
  match state.requests.get? requestId with
  | none => .error none
  | some mmFeatures => .ok ⟨requestId, mmFeatures⟩

def raised {A : Type} (result : Except PyError A) : Except (Option PyError) A :=
  result.mapError some

def freeRequest (requestId : RequestId) : Except (Option PyError) EncoderState := do
  let request ← state.request requestId
  let manager ← raised (state.manager.free request)
  return { state with manager := manager }

def freeRequests (requestIds : List RequestId) : Except (Option PyError) EncoderState :=
  requestIds.foldlM freeRequest state

def allocateInputs (request : EncoderRequest)
    (inputIds : List Nat) : Except PyError EncoderState :=
  inputIds.foldlM
    (fun state inputId => do
      let manager ← state.manager.allocate request inputId
      let feature ← request.mmFeature inputId
      return { state with
        manager := manager
        allocated := state.allocated ++ [feature.identifier]
        embeds := Function.update state.embeds feature.identifier feature.getNumEmbeds })
    state

def attempt (config : EncoderConfig) (state : EncoderState) (attempt : EncoderAttempt) :
    Except (Option PyError) EncoderState := do
  let request ← state.request attempt.requestId
  let plan ← raised (tryScheduleEncoderInputs config state.manager request attempt.call)
  let state := { state with manager := plan.manager }
  match attempt.outcome with
  | .skipped => return state
  | .refused preempted =>
    let state ← state.freeRequests preempted
    state.freeRequest attempt.requestId
  | .scheduled preempted =>
    let state ← state.freeRequests preempted
    let state ← raised (state.allocateInputs request plan.encoderInputsToSchedule)
    raised (state.allocateInputs request plan.externalLoadEncoderInput)

def processedInputs (config : EncoderConfig) (request : EncoderRequest)
    (numComputedTokens : Int) (inputIds : List Nat) : List Nat :=
  inputIds.filter fun inputId =>
    match request.mmFeatures[inputId]? with
    | none => true
    | some feature => (feature.stop + config.shiftComputedTokens : Int) ≤ numComputedTokens

def step (config : EncoderConfig) (state : EncoderState) :
    EncoderOp → Except (Option PyError) EncoderState
  | .addRequest request =>
    match state.requests.get? request.requestId with
    | none =>
      .ok { state with requests := state.requests.insert request.requestId request.mmFeatures }
    | some _ => .error none
  | .extendSession requestId mmFeatures => do
    let request ← state.request requestId
    return { state with
      requests := state.requests.insert requestId (request.mmFeatures ++ mmFeatures) }
  | .schedule attempts => do
    let state ← attempts.foldlM (attempt config) state
    let freed := state.manager.getFreedMmHashes
    return { state with manager := freed.2, reported := state.reported ++ freed.1 }
  | .freeProcessed requestId numComputedTokens => do
    let request ← state.request requestId
    let inputIds := processedInputs config request numComputedTokens
      (state.manager.getCachedInputIds requestId)
    let manager ← raised (state.manager.freeEncoderInputs request inputIds)
    return { state with manager := manager }
  | .preempt requestId => state.freeRequest requestId
  | .finish requestId => do
    let state ← state.freeRequest requestId
    return { state with requests := state.requests.erase requestId }
  | .reset => .ok { state with manager := state.manager.reset, allocated := [], reported := [] }

end EncoderState

end VllmEngine

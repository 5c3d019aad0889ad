import VllmEngine.Sample.LogitsProcessors
import VllmEngine.Sample.ThinkingBudget
import VllmEngine.Worker.BatchPhases
import Mathlib.Data.Finset.Card

set_option autoImplicit false

namespace VllmEngine

namespace BatchState

def outputs (state : BatchState) (reqId : RequestId) : List Int :=
  (state.requests reqId).elim [] (·.outputTokenIds)

def requestAt (state : BatchState) (row : Nat) : Option CachedRequestState :=
  (state.batch.occupant row).bind state.requests

end BatchState

structure SamplingStep where
  batch : BatchStep
  -- The calls of `apply_to_logits`: the number of rows of logits, and `predict_bonus_token`.
  passes : List (Nat × Bool)

structure SamplingState where
  runner : BatchState
  minP : MinPLogitsProcessor
  logitBias : LogitBiasLogitsProcessor
  minTokens : MinTokensLogitsProcessor
  thinking : ThinkingBudgetStateHolder
  -- Kept by request and not by row, and brought forward with the request's own tokens.
  ownThinking : RequestId → Option ThinkState

namespace SamplingState

def create (config : InputBatchConfig) (blockTables : List BlockTable) (markers : ThinkMarkers)
    (numSpecTokens : Nat) (useDoubleTensor : Bool) : SamplingState where
  runner := .create config blockTables
  minP := .create config.toFloat32 useDoubleTensor
  logitBias := .create
  minTokens := .create
  thinking := .create markers config.maxNumReqs numSpecTokens
  ownThinking := fun _ => none

def advance (markers : ThinkMarkers) (inSpecMode : Bool) (passes : List (Nat × Bool))
    (outputTokIds specTokenIds : List Int) (state : ThinkState) : ThinkState :=
  passes.foldl (fun state pass => markers.afterForcing pass.2 state)
    (markers.refresh inSpecMode outputTokIds specTokenIds state)

def useThinking (holder : ThinkingBudgetStateHolder) (runner : BatchState)
    (passes : List (Nat × Bool)) : ThinkingBudgetStateHolder :=
  let outputTokenIds := runner.batch.reqOutputTokenIds.map fun reqId =>
    reqId.elim [] runner.outputs
  let specTokenIds := runner.batch.specTokenIds
  passes.foldl (fun holder pass => (holder.applyToLogits pass.1 pass.2 specTokenIds).2)
    (holder.updateState outputTokenIds specTokenIds)

def addOwn (markers : ThinkMarkers) (runner : BatchState)
    (own : RequestId → Option ThinkState) (added : List (CachedRequestState × List Int)) :
    RequestId → Option ThinkState :=
  added.foldl (fun own entry => Function.update own entry.1.reqId
    (ThinkingBudgetStateHolder.newEntry markers runner.outputs (BatchState.entryOf 0 entry.1))) own

def advanceOwn (holder : ThinkingBudgetStateHolder) (runner : BatchState)
    (passes : List (Nat × Bool)) (own : RequestId → Option ThinkState) (reqId : RequestId) :
    Option ThinkState :=
  match runner.batch.reqIdToIndex.lookup reqId with
  | none => own reqId
  | some row => (own reqId).map (advance holder.markers holder.inSpecMode passes
      (runner.outputs reqId) (runner.batch.drafts row))

def step (state : SamplingState) (op : SamplingStep) : Except PyError SamplingState := do
  let runner ← (op.batch.changes state.runner.batch).foldlM BatchState.call state.runner
  let (update, batch) := runner.batch.refreshMetadata
  let runner := { runner with batch }
  return {
    runner := runner
    minP := state.minP.updateState update
    logitBias := state.logitBias.updateState update
    minTokens := state.minTokens.updateState runner.outputs update
    thinking :=
      useThinking (state.thinking.syncBatch runner.outputs update) runner op.passes
    ownThinking := advanceOwn state.thinking runner op.passes
      (addOwn state.thinking.markers runner state.ownThinking op.batch.added) }

structure ProcessorsFollow (state : SamplingState) : Prop where
  minP : ∀ row, state.minP.minPCpu row = (state.runner.requestAt row).elim 0 fun request =>
    state.minP.toFloat32 request.samplingParams.minP
  minPCount : state.minP.minPCount = ((Finset.range state.runner.batch.numReqs).filter fun row =>
    (state.runner.requestAt row).any fun request =>
      state.minP.toFloat32 request.samplingParams.minP ≠ 0).card
  minPTensor : state.minP.minPCount ≠ 0 → state.minP.minPSize = state.runner.batch.numReqs ∧
    ∀ row < state.runner.batch.numReqs, state.minP.minP row = state.minP.minPCpu row
  biases : ∀ row, state.logitBias.biases.lookup row = (state.runner.requestAt row).bind
    fun request => LogitBiasLogitsProcessor.newBias request.samplingParams
  biasTensors : state.logitBias.biasTensors =
    LogitBiasLogitsProcessor.tensors state.logitBias.biases
  minToks : ∀ row, state.minTokens.minToks.lookup row = (state.runner.requestAt row).bind
    fun request => MinTokensLogitsProcessor.addRequest request.samplingParams request.reqId
      request.outputTokenIds.length
  logitsSlice : state.minTokens.logitsSlice = MinTokensLogitsProcessor.slice state.minTokens.minToks
  thinking : ∀ row, state.thinking.state.lookup row =
    (state.runner.batch.occupant row).bind state.ownThinking
  thinkingAsked : ∀ row, (state.thinking.state.lookup row).isSome =
    (state.runner.requestAt row).any fun request =>
      request.samplingParams.thinkingTokenBudget.isSome

def budgeted (runner : BatchState) (row : Nat) : Bool :=
  (runner.requestAt row).any fun request => request.samplingParams.thinkingTokenBudget.isSome

-- `held`: the rows that had a thinking state before the step.
def CallFollowed (toFloat32 : ℚ → ℚ) (held : Nat → Bool) (runner : BatchState) :
    BatchCall → Prop
  | .addRequest request _ =>
    toFloat32 request.samplingParams.minP = 0 ↔ request.samplingParams.minP = 0
  | .condense => ∀ way ∈ runner.batch.condenseMoves,
    budgeted runner way.1 = true ∨ held way.2 = false
  | .swapStates i1 i2 => budgeted runner i1 = budgeted runner i2
  | _ => True

def StepFollowed (state : SamplingState) (op : SamplingStep) : Prop :=
  Run.Meets BatchState.call
    (CallFollowed state.minP.toFloat32 fun row => (state.thinking.state.lookup row).isSome)
    state.runner (op.batch.changes state.runner.batch)

end SamplingState

end VllmEngine

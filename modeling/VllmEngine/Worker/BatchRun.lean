import VllmEngine.Worker.InputBatch
import VllmEngine.Shared.Run

set_option autoImplicit false

namespace VllmEngine

open Function

structure RunningUpdate where
  reqId : RequestId
  numComputedTokens : Nat
  newBlockIds : Option (List (List Nat))
  specTokenIds : List Int
  deriving DecidableEq, Repr

-- A request is scheduled once in a step: the scheduler keys its output by the request id.
structure BatchStep where
  sampled : List (RequestId × List Int)
  finished : List RequestId
  running : List RunningUpdate
  added : List (CachedRequestState × List Int)
  -- The swaps with which an attention backend reorders the batch.
  swaps : List (Nat × Nat)
  scheduledOnce : (running.map (·.reqId) ++ added.map (·.1.reqId)).Nodup

inductive BatchCall where
  | cacheSampled (reqId : RequestId) (tokens : List Int)
  | removeRequest (reqId : RequestId)
  | updateRunning (change : RunningUpdate)
  | addRequest (request : CachedRequestState) (specTokenIds : List Int)
  | condense
  | swapStates (i1 i2 : Nat)
  | refreshMetadata

structure BatchState where
  requests : RequestId → Option CachedRequestState
  specTokens : RequestId → List Int
  batch : InputBatch

namespace InputBatch

def cacheSampled (batch : InputBatch) (reqIndex : Nat) (tokens : List Int) :
    Except PyError InputBatch := do
  if tokens.isEmpty then return batch
  else
    let startIdx := batch.rows.numTokensNoSpec reqIndex
    let endIdx := startIdx + tokens.length
    pyAssert (endIdx ≤ batch.config.maxModelLen)
    let row ← assignSlice batch.config.maxModelLen (batch.rows.tokenIds reqIndex) startIdx endIdx
      tokens
    return { batch with
      rows := { batch.rows with
        tokenIds := update batch.rows.tokenIds reqIndex row
        isTokenIds := update batch.rows.isTokenIds reqIndex
          (fillSlice batch.config.maxModelLen (batch.rows.isTokenIds reqIndex) startIdx endIdx true)
        numTokensNoSpec := update batch.rows.numTokensNoSpec reqIndex endIdx } }

def updateRunning (batch : InputBatch) (reqIndex : Nat) (change : RunningUpdate) :
    Except PyError InputBatch := do
  let blockTables ← BatchRows.appendNewBlocks reqIndex batch.rows.blockTables change.newBlockIds
  let batch := { batch with
    rows := { batch.rows with
      numComputedTokens :=
        update batch.rows.numComputedTokens reqIndex change.numComputedTokens
      blockTables } }
  batch.updateReqSpecTokenIds change.reqId change.specTokenIds

end InputBatch

namespace CachedRequestState

def extendBlockIds : List (List Nat) → List (List Nat) → List (List Nat)
  | ids :: rest, new :: news => (ids ++ new) :: extendBlockIds rest news
  | ids, _ => ids

def update (request : CachedRequestState) (change : RunningUpdate) : CachedRequestState :=
  { request with
    numComputedTokens := change.numComputedTokens
    blockIds := extendBlockIds request.blockIds (change.newBlockIds.getD []) }

end CachedRequestState

namespace BatchState

def create (config : InputBatchConfig) (blockTables : List BlockTable) : BatchState where
  requests := fun _ => none
  specTokens := fun _ => []
  batch := .create config blockTables

def call (state : BatchState) : BatchCall → Except PyError BatchState
  | .cacheSampled reqId tokens => do
    let some reqIndex := state.batch.reqIdToIndex.lookup reqId | throw .keyError
    let some request := state.requests reqId | throw .keyError
    let batch ← state.batch.cacheSampled reqIndex tokens
    return { state with
      requests := update state.requests reqId
        (some { request with outputTokenIds := request.outputTokenIds ++ tokens })
      batch }
  | .removeRequest reqId => do
    let (_, batch) ← state.batch.removeRequest reqId
    return { state with batch }
  | .updateRunning change => do
    let some reqIndex := state.batch.reqIdToIndex.lookup change.reqId | throw .keyError
    let some request := state.requests change.reqId | throw .keyError
    let batch ← state.batch.updateRunning reqIndex change
    return {
      requests := update state.requests change.reqId (some (request.update change))
      specTokens := update state.specTokens change.reqId change.specTokenIds
      batch }
  | .addRequest request specTokenIds => do
    let (_, batch) ← state.batch.addRequest request
    let batch ← batch.updateReqSpecTokenIds request.reqId specTokenIds
    return {
      requests := update state.requests request.reqId (some request)
      specTokens := update state.specTokens request.reqId specTokenIds
      batch }
  | .condense => do
    let batch ← state.batch.condense
    return { state with batch }
  | .swapStates i1 i2 => do
    let batch ← state.batch.swapStates i1 i2
    return { state with batch }
  | .refreshMetadata => .ok { state with batch := state.batch.refreshMetadata.2 }

end BatchState

namespace BatchStep

def unscheduled (step : BatchStep) (batch : InputBatch) : List RequestId :=
  batch.reqIdToIndex.keys.filter fun reqId => !(step.running.map (·.reqId)).contains reqId

theorem runs_of_kept (step : BatchStep) {batch : InputBatch} {reqId : RequestId}
    (member : reqId ∈ batch.reqIdToIndex)
    (kept : reqId ∉ step.finished ++ step.unscheduled batch) :
    reqId ∈ step.running.map (·.reqId) := by
  by_contra notRunning
  apply kept
  apply List.mem_append_right
  unfold unscheduled
  rw [List.mem_filter]
  exact ⟨member, by simpa using notRunning⟩

def calls (step : BatchStep) (batch : InputBatch) : List BatchCall :=
  step.sampled.map (fun entry => .cacheSampled entry.1 entry.2)
    ++ (step.finished ++ step.unscheduled batch).map .removeRequest
    ++ step.running.map .updateRunning
    ++ step.added.map (fun entry => .addRequest entry.1 entry.2)
    ++ [.condense]
    ++ step.swaps.map (fun entry => .swapStates entry.1 entry.2)
    ++ [.refreshMetadata]

end BatchStep

def BatchState.step (state : BatchState) (step : BatchStep) : Except PyError BatchState :=
  (step.calls state.batch).foldlM BatchState.call state

end VllmEngine

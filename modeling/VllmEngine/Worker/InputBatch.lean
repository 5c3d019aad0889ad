import VllmEngine.KVCache.Block
import VllmEngine.Worker.BatchUpdate
import VllmEngine.Worker.BlockTable
import Mathlib.Data.List.AList

set_option autoImplicit false

namespace VllmEngine

open Function

inductive SamplingFeature where
  | greedy
  | random
  | topP
  | topK
  | frequencyPenalties
  | presencePenalties
  | repetitionPenalties
  | allowedTokenIds
  deriving DecidableEq, Repr

structure InputBatchConfig where
  maxNumReqs : Nat
  maxModelLen : Nat
  vocabSize : Nat
  useReplayssm : Bool
  -- The value a `float32` tensor keeps of a Python float.
  toFloat32 : ℚ → ℚ

namespace SamplingParams

variable (params : SamplingParams)

def restrictsTokens : Bool :=
  params.allowedTokenIds.any fun ids => !ids.isEmpty

def asksFor (vocabSize : Nat) (params : SamplingParams) : SamplingFeature → Bool
  | .greedy => params.samplingType = .greedy
  | .random => params.samplingType ≠ .greedy
  | .topP => params.topP < 1
  | .topK => 0 < params.topK && params.topK < vocabSize
  | .frequencyPenalties => params.frequencyPenalty ≠ 0
  | .presencePenalties => params.presencePenalty ≠ 0
  | .repetitionPenalties => params.repetitionPenalty ≠ 1
  | .allowedTokenIds => params.restrictsTokens

def batchTemperature (toFloat32 : ℚ → ℚ) (params : SamplingParams) : ℚ :=
  if params.samplingType = .greedy then 0 else toFloat32 params.temperature

def batchTopK (vocabSize : Nat) (params : SamplingParams) : Int :=
  if 0 < params.topK ∧ params.topK < vocabSize then params.topK else vocabSize

-- A row of `allowed_token_ids_mask`, `true` where the logit is filled with `-inf`.
def disallowed : Nat → Bool :=
  if params.restrictsTokens then fun token => !(params.allowedTokenIds.getD []).contains token
  else fun _ => false

def batchBadWords : Option (List (List Nat)) :=
  params.badWordsTokenIds.filter fun words => !words.isEmpty

end SamplingParams

structure BatchRows where
  tokenIds : Nat → Nat → Int
  isTokenIds : Nat → Nat → Bool
  reqPromptEmbeds : Nat → Option (List Bytes)
  numTokensNoSpec : Nat → Nat
  numPromptTokens : Nat → Nat
  numComputedTokens : Nat → Nat
  replayssmDecodeBase : Nat → Nat
  blockTables : List BlockTable
  temperature : Nat → ℚ
  topP : Nat → ℚ
  topK : Nat → Int
  frequencyPenalties : Nat → ℚ
  presencePenalties : Nat → ℚ
  repetitionPenalties : Nat → ℚ
  numAcceptedTokens : Nat → Nat
  requestLoraMapping : Nat → Nat
  generators : Nat → Option Nat
  badWordsTokenIds : Nat → Option (List (List Nat))
  -- `allowed_token_ids_mask_cpu_tensor`, allocated for the first request that needs it.
  allowedTokenIdsMask : Option (Nat → Nat → Bool)

structure InputBatch where
  config : InputBatchConfig
  reqIds : List (Option RequestId)
  reqIdToIndex : AList fun _ : RequestId => Nat
  -- The request whose list of output tokens the row refers to.
  reqOutputTokenIds : List (Option RequestId)
  specTokenIds : List (List Int)
  rows : BatchRows
  featureReqs : SamplingFeature → RequestId → Bool
  batchUpdateBuilder : BatchUpdateBuilder
  prevReqIdToIndex : Option (RequestId → Option Nat)

namespace BatchRows

def swapDictValues {A : Type} (dict : Nat → Option A) (key1 key2 : Nat) : Nat → Option A :=
  let dict' := update dict key2 (dict key1)
  update dict' key1 (dict key2)

-- `mask[i1], mask[i2] = mask[i2], mask[i1]`. The right-hand side holds views of the rows, so the
-- second assignment reads what the first one wrote.
def swapViews (mask : Nat → Nat → Bool) (i1 i2 : Nat) : Nat → Nat → Bool :=
  let mask := update mask i1 (mask i2)
  update mask i2 (mask i1)

variable (rows : BatchRows)

def swapStates (useReplayssm : Bool) (maxActiveTokenCount i1 i2 : Nat) : BatchRows where
  tokenIds :=
    let tmpTokenIds := rows.tokenIds i1
    let tokenIds := update rows.tokenIds i1
      (copyFront maxActiveTokenCount (rows.tokenIds i2) (rows.tokenIds i1))
    update tokenIds i2 (copyFront maxActiveTokenCount tmpTokenIds (tokenIds i2))
  isTokenIds :=
    let isTokenIds := update rows.isTokenIds i1
      (copyFront maxActiveTokenCount (rows.isTokenIds i2) (rows.isTokenIds i1))
    update isTokenIds i2
      (copyFront maxActiveTokenCount (rows.isTokenIds i1) (rows.isTokenIds i2))
  reqPromptEmbeds := swapDictValues rows.reqPromptEmbeds i1 i2
  numTokensNoSpec := Rows.swap rows.numTokensNoSpec i1 i2
  numPromptTokens := Rows.swap rows.numPromptTokens i1 i2
  numComputedTokens := Rows.swap rows.numComputedTokens i1 i2
  replayssmDecodeBase :=
    if useReplayssm then Rows.swap rows.replayssmDecodeBase i1 i2 else rows.replayssmDecodeBase
  blockTables := rows.blockTables.map fun table => table.swapRow i1 i2
  temperature := Rows.swap rows.temperature i1 i2
  topP := Rows.swap rows.topP i1 i2
  topK := Rows.swap rows.topK i1 i2
  frequencyPenalties := Rows.swap rows.frequencyPenalties i1 i2
  presencePenalties := Rows.swap rows.presencePenalties i1 i2
  repetitionPenalties := Rows.swap rows.repetitionPenalties i1 i2
  numAcceptedTokens := Rows.swap rows.numAcceptedTokens i1 i2
  requestLoraMapping := Rows.swap rows.requestLoraMapping i1 i2
  generators := swapDictValues rows.generators i1 i2
  badWordsTokenIds := swapDictValues rows.badWordsTokenIds i1 i2
  allowedTokenIdsMask := rows.allowedTokenIdsMask.map fun mask => swapViews mask i1 i2

def moveEntry {A : Type} (dict : Nat → Option A) (source target : Nat) : Nat → Option A :=
  match dict source with
  | some value => update (update dict source none) target (some value)
  | none => dict

def moveDown (useReplayssm : Bool) (numTokens lastReqIndex emptyIndex : Nat) : BatchRows where
  tokenIds := update rows.tokenIds emptyIndex
    (copyFront numTokens (rows.tokenIds lastReqIndex) (rows.tokenIds emptyIndex))
  isTokenIds := update rows.isTokenIds emptyIndex
    (copyFront numTokens (rows.isTokenIds lastReqIndex) (rows.isTokenIds emptyIndex))
  reqPromptEmbeds := moveEntry rows.reqPromptEmbeds lastReqIndex emptyIndex
  numTokensNoSpec := Rows.copy rows.numTokensNoSpec lastReqIndex emptyIndex
  numPromptTokens := Rows.copy rows.numPromptTokens lastReqIndex emptyIndex
  numComputedTokens := Rows.copy rows.numComputedTokens lastReqIndex emptyIndex
  replayssmDecodeBase :=
    if useReplayssm then Rows.copy rows.replayssmDecodeBase lastReqIndex emptyIndex
    else rows.replayssmDecodeBase
  blockTables := rows.blockTables.map fun table => table.moveRow lastReqIndex emptyIndex
  temperature := Rows.copy rows.temperature lastReqIndex emptyIndex
  topP := Rows.copy rows.topP lastReqIndex emptyIndex
  topK := Rows.copy rows.topK lastReqIndex emptyIndex
  frequencyPenalties := Rows.copy rows.frequencyPenalties lastReqIndex emptyIndex
  presencePenalties := Rows.copy rows.presencePenalties lastReqIndex emptyIndex
  repetitionPenalties := Rows.copy rows.repetitionPenalties lastReqIndex emptyIndex
  numAcceptedTokens := Rows.copy rows.numAcceptedTokens lastReqIndex emptyIndex
  requestLoraMapping := Rows.copy rows.requestLoraMapping lastReqIndex emptyIndex
  generators := moveEntry rows.generators lastReqIndex emptyIndex
  badWordsTokenIds := moveEntry rows.badWordsTokenIds lastReqIndex emptyIndex
  allowedTokenIdsMask :=
    rows.allowedTokenIdsMask.map fun mask => Rows.copy mask lastReqIndex emptyIndex

def clear (reqIndex : Nat) : BatchRows :=
  { rows with
    blockTables := rows.blockTables.map fun table => table.clearRow reqIndex
    requestLoraMapping := update rows.requestLoraMapping reqIndex 0
    generators := update rows.generators reqIndex none
    allowedTokenIdsMask :=
      rows.allowedTokenIdsMask.map fun mask => update mask reqIndex fun _ => false
    badWordsTokenIds := update rows.badWordsTokenIds reqIndex none }

def promptRow (width : Nat) (request : CachedRequestState) (row : Nat → Int) :
    Except PyError (Nat → Int) :=
  match request.promptTokenIds with
  | some ids => assignSlice width row 0 ids.length (ids.map Int.ofNat)
  | none => .ok row

def promptFlags (width numPromptTokens : Nat) (request : CachedRequestState) (row : Nat → Bool) :
    Except PyError (Nat → Bool) :=
  match request.promptTokenIds, request.promptIsTokenIds with
  | some _, some flags => assignSlice width row 0 numPromptTokens flags
  | some _, none => .ok (fillSlice width row 0 numPromptTokens true)
  | none, _ => .ok (fillSlice width row 0 numPromptTokens false)

def eachTable (change : BlockTable → List Nat → Except PyError BlockTable) :
    List BlockTable → List (List Nat) → Except PyError (List BlockTable)
  | [], _ => .ok []
  | _ :: _, [] => .error .indexError
  | table :: tables, ids :: rest => do
    let table ← change table ids
    let tables ← eachTable change tables rest
    return table :: tables

def addBlockRows (row : Nat) :
    List BlockTable → List (List Nat) → Except PyError (List BlockTable) :=
  eachTable fun table blockIds => table.addRow blockIds row

def appendBlockRows (row : Nat) :
    List BlockTable → List (List Nat) → Except PyError (List BlockTable) :=
  eachTable fun table blockIds => table.appendRow blockIds row

def appendNewBlocks (row : Nat) (tables : List BlockTable) :
    Option (List (List Nat)) → Except PyError (List BlockTable)
  | none => .ok tables
  | some newBlockIds => appendBlockRows row tables newBlockIds

def writeTokens (config : InputBatchConfig) (reqIndex : Nat)
    (request : CachedRequestState) : Except PyError BatchRows := do
  let width := config.maxModelLen
  let numPromptTokens ←
    lengthFromPromptTokenIdsOrEmbeds request.promptTokenIds request.promptEmbeds
  let startIdx := numPromptTokens
  let endIdx := startIdx + request.outputTokenIds.length
  let tokens ← promptRow width request (rows.tokenIds reqIndex)
  let flags ← promptFlags width numPromptTokens request (rows.isTokenIds reqIndex)
  let tokens ← assignSlice width tokens startIdx endIdx request.outputTokenIds
  let blockTables ← addBlockRows reqIndex rows.blockTables request.blockIds
  return { rows with
    tokenIds := update rows.tokenIds reqIndex tokens
    isTokenIds :=
      update rows.isTokenIds reqIndex (fillSlice width flags startIdx endIdx true)
    reqPromptEmbeds :=
      match request.promptEmbeds with
      | some embeds => update rows.reqPromptEmbeds reqIndex (some embeds)
      | none => rows.reqPromptEmbeds
    numPromptTokens := update rows.numPromptTokens reqIndex numPromptTokens
    numTokensNoSpec := update rows.numTokensNoSpec reqIndex request.numTokens
    replayssmDecodeBase :=
      if config.useReplayssm then
        update rows.replayssmDecodeBase reqIndex request.numTokens
      else rows.replayssmDecodeBase
    numComputedTokens :=
      update rows.numComputedTokens reqIndex request.numComputedTokens
    blockTables := blockTables }

def writeMask (mask : Option (Nat → Nat → Bool)) (reqIndex : Nat) (params : SamplingParams) :
    Option (Nat → Nat → Bool) :=
  if params.restrictsTokens then
    some (update (mask.getD fun _ _ => false) reqIndex params.disallowed)
  else mask

def writeSampling (config : InputBatchConfig) (reqIndex : Nat)
    (request : CachedRequestState) : BatchRows :=
  let params := request.samplingParams
  { rows with
    temperature :=
      update rows.temperature reqIndex (params.batchTemperature config.toFloat32)
    topP := update rows.topP reqIndex (config.toFloat32 params.topP)
    topK := update rows.topK reqIndex (params.batchTopK config.vocabSize)
    frequencyPenalties :=
      update rows.frequencyPenalties reqIndex (config.toFloat32 params.frequencyPenalty)
    presencePenalties :=
      update rows.presencePenalties reqIndex (config.toFloat32 params.presencePenalty)
    repetitionPenalties :=
      update rows.repetitionPenalties reqIndex
        (config.toFloat32 params.repetitionPenalty)
    generators :=
      match request.generator with
      | some generator => update rows.generators reqIndex (some generator)
      | none => rows.generators
    allowedTokenIdsMask := writeMask rows.allowedTokenIdsMask reqIndex params
    badWordsTokenIds :=
      match params.batchBadWords with
      | some words => update rows.badWordsTokenIds reqIndex (some words)
      | none => rows.badWordsTokenIds
    numAcceptedTokens := update rows.numAcceptedTokens reqIndex 1
    requestLoraMapping := update rows.requestLoraMapping reqIndex
      (request.loraRequest.elim 0 LoRARequest.loraIntId) }

end BatchRows

namespace InputBatch

def create (config : InputBatchConfig) (blockTables : List BlockTable) : InputBatch where
  config := config
  reqIds := []
  reqIdToIndex := ∅
  reqOutputTokenIds := []
  specTokenIds := List.replicate config.maxNumReqs []
  rows := {
    tokenIds := fun _ _ => 0
    isTokenIds := fun _ _ => false
    reqPromptEmbeds := fun _ => none
    numTokensNoSpec := fun _ => 0
    numPromptTokens := fun _ => 0
    numComputedTokens := fun _ => 0
    replayssmDecodeBase := fun _ => 0
    blockTables := blockTables
    temperature := fun _ => 0
    topP := fun _ => 0
    topK := fun _ => 0
    frequencyPenalties := fun _ => 0
    presencePenalties := fun _ => 0
    repetitionPenalties := fun _ => 0
    numAcceptedTokens := fun _ => 1
    requestLoraMapping := fun _ => 0
    generators := fun _ => none
    badWordsTokenIds := fun _ => none
    allowedTokenIdsMask := none }
  featureReqs := fun _ _ => false
  batchUpdateBuilder := .empty
  prevReqIdToIndex := none

variable (batch : InputBatch)

def numReqs : Nat := batch.reqIdToIndex.keys.length

def getActiveTokenCount (reqIndex : Nat) : Nat :=
  batch.rows.numTokensNoSpec reqIndex + (batch.specTokenIds.getD reqIndex []).length

def registerAddRequest (request : CachedRequestState) : Except PyError (Nat × InputBatch) := do
  let (removed, builder) := batch.batchUpdateBuilder.popRemoved
  let newReqIndex := removed.getD batch.numReqs
  pyAssert (newReqIndex < batch.config.maxNumReqs)
  let added : AddedRequest := {
    index := newReqIndex
    params := request.samplingParams
    promptTokIds := request.promptTokenIds
    outputTokIdsOf := request.reqId }
  return (newReqIndex, { batch with
    batchUpdateBuilder := { builder with
      batchChanged := true
      added := builder.added ++ [added] } })

def placeRequest (reqIndex : Nat) (reqId : RequestId) : InputBatch :=
  let reqIdToIndex := batch.reqIdToIndex.insert reqId reqIndex
  if reqIndex = batch.reqIds.length then
    { batch with
      reqIds := batch.reqIds ++ [some reqId]
      reqOutputTokenIds := batch.reqOutputTokenIds ++ [some reqId]
      specTokenIds := batch.specTokenIds ++ [[]]
      reqIdToIndex }
  else
    { batch with
      reqIds := batch.reqIds.set reqIndex (some reqId)
      reqOutputTokenIds := batch.reqOutputTokenIds.set reqIndex (some reqId)
      specTokenIds := batch.specTokenIds.set reqIndex []
      reqIdToIndex }

def addRequest (request : CachedRequestState) : Except PyError (Nat × InputBatch) := do
  let (reqIndex, batch) ← batch.registerAddRequest request
  let batch := batch.placeRequest reqIndex request.reqId
  let rows ← batch.rows.writeTokens batch.config reqIndex request
  let params := request.samplingParams
  return (reqIndex, { batch with
    rows := rows.writeSampling batch.config reqIndex request
    featureReqs := fun feature reqId =>
      if reqId = request.reqId ∧ params.asksFor batch.config.vocabSize feature then true
      else batch.featureReqs feature reqId })

def updateReqSpecTokenIds (reqId : RequestId) (specTokenIds : List Int) :
    Except PyError InputBatch :=
  match batch.reqIdToIndex.lookup reqId with
  | none => .error .keyError
  | some reqIndex => do
    if specTokenIds.isEmpty then
      return { batch with specTokenIds := batch.specTokenIds.set reqIndex [] }
    else
      let startIndex := batch.rows.numTokensNoSpec reqIndex
      let endIndex := startIndex + specTokenIds.length
      let tokens ← assignSlice batch.config.maxModelLen (batch.rows.tokenIds reqIndex) startIndex
        endIndex specTokenIds
      return { batch with
        specTokenIds := batch.specTokenIds.set reqIndex specTokenIds
        rows := { batch.rows with
          tokenIds := update batch.rows.tokenIds reqIndex tokens
          isTokenIds := update batch.rows.isTokenIds reqIndex
            (fillSlice batch.config.maxModelLen (batch.rows.isTokenIds reqIndex) startIndex
              endIndex true) } }

def removeRequest (reqId : RequestId) : Except PyError (Option Nat × InputBatch) :=
  match batch.reqIdToIndex.lookup reqId with
  | none => .ok (none, batch)
  | some reqIndex => do
    let builder ← batch.batchUpdateBuilder.removedAppend reqIndex
    return (some reqIndex, { batch with
      reqIdToIndex := batch.reqIdToIndex.erase reqId
      batchUpdateBuilder := builder
      reqIds := batch.reqIds.set reqIndex none
      reqOutputTokenIds := batch.reqOutputTokenIds.set reqIndex none
      specTokenIds := batch.specTokenIds.set reqIndex []
      rows := batch.rows.clear reqIndex
      featureReqs := fun feature other =>
        if other = reqId then false else batch.featureReqs feature other
      prevReqIdToIndex := batch.prevReqIdToIndex.map fun dict => update dict reqId none })

def swapStates (batch : InputBatch) (i1 i2 : Nat) : Except PyError InputBatch := do
  let oldId1 ← pyGet batch.reqIds i1
  let oldId2 ← pyGet batch.reqIds i2
  let maxActiveTokenCount := max (batch.getActiveTokenCount i1) (batch.getActiveTokenCount i2)
  match oldId1, oldId2 with
  | some id1, some id2 =>
    match batch.reqIdToIndex.lookup id1, batch.reqIdToIndex.lookup id2 with
    | some index1, some index2 =>
      let builder := batch.batchUpdateBuilder
      return { batch with
        reqIds := (batch.reqIds.set i1 oldId2).set i2 oldId1
        reqOutputTokenIds :=
          (batch.reqOutputTokenIds.set i1 (batch.reqOutputTokenIds.getD i2 none)).set i2
            (batch.reqOutputTokenIds.getD i1 none)
        specTokenIds :=
          (batch.specTokenIds.set i1 (batch.specTokenIds.getD i2 [])).set i2
            (batch.specTokenIds.getD i1 [])
        reqIdToIndex := (batch.reqIdToIndex.insert id1 index2).insert id2 index1
        rows := batch.rows.swapStates batch.config.useReplayssm maxActiveTokenCount i1 i2
        batchUpdateBuilder :=
          { builder with moved := builder.moved ++ [⟨i1, i2, .swap⟩] } }
    | _, _ => throw .keyError
  | _, _ => throw .assertionError

def moveDown (batch : InputBatch) (lastReqIndex emptyIndex : Nat) : Except PyError InputBatch := do
  let reqId ← pyGet batch.reqIds lastReqIndex
  let outputTokenIds ← pyGet batch.reqOutputTokenIds lastReqIndex
  match reqId with
  | none => throw .assertionError
  | some reqId =>
    let builder := batch.batchUpdateBuilder.popRemoved.2
    let numTokens := batch.getActiveTokenCount lastReqIndex
    return { batch with
      reqIds := (batch.reqIds.set emptyIndex (some reqId)).set lastReqIndex none
      reqOutputTokenIds :=
        (batch.reqOutputTokenIds.set emptyIndex outputTokenIds).set lastReqIndex none
      reqIdToIndex := batch.reqIdToIndex.insert reqId emptyIndex
      specTokenIds :=
        (batch.specTokenIds.set emptyIndex (batch.specTokenIds.getD lastReqIndex [])).set
          lastReqIndex []
      rows := batch.rows.moveDown batch.config.useReplayssm numTokens lastReqIndex emptyIndex
      batchUpdateBuilder :=
        { builder with moved := builder.moved ++ [⟨lastReqIndex, emptyIndex, .unidirectional⟩] } }

def condenseLoop : Nat → Nat → InputBatch → Except PyError InputBatch
  | 0, _, batch => .ok batch
  | fuel + 1, lastReqIndex, batch =>
    let removed := batch.batchUpdateBuilder.removedRows
    if removed.isEmpty then .ok batch
    else
      -- `lastLive` stops at row 0, where the source would go on to -1; with a request in the
      -- batch neither happens
      let lastReqIndex := Rows.lastLive removed lastReqIndex
      match batch.batchUpdateBuilder.peekRemoved.1 with
      | none => .error .assertionError
      | some emptyIndex =>
        if emptyIndex ≥ lastReqIndex then .ok batch
        else do
          let batch ← batch.moveDown lastReqIndex emptyIndex
          condenseLoop fuel (lastReqIndex - 1) batch

def condense : Except PyError InputBatch :=
  let numReqs := batch.numReqs
  let batch := { batch with batchUpdateBuilder := batch.batchUpdateBuilder.removed }
  let emptyReqIndices := batch.batchUpdateBuilder.removedRows
  if emptyReqIndices.isEmpty then .ok batch
  else if numReqs = 0 then
    .ok { batch with reqIds := [], reqOutputTokenIds := [], specTokenIds := [] }
  else do
    let batch ← condenseLoop emptyReqIndices.length (numReqs + emptyReqIndices.length - 1) batch
    return { batch with
      reqIds := batch.reqIds.take numReqs
      reqOutputTokenIds := batch.reqOutputTokenIds.take numReqs
      specTokenIds := batch.specTokenIds.take numReqs }

def refreshMetadata : Option BatchUpdate × InputBatch :=
  let (update, builder) := batch.batchUpdateBuilder.getAndReset batch.numReqs
  (update, { batch with batchUpdateBuilder := builder })

end InputBatch

end VllmEngine

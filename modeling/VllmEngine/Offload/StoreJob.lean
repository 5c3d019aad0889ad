import VllmEngine.Offload.OffloadConfig
import VllmEngine.Offload.CPUOffloadingManager

set_option autoImplicit false

namespace VllmEngine

structure GPULoadStoreSpec where
  blockIds : List Nat
  groupSizes : List Nat
  blockIndices : List Nat
  sizes : groupSizes.sum = blockIds.length
  indices : blockIndices.length = groupSizes.length

structure GroupBlocks where
  startGpuBlockIdx : Option Nat
  blockIds : List Nat
  deriving DecidableEq, Repr

namespace GroupBlocks

def empty : GroupBlocks := { startGpuBlockIdx := none, blockIds := [] }

def add (table : List Nat) (blocks : GroupBlocks) (index : Nat) : Except PyError GroupBlocks :=
  match table[index]? with
  | none => .error .indexError
  | some blockId =>
    if blockId = 0 then .ok blocks
    else .ok {
      startGpuBlockIdx := blocks.startGpuBlockIdx.or (some index)
      blockIds := blocks.blockIds ++ [blockId] }

end GroupBlocks

def GPULoadStoreSpec.ofGroups (groups : List GroupBlocks) : GPULoadStoreSpec where
  blockIds := groups.flatMap (·.blockIds)
  groupSizes := groups.map (·.blockIds.length)
  blockIndices := groups.map (·.startGpuBlockIdx.getD 0)
  sizes := by rw [List.length_flatMap]
  indices := by rw [List.length_map, List.length_map]

def subBlocks (blocksPerChunk : Nat) (chunks : List Nat) : List Nat :=
  chunks.flatMap fun chunk => (List.range blocksPerChunk).map (chunk * blocksPerChunk + ·)

structure StoreJob (Hash : Type) where
  srcSpec : GPULoadStoreSpec
  dstSpec : List Nat
  keys : List (OffloadKey Hash)
  slidingWindowBlockIds : List Nat
  nonSlidingWindowBlockIds : List Nat

variable {Hash : Type} [DecidableEq Hash]

namespace RequestGroupState

omit [DecidableEq Hash] in
def offerChunk (group : GroupOffloadConfig) (numChunks : Nat) (offered : List (OffloadKey Hash))
    (entry : (OffloadKey Hash × Nat) × Nat) : Except PyError (List (OffloadKey Hash)) := do
  let ((offloadKey, blockId), chunk) := entry
  if blockId = 0 then
    return offered
  let reachable ← isStoreReachableSwaChunk chunk numChunks group.alignmentChunkCount
    group.slidingWindowSizeInChunks group.isEagleGroup
  return if reachable then offered ++ [offloadKey] else offered

variable (state : RequestGroupState Hash)

omit [DecidableEq Hash] in
def newOffloadKeys (config : SchedulerOffloadConfig)
    (group : GroupOffloadConfig) (numChunks : Nat) : Except PyError (List (OffloadKey Hash)) := do
  let startChunkIdx := state.nextStoredChunkIdx
  if numChunks ≤ startChunkIdx then
    return []
  let offloadKeys := slice state.offloadKeys startChunkIdx numChunks
  let offloadBlockIds := stride state.blockIds
    (startChunkIdx * config.blocksPerChunk + config.blocksPerChunk - 1)
    (numChunks * config.blocksPerChunk) config.blocksPerChunk
  pyAssert (offloadKeys.length = offloadBlockIds.length)
  ((offloadKeys.zip offloadBlockIds).zipIdx startChunkIdx).foldlM (offerChunk group numChunks) []

def chosenChunks (numChunks : Nat) (keysToStore : List (OffloadKey Hash)) : List Nat :=
  (((slice state.offloadKeys state.nextStoredChunkIdx numChunks).zipIdx
    state.nextStoredChunkIdx).filter fun (key, _) => key ∈ keysToStore).map Prod.snd

def groupBlocks (config : SchedulerOffloadConfig)
    (numChunks : Nat) (keysToStore : List (OffloadKey Hash)) : Except PyError GroupBlocks :=
  (subBlocks config.blocksPerChunk (state.chosenChunks numChunks keysToStore)).foldlM
    (GroupBlocks.add state.blockIds) GroupBlocks.empty

end RequestGroupState

namespace RequestOffloadState

variable (status : RequestOffloadState Hash)

omit [DecidableEq Hash] in
def numTokensAfterBatch (numScheduledTokens : Nat) : Nat :=
  if status.req.status = .finishedAborted then status.req.numComputedTokens
  else if status.req.status.isFinished then status.req.numTokens
  else status.req.numComputedTokens + numScheduledTokens

omit [DecidableEq Hash] in
def newOffloadKeys (status : RequestOffloadState Hash) (config : SchedulerOffloadConfig)
    (numOffloadableTokens : Nat) : Except PyError (List (OffloadKey Hash)) := do
  let keys ← (status.groups config).mapM fun (group, state) =>
    state.newOffloadKeys config group
      (state.storableChunks config group status.req numOffloadableTokens)
  return keys.flatten

def storeJob (config : SchedulerOffloadConfig)
    (numOffloadableTokens : Nat) (output : PrepareStoreOutput (OffloadKey Hash)) :
    Except PyError (StoreJob Hash) := do
  let blocks ← (status.groups config).mapM fun (group, state) => do
    let groupBlocks ← state.groupBlocks config
      (state.storableChunks config group status.req numOffloadableTokens) output.keysToStore
    return (group, groupBlocks)
  return {
    srcSpec := .ofGroups (blocks.map Prod.snd)
    dstSpec := output.storeSpec
    keys := output.keysToStore
    slidingWindowBlockIds := blocks.flatMap fun (group, blocks) =>
      if group.slidingWindowSizeInChunks.isSome then blocks.blockIds else []
    nonSlidingWindowBlockIds := blocks.flatMap fun (group, blocks) =>
      if group.slidingWindowSizeInChunks.isSome then [] else blocks.blockIds }

def buildStoreJob (config : SchedulerOffloadConfig) (numScheduledTokens : Nat)
    (prepareStore : List (OffloadKey Hash) → Option (PrepareStoreOutput (OffloadKey Hash))) :
    Except PyError (Option (StoreJob Hash) × RequestOffloadState Hash) := do
  let numOffloadableTokens :=
    status.calcNumOffloadableTokens config (status.numTokensAfterBatch numScheduledTokens)
  let newKeys ← status.newOffloadKeys config numOffloadableTokens
  if newKeys.isEmpty then
    return (none, status.advanceStoredIdx config numOffloadableTokens)
  match prepareStore newKeys with
  | none => return (none, status)
  | some output =>
    if output.keysToStore.isEmpty then
      return (none, status.advanceStoredIdx config numOffloadableTokens)
    let job ← status.storeJob config numOffloadableTokens output
    return (some job, status.advanceStoredIdx config numOffloadableTokens)

end RequestOffloadState

end VllmEngine

import VllmEngine.KVCache.Coordinator

set_option autoImplicit false

namespace VllmEngine

structure KVCacheManager (H : Type) where
  config : KVCacheManagerConfig H
  blockPool : BlockPool H
  singleTypeManagers : List (SingleTypeKVCacheManager H)
  partialTailPins : AList fun _ : RequestId => List BlockRef

-- No hit is the same as an empty list for every group: `create_kv_cache_blocks` shares one object
-- for both.
structure SlotsCall (H : Type) where
  request : EngineRequest H
  numNewTokens : Nat
  numNewComputedTokens : Nat
  newComputedBlocks : List (List BlockRef)
  numLookaheadTokens : Nat
  numExternalComputedTokens : Nat
  delayCacheBlocks : Bool
  numEncoderTokens : Nat
  fullSequenceMustFit : Bool
  reservedBlocks : Int
  hasScheduledReqs : Bool

namespace SlotsCall

variable {H : Type}

variable (call : SlotsCall H)

def numLocalComputedTokens : Nat :=
  call.request.numComputedTokens + call.numNewComputedTokens

def totalComputedTokens (maxModelLen : Nat) : Nat :=
  min (call.numLocalComputedTokens + call.numExternalComputedTokens) maxModelLen

def numTokensMainModel (maxModelLen : Nat) : Nat :=
  call.totalComputedTokens maxModelLen + call.numNewTokens

def numTokensNeedSlot (maxModelLen : Nat) : Nat :=
  min (call.numTokensMainModel maxModelLen + call.numLookaheadTokens) maxModelLen

def hasHits : Bool := call.newComputedBlocks.any (· ≠ [])

end SlotsCall

namespace KVCacheManager

variable {H : Type}

def create (config : KVCacheManagerConfig H) : Except PyError (KVCacheManager H) := do
  let blockPool ← BlockPool.create config.poolConfig
  return {
    config
    blockPool
    singleTypeManagers := config.coordinator.kvCacheGroups.mapIdx config.createManager
    partialTailPins := ∅ }

variable (manager : KVCacheManager H)

def coordinate (update : BlockPool H → List (SingleTypeKVCacheManager H) →
      Except PyError (BlockPool H × List (SingleTypeKVCacheManager H))) :
    Except PyError (KVCacheManager H) := do
  let (blockPool, singleTypeManagers) ← update manager.blockPool manager.singleTypeManagers
  return { manager with blockPool, singleTypeManagers }

def prefixCacheLookupEnabled (request : EngineRequest H) : Bool :=
  manager.config.enableCaching && !request.skipReadingPrefixCache

def watermarkBlocks (manager : KVCacheManager H) (call : SlotsCall H) : Nat :=
  if call.hasScheduledReqs ∧ call.request.awaitsAdmission then manager.config.watermarkBlocks
  else 0

def popPins (requestId : RequestId) : List BlockRef × KVCacheManager H :=
  ((manager.partialTailPins.lookup requestId).getD [],
    { manager with partialTailPins := manager.partialTailPins.erase requestId })

def free (manager : KVCacheManager H) (requestId : RequestId) :
    Except PyError (KVCacheManager H) := do
  let (pins, manager) := manager.popPins requestId
  let blockPool ← SingleTypeKVCacheManager.freeAny manager.blockPool pins
  { manager with blockPool }.coordinate fun pool managers =>
    KVCacheCoordinator.free pool managers requestId

def removeSkippedBlocks (manager : KVCacheManager H) (requestId : RequestId)
    (processedComputedTokens : Nat) (numPromptTokens : Option Nat) :
    Except PyError (KVCacheManager H) :=
  manager.coordinate fun pool managers =>
    KVCacheCoordinator.removeSkippedBlocks pool managers requestId processedComputedTokens
      numPromptTokens

def popBlocksForFree (manager : KVCacheManager H) (requestId : RequestId) :
    List BlockRef × KVCacheManager H :=
  let (blocks, singleTypeManagers) :=
    KVCacheCoordinator.popBlocksForFree manager.singleTypeManagers requestId
  let (pins, manager) := { manager with singleTypeManagers }.popPins requestId
  (pins ++ blocks, manager)

def takeKvCacheBlockCopies : List (BlockRef × BlockRef) × List BlockRef × KVCacheManager H :=
  let copies := manager.singleTypeManagers.flatMap (·.pendingCowCopies)
  (copies, copies.flatMap fun copy => [copy.1, copy.2],
    { manager with
      singleTypeManagers := manager.singleTypeManagers.map fun single =>
        { single with pendingCowCopies := [] } })

def pinOffloads (pool : BlockPool H) (pins : AList fun _ : RequestId => List BlockRef) :
    List PartialTailOffload →
      Except PyError (BlockPool H × AList fun _ : RequestId => List BlockRef)
  | [] => .ok (pool, pins)
  | offload :: rest => do
    let pool ← pool.touch [offload.block]
    let pinned := (pins.lookup offload.requestId).getD []
    pinOffloads pool (pins.insert offload.requestId (pinned ++ [offload.block])) rest

def takePartialTailOffloads : Except PyError (List PartialTailOffload × KVCacheManager H) := do
  let offloads := manager.singleTypeManagers.flatMap (·.pendingPartialTailOffloads)
  let (blockPool, partialTailPins) ←
    pinOffloads manager.blockPool manager.partialTailPins offloads
  return (offloads, { manager with
    blockPool
    partialTailPins
    singleTypeManagers := manager.singleTypeManagers.map fun single =>
      { single with pendingPartialTailOffloads := [] } })

def takeNewBlockIds : List BlockRef × KVCacheManager H :=
  (manager.singleTypeManagers.flatMap (·.newBlockIds),
    { manager with
      singleTypeManagers := manager.singleTypeManagers.map fun single =>
        { single with newBlockIds := [] } })

def newStepStarts (manager : KVCacheManager H) : KVCacheManager H :=
  { manager with singleTypeManagers := manager.singleTypeManagers.map (·.newStepStarts) }

def resetPrefixCache (manager : KVCacheManager H) : Bool × KVCacheManager H :=
  let (reset, blockPool) := manager.blockPool.resetPrefixCache
  (reset, { manager with blockPool })

variable [DecidableEq H]

def evictBlocks (manager : KVCacheManager H) (blockIds : List Nat) :
    Except PyError (KVCacheManager H) := do
  let blockPool ← manager.blockPool.evictBlocks blockIds
  return { manager with blockPool }

def cacheBlocks (manager : KVCacheManager H) (request : EngineRequest H)
    (numComputedTokens : Nat) : Except PyError (KVCacheManager H) :=
  if manager.config.enableCaching then
    manager.coordinate fun pool managers =>
      KVCacheCoordinator.cacheBlocks manager.config pool managers request numComputedTokens
  else .ok manager

def emitHitEvents (request : EngineRequest H)
    (computedBlocks : List (List BlockRef)) : Except PyError (BlockPool H) :=
  computedBlocks.zipIdx.foldlM (fun pool (blocks, groupId) => do
    if blocks = [] then return pool
    else
      let group ← pyGet manager.config.coordinator.kvCacheGroups groupId
      pool.emitCachedBlockEvents request.toRequest blocks.length group.kvCacheSpec.blockSize
        groupId) manager.blockPool

def getComputedBlocks (request : EngineRequest H) :
    Except PyError ((List (List BlockRef) × Nat × Int) × KVCacheManager H) :=
  if !manager.prefixCacheLookupEnabled request then
    .ok ((manager.config.coordinator.kvCacheGroups.map fun _ => [], 0, 0), manager)
  else do
    let (computedBlocks, numNewComputedTokens, numUncached) ←
      KVCacheCoordinator.findLongestCacheHit manager.config manager.blockPool.index
        request.blockHashes (request.numTokens - 1)
    let sharedPrefixBoundary : Int :=
      if numUncached = 0 then 0 else numNewComputedTokens + numUncached
    if numNewComputedTokens > 0 ∧ manager.config.enableKvCacheEvents ∧ request.reportsFull then
      let blockPool ← manager.emitHitEvents request computedBlocks
      return ((computedBlocks, numNewComputedTokens, sharedPrefixBoundary),
        { manager with blockPool })
    else return ((computedBlocks, numNewComputedTokens, sharedPrefixBoundary), manager)

def fullSequenceFits (call : SlotsCall H) : Except PyError Bool :=
  if call.fullSequenceMustFit then do
    let fullNumTokens := min call.request.numTokens manager.config.maxModelLen
    let numBlocksToAllocate ← KVCacheCoordinator.getNumBlocksToAllocate manager.blockPool
      manager.singleTypeManagers call.request.requestId fullNumTokens call.newComputedBlocks
      call.numEncoderTokens (call.totalComputedTokens manager.config.maxModelLen)
      call.numLocalComputedTokens fullNumTokens true
    return numBlocksToAllocate + manager.watermarkBlocks call ≤ manager.blockPool.getNumFreeBlocks
  else .ok true

def numBlocksToAllocate (call : SlotsCall H) : Except PyError Int :=
  KVCacheCoordinator.getNumBlocksToAllocate manager.blockPool manager.singleTypeManagers
    call.request.requestId (call.numTokensNeedSlot manager.config.maxModelLen)
    call.newComputedBlocks call.numEncoderTokens
    -- not cut off at the model length, unlike `total_computed_tokens`
    (call.numLocalComputedTokens + call.numExternalComputedTokens) call.numLocalComputedTokens
    (call.numTokensMainModel manager.config.maxModelLen) false

def takeComputedSlots (call : SlotsCall H) : Except PyError (KVCacheManager H) :=
  if call.hasHits ∨ call.numExternalComputedTokens > 0 then
    manager.coordinate fun pool managers =>
      KVCacheCoordinator.allocateNewComputedBlocks pool managers call.request.requestId
        call.newComputedBlocks call.numLocalComputedTokens call.numExternalComputedTokens
  else .ok manager

def takeSlots (call : SlotsCall H) : Except PyError (List (List BlockRef) × KVCacheManager H) := do
  let manager ← manager.takeComputedSlots call
  let (newBlocks, blockPool, singleTypeManagers) ← KVCacheCoordinator.allocateNewBlocks
    manager.blockPool manager.singleTypeManagers call.request.requestId
    (call.numTokensNeedSlot manager.config.maxModelLen)
    (call.numTokensMainModel manager.config.maxModelLen) call.numEncoderTokens
  return (newBlocks, { manager with blockPool, singleTypeManagers })

def allocateSlots (call : SlotsCall H) :
    Except PyError (Option (List (List BlockRef)) × KVCacheManager H) := do
  if call.numNewTokens = 0 ∧ call.numExternalComputedTokens = 0 then
    throw (.valueError
      "num_new_tokens must be greater than 0 when there are no external computed tokens")
  let fits ← manager.fullSequenceFits call
  if !fits then return (none, manager)
  let manager ← manager.removeSkippedBlocks call.request.requestId
    (call.totalComputedTokens manager.config.maxModelLen - call.request.numInFlightTokens)
    (some call.request.numPromptTokens)
  let numBlocksToAllocate ← manager.numBlocksToAllocate call
  let availableBlocks := manager.blockPool.getNumFreeBlocks - call.reservedBlocks
  if numBlocksToAllocate + manager.watermarkBlocks call > availableBlocks then
    return (none, manager)
  let (newBlocks, manager) ← manager.takeSlots call
  if call.delayCacheBlocks then return (some newBlocks, manager)
  let manager ← manager.cacheBlocks call.request
    (min (call.numTokensMainModel manager.config.maxModelLen) call.request.numTokens)
  return (some newBlocks, manager)

end KVCacheManager

end VllmEngine

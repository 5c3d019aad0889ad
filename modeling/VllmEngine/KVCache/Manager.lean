import VllmEngine.KVCache.BlockPool
import VllmEngine.KVCache.CacheHit
import Mathlib.Data.List.AList

set_option autoImplicit false

namespace VllmEngine

structure EngineRequest (H : Type) extends Request H where
  sharedPrefixBoundary : Nat
  numInFlightTokens : Nat
  -- `WAITING` or `PREEMPTED`.
  awaitsAdmission : Bool
  skipReadingPrefixCache : Bool
  -- `kv_cache_report_mode` is "full".
  reportsFull : Bool
  deriving DecidableEq, Repr

structure PartialTailOffload where
  requestId : RequestId
  groupId : Nat
  block : BlockRef
  boundaryTokens : Nat
  deriving DecidableEq, Repr

structure SingleTypeKVCacheManager (H : Type) where
  kvCacheSpec : KVCacheSpec
  kvCacheGroupId : Nat
  blockSize : Nat
  enableCaching : Bool
  schedulerBlockSize : Nat
  maxAdmissionBlocksPerRequest : Option Nat
  recordNewBlockIds : Bool
  useEagle : Bool
  newBlockIds : List BlockRef
  reqToBlocks : AList fun _ : RequestId => List BlockRef
  numCachedBlock : RequestId → Option Nat
  partialHitReqs : RequestId → Option (Nat × BlockRef)
  pendingCowCopies : List (BlockRef × BlockRef)
  pendingPartialTailOffloads : List PartialTailOffload
  cachedBlocksThisStep : List (BlockHashWithGroupId H)
  lastStateBlockIdx : RequestId → Option Nat
  allocatedBlockReqs : RequestId → Bool
  producerPartialTailReqs : RequestId → Option Nat

namespace SingleTypeKVCacheManager

variable {H : Type}

variable (manager : SingleTypeKVCacheManager H)

def blocksOf (requestId : RequestId) : List BlockRef :=
  (manager.reqToBlocks.lookup requestId).getD []

def setBlocks (requestId : RequestId) (blocks : List BlockRef) : SingleTypeKVCacheManager H :=
  { manager with reqToBlocks := manager.reqToBlocks.insert requestId blocks }

def numSpeculativeBlocks : Nat :=
  match manager.kvCacheSpec.kind with
  | .mamba _ count => count
  | _ => 0

def isAligned : Bool :=
  match manager.kvCacheSpec.kind with
  | .mamba .align _ => true
  | _ => false

def isCrossAttention : Bool :=
  manager.kvCacheSpec.kind = .crossAttention

def getNumSkippedTokens (numComputedTokens : Nat) : Nat :=
  match manager.kvCacheSpec.kind with
  | .fullAttention | .rswa _ | .crossAttention => 0
  | .slidingWindow slidingWindow => numComputedTokens + 1 - slidingWindow
  | .chunkedLocalAttention attentionChunkSize =>
    numComputedTokens / attentionChunkSize * attentionChunkSize
  | .mamba _ _ => numComputedTokens - 1

def hasPartialLocalHit (newComputedBlocks : List BlockRef) (numLocalComputedTokens : Nat) : Bool :=
  newComputedBlocks ≠ [] && numLocalComputedTokens % manager.blockSize ≠ 0

variable (pool : BlockPool H)

def getNumEvictableBlocks (blocks : List BlockRef) : Nat :=
  blocks.countP fun block => pool.refCnt block = 0 && !block.isNull

def getNumBlocksToAllocateBase (manager : SingleTypeKVCacheManager H)
    (requestId : RequestId) (numTokens : Nat) (newComputedBlocks : List BlockRef)
    (totalComputedTokens numLocalComputedTokens : Nat) (applyAdmissionCap : Bool) :
    Except PyError Int :=
  let numRequiredBlocks :=
    match applyAdmissionCap, manager.maxAdmissionBlocksPerRequest with
    | true, some cap => min (cdiv numTokens manager.blockSize) cap
    | _, _ => cdiv numTokens manager.blockSize
  let numReqBlocks := (manager.blocksOf requestId).length
  if (manager.numCachedBlock requestId).isSome then do
    pyAssert (newComputedBlocks = [])
    return ((numRequiredBlocks - numReqBlocks : Nat) : Int)
  else
    let numLocalComputedBlocks := newComputedBlocks.length + numReqBlocks
    let numSkippedBlocks := manager.getNumSkippedTokens totalComputedTokens / manager.blockSize
    let numNewBlocks := numRequiredBlocks - max numSkippedBlocks numLocalComputedBlocks
    let numSkippedNewComputedBlocks := numSkippedBlocks - numReqBlocks
    let numEvictableBlocks :=
      getNumEvictableBlocks pool (newComputedBlocks.drop numSkippedNewComputedBlocks)
    let cowBlocks :=
      if manager.hasPartialLocalHit newComputedBlocks numLocalComputedTokens then 1 else 0
    .ok ((numNewBlocks + cowBlocks + numEvictableBlocks : Nat) : Int)

def getNumBlocksToAllocateAligned (manager : SingleTypeKVCacheManager H)
    (requestId : RequestId) (newComputedBlocks : List BlockRef)
    (numLocalComputedTokens numTokensMainModel : Nat) : Int :=
  let numRequiredBlocks := cdiv numTokensMainModel manager.blockSize + manager.numSpeculativeBlocks
  let numNewBlocks : Int := numRequiredBlocks - newComputedBlocks.length -
    (manager.blocksOf requestId).length
  let hasPartialHit := manager.hasPartialLocalHit newComputedBlocks numLocalComputedTokens ||
    (manager.partialHitReqs requestId).isSome
  let cowBlocks : Int := if hasPartialHit then 1 else 0
  let numNewBlocks := if hasPartialHit then max numNewBlocks 0 + 1 else numNewBlocks
  let numNewBlocks :=
    if numNewBlocks > 0 then
      if manager.allocatedBlockReqs requestId then
        1 + cowBlocks
      else 1 + manager.numSpeculativeBlocks + cowBlocks
    else numNewBlocks
  numNewBlocks + getNumEvictableBlocks pool newComputedBlocks

def addLocalComputedBlocksBase (manager : SingleTypeKVCacheManager H)
    (requestId : RequestId) (newComputedBlocks : List BlockRef)
    (numLocalComputedTokens numExternalComputedTokens : Nat) :
    Except PyError (BlockPool H × SingleTypeKVCacheManager H) := do
  pyAssert (manager.blocksOf requestId = [])
  let numSkippedTokens :=
    manager.getNumSkippedTokens (numLocalComputedTokens + numExternalComputedTokens)
  let numSkippedBlocks := numSkippedTokens / manager.blockSize
  let newComputedBlocks := newComputedBlocks.drop numSkippedBlocks
  let pool ← touchHits pool manager newComputedBlocks
  let reqBlocks := List.replicate numSkippedBlocks .nullBlock ++ newComputedBlocks
  let manager := manager.setBlocks requestId reqBlocks
  if manager.hasPartialLocalHit newComputedBlocks numLocalComputedTokens then
    -- the shared tail is redirected to a private copy when new blocks are allocated
    let blockIdx := numLocalComputedTokens / manager.blockSize
    return (pool, { manager with
      numCachedBlock := Function.update manager.numCachedBlock requestId (some blockIdx)
      partialHitReqs := Function.update manager.partialHitReqs requestId
        (some (blockIdx, newComputedBlocks.getLastD .nullBlock)) })
  else
    return (pool, { manager with
      numCachedBlock := Function.update manager.numCachedBlock requestId (some reqBlocks.length) })
where
  touchHits (pool : BlockPool H) (manager : SingleTypeKVCacheManager H)
      (newComputedBlocks : List BlockRef) : Except PyError (BlockPool H) :=
    if manager.enableCaching then pool.touch newComputedBlocks
    else do
      pyAssert (newComputedBlocks = [])
      return pool

def addLocalComputedBlocks (manager : SingleTypeKVCacheManager H)
    (requestId : RequestId) (newComputedBlocks : List BlockRef)
    (numLocalComputedTokens numExternalComputedTokens : Nat) :
    Except PyError (BlockPool H × SingleTypeKVCacheManager H) :=
  if manager.isCrossAttention then do
    pyAssert (newComputedBlocks = [])
    return (pool, manager)
  else
    manager.addLocalComputedBlocksBase pool requestId newComputedBlocks numLocalComputedTokens
      numExternalComputedTokens

def appendNewBlocks (requestId : RequestId)
    (newBlocks : List BlockRef) : SingleTypeKVCacheManager H :=
  { manager.setBlocks requestId (manager.blocksOf requestId ++ newBlocks) with
    newBlockIds :=
      if manager.recordNewBlockIds then manager.newBlockIds ++ newBlocks else manager.newBlockIds }

def retainCopy (sourceBlock cowBlock : BlockRef) : SingleTypeKVCacheManager H :=
  { manager with pendingCowCopies := manager.pendingCowCopies ++ [(sourceBlock, cowBlock)] }

def applyCow (manager : SingleTypeKVCacheManager H) (requestId : RequestId)
    (blockIdx : Nat) (sourceBlock cowBlock : BlockRef) :
    Except PyError (BlockPool H × SingleTypeKVCacheManager H) := do
  let reqBlocks := manager.blocksOf requestId
  pyAssert (blockIdx < reqBlocks.length)
  pyAssert (reqBlocks[blockIdx]? = some sourceBlock)
  pyAssert (!sourceBlock.isNull && pool.refCnt sourceBlock > 0)
  let manager := manager.setBlocks requestId (reqBlocks.set blockIdx cowBlock)
  return (pool.addRef cowBlock 1, manager.retainCopy sourceBlock cowBlock)

variable [DecidableEq H]

def allocateExternalComputedBlocks (manager : SingleTypeKVCacheManager H)
    (requestId : RequestId) (numLocalComputedTokens numExternalComputedTokens : Nat) :
    Except PyError (BlockPool H × SingleTypeKVCacheManager H) :=
  if manager.isCrossAttention then .ok (pool, manager)
  else
    let numTotalComputedTokens := numLocalComputedTokens + numExternalComputedTokens
    let numSkippedTokens := manager.getNumSkippedTokens numTotalComputedTokens
    let numExternalComputedTokens :=
      if numSkippedTokens > 0 then
        min (numTotalComputedTokens - numSkippedTokens) numExternalComputedTokens
      else numExternalComputedTokens
    if numExternalComputedTokens = 0 then .ok (pool, manager)
    else do
      let (allocatedBlocks, pool) ← pool.getNewBlocks
        ((cdiv numTotalComputedTokens manager.blockSize : Int) -
          (manager.blocksOf requestId).length)
      return (pool, manager.appendNewBlocks requestId allocatedBlocks)

def redirectPartialHit (manager : SingleTypeKVCacheManager H) (requestId : RequestId) :
    Except PyError (List BlockRef × BlockPool H × SingleTypeKVCacheManager H) :=
  match manager.partialHitReqs requestId with
  | none => .ok ([], pool, manager)
  | some (blockIdx, sourceBlock) => do
    let manager := { manager with
      partialHitReqs := Function.update manager.partialHitReqs requestId none }
    let (newBlocks, pool) ← pool.getNewBlocks 1
    let cowBlock ← pyGet newBlocks 0
    let (pool, manager) ← manager.applyCow pool requestId blockIdx sourceBlock cowBlock
    return ([cowBlock], pool, { manager with newBlockIds := manager.newBlockIds ++ [cowBlock] })

def allocateNewBlocksBase (manager : SingleTypeKVCacheManager H)
    (requestId : RequestId) (numTokens : Nat) :
    Except PyError (List BlockRef × BlockPool H × SingleTypeKVCacheManager H) := do
  let (cowBlocks, pool, manager) ← manager.redirectPartialHit pool requestId
  let numNewBlocks : Int :=
    (cdiv numTokens manager.blockSize : Int) - (manager.blocksOf requestId).length
  if numNewBlocks ≤ 0 then
    return (cowBlocks, pool, manager.setBlocks requestId (manager.blocksOf requestId))
  else
    let (newBlocks, pool) ← pool.getNewBlocks numNewBlocks
    return (cowBlocks ++ newBlocks, pool, manager.appendNewBlocks requestId newBlocks)

def getNumBlocksToAllocate (manager : SingleTypeKVCacheManager H)
    (requestId : RequestId) (numTokens : Nat) (newComputedBlocks : List BlockRef)
    (totalComputedTokens numLocalComputedTokens numTokensMainModel : Nat)
    (applyAdmissionCap : Bool) : Except PyError Int :=
  match manager.kvCacheSpec.kind with
  | .mamba mode numSpeculativeBlocks =>
    if newComputedBlocks.getLast?.any fun block =>
        (pool.index.blockHash block).any (manager.cachedBlocksThisStep.contains ·) then
      -- a state cached in this step is not computed yet: the request has to wait
      .ok (pool.config.numGpuBlocks + 1)
    else if mode = .align then
      .ok (manager.getNumBlocksToAllocateAligned pool requestId newComputedBlocks
        numLocalComputedTokens numTokensMainModel)
    else
      manager.getNumBlocksToAllocateBase pool requestId
        (numTokens + manager.kvCacheSpec.blockSize * numSpeculativeBlocks) newComputedBlocks
        totalComputedTokens numLocalComputedTokens applyAdmissionCap
  | _ =>
    manager.getNumBlocksToAllocateBase pool requestId numTokens newComputedBlocks
      totalComputedTokens numLocalComputedTokens applyAdmissionCap

end SingleTypeKVCacheManager

end VllmEngine

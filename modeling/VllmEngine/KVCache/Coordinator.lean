import VllmEngine.KVCache.Hybrid
import VllmEngine.KVCache.Retention

set_option autoImplicit false

namespace VllmEngine

structure KVCacheManagerConfig (H : Type) where
  coordinator : CoordinatorConfig
  numBlocks : Nat
  enableCaching : Bool
  enableKvCacheEvents : Bool
  hasher : Hasher H
  maxModelLen : Nat
  maxInFlightTokens : Nat
  watermarkBlocks : Nat
  retentionInterval : Option Nat
  needsKvCacheZeroing : Bool

def KVCacheSpec.maxAdmissionBlocksPerRequest (spec : KVCacheSpec)
    (maxInFlightTokens maxModelLen : Nat) : Option Nat :=
  match spec.kind with
  | .slidingWindow slidingWindow =>
    some (cdiv (min (slidingWindow - 1 + maxInFlightTokens) maxModelLen) spec.blockSize + 1)
  | .chunkedLocalAttention attentionChunkSize =>
    some (cdiv (min (attentionChunkSize + maxInFlightTokens) maxModelLen) spec.blockSize)
  | _ => none

namespace KVCacheManagerConfig

variable {H : Type}

variable (config : KVCacheManagerConfig H)

def poolConfig : PoolConfig H where
  numGpuBlocks := config.numBlocks
  enableCaching := config.enableCaching
  hashBlockSize := config.coordinator.hashBlockSize
  enableKvCacheEvents := config.enableKvCacheEvents
  hasher := config.hasher

-- `get_kv_cache_coordinator`: without caching there is no lookup, with one group there is nothing
-- to reconcile.
def isHybrid : Bool :=
  config.enableCaching && config.coordinator.kvCacheGroups.length ≠ 1

def managerUsesEagle (groupId : Nat) (group : KVCacheGroupSpec) : Bool :=
  if !config.enableCaching then false
  else if config.isHybrid then
    config.coordinator.attentionGroups.any fun specGroup =>
      specGroup.groupIds.contains groupId && specGroup.useEagle
  else config.coordinator.isEagle group

def createManager (groupId : Nat) (group : KVCacheGroupSpec) : SingleTypeKVCacheManager H where
  kvCacheSpec := group.kvCacheSpec
  kvCacheGroupId := groupId
  blockSize := group.kvCacheSpec.managerBlockSize config.coordinator.dcpWorldSize
  enableCaching := config.enableCaching
  schedulerBlockSize := config.coordinator.schedulerBlockSize
  maxAdmissionBlocksPerRequest := group.kvCacheSpec.maxAdmissionBlocksPerRequest
    config.maxInFlightTokens config.maxModelLen
  recordNewBlockIds := config.needsKvCacheZeroing && group.kvCacheSpec.kind = .fullAttention
  useEagle := config.managerUsesEagle groupId group
  newBlockIds := []
  reqToBlocks := ∅
  numCachedBlock _ := none
  partialHitReqs _ := none
  pendingCowCopies := []
  pendingPartialTailOffloads := []
  cachedBlocksThisStep := []
  lastStateBlockIdx _ := none
  allocatedBlockReqs _ := false
  producerPartialTailReqs _ := none

end KVCacheManagerConfig

namespace KVCacheCoordinator

variable {H Result : Type}

def eachManager (visit : Nat → BlockPool H → SingleTypeKVCacheManager H →
      Except PyError (Result × BlockPool H × SingleTypeKVCacheManager H)) :
    Nat → BlockPool H → List (SingleTypeKVCacheManager H) →
      Except PyError (List Result × BlockPool H × List (SingleTypeKVCacheManager H))
  | _, pool, [] => .ok ([], pool, [])
  | i, pool, manager :: rest => do
    let (result, pool, manager) ← visit i pool manager
    let (results, pool, rest) ← eachManager visit (i + 1) pool rest
    return (result :: results, pool, manager :: rest)

def updateManagers (update : Nat → BlockPool H → SingleTypeKVCacheManager H →
      Except PyError (BlockPool H × SingleTypeKVCacheManager H)) (pool : BlockPool H)
    (managers : List (SingleTypeKVCacheManager H)) :
    Except PyError (BlockPool H × List (SingleTypeKVCacheManager H)) := do
  let (_, pool, managers) ← eachManager (fun i pool manager => do
    let (pool, manager) ← update i pool manager
    return ((), pool, manager)) 0 pool managers
  return (pool, managers)

def addComputedBlocks (pool : BlockPool H) (managers : List (SingleTypeKVCacheManager H))
    (requestId : RequestId) (newComputedBlocks : List (List BlockRef))
    (numLocalComputedTokens numExternalComputedTokens : Nat) :
    Except PyError (BlockPool H × List (SingleTypeKVCacheManager H)) :=
  updateManagers (fun i pool manager => do
    let blocks ← pyGet newComputedBlocks i
    manager.addLocalComputedBlocks pool requestId blocks numLocalComputedTokens
      numExternalComputedTokens) pool managers

def removeSkippedBlocks (pool : BlockPool H) (managers : List (SingleTypeKVCacheManager H))
    (requestId : RequestId) (processedComputedTokens : Nat) (numPromptTokens : Option Nat) :
    Except PyError (BlockPool H × List (SingleTypeKVCacheManager H)) :=
  updateManagers (fun _ pool manager =>
    manager.removeSkippedBlocks pool requestId processedComputedTokens numPromptTokens)
    pool managers

def free (pool : BlockPool H) (managers : List (SingleTypeKVCacheManager H))
    (requestId : RequestId) : Except PyError (BlockPool H × List (SingleTypeKVCacheManager H)) :=
  updateManagers (fun _ pool manager => manager.free pool requestId) pool managers

def popBlocksForFree (managers : List (SingleTypeKVCacheManager H)) (requestId : RequestId) :
    List BlockRef × List (SingleTypeKVCacheManager H) :=
  (managers.flatMap fun manager => (manager.popBlocksForFree requestId).1,
    managers.map fun manager => (manager.popBlocksForFree requestId).2)

variable [DecidableEq H]

def getNumBlocksToAllocate (pool : BlockPool H) (managers : List (SingleTypeKVCacheManager H))
    (requestId : RequestId) (numTokens : Nat) (newComputedBlocks : List (List BlockRef))
    (numEncoderTokens totalComputedTokens numLocalComputedTokens numTokensMainModel : Nat)
    (applyAdmissionCap : Bool) : Except PyError Int := do
  let counts ← managers.zipIdx.mapM fun (manager, i) =>
    if manager.isCrossAttention then
      manager.getNumBlocksToAllocate pool requestId numEncoderTokens [] 0 0 numEncoderTokens
        applyAdmissionCap
    else do
      let blocks ← pyGet newComputedBlocks i
      manager.getNumBlocksToAllocate pool requestId numTokens blocks totalComputedTokens
        numLocalComputedTokens numTokensMainModel applyAdmissionCap
  return counts.sum

def allocateNewComputedBlocks (pool : BlockPool H) (managers : List (SingleTypeKVCacheManager H))
    (requestId : RequestId) (newComputedBlocks : List (List BlockRef))
    (numLocalComputedTokens numExternalComputedTokens : Nat) :
    Except PyError (BlockPool H × List (SingleTypeKVCacheManager H)) :=
  if managers.any fun manager => (manager.numCachedBlock requestId).isSome then do
    pyAssert (newComputedBlocks.all (· = []))
    return (pool, managers)
  else do
    let (pool, managers) ← addComputedBlocks pool managers requestId newComputedBlocks
      numLocalComputedTokens numExternalComputedTokens
    if numExternalComputedTokens > 0 then
      updateManagers (fun _ pool manager =>
        manager.allocateExternalComputedBlocks pool requestId numLocalComputedTokens
          numExternalComputedTokens) pool managers
    else return (pool, managers)

def allocateNewBlocks (pool : BlockPool H) (managers : List (SingleTypeKVCacheManager H))
    (requestId : RequestId) (numTokens numTokensMainModel numEncoderTokens : Nat) :
    Except PyError (List (List BlockRef) × BlockPool H × List (SingleTypeKVCacheManager H)) :=
  eachManager (fun _ pool manager =>
    manager.allocateNewBlocks pool requestId
      (if manager.isCrossAttention then numEncoderTokens else numTokens) numTokensMainModel)
    0 pool managers

variable (config : KVCacheManagerConfig H)

-- The hybrid coordinator rounds down to where hits can end; EAGLE groups cache the block after it.
def numTokensToCache (manager : SingleTypeKVCacheManager H) (numComputedTokens : Nat) : Nat :=
  if config.isHybrid then
    let aligned :=
      if config.coordinator.enablePartialHashHits then numComputedTokens
      else numComputedTokens / config.coordinator.schedulerBlockSize *
        config.coordinator.schedulerBlockSize
    if manager.useEagle ∧ aligned > 0 then min numComputedTokens (aligned + manager.blockSize)
    else aligned
  else numComputedTokens

def cacheBlocks (config : KVCacheManagerConfig H) (pool : BlockPool H)
    (managers : List (SingleTypeKVCacheManager H)) (request : EngineRequest H)
    (numComputedTokens : Nat) :
    Except PyError (BlockPool H × List (SingleTypeKVCacheManager H)) :=
  updateManagers (fun _ pool manager =>
    manager.cacheBlocks pool request (numTokensToCache config manager numComputedTokens)
      config.retentionInterval) pool managers

def findLongestCacheHit (config : KVCacheManagerConfig H) (index : PrefixIndex H)
    (blockHashes : List H) (maxCacheHitLength : Nat) :
    Except PyError (List (List BlockRef) × Nat × Int) :=
  if !config.enableCaching then
    .ok (config.coordinator.kvCacheGroups.map fun _ => [], 0, 0)
  else if config.isHybrid then
    HybridKVCacheCoordinator.findLongestCacheHit config.coordinator index blockHashes
      maxCacheHitLength
  else do
    let group ← pyGet config.coordinator.kvCacheGroups 0
    let dcpWorldSize := config.coordinator.dcpWorldSize
    let blockSize :=
      if dcpWorldSize > 1 then group.kvCacheSpec.blockSize * dcpWorldSize
      else group.kvCacheSpec.blockSize
    let (hitBlocks, hitLength) ← VllmEngine.findLongestCacheHit index
      config.coordinator.hashBlockSize blockHashes maxCacheHitLength [0] group.kvCacheSpec
      (config.coordinator.isEagle group) blockSize dcpWorldSize
    return (hitBlocks, hitLength, 0)

end KVCacheCoordinator

end VllmEngine

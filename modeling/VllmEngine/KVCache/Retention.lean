import VllmEngine.KVCache.Mamba

set_option autoImplicit false

namespace VllmEngine

open Function

-- No mask means that every block is cached.
def SlidingWindowManager.reachableBlockMask (startBlock endBlock alignmentTokens blockSize
    slidingWindow : Nat) (useEagle : Bool) (retentionInterval : Option Nat)
    (reachableBoundaries : List Nat) : Except PyError (Option (List Bool)) := do
  pyAssert (alignmentTokens % blockSize = 0)
  let need := contiguousBlocksForHit slidingWindow blockSize useEagle
  let shift := if useEagle then 1 else 0
  let segmentTokens : Option Nat :=
    match retentionInterval with
    | none => some alignmentTokens
    | some 0 => none
    | some interval => some interval
  if segmentTokens.any fun tokens => need ≥ tokens / blockSize then
    return none
  let segmentTail (i : Nat) : Bool := segmentTokens.any fun tokens =>
    i ≥ shift && (i - shift) % (tokens / blockSize) ≥ tokens / blockSize - need
  let boundaryTail (i : Nat) : Bool := retentionInterval.isSome &&
    reachableBoundaries.any fun boundaryTokens =>
      let stop := boundaryTokens / alignmentTokens * alignmentTokens / blockSize + shift
      stop - need ≤ i && i < stop
  return some ((List.range' startBlock (endBlock - startBlock)).map fun i =>
    segmentTail i || boundaryTail i)

def MambaManager.reachableBlockMask (startBlock endBlock alignmentTokens blockSize : Nat)
    (retentionInterval : Option Nat) (reachableBoundaries : List Nat) : Option (List Bool) :=
  match retentionInterval with
  | none => none
  | some interval =>
    let perSegment := interval / blockSize
    if interval ≠ 0 ∧ perSegment ≤ 1 then none
    else
      let firstBoundary := (startBlock + perSegment) / perSegment * perSegment - 1
      let segmentEnd (i : Nat) : Bool :=
        interval ≠ 0 && i ≥ firstBoundary && (i - firstBoundary) % perSegment = 0
      let boundary (i : Nat) : Bool := reachableBoundaries.any fun boundaryTokens =>
        boundaryTokens / alignmentTokens * alignmentTokens / blockSize = i + 1
      some ((List.range' startBlock (endBlock - startBlock)).map fun i =>
        segmentEnd i || boundary i)

namespace SingleTypeKVCacheManager

variable {H : Type}

-- The loop of `_remove_blocks_in_range`, from `last` down to `first`: the blocks to free and the
-- table without them.
def nullOut (first : Nat) : Nat → List BlockRef → List BlockRef × List BlockRef
  | 0, blocks => ([], blocks)
  | last + 1, blocks =>
    if last < first then ([], blocks)
    else
      match blocks[last]? with
      | none => ([], blocks)
      | some block =>
        -- earlier blocks were nulled by a previous call
        if block.isNull then ([], blocks)
        else
          let (freed, blocks) := nullOut first last (blocks.set last .nullBlock)
          (block :: freed, blocks)

variable (pool : BlockPool H)

def freeAny (freed : List BlockRef) : Except PyError (BlockPool H) :=
  if freed = [] then .ok pool else pool.freeBlocks freed

def removeBlocksInRange (manager : SingleTypeKVCacheManager H)
    (requestId : RequestId) (firstBlock lastBlock : Nat) :
    Except PyError (BlockPool H × SingleTypeKVCacheManager H) :=
  match manager.reqToBlocks.lookup requestId with
  | none => .ok (pool, manager)
  | some blocks =>
    if firstBlock ≥ lastBlock then .ok (pool, manager)
    else do
      let (freed, blocks) := nullOut firstBlock (min lastBlock blocks.length) blocks
      let pool ← freeAny pool freed
      return (pool, manager.setBlocks requestId blocks)

def removeSkippedBlocksBase (manager : SingleTypeKVCacheManager H)
    (requestId : RequestId) (processedComputedTokens : Nat) :
    Except PyError (BlockPool H × SingleTypeKVCacheManager H) :=
  let numSkippedTokens := manager.getNumSkippedTokens processedComputedTokens
  if numSkippedTokens = 0 then .ok (pool, manager)
  else
    manager.removeBlocksInRange pool requestId 0
      (min (numSkippedTokens / manager.blockSize) (manager.blocksOf requestId).length)

def freeLastStateBlock (manager : SingleTypeKVCacheManager H)
    (requestId : RequestId) (processedComputedTokens : Nat) :
    Except PyError (BlockPool H × SingleTypeKVCacheManager H) :=
  match manager.lastStateBlockIdx requestId with
  | none => .ok (pool, manager)
  | some lastStateBlockIdx =>
    if lastStateBlockIdx + 1 < cdiv processedComputedTokens manager.blockSize then do
      let block ← pyGet (manager.blocksOf requestId) lastStateBlockIdx
      if block.isNull then return (pool, manager)
      else
        let pool ← pool.freeBlocks [block]
        return (pool, manager.setBlocks requestId
          ((manager.blocksOf requestId).set lastStateBlockIdx .nullBlock))
    else .ok (pool, manager)

def removeSkippedBlocks (manager : SingleTypeKVCacheManager H)
    (requestId : RequestId) (processedComputedTokens : Nat) (numPromptTokens : Option Nat) :
    Except PyError (BlockPool H × SingleTypeKVCacheManager H) :=
  match manager.kvCacheSpec.kind, numPromptTokens with
  | .rswa rswaWindow, some numPromptTokens =>
    let windowStart := max numPromptTokens (processedComputedTokens - rswaWindow)
    manager.removeBlocksInRange pool requestId (cdiv numPromptTokens manager.blockSize)
      (windowStart / manager.blockSize)
  | .mamba .align _, _ => do
    let (pool, manager) ← manager.removeSkippedBlocksBase pool requestId processedComputedTokens
    manager.freeLastStateBlock pool requestId processedComputedTokens
  | _, _ => manager.removeSkippedBlocksBase pool requestId processedComputedTokens

def popBlocksForFree (manager : SingleTypeKVCacheManager H) (requestId : RequestId) :
    List BlockRef × SingleTypeKVCacheManager H :=
  let popped := { manager with
    reqToBlocks := manager.reqToBlocks.erase requestId
    numCachedBlock := update manager.numCachedBlock requestId none
    partialHitReqs := update manager.partialHitReqs requestId none }
  (manager.blocksOf requestId,
    if manager.isAligned then
      { popped with
        allocatedBlockReqs := update manager.allocatedBlockReqs requestId false
        lastStateBlockIdx := update manager.lastStateBlockIdx requestId none
        producerPartialTailReqs :=
          update manager.producerPartialTailReqs requestId none
        -- a hand-off of a request that died in this step does not reach the connector
        pendingPartialTailOffloads :=
          manager.pendingPartialTailOffloads.filter (·.requestId ≠ requestId) }
    else popped)

def free (manager : SingleTypeKVCacheManager H) (requestId : RequestId) :
    Except PyError (BlockPool H × SingleTypeKVCacheManager H) := do
  let (blocks, manager) := manager.popBlocksForFree requestId
  let pool ← pool.freeBlocks blocks.reverse
  return (pool, manager)

def newStepStarts (manager : SingleTypeKVCacheManager H) : SingleTypeKVCacheManager H :=
  { manager with cachedBlocksThisStep := [] }

def reachableBlockMask (manager : SingleTypeKVCacheManager H) (startBlock endBlock : Nat)
    (retentionInterval : Option Nat) (reachableBoundaries : List Nat) :
    Except PyError (Option (List Bool)) :=
  match manager.kvCacheSpec.kind with
  | .slidingWindow slidingWindow =>
    SlidingWindowManager.reachableBlockMask startBlock endBlock manager.schedulerBlockSize
      manager.kvCacheSpec.blockSize slidingWindow manager.useEagle retentionInterval
      reachableBoundaries
  | .mamba _ _ =>
    return MambaManager.reachableBlockMask startBlock endBlock manager.schedulerBlockSize
      manager.kvCacheSpec.blockSize retentionInterval reachableBoundaries
  | _ => return none

variable [DecidableEq H]

def cacheBlocksBase (manager : SingleTypeKVCacheManager H)
    (request : EngineRequest H) (numTokens : Nat) (retentionInterval : Option Nat) :
    Except PyError (BlockPool H × SingleTypeKVCacheManager H) :=
  let numCachedBlocks := (manager.numCachedBlock request.requestId).getD 0
  let numFullBlocks := numTokens / manager.blockSize
  if numCachedBlocks ≥ numFullBlocks then .ok (pool, manager)
  else do
    let reachableBoundaries := [request.numPromptTokens - 1] ++
      if request.sharedPrefixBoundary = 0 then [] else [request.sharedPrefixBoundary]
    let blockMask ← manager.reachableBlockMask numCachedBlocks numFullBlocks retentionInterval
      reachableBoundaries
    let pool ← pool.cacheFullBlocks request.toRequest (manager.blocksOf request.requestId)
      numCachedBlocks numFullBlocks manager.blockSize manager.kvCacheGroupId blockMask
    let manager := manager.setBlocks request.requestId (manager.blocksOf request.requestId)
    return (pool, { manager with
      numCachedBlock :=
        update manager.numCachedBlock request.requestId (some numFullBlocks) })

def cachePartialTailBlockFull (manager : SingleTypeKVCacheManager H)
    (request : EngineRequest H) (numTokens : Nat) : Except PyError (BlockPool H) :=
  let hashBlockSize := pool.config.hashBlockSize
  let boundaryTokens := request.numPromptTokens / hashBlockSize * hashBlockSize
  if boundaryTokens = 0 ∨ boundaryTokens > numTokens ∨ boundaryTokens % manager.blockSize = 0 then
    .ok pool
  else
    match (manager.blocksOf request.requestId)[boundaryTokens / manager.blockSize]? with
    | none => .ok pool
    | some block => do
      let (_, pool) ← pool.cachePartialBlock request.toRequest block boundaryTokens
        manager.kvCacheGroupId manager.blockSize
      return pool

def cachePartialTailBlockMamba (manager : SingleTypeKVCacheManager H)
    (request : EngineRequest H) (numTokens : Nat) :
    Except PyError (Option (BlockHashWithGroupId H) × BlockPool H × SingleTypeKVCacheManager H) :=
  let hashBlockSize := pool.config.hashBlockSize
  let latestPromptHashBoundary := request.numPromptTokens / hashBlockSize * hashBlockSize
  if manager.blockSize = hashBlockSize ∨ numTokens % manager.blockSize = 0 ∨
      numTokens % hashBlockSize ≠ 0 ∨ numTokens ≠ latestPromptHashBoundary then
    .ok (none, pool, manager)
  else
    let blockIdx := numTokens / manager.blockSize
    match (manager.blocksOf request.requestId)[blockIdx]? with
    | none => .ok (none, pool, manager)
    | some sourceBlock =>
      if sourceBlock.isNull then .ok (none, pool, manager)
      else do
        let (partialHash, pool) ← pool.cachePartialBlock request.toRequest sourceBlock numTokens
          manager.kvCacheGroupId manager.blockSize
        if partialHash.isSome then
          return (partialHash, pool, { manager with
            partialHitReqs := update manager.partialHitReqs request.requestId
              (some (blockIdx, sourceBlock))
            numCachedBlock := update manager.numCachedBlock request.requestId
              (some blockIdx)
            producerPartialTailReqs := update manager.producerPartialTailReqs
              request.requestId (some numTokens) })
        else return (partialHash, pool, manager)

def recordCachedBlocks (manager : SingleTypeKVCacheManager H)
    (blocks : List BlockRef) : SingleTypeKVCacheManager H :=
  blocks.foldl (fun manager block =>
    if block.isNull then manager else manager.addCachedThisStep (pool.index.blockHash block)) manager

def cacheBlocksMamba (manager : SingleTypeKVCacheManager H)
    (request : EngineRequest H) (numTokens : Nat) (retentionInterval : Option Nat) :
    Except PyError (BlockPool H × SingleTypeKVCacheManager H) := do
  let numCachedBlocksBefore := (manager.numCachedBlock request.requestId).getD 0
  let (pool, manager) ← manager.cacheBlocksBase pool request numTokens retentionInterval
  let numCachedBlocksAfter := (manager.numCachedBlock request.requestId).getD 0
  let (pool, manager) ← cacheTail pool manager
  if numCachedBlocksAfter > numCachedBlocksBefore then
    return (pool, manager.recordCachedBlocks pool
      ((manager.blocksOf request.requestId).extract numCachedBlocksBefore numCachedBlocksAfter))
  else return (pool, manager)
where
  cacheTail (pool : BlockPool H) (manager : SingleTypeKVCacheManager H) :
      Except PyError (BlockPool H × SingleTypeKVCacheManager H) :=
    if manager.isAligned then do
      let (partialHash, pool, manager) ←
        manager.cachePartialTailBlockMamba pool request numTokens
      return (pool, manager.addCachedThisStep partialHash)
    else .ok (pool, manager)

def cacheBlocks (manager : SingleTypeKVCacheManager H)
    (request : EngineRequest H) (numTokens : Nat) (retentionInterval : Option Nat) :
    Except PyError (BlockPool H × SingleTypeKVCacheManager H) :=
  match manager.kvCacheSpec.kind with
  | .fullAttention | .rswa _ => do
    let (pool, manager) ← manager.cacheBlocksBase pool request numTokens retentionInterval
    if manager.blockSize = pool.config.hashBlockSize then return (pool, manager)
    else
      let pool ← manager.cachePartialTailBlockFull pool request numTokens
      return (pool, manager)
  | .mamba _ _ => manager.cacheBlocksMamba pool request numTokens retentionInterval
  | .crossAttention =>
    .error (.valueError "Should not be called as prefix caching is disabled.")
  | .slidingWindow _ | .chunkedLocalAttention _ =>
    manager.cacheBlocksBase pool request numTokens retentionInterval

end SingleTypeKVCacheManager

end VllmEngine

import VllmEngine.KVCache.Manager

set_option autoImplicit false

namespace VllmEngine.SingleTypeKVCacheManager

open Function

variable {H : Type}

def reuseSpeculativeBlocks (numSkippedBlocks : Nat) : List Nat → List BlockRef → List BlockRef
  | [], reqBlocks => reqBlocks
  | blockIdx :: rest, reqBlocks =>
    if blockIdx < numSkippedBlocks then
      reuseSpeculativeBlocks numSkippedBlocks rest
        (reqBlocks.set blockIdx .nullBlock ++ [reqBlocks.getD blockIdx .nullBlock])
    else reqBlocks

variable (manager : SingleTypeKVCacheManager H)

-- Positions up to the block of the last token are null, and speculative blocks move along.
def alignedTable (requestId : RequestId) (numRequiredBlocks : Nat) : List BlockRef :=
  let reqBlocks := manager.blocksOf requestId
  let prevBlockLen := reqBlocks.length
  let numSkippedBlocks := numRequiredBlocks - manager.numSpeculativeBlocks - 1
  let reqBlocks := reqBlocks ++ List.replicate (numSkippedBlocks - prevBlockLen) .nullBlock
  if manager.allocatedBlockReqs requestId then
    reuseSpeculativeBlocks numSkippedBlocks
      (List.range' (prevBlockLen - manager.numSpeculativeBlocks) manager.numSpeculativeBlocks)
      reqBlocks
  else reqBlocks

def recordLastStateBlock (requestId : RequestId) : SingleTypeKVCacheManager H :=
  let prevBlockLen := (manager.blocksOf requestId).length
  if manager.allocatedBlockReqs requestId then
    { manager with
      lastStateBlockIdx := update manager.lastStateBlockIdx requestId
        (some (prevBlockLen - 1 - manager.numSpeculativeBlocks)) }
  else if prevBlockLen > 0 then
    { manager with
      lastStateBlockIdx := update manager.lastStateBlockIdx requestId
        (some (prevBlockLen - 1)) }
  else manager

def handOffPartialTail (requestId : RequestId) (cowBlock : BlockRef) : SingleTypeKVCacheManager H :=
  match manager.producerPartialTailReqs requestId with
  | none => manager
  | some boundaryTokens =>
    { manager with
      producerPartialTailReqs := update manager.producerPartialTailReqs requestId none
      pendingPartialTailOffloads := manager.pendingPartialTailOffloads ++
        [{ requestId, groupId := manager.kvCacheGroupId, block := cowBlock, boundaryTokens }] }

variable [DecidableEq H]

def addCachedThisStep (key : Option (BlockHashWithGroupId H)) : SingleTypeKVCacheManager H :=
  match key with
  | none => manager
  | some key => { manager with cachedBlocksThisStep := manager.cachedBlocksThisStep.insert key }

variable (pool : BlockPool H)

-- The copy-on-write of a running request: it stays on the source block, and the cache entry moves
-- to the copy.
def moveToCow (manager : SingleTypeKVCacheManager H) (requestId : RequestId)
    (blockIdx : Nat) (sourceBlock cowBlock : BlockRef) :
    Except PyError (BlockPool H × SingleTypeKVCacheManager H) := do
  pyAssert ((manager.blocksOf requestId)[blockIdx]? = some sourceBlock)
  let pool ← pool.moveBlockHashes sourceBlock cowBlock
  let manager := (manager.retainCopy sourceBlock cowBlock).handOffPartialTail requestId cowBlock
  return (pool.addRef sourceBlock 1, manager.addCachedThisStep (pool.index.blockHash cowBlock))

def appendAligned (requestId : RequestId) (newBlocks : List BlockRef) : SingleTypeKVCacheManager H :=
  { manager.setBlocks requestId (manager.blocksOf requestId ++ newBlocks) with
    allocatedBlockReqs := update manager.allocatedBlockReqs requestId true
    partialHitReqs := update manager.partialHitReqs requestId none }

def placeAligned (manager : SingleTypeKVCacheManager H)
    (requestId : RequestId) (prevBlockLen : Nat) (newBlocks : List BlockRef) :
    Except PyError (List BlockRef × BlockPool H × SingleTypeKVCacheManager H) :=
  let returnedBlocks := (manager.blocksOf requestId).drop prevBlockLen
  match manager.partialHitReqs requestId with
  | none => .ok (returnedBlocks ++ newBlocks, pool, manager.appendAligned requestId newBlocks)
  | some (blockIdx, sourceBlock) => do
    let cowBlock ← pyGet newBlocks 0
    let newBlocks := newBlocks.drop 1
    if manager.allocatedBlockReqs requestId then
      let (pool, manager) ← manager.moveToCow pool requestId blockIdx sourceBlock cowBlock
      return (returnedBlocks ++ newBlocks, pool, manager.appendAligned requestId newBlocks)
    else
      let (pool, manager) ← manager.applyCow pool requestId blockIdx sourceBlock cowBlock
      return ([cowBlock] ++ returnedBlocks ++ newBlocks, pool,
        manager.appendAligned requestId newBlocks)

def allocateNewBlocksAligned (manager : SingleTypeKVCacheManager H)
    (requestId : RequestId) (numTokensMainModel : Nat) :
    Except PyError (List BlockRef × BlockPool H × SingleTypeKVCacheManager H) :=
  let prevBlockLen := (manager.blocksOf requestId).length
  let numRequiredBlocks := cdiv numTokensMainModel manager.blockSize + manager.numSpeculativeBlocks
  let hasPartialHit := (manager.partialHitReqs requestId).isSome
  let cowBlocks : Int := if hasPartialHit then 1 else 0
  if numRequiredBlocks ≤ prevBlockLen ∧ ¬hasPartialHit then .ok ([], pool, manager)
  else do
    let reqBlocks := manager.alignedTable requestId numRequiredBlocks
    let manager := (manager.recordLastStateBlock requestId).setBlocks requestId reqBlocks
    let numNewBlocks : Int := numRequiredBlocks - reqBlocks.length
    let numNewBlocks := if hasPartialHit then max numNewBlocks 0 + 1 else numNewBlocks
    pyAssert (numNewBlocks ≤ 1 + cowBlocks +
      if manager.allocatedBlockReqs requestId then 0 else manager.numSpeculativeBlocks)
    let (newBlocks, pool) ← pool.getNewBlocks numNewBlocks
    manager.placeAligned pool requestId prevBlockLen newBlocks

def allocateNewBlocks (manager : SingleTypeKVCacheManager H)
    (requestId : RequestId) (numTokens numTokensMainModel : Nat) :
    Except PyError (List BlockRef × BlockPool H × SingleTypeKVCacheManager H) :=
  match manager.kvCacheSpec.kind with
  | .mamba .align _ => manager.allocateNewBlocksAligned pool requestId numTokensMainModel
  | .mamba _ numSpeculativeBlocks =>
    manager.allocateNewBlocksBase pool requestId
      (numTokens + manager.blockSize * numSpeculativeBlocks)
  | _ => manager.allocateNewBlocksBase pool requestId numTokens

end VllmEngine.SingleTypeKVCacheManager

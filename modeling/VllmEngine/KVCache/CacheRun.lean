import VllmEngine.KVCache.KVCacheManager

set_option autoImplicit false

namespace VllmEngine

-- With the blocks the scheduler has popped and still has to give back, its `deferred_frees`.
structure CacheState (H : Type) where
  manager : KVCacheManager H
  deferredFrees : List (List BlockRef)

inductive CacheOp (H : Type) where
  | getComputedBlocks (request : EngineRequest H)
  | allocateSlots (call : SlotsCall H)
  | cacheBlocks (request : EngineRequest H) (numComputedTokens : Nat)
  | removeSkippedBlocks (requestId : RequestId) (processedComputedTokens : Nat)
      (numPromptTokens : Option Nat)
  | free (requestId : RequestId)
  | popBlocksForFree (requestId : RequestId)
  | drainDeferredFree
  | takePartialTailOffloads
  | takeKvCacheBlockCopies (deferBlockFree : Bool)
  | evictBlocks (blockIds : List Nat)
  | resetPrefixCache
  | takeNewBlockIds
  | newStepStarts

namespace CacheState

variable {H : Type}

def freeBlocks (state : CacheState H) (blocks : List BlockRef) : Except PyError (CacheState H) := do
  let blockPool ← state.manager.blockPool.freeBlocks blocks
  return { state with
    manager :=
      { state.manager with
        blockPool } }

def popBlocksForFree (state : CacheState H) (requestId : RequestId) : CacheState H :=
  let (blocks, manager) := state.manager.popBlocksForFree requestId
  { manager
    deferredFrees :=
      if blocks = [] then state.deferredFrees else state.deferredFrees ++ [blocks] }

def drainDeferredFree (state : CacheState H) : Except PyError (CacheState H) :=
  match state.deferredFrees with
  | [] => .ok state
  | blocks :: rest => freeBlocks { state with deferredFrees := rest } blocks.reverse

-- The copies go to the worker, and `_free_cow_retained_blocks` gives their ends back, at once or
-- later.
def takeKvCacheBlockCopies (state : CacheState H) (deferBlockFree : Bool) :
    Except PyError (CacheState H) :=
  let (copies, retainedBlocks, manager) := state.manager.takeKvCacheBlockCopies
  if copies = [] then .ok { state with manager }
  else if deferBlockFree then
    .ok { manager, deferredFrees := state.deferredFrees ++ [retainedBlocks.reverse] }
  else freeBlocks { state with manager } retainedBlocks

variable [DecidableEq H]

def step (state : CacheState H) : CacheOp H → Except PyError (CacheState H)
  | .getComputedBlocks request => do
    let (_, manager) ← state.manager.getComputedBlocks request
    return { state with manager }
  | .allocateSlots call => do
    let (_, manager) ← state.manager.allocateSlots call
    return { state with manager }
  | .cacheBlocks request numComputedTokens => do
    let manager ← state.manager.cacheBlocks request numComputedTokens
    return { state with manager }
  | .removeSkippedBlocks requestId processedComputedTokens numPromptTokens => do
    let manager ← state.manager.removeSkippedBlocks requestId processedComputedTokens
      numPromptTokens
    return { state with manager }
  | .free requestId => do
    let manager ← state.manager.free requestId
    return { state with manager }
  | .popBlocksForFree requestId => .ok (state.popBlocksForFree requestId)
  | .drainDeferredFree => state.drainDeferredFree
  | .takePartialTailOffloads => do
    let (_, manager) ← state.manager.takePartialTailOffloads
    return { state with manager }
  | .takeKvCacheBlockCopies deferBlockFree => state.takeKvCacheBlockCopies deferBlockFree
  | .evictBlocks blockIds => do
    let manager ← state.manager.evictBlocks blockIds
    return { state with manager }
  | .resetPrefixCache => .ok { state with manager := state.manager.resetPrefixCache.2 }
  | .takeNewBlockIds => .ok { state with manager := state.manager.takeNewBlockIds.2 }
  | .newStepStarts => .ok { state with manager := state.manager.newStepStarts }

end CacheState

end VllmEngine

import VllmEngine.KVCache.FreeQueue
import VllmEngine.KVCache.PrefixIndex
import VllmEngine.Shared.Outcome

set_option autoImplicit false

namespace VllmEngine

structure BlockPool (H : Type) where
  config : PoolConfig H
  refCnt : BlockRef → Int
  freeBlockQueue : FreeKVCacheBlockQueue
  index : PrefixIndex H

namespace BlockPool

variable {H : Type}

def poolBlocks (numGpuBlocks : Nat) : List BlockRef := (List.range numGpuBlocks).map .block

def create (config : PoolConfig H) : Except PyError (BlockPool H) := do
  pyAssert (config.numGpuBlocks > 0)
  -- the popped block is `null_block`
  let (_, queue) ← (FreeKVCacheBlockQueue.create (poolBlocks config.numGpuBlocks)).popleft
  return { config, refCnt := fun _ => 0, freeBlockQueue := queue, index := .empty }

def getNumFreeBlocks (pool : BlockPool H) : Int := pool.freeBlockQueue.numFreeBlocks

def addRef (pool : BlockPool H) (block : BlockRef) (change : Int) : BlockPool H :=
  { pool with refCnt := Function.update pool.refCnt block (pool.refCnt block + change) }

def touch (pool : BlockPool H) : List BlockRef → Except PyError (BlockPool H)
  | [] => .ok pool
  | block :: rest => do
    let queue ←
      if pool.refCnt block = 0 ∧ ¬block.isNull then pool.freeBlockQueue.remove block
      else pure pool.freeBlockQueue
    touch { pool.addRef block 1 with freeBlockQueue := queue } rest

def releaseRefs (pool : BlockPool H) :
    List BlockRef → List BlockRef × List BlockRef × BlockPool H
  | [] => ([], [], pool)
  | block :: rest =>
    let released := pool.addRef block (-1)
    let (withoutHash, withHash, after) := releaseRefs released rest
    if released.refCnt block = 0 ∧ ¬block.isNull then
      if (released.index.blockHash block).isNone ∧ released.config.enableCaching then
        (block :: withoutHash, withHash, after)
      else (withoutHash, block :: withHash, after)
    else (withoutHash, withHash, after)

def freeBlocks (pool : BlockPool H) (orderedBlocks : List BlockRef) :
    Except PyError (BlockPool H) := do
  let (withoutHash, withHash, pool) := pool.releaseRefs orderedBlocks
  let queue ← pool.freeBlockQueue.prependN withoutHash
  let queue ← queue.appendN withHash
  return { pool with freeBlockQueue := queue }

def resetPrefixCache (pool : BlockPool H) : Bool × BlockPool H :=
  let numUsedBlocks := (pool.config.numGpuBlocks : Int) - pool.getNumFreeBlocks
  -- the null block is always marked as used
  if numUsedBlocks ≠ 1 then (false, pool)
  else
    let blocks := poolBlocks pool.config.numGpuBlocks
    let index := blocks.foldl PrefixIndex.resetHash
      { pool.index with
        cachedBlockHashToBlock := .empty
        cachedBlockHashesByBlock := fun _ => none }
    (true, { pool with
      index := if pool.config.enableKvCacheEvents then index.emit .allBlocksCleared else index })

variable [DecidableEq H]

def claimBlocks (pool : BlockPool H) : List BlockRef → Except PyError (BlockPool H)
  | [] => .ok pool
  | block :: rest => do
    let index :=
      if pool.config.enableCaching then pool.index.maybeEvictCachedBlock pool.config block
      else pool.index
    pyAssert (pool.refCnt block = 0)
    claimBlocks { pool.addRef block 1 with index } rest

def getNewBlocks (pool : BlockPool H) (numBlocks : Int) :
    Except PyError (List BlockRef × BlockPool H) := do
  if numBlocks > pool.getNumFreeBlocks then
    throw (.valueError s!"Cannot get {numBlocks} free blocks from the pool")
  let (blocks, queue) ← pool.freeBlockQueue.popleftN numBlocks
  let pool ← claimBlocks { pool with freeBlockQueue := queue } blocks
  return (blocks, pool)

def evictBlocks (pool : BlockPool H) : List Nat → Except PyError (BlockPool H)
  | [] => .ok pool
  | blockId :: rest => do
    pyAssert (blockId < pool.config.numGpuBlocks)
    evictBlocks
      { pool with index := pool.index.maybeEvictCachedBlock pool.config (.block blockId) } rest

def cacheFullBlocks (pool : BlockPool H) (request : Request H) (blocks : List BlockRef)
    (numCachedBlocks numFullBlocks blockSize kvCacheGroupId : Nat)
    (blockMask : Option (List Bool)) : Except PyError (BlockPool H) := do
  let index ← pool.index.cacheFullBlocks pool.config request blocks numCachedBlocks numFullBlocks
    blockSize kvCacheGroupId blockMask
  return { pool with index }

def cachePartialBlock (pool : BlockPool H) (request : Request H) (block : BlockRef)
    (numTokens kvCacheGroupId blockSize : Nat) :
    Except PyError (Option (BlockHashWithGroupId H) × BlockPool H) := do
  let (key, index) ← pool.index.cachePartialBlock pool.config request block numTokens
    kvCacheGroupId blockSize
  return (key, { pool with index })

def moveBlockHashes (pool : BlockPool H) (srcBlock dstBlock : BlockRef) :
    Except PyError (BlockPool H) := do
  let index ← pool.index.moveBlockHashes srcBlock dstBlock
  return { pool with index }

def emitCachedBlockEvents (pool : BlockPool H) (request : Request H)
    (numCachedBlocks blockSize kvCacheGroupId : Nat) : Except PyError (BlockPool H) := do
  if ¬pool.config.enableKvCacheEvents ∨ numCachedBlocks = 0 then
    return pool
  let blockHashes ← resolveBlockHashes request.blockHashes pool.config.hashBlockSize blockSize
  let cachedHashes ← (List.range numCachedBlocks).mapM (pyGet blockHashes)
  let (extraKeysList, _) := (List.range numCachedBlocks).foldl (fun (keys, currMmIdx) i =>
      let (extraKeys, currMmIdx) := generateBlockHashExtraKeys pool.config.hasher request
        (i * blockSize) (i * blockSize + blockSize) currMmIdx
      (keys ++ [extraKeys], currMmIdx)) (([] : List (Option (List ExtraKey))), (0 : Int))
  return { pool with
    index := pool.index.emit (PrefixIndex.buildBlockStoredEvent request cachedHashes none 0
      (numCachedBlocks * blockSize) blockSize kvCacheGroupId extraKeysList) }

omit [DecidableEq H] in
theorem mem_poolBlocks {numGpuBlocks : Nat} {block : BlockRef} :
    block ∈ poolBlocks numGpuBlocks ↔ ∃ blockId < numGpuBlocks, block = .block blockId := by
  simp [poolBlocks, eq_comm]

omit [DecidableEq H] in
theorem create_spec {config : PoolConfig H} {pool : BlockPool H}
    (created : create config = .ok pool) :
    pool.config = config ∧ (∀ block, pool.refCnt block = 0) ∧ pool.index = .empty ∧
      pool.freeBlockQueue.Represents (poolBlocks config.numGpuBlocks).tail ∧
      0 < config.numGpuBlocks := by
  simp only [create, Outcome.bind_eq_ok, pyAssert_eq_ok, decide_eq_true_eq,
    Outcome.pure_eq_ok] at created
  obtain ⟨_, positive, ⟨_, _⟩, pop, rfl⟩ := created
  refine ⟨rfl, fun _ => rfl, rfl, ?_, positive⟩
  have nodup : (BlockRef.fakeFreeListHead ::
      (poolBlocks config.numGpuBlocks ++ [.fakeFreeListTail])).Nodup := by
    simp [poolBlocks, List.nodup_append, List.nodup_range.map_on]
  have represents := FreeKVCacheBlockQueue.represents_create nodup
  obtain ⟨first, rest, shape⟩ : ∃ first rest, poolBlocks config.numGpuBlocks = first :: rest := by
    apply List.exists_cons_of_ne_nil
    simp [poolBlocks]
    omega
  rw [shape] at represents pop
  obtain ⟨_, run, kept⟩ := FreeKVCacheBlockQueue.popleft_represents represents
  rw [run] at pop
  cases pop
  rw [shape]
  exact kept

end BlockPool

end VllmEngine

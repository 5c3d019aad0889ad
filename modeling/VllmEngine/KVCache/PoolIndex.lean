import VllmEngine.KVCache.BlockPool
import VllmEngine.KVCache.IndexCoherence
import VllmEngine.Shared.Run

set_option autoImplicit false

namespace VllmEngine

open DoublyLinked Outcome PrefixIndex List

namespace FreeKVCacheBlockQueue

def NullUnlinked (links : Links BlockRef) : Prop := ∀ block, links.next block ≠ some .nullBlock

variable {links : Links BlockRef} {popped : List BlockRef} {queue after : FreeKVCacheBlockQueue}
  {blocks : List BlockRef}

section

variable (unlinked : NullUnlinked links)

include unlinked

theorem nullUnlinked_link
    (left : BlockRef) {right : BlockRef} (real : right ≠ .nullBlock) :
    NullUnlinked (links.link left right) := by
  intro block
  rw [Links.link_next]
  split
  · simpa using real
  · exact unlinked block

theorem nullUnlinked_unlink
    (removed : BlockRef) : NullUnlinked (links.unlink removed) := by
  intro block
  rw [Links.unlink_next]
  split
  · simp
  · exact unlinked block

theorem nullUnlinked_linkAll
    {nodes : List BlockRef} (real : .nullBlock ∉ nodes.tail) :
    NullUnlinked (links.linkAll nodes) := by
  intro block found
  rcases Links.linkAll_next_cases links nodes found with inside | before
  · exact real inside
  · exact unlinked block before

end

theorem popBlocks_nullUnlinked {links after : Links BlockRef} {count : Nat}
    {start stop : Option BlockRef} (unlinked : NullUnlinked links)
    (real : start ≠ some .nullBlock) (run : popBlocks count start links = .ok (popped, stop, after)) :
    .nullBlock ∉ popped ∧ stop ≠ some .nullBlock ∧ NullUnlinked after := by
  induction count generalizing links start popped with
  | zero =>
    cases run
    exact ⟨not_mem_nil, real, unlinked⟩
  | succ count ih =>
    cases start with
    | none => cases run
    | some first =>
      simp only [popBlocks, bind_eq_ok] at run
      obtain ⟨⟨_, _, _⟩, tail, result⟩ := run
      cases result
      obtain ⟨realOthers, realStop, unlinked'⟩ :=
        ih (nullUnlinked_unlink unlinked first) (unlinked first) tail
      refine ⟨?_, realStop, unlinked'⟩
      simp only [mem_cons, not_or]
      exact ⟨fun same => real (by rw [same]), realOthers⟩

section

variable (unlinked : NullUnlinked queue.links)

include unlinked

theorem popleftN_nullUnlinked {n : Int} (run : queue.popleftN n = .ok (popped, after)) :
    .nullBlock ∉ popped ∧ NullUnlinked after.links := by
  unfold popleftN at run
  split at run
  · cases run
    exact ⟨not_mem_nil, unlinked⟩
  simp only [bind_eq_ok] at run
  obtain ⟨_, _, ⟨_, current, links⟩, loop, result⟩ := run
  obtain ⟨realTaken, realCurrent, unlinked'⟩ :=
    popBlocks_nullUnlinked unlinked (unlinked .fakeFreeListHead) loop
  cases result
  refine ⟨realTaken, ?_⟩
  cases current with
  | none => exact unlinked'
  | some block => exact nullUnlinked_link unlinked' _ (by simpa using realCurrent)

theorem remove_nullUnlinked {block : BlockRef} (run : queue.remove block = .ok after) :
    NullUnlinked after.links := by
  unfold remove at run
  split at run
  · rename_i before next _ found
    cases run
    apply nullUnlinked_unlink
    apply nullUnlinked_link unlinked
    rintro rfl
    exact unlinked block found
  · cases run

theorem prependN_nullUnlinked (real : .nullBlock ∉ blocks) (run : queue.prependN blocks = .ok after) :
    NullUnlinked after.links := by
  unfold prependN at run
  split at run
  · cases run
    exact unlinked
  split at run
  · cases run
  · rename_i first found
    cases run
    apply nullUnlinked_linkAll unlinked
    have notFirst : first ≠ .nullBlock := by
      rintro rfl
      exact unlinked .fakeFreeListHead found
    simp [real, notFirst.symm]

theorem appendN_nullUnlinked (real : .nullBlock ∉ blocks) (run : queue.appendN blocks = .ok after) :
    NullUnlinked after.links := by
  unfold appendN at run
  split at run
  · cases run
    exact unlinked
  split at run
  · cases run
  · cases run
    apply nullUnlinked_linkAll unlinked
    simp [real]

end

end FreeKVCacheBlockQueue

namespace BlockPool

open FreeKVCacheBlockQueue

variable {H : Type} [DecidableEq H]

def Owns (config : PoolConfig H) (block : BlockRef) : Prop :=
  block ∈ poolBlocks config.numGpuBlocks

structure IndexKept (pool : BlockPool H) : Prop where
  coherent : pool.index.Coherent (Owns pool.config)
  nullUnlinked : NullUnlinked pool.freeBlockQueue.links
  uncached : pool.config.enableCaching = false → ∀ block, pool.index.blockHash block = none

variable {pool after : BlockPool H} {blocks : List BlockRef}

omit [DecidableEq H] in
theorem IndexKept.congr (kept : pool.IndexKept) (index : after.index = pool.index)
    (config : after.config = pool.config) (nullUnlinked : NullUnlinked after.freeBlockQueue.links) :
    after.IndexKept := by
  refine ⟨?_, nullUnlinked, ?_⟩
  · rw [index, config]
    exact kept.coherent
  · rw [index, config]
    exact kept.uncached

omit [DecidableEq H] in
theorem IndexKept.uncached_contain (kept : pool.IndexKept)
    (off : pool.config.enableCaching = false) (key : BlockHashWithGroupId H) (block : BlockRef) :
    pool.index.cachedBlockHashToBlock.contain key block = false := by
  by_contra contained
  have carries := kept.coherent.carried key block (by simpa using contained)
  have noHash := kept.uncached off block
  simp [PrefixIndex.Carries, noHash, kept.coherent.primary block noHash] at carries

omit [DecidableEq H] in
theorem create_indexKept {config : PoolConfig H} (created : create config = .ok pool) :
    pool.IndexKept := by
  obtain ⟨_, _, index, represents, _⟩ := create_spec created
  refine ⟨?_, ?_, ?_⟩
  · rw [index]
    exact coherent_empty
  · intro block found
    have member := represents.next_mem found
    have nodup : (poolBlocks config.numGpuBlocks).Nodup :=
      nodup_range.map fun _ _ same => by simpa using same
    cases shape : config.numGpuBlocks with
    | zero => simp [poolBlocks, shape] at member
    | succ count =>
      rw [shape, poolBlocks, range_succ_eq_map] at member
      simp [BlockRef.nullBlock] at member
  · rw [index]
    intro _ block
    rfl

omit [DecidableEq H] in
theorem touch_indexKept (kept : pool.IndexKept) (touched : pool.touch blocks = .ok after) :
    after.config = pool.config ∧ after.index = pool.index ∧ after.IndexKept := by
  induction blocks generalizing pool with
  | nil =>
    cases touched
    exact ⟨rfl, rfl, kept⟩
  | cons block rest ih =>
    unfold touch at touched
    split at touched
    · obtain ⟨queue, removed, tail⟩ := bind_eq_ok.mp touched
      have stepKept : IndexKept { pool.addRef block 1 with freeBlockQueue := queue } :=
        kept.congr rfl rfl (remove_nullUnlinked kept.nullUnlinked removed)
      have rest := ih stepKept tail
      exact rest
    · simp only [pure_bind] at touched
      have stepKept : IndexKept { pool.addRef block 1 with
          freeBlockQueue := pool.freeBlockQueue } := kept.congr rfl rfl kept.nullUnlinked
      have rest := ih stepKept touched
      exact rest

omit [DecidableEq H] in
theorem releaseRefs_keeps (pool : BlockPool H) (blocks : List BlockRef) :
    .nullBlock ∉ (pool.releaseRefs blocks).1 ∧ .nullBlock ∉ (pool.releaseRefs blocks).2.1 ∧
      (pool.releaseRefs blocks).2.2.config = pool.config ∧
      (pool.releaseRefs blocks).2.2.index = pool.index ∧
      (pool.releaseRefs blocks).2.2.freeBlockQueue = pool.freeBlockQueue := by
  induction blocks generalizing pool with
  | nil => simp [releaseRefs]
  | cons block rest ih =>
    obtain ⟨_, _, config, index, _⟩ := ih (pool.addRef block (-1))
    simp only [releaseRefs]
    split
    · rename_i freed
      have real : block ≠ .nullBlock := by simpa using freed.2
      split <;> simp_all [addRef, real.symm]
    · simp_all [addRef]

omit [DecidableEq H] in
theorem freeBlocks_indexKept (kept : pool.IndexKept) (freed : pool.freeBlocks blocks = .ok after) :
    after.config = pool.config ∧ after.index = pool.index ∧ after.IndexKept := by
  obtain ⟨realWithout, realWith, config, index, queue⟩ := releaseRefs_keeps pool blocks
  simp only [freeBlocks, bind_eq_ok, pure_eq_ok] at freed
  obtain ⟨_, prepended, _, appended, rfl⟩ := freed
  refine ⟨config, index, kept.congr index config ?_⟩
  apply appendN_nullUnlinked _ realWith appended
  apply prependN_nullUnlinked _ realWithout prepended
  rw [queue]
  exact kept.nullUnlinked

theorem claimBlocks_indexKept (kept : pool.IndexKept)
    (claimed : pool.claimBlocks blocks = .ok after) :
    after.config = pool.config ∧ after.IndexKept ∧
      (∀ key block, after.index.cachedBlockHashToBlock.contain key block = true →
        pool.index.cachedBlockHashToBlock.contain key block = true ∧ block ∉ blocks) := by
  induction blocks generalizing pool with
  | nil =>
    cases claimed
    exact ⟨rfl, kept, by simp⟩
  | cons first rest ih =>
    simp only [claimBlocks, bind_eq_ok] at claimed
    obtain ⟨_, _, tail⟩ := claimed
    cases caching : pool.config.enableCaching with
    | false =>
      simp only [caching] at tail
      have stepKept : IndexKept { pool.addRef first 1 with index := pool.index } :=
        kept.congr rfl rfl kept.nullUnlinked
      obtain ⟨config, keptAfter, only⟩ := ih stepKept tail
      refine ⟨config, keptAfter, ?_⟩
      intro key block contained
      have before := (only key block contained).1
      rw [kept.uncached_contain caching] at before
      cases before
    | true =>
      simp only [caching] at tail
      have forgets :=
        maybeEvictCachedBlock_forgets pool.config kept.coherent first
      have stepKept : IndexKept { pool.addRef first 1 with
          index := pool.index.maybeEvictCachedBlock pool.config first } := by
        refine ⟨forgets.coherent kept.coherent, kept.nullUnlinked, ?_⟩
        intro off
        simp [addRef, caching] at off
      obtain ⟨config, keptAfter, only⟩ := ih stepKept tail
      refine ⟨config, keptAfter, ?_⟩
      intro key block contained
      obtain ⟨before, outside⟩ := only key block contained
      rw [forgets.map, Bool.and_eq_true, decide_eq_true_eq] at before
      exact ⟨before.1, by simp [before.2, outside]⟩

theorem getNewBlocks_indexKept {n : Int} (kept : pool.IndexKept)
    (got : pool.getNewBlocks n = .ok (blocks, after)) :
    after.config = pool.config ∧ after.IndexKept ∧ .nullBlock ∉ blocks ∧
      (∀ key block, after.index.cachedBlockHashToBlock.contain key block = true →
        pool.index.cachedBlockHashToBlock.contain key block = true ∧ block ∉ blocks) := by
  unfold getNewBlocks at got
  split at got
  · simp at got
  simp only [bind_eq_ok] at got
  obtain ⟨⟨_, queue⟩, pop, _, claim, rfl, rfl⟩ := got
  obtain ⟨real, unlinked⟩ := popleftN_nullUnlinked kept.nullUnlinked pop
  have stepKept : IndexKept { pool with freeBlockQueue := queue } := kept.congr rfl rfl unlinked
  obtain ⟨config, keptAfter, only⟩ := claimBlocks_indexKept stepKept claim
  exact ⟨config, keptAfter, real, only⟩

theorem evictBlocks_indexKept {blockIds : List Nat} (kept : pool.IndexKept)
    (evicted : pool.evictBlocks blockIds = .ok after) :
    after.config = pool.config ∧ after.IndexKept := by
  induction blockIds generalizing pool with
  | nil =>
    cases evicted
    exact ⟨rfl, kept⟩
  | cons blockId rest ih =>
    simp only [evictBlocks, bind_eq_ok] at evicted
    obtain ⟨_, _, tail⟩ := evicted
    have forgets :=
      maybeEvictCachedBlock_forgets pool.config kept.coherent (.block blockId)
    have stepKept : IndexKept { pool with
        index := pool.index.maybeEvictCachedBlock pool.config (.block blockId) } := by
      refine ⟨forgets.coherent kept.coherent, kept.nullUnlinked, ?_⟩
      intro off block
      simp [forgets.hash, Function.update_apply, kept.uncached off block]
    have rest := ih stepKept tail
    exact rest

omit [DecidableEq H] in
theorem resetHash_foldl (blocks : List BlockRef) (index : PrefixIndex H) :
    (∀ block, (blocks.foldl resetHash index).blockHash block =
      if block ∈ blocks then none else index.blockHash block) ∧
    (∀ block, (blocks.foldl resetHash index).blockHashNumTokens block =
      if block ∈ blocks then none else index.blockHashNumTokens block) ∧
    (blocks.foldl resetHash index).cachedBlockHashToBlock = index.cachedBlockHashToBlock ∧
    (blocks.foldl resetHash index).cachedBlockHashesByBlock =
      index.cachedBlockHashesByBlock := by
  induction blocks generalizing index with
  | nil => simp
  | cons first rest ih =>
    obtain ⟨hash, tokens, map, byBlock⟩ := ih (index.resetHash first)
    simp only [foldl_cons]
    refine ⟨?_, ?_, ?_, ?_⟩
    · intro block
      rw [hash]
      by_cases same : block = first <;> simp [resetHash, same]
    · intro block
      rw [tokens]
      by_cases same : block = first <;> simp [resetHash, same]
    · rw [map]
      rfl
    · rw [byBlock]
      rfl

omit [DecidableEq H] in
theorem resetPrefixCache_indexKept (kept : pool.IndexKept) :
    pool.resetPrefixCache.2.config = pool.config ∧ pool.resetPrefixCache.2.IndexKept := by
  unfold resetPrefixCache
  dsimp only
  split
  · exact ⟨rfl, kept⟩
  refine ⟨rfl, ?_⟩
  obtain ⟨hash, tokens, map, byBlock⟩ := resetHash_foldl (poolBlocks pool.config.numGpuBlocks)
    { pool.index with cachedBlockHashToBlock := .empty, cachedBlockHashesByBlock := fun _ => none }
  set index := (poolBlocks pool.config.numGpuBlocks).foldl resetHash
    { pool.index with cachedBlockHashToBlock := .empty, cachedBlockHashesByBlock := fun _ => none }
  have stillNone (block : BlockRef) (none : pool.index.blockHash block = .none) :
      index.blockHash block = .none := by
    simp [hash, none]
  have coherent : index.Coherent (Owns pool.config) := by
    refine ⟨?_, ?_, ?_, ?_, ?_, ?_⟩
    · simp [map]
    · intro block member key carries
      simp [PrefixIndex.Carries, hash, byBlock, show block ∈ poolBlocks _ from member] at carries
    · simp [byBlock]
    · intro block noHash
      rw [tokens]
      split
      · rfl
      · rename_i outside
        rw [hash, if_neg outside] at noHash
        exact kept.coherent.counted block noHash
    · rw [map]
      simp [BlockHashToBlockMap.NoEmptyDict, BlockHashToBlockMap.empty]
    · exact stillNone _ kept.coherent.nullFree
  refine ⟨?_, kept.nullUnlinked, ?_⟩
  · dsimp only
    split
    · exact coherent_congr coherent rfl rfl rfl rfl
    · exact coherent
  · intro off block
    dsimp only
    split
    · exact stillNone block (kept.uncached off block)
    · exact stillNone block (kept.uncached off block)

end BlockPool

inductive PoolOp (H : Type) where
  | getNewBlocks (numBlocks : Int)
  | touch (blocks : List BlockRef)
  | freeBlocks (orderedBlocks : List BlockRef)
  | cacheFullBlocks (request : Request H) (blocks : List BlockRef)
      (numCachedBlocks numFullBlocks blockSize kvCacheGroupId : Nat)
      (blockMask : Option (List Bool))
  | cachePartialBlock (request : Request H) (block : BlockRef)
      (numTokens kvCacheGroupId blockSize : Nat)
  | moveBlockHashes (srcBlock dstBlock : BlockRef)
  | evictBlocks (blockIds : List Nat)
  | resetPrefixCache

-- With the blocks `get_new_blocks` ever returned, and the pairs whose block it returned after the
-- pair was last inserted.
structure TracedPool (H : Type) where
  pool : BlockPool H
  returned : BlockRef → Bool
  reallocated : BlockHashWithGroupId H → BlockRef → Bool

namespace TracedPool

variable {H : Type} [DecidableEq H]

def start (pool : BlockPool H) : TracedPool H :=
  { pool, returned := fun _ => false, reallocated := fun _ _ => false }

def record (traced : TracedPool H) (after : BlockPool H) (blocks : List BlockRef) :
    TracedPool H :=
  { pool := after
    returned := fun block => traced.returned block || blocks.contains block
    reallocated := fun key block =>
      if after.index.cachedBlockHashToBlock.contain key block &&
          !traced.pool.index.cachedBlockHashToBlock.contain key block then false
      else traced.reallocated key block || blocks.contains block }

def step (traced : TracedPool H) : PoolOp H → Except PyError (TracedPool H)
  | .getNewBlocks numBlocks => do
    let (blocks, after) ← traced.pool.getNewBlocks numBlocks
    return traced.record after blocks
  | .touch blocks => do
    let after ← traced.pool.touch blocks
    return traced.record after []
  | .freeBlocks orderedBlocks => do
    let after ← traced.pool.freeBlocks orderedBlocks
    return traced.record after []
  | .cacheFullBlocks request blocks numCachedBlocks numFullBlocks blockSize groupId blockMask => do
    let after ← traced.pool.cacheFullBlocks request blocks numCachedBlocks numFullBlocks blockSize
      groupId blockMask
    return traced.record after []
  | .cachePartialBlock request block numTokens groupId blockSize => do
    let (_, after) ← traced.pool.cachePartialBlock request block numTokens groupId blockSize
    return traced.record after []
  | .moveBlockHashes srcBlock dstBlock => do
    let after ← traced.pool.moveBlockHashes srcBlock dstBlock
    return traced.record after []
  | .evictBlocks blockIds => do
    let after ← traced.pool.evictBlocks blockIds
    return traced.record after []
  | .resetPrefixCache => return traced.record traced.pool.resetPrefixCache.2 []

def AsManagersPass (traced : TracedPool H) : PoolOp H → Prop
  | .cacheFullBlocks .. | .cachePartialBlock .. => traced.pool.config.enableCaching = true
  | .moveBlockHashes _ dstBlock => traced.returned dstBlock = true
  | _ => True

structure IndexSound (traced : TracedPool H) : Prop where
  coherent : ∀ key, ∀ blockId < traced.pool.config.numGpuBlocks,
    traced.pool.index.cachedBlockHashToBlock.contain key (.block blockId) = true ↔
      traced.pool.index.blockHash (.block blockId) = some key ∨
        key ∈ (traced.pool.index.cachedBlockHashesByBlock (.block blockId)).getD []
  carried : ∀ key block, traced.pool.index.cachedBlockHashToBlock.contain key block = true →
    traced.pool.index.blockHash block = some key ∨
      key ∈ (traced.pool.index.cachedBlockHashesByBlock block).getD []
  primary : ∀ block, (traced.pool.index.cachedBlockHashesByBlock block).isSome →
    (traced.pool.index.blockHash block).isSome
  noEmptyDict : traced.pool.index.cachedBlockHashToBlock.NoEmptyDict
  nullFree : ∀ key, traced.pool.index.cachedBlockHashToBlock.contain key .nullBlock = false
  fresh : ∀ key block, traced.pool.index.cachedBlockHashToBlock.contain key block = true →
    traced.reallocated key block = false
  lookups : ∀ blockHash groupIds blocks,
    traced.pool.index.getCachedBlock blockHash groupIds = some blocks →
      List.Forall₂ (fun groupId block =>
        traced.pool.index.cachedBlockHashToBlock.contain ⟨blockHash, groupId⟩ block = true ∧
          traced.reallocated ⟨blockHash, groupId⟩ block = false) groupIds blocks

structure Kept (traced : TracedPool H) : Prop where
  index : traced.pool.IndexKept
  returned : ∀ block, traced.returned block = true → block ≠ .nullBlock
  fresh : ∀ key block, traced.pool.index.cachedBlockHashToBlock.contain key block = true →
    traced.reallocated key block = false

variable {traced after : TracedPool H}

omit [DecidableEq H] in
theorem record_kept {pool : BlockPool H} {blocks : List BlockRef} (kept : traced.Kept)
    (index : pool.IndexKept) (real : .nullBlock ∉ blocks)
    (evicted : ∀ key block, pool.index.cachedBlockHashToBlock.contain key block = true →
      block ∉ blocks) : (traced.record pool blocks).Kept := by
  refine ⟨index, ?_, ?_⟩
  · intro block returned
    simp only [record, Bool.or_eq_true, contains_iff_mem] at returned
    rcases returned with before | now
    · exact kept.returned block before
    · rintro rfl
      exact real now
  · intro key block contained
    have contained' : pool.index.cachedBlockHashToBlock.contain key block = true := contained
    cases before : traced.pool.index.cachedBlockHashToBlock.contain key block with
    | false => simp [record, contained', before]
    | true => simp [record, before, kept.fresh key block before, evicted key block contained']

theorem step_kept {op : PoolOp H} (kept : traced.Kept) (passed : traced.AsManagersPass op)
    (taken : traced.step op = .ok after) : after.Kept := by
  have silent {pool : BlockPool H} (index : pool.IndexKept) : (traced.record pool []).Kept :=
    record_kept kept index not_mem_nil fun _ _ _ => not_mem_nil
  cases op with
  | getNewBlocks numBlocks =>
    simp only [step, bind_eq_ok, pure_eq_ok] at taken
    obtain ⟨⟨blocks, pool⟩, got, rfl⟩ := taken
    obtain ⟨_, index, real, only⟩ := BlockPool.getNewBlocks_indexKept kept.index got
    exact record_kept kept index real fun key block contained => (only key block contained).2
  | touch blocks =>
    simp only [step, bind_eq_ok, pure_eq_ok] at taken
    obtain ⟨pool, touched, rfl⟩ := taken
    exact silent (BlockPool.touch_indexKept kept.index touched).2.2
  | freeBlocks orderedBlocks =>
    simp only [step, bind_eq_ok, pure_eq_ok] at taken
    obtain ⟨pool, freed, rfl⟩ := taken
    exact silent (BlockPool.freeBlocks_indexKept kept.index freed).2.2
  | cacheFullBlocks request blocks numCachedBlocks numFullBlocks blockSize groupId blockMask =>
    simp only [step, BlockPool.cacheFullBlocks, bind_eq_ok, pure_eq_ok] at taken
    obtain ⟨_, ⟨index, cached, rfl⟩, rfl⟩ := taken
    have coherent := cacheFullBlocks_coherent kept.index.coherent cached
    exact silent ⟨coherent, kept.index.nullUnlinked, fun off => by simp_all [AsManagersPass]⟩
  | cachePartialBlock request block numTokens groupId blockSize =>
    simp only [step, BlockPool.cachePartialBlock, bind_eq_ok, pure_eq_ok] at taken
    obtain ⟨_, ⟨⟨key, index⟩, cached, rfl⟩, rfl⟩ := taken
    have coherent := cachePartialBlock_coherent kept.index.coherent cached
    exact silent ⟨coherent, kept.index.nullUnlinked, fun off => by simp_all [AsManagersPass]⟩
  | moveBlockHashes srcBlock dstBlock =>
    simp only [step, BlockPool.moveBlockHashes, bind_eq_ok, pure_eq_ok] at taken
    obtain ⟨_, ⟨index, moved, rfl⟩, rfl⟩ := taken
    have real := kept.returned dstBlock passed
    have coherent := moveBlockHashes_coherent kept.index.coherent real moved
    refine silent ⟨coherent, kept.index.nullUnlinked, fun off => ?_⟩
    exact moveBlockHashes_uncached kept.index.coherent (kept.index.uncached off) moved
  | evictBlocks blockIds =>
    simp only [step, bind_eq_ok, pure_eq_ok] at taken
    obtain ⟨pool, evicted, rfl⟩ := taken
    exact silent (BlockPool.evictBlocks_indexKept kept.index evicted).2
  | resetPrefixCache =>
    simp only [step, pure_eq_ok] at taken
    subst taken
    exact silent (BlockPool.resetPrefixCache_indexKept kept.index).2

omit [DecidableEq H] in
theorem Kept.indexSound (kept : traced.Kept) : traced.IndexSound := by
  have coherent := kept.index.coherent
  refine ⟨?_, coherent.carried, ?_, coherent.noEmptyDict, coherent.null_not_contained, kept.fresh, ?_⟩
  · intro key blockId within
    have owned : BlockPool.Owns traced.pool.config (.block blockId) :=
      BlockPool.mem_poolBlocks.mpr ⟨blockId, within, rfl⟩
    exact ⟨coherent.carried key _, coherent.registered _ owned key⟩
  · intro block secondary
    cases stored : traced.pool.index.blockHash block with
    | none => simp [coherent.primary block stored] at secondary
    | some key => rfl
  · intro blockHash groupIds blocks found
    apply (getCachedBlock_contain found).imp
    intro groupId block contained
    exact ⟨contained, kept.fresh _ block contained⟩

theorem prefix_index_sound {config : PoolConfig H} {pool : BlockPool H}
    (created : BlockPool.create config = .ok pool) {ops : List (PoolOp H)}
    (passed : Run.Meets step AsManagersPass (start pool) ops) :
    Run.Always step IndexSound (start pool) ops := by
  have initial : (start pool).Kept := by
    obtain ⟨_, _, index, _⟩ := BlockPool.create_spec created
    refine ⟨BlockPool.create_indexKept created, ?_, ?_⟩
    · simp [start]
    · simp [start]
  have kept := Run.always_of_meets
    (fun _ _ _ taken allowed now => step_kept now allowed taken) passed initial
  exact kept.imp fun traced => Kept.indexSound

def twoBlocks : PoolConfig Nat :=
  { numGpuBlocks := 2
    enableCaching := true
    hashBlockSize := 2
    enableKvCacheEvents := false
    hasher := { hashFunction := fun _ => 0, noneHash := 0, sha256 := id } }

def hashedPrompt : Request Nat :=
  { requestId := 0, promptTokenIds := some [5, 6], promptEmbeds := none, numPromptTokens := 2,
    outputTokenIds := [], allTokenIds := [5, 6], numComputedTokens := 0, cacheSalt := none,
    mmFeatures := [], loraRequest := none, blockHashes := [7] }

theorem prefix_index_sound_reallocated : ∃ pool, BlockPool.create twoBlocks = .ok pool ∧
    Run.Always step IndexSound (start pool)
      [.getNewBlocks 1, .cacheFullBlocks hashedPrompt [.block 1] 0 1 2 0 none,
        .freeBlocks [.block 1], .getNewBlocks 1] := by
  refine ⟨_, rfl, @prefix_index_sound _ _ twoBlocks _ rfl _
    ⟨fun _ _ => trivial, fun next got => ?_⟩⟩
  cases got
  refine ⟨fun _ _ => rfl, fun next cached => ⟨fun _ _ => trivial, fun next freed => ?_⟩⟩
  exact ⟨fun _ _ => trivial, fun _ _ => trivial⟩

end TracedPool

end VllmEngine

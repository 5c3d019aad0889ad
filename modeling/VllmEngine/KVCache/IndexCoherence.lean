import VllmEngine.KVCache.PrefixIndex
import VllmEngine.Shared.Outcome

set_option autoImplicit false

namespace VllmEngine.PrefixIndex

open Outcome Function BlockHashToBlockMap

variable {H : Type}

def Carries (index : PrefixIndex H) (block : BlockRef) (key : BlockHashWithGroupId H) : Prop :=
  index.blockHash block = some key ∨ key ∈ (index.cachedBlockHashesByBlock block).getD []

-- The blocks of `pool` are those a reset reaches; the free list's tail is not one of them.
structure Coherent (index : PrefixIndex H) (pool : BlockRef → Prop) : Prop where
  carried : ∀ key block, index.cachedBlockHashToBlock.contain key block = true →
    index.Carries block key
  registered : ∀ block, pool block → ∀ key, index.Carries block key →
    index.cachedBlockHashToBlock.contain key block = true
  primary : ∀ block, index.blockHash block = none → index.cachedBlockHashesByBlock block = none
  counted : ∀ block, index.blockHash block = none → index.blockHashNumTokens block = none
  noEmptyDict : index.cachedBlockHashToBlock.NoEmptyDict
  nullFree : index.blockHash .nullBlock = none

variable {pool : BlockRef → Prop} {index : PrefixIndex H}

variable {block : BlockRef} {after : PrefixIndex H} {key : BlockHashWithGroupId H}

theorem mem_blockHashesOf :
    key ∈ index.blockHashesOf block ↔ index.Carries block key := by
  simp [blockHashesOf, Carries]

theorem coherent_empty : (empty : PrefixIndex H).Coherent pool := by
  refine ⟨?_, ?_, ?_, ?_, ?_, rfl⟩
  · simp [empty]
  · simp [empty, Carries]
  · simp [empty]
  · simp [empty]
  · simp [empty, BlockHashToBlockMap.NoEmptyDict, BlockHashToBlockMap.empty]

theorem Coherent.null_not_contained (coherent : index.Coherent pool)
    (key : BlockHashWithGroupId H) :
    index.cachedBlockHashToBlock.contain key .nullBlock = false := by
  by_contra contained
  have carries := coherent.carried key .nullBlock (by simpa using contained)
  simp [Carries, coherent.nullFree, coherent.primary _ coherent.nullFree] at carries

theorem coherent_congr {other : PrefixIndex H} (coherent : index.Coherent pool)
    (hash : other.blockHash = index.blockHash)
    (tokens : other.blockHashNumTokens = index.blockHashNumTokens)
    (map : other.cachedBlockHashToBlock = index.cachedBlockHashToBlock)
    (byBlock : other.cachedBlockHashesByBlock = index.cachedBlockHashesByBlock) :
    other.Coherent pool := by
  obtain ⟨carried, registered, primary, counted, noEmptyDict, nullFree⟩ := coherent
  refine ⟨?_, ?_, ?_, ?_, ?_, ?_⟩
  · simpa only [Carries, hash, map, byBlock] using carried
  · simpa only [Carries, hash, map, byBlock] using registered
  · simpa only [hash, byBlock] using primary
  · simpa only [hash, tokens] using counted
  · simpa only [map] using noEmptyDict
  · simpa only [hash] using nullFree

variable [DecidableEq H]

theorem popHashes_contain (block : BlockRef) (keys : List (BlockHashWithGroupId H))
    (map : BlockHashToBlockMap H) (key : BlockHashWithGroupId H) (held : BlockRef) :
    (popHashes block keys map).2.contain key held =
      (map.contain key held && decide (¬(key ∈ keys ∧ held = block))) := by
  induction keys generalizing map with
  | nil => simp [popHashes]
  | cons first rest ih =>
    simp only [popHashes, ih, contain_pop]
    grind

theorem popHashes_noEmptyDict (block : BlockRef) (keys : List (BlockHashWithGroupId H))
    {map : BlockHashToBlockMap H} (kept : map.NoEmptyDict) :
    (popHashes block keys map).2.NoEmptyDict := by
  induction keys generalizing map with
  | nil => exact kept
  | cons first rest ih =>
    apply ih
    exact noEmptyDict_pop kept first block

structure Forgets (index after : PrefixIndex H) (block : BlockRef) : Prop where
  hash : after.blockHash = update index.blockHash block none
  tokens : after.blockHashNumTokens = update index.blockHashNumTokens block none
  byBlock : after.cachedBlockHashesByBlock = update index.cachedBlockHashesByBlock block none
  map : ∀ key held, after.cachedBlockHashToBlock.contain key held =
    (index.cachedBlockHashToBlock.contain key held && decide (held ≠ block))
  noEmptyDict : after.cachedBlockHashToBlock.NoEmptyDict

theorem removeCachedBlockHashes_forgets (coherent : index.Coherent pool) (block : BlockRef) :
    index.Forgets (index.removeCachedBlockHashes block).2 block := by
  have gone (key : BlockHashWithGroupId H) (held : BlockRef) :
      (index.cachedBlockHashToBlock.contain key held &&
        decide (¬(key ∈ index.blockHashesOf block ∧ held = block))) =
      (index.cachedBlockHashToBlock.contain key held && decide (held ≠ block)) := by
    cases contained : index.cachedBlockHashToBlock.contain key held with
    | false => rfl
    | true =>
      have carries := coherent.carried key held contained
      rw [← mem_blockHashesOf] at carries
      by_cases same : held = block
      · subst same
        simp [carries]
      · simp [same]
  by_cases none : index.blockHashesOf block = []
  · -- without a key there is nothing to reset
    have noHash : index.blockHash block = .none := by
      cases stored : index.blockHash block with
      | none => rfl
      | some key => simp [blockHashesOf, stored] at none
    refine ⟨?_, ?_, ?_, ?_, ?_⟩
    · simp only [removeCachedBlockHashes, none, if_true]
      rw [← noHash, update_eq_self]
    · simp only [removeCachedBlockHashes, none, if_true]
      rw [← coherent.counted block noHash, update_eq_self]
    · simp [removeCachedBlockHashes, none]
    · intro key held
      simpa [removeCachedBlockHashes, none] using gone key held
    · simpa [removeCachedBlockHashes, none] using coherent.noEmptyDict
  · refine ⟨?_, ?_, ?_, ?_, ?_⟩
    · simp [removeCachedBlockHashes, none, resetHash]
    · simp [removeCachedBlockHashes, none, resetHash]
    · simp [removeCachedBlockHashes, none, resetHash]
    · intro key held
      simpa [removeCachedBlockHashes, none, resetHash, popHashes_contain] using gone key held
    · simpa [removeCachedBlockHashes, none, resetHash] using
        popHashes_noEmptyDict block _ coherent.noEmptyDict

omit [DecidableEq H] in
theorem Forgets.carries (forgets : index.Forgets after block) (held : BlockRef)
    (key : BlockHashWithGroupId H) :
    after.Carries held key ↔ held ≠ block ∧ index.Carries held key := by
  by_cases same : held = block
  · simp [Carries, forgets.hash, forgets.byBlock, same]
  · simp [Carries, forgets.hash, forgets.byBlock, same]

omit [DecidableEq H] in
theorem Forgets.coherent (forgets : index.Forgets after block) (coherent : index.Coherent pool) :
    after.Coherent pool := by
  refine ⟨?_, ?_, ?_, ?_, forgets.noEmptyDict, ?_⟩
  · intro key held contained
    rw [forgets.map, Bool.and_eq_true, decide_eq_true_eq] at contained
    exact (forgets.carries held key).mpr ⟨contained.2, coherent.carried key held contained.1⟩
  · intro held member key carries
    obtain ⟨differs, before⟩ := (forgets.carries held key).mp carries
    simp [forgets.map, differs, coherent.registered held member key before]
  · intro held noHash
    by_cases same : held = block
    · simp [forgets.byBlock, same]
    · rw [forgets.hash, update_of_ne same] at noHash
      simp [forgets.byBlock, same, coherent.primary held noHash]
  · intro held noHash
    by_cases same : held = block
    · simp [forgets.tokens, same]
    · rw [forgets.hash, update_of_ne same] at noHash
      simp [forgets.tokens, same, coherent.counted held noHash]
  · simp [forgets.hash, update_apply, coherent.nullFree]

omit [DecidableEq H] in
theorem emitBlockRemovedEvents_keeps (config : PoolConfig H) (index : PrefixIndex H)
    (keys : List (BlockHashWithGroupId H)) :
    (index.emitBlockRemovedEvents config keys).blockHash = index.blockHash ∧
    (index.emitBlockRemovedEvents config keys).blockHashNumTokens = index.blockHashNumTokens ∧
    (index.emitBlockRemovedEvents config keys).cachedBlockHashToBlock =
      index.cachedBlockHashToBlock ∧
    (index.emitBlockRemovedEvents config keys).cachedBlockHashesByBlock =
      index.cachedBlockHashesByBlock := by
  unfold emitBlockRemovedEvents
  split
  · induction keys generalizing index with
    | nil => simp
    | cons key rest ih => simpa [emit] using ih (index.emit (.blockRemoved key.blockHash key.groupId))
  · simp

theorem maybeEvictCachedBlock_forgets (config : PoolConfig H) (coherent : index.Coherent pool)
    (block : BlockRef) : index.Forgets (index.maybeEvictCachedBlock config block) block := by
  obtain ⟨hash, tokens, byBlock, map, noEmptyDict⟩ := removeCachedBlockHashes_forgets coherent block
  obtain ⟨sameHash, sameTokens, sameMap, sameByBlock⟩ := emitBlockRemovedEvents_keeps config
    (index.removeCachedBlockHashes block).2 (index.removeCachedBlockHashes block).1
  refine ⟨?_, ?_, ?_, ?_, ?_⟩
  · exact sameHash.trans hash
  · exact sameTokens.trans tokens
  · exact sameByBlock.trans byBlock
  · intro key held
    rw [maybeEvictCachedBlock, sameMap, map]
  · rw [maybeEvictCachedBlock, sameMap]
    exact noEmptyDict

structure Registers (index after : PrefixIndex H) (key : BlockHashWithGroupId H)
    (block : BlockRef) : Prop where
  carries : ∀ held other, after.Carries held other ↔
    index.Carries held other ∨ held = block ∧ other = key
  map : ∀ other held, after.cachedBlockHashToBlock.contain other held =
    (index.cachedBlockHashToBlock.contain other held || decide (other = key ∧ held = block))
  noEmptyDict : index.cachedBlockHashToBlock.NoEmptyDict → after.cachedBlockHashToBlock.NoEmptyDict
  hash : ∀ held, after.blockHash held = none → held ≠ block ∧ index.blockHash held = none
  byBlock : ∀ held, held ≠ block →
    after.cachedBlockHashesByBlock held = index.cachedBlockHashesByBlock held
  tokens : ∀ held, held ≠ block → after.blockHashNumTokens held = index.blockHashNumTokens held
  others : ∀ held, held ≠ block → after.blockHash held = index.blockHash held

theorem insertBlockHash_cases {numTokens : Option Nat}
    (primary : index.blockHash block = none → index.cachedBlockHashesByBlock block = none)
    (inserted : index.insertBlockHash key block numTokens = .ok after) :
    after = index ∨ index.Registers after key block := by
  unfold insertBlockHash at inserted
  split at inserted
  · left
    exact (pure_eq_ok.mp inserted).symm
  split at inserted
  · left
    exact (pure_eq_ok.mp inserted).symm
  right
  cases stored : index.blockHash block with
  | none =>
    simp only [stored, Option.isNone_none, if_true, setBlockHash, bind_eq_ok, pure_eq_ok] at inserted
    obtain ⟨middle, ⟨_, _, rfl⟩, rfl⟩ := inserted
    refine ⟨?_, ?_, ?_, ?_, ?_, ?_, ?_⟩
    · intro held other
      by_cases same : held = block
      · simp [Carries, same, stored, primary stored, eq_comm]
      · simp [Carries, same]
    · intro other held
      exact contain_insert _ key other block held
    · intro kept
      exact noEmptyDict_insert kept key block
    · intro held noHash
      by_cases same : held = block
      · simp [same] at noHash
      · exact ⟨same, by simpa [same] using noHash⟩
    · intro held _
      rfl
    · intro held differs
      exact update_of_ne differs _ _
    · intro held differs
      exact update_of_ne differs _ _
  | some old =>
    simp only [stored, pure_eq_ok] at inserted
    obtain ⟨middle, rfl, rfl⟩ := inserted
    refine ⟨?_, ?_, ?_, ?_, ?_, ?_, ?_⟩
    · intro held other
      by_cases same : held = block
      · simp [Carries, same]
        tauto
      · simp [Carries, same]
    · intro other held
      exact contain_insert _ key other block held
    · intro kept
      exact noEmptyDict_insert kept key block
    · intro held noHash
      have differs : held ≠ block := by
        rintro rfl
        simp [stored] at noHash
      exact ⟨differs, noHash⟩
    · intro held differs
      exact update_of_ne differs _ _
    · intro held _
      rfl
    · intro held _
      rfl

section

variable (coherent : index.Coherent pool) {numTokens : Option Nat} {srcBlock dstBlock : BlockRef}
  {blockMask : Option (List Bool)} {blocks : List BlockRef} {config : PoolConfig H}
  {request : Request H}

include coherent

theorem insertBlockHash_coherent
    (real : block ≠ .nullBlock) (inserted : index.insertBlockHash key block numTokens = .ok after) :
    after.Coherent pool := by
  rcases insertBlockHash_cases (coherent.primary block) inserted with rfl | registers
  · exact coherent
  refine ⟨?_, ?_, ?_, ?_, registers.noEmptyDict coherent.noEmptyDict, ?_⟩
  · intro other held contained
    rw [registers.map, Bool.or_eq_true, decide_eq_true_eq] at contained
    rw [registers.carries]
    exact contained.imp (coherent.carried other held) And.symm
  · intro held member other carries
    rw [registers.map, Bool.or_eq_true, decide_eq_true_eq]
    rw [registers.carries] at carries
    exact carries.imp (coherent.registered held member other) And.symm
  · intro held noHash
    obtain ⟨differs, before⟩ := registers.hash held noHash
    rw [registers.byBlock held differs, coherent.primary held before]
  · intro held noHash
    obtain ⟨differs, before⟩ := registers.hash held noHash
    rw [registers.tokens held differs, coherent.counted held before]
  · rw [registers.others _ (Ne.symm real), coherent.nullFree]

theorem insertBlockHashes_coherent {keys : List (BlockHashWithGroupId H)}
    (real : block ≠ .nullBlock)
    (inserted : insertBlockHashes block numTokens keys index = .ok after) :
    after.Coherent pool := by
  induction keys generalizing index with
  | nil =>
    cases inserted
    exact coherent
  | cons key rest ih =>
    simp only [insertBlockHashes, bind_eq_ok] at inserted
    obtain ⟨_, first, others⟩ := inserted
    exact ih (insertBlockHash_coherent coherent real first) others

theorem moveBlockHashes_coherent (real : dstBlock ≠ .nullBlock)
    (moved : index.moveBlockHashes srcBlock dstBlock = .ok after) :
    after.Coherent pool := by
  simp only [moveBlockHashes, bind_eq_ok] at moved
  obtain ⟨_, _, _, _, inserted⟩ := moved
  have forgotten := (removeCachedBlockHashes_forgets coherent srcBlock).coherent coherent
  exact insertBlockHashes_coherent forgotten real inserted

theorem moveBlockHashes_uncached (uncached : ∀ block, index.blockHash block = none)
    (moved : index.moveBlockHashes srcBlock dstBlock = .ok after) :
    ∀ block, after.blockHash block = none := by
  have noKeys : index.blockHashesOf srcBlock = [] := by
    simp [blockHashesOf, uncached srcBlock, coherent.primary _ (uncached srcBlock)]
  simp only [moveBlockHashes, bind_eq_ok, removeCachedBlockHashes, noKeys] at moved
  obtain ⟨_, _, _, _, same⟩ := moved
  cases same
  exact uncached

theorem cacheFullBlocksFrom_coherent {newBlockHashes hashes : List H}
    {numCachedBlocks blockSize kvCacheGroupId i : Nat}
    (cached : cacheFullBlocksFrom config newBlockHashes numCachedBlocks blockSize kvCacheGroupId
      blockMask i blocks index = .ok (after, hashes)) : after.Coherent pool := by
  induction blocks generalizing i index hashes with
  | nil =>
    cases cached
    exact coherent
  | cons block rest ih =>
    unfold cacheFullBlocksFrom at cached
    split at cached
    · exact ih coherent cached
    · rename_i stays
      have real : block ≠ .nullBlock := by
        rintro rfl
        simp [skipped] at stays
      simp only [bind_eq_ok] at cached
      obtain ⟨_, _, promoted, promotion, _, insertion, ⟨_, _⟩, tail, result⟩ :=
        cached
      have promotedCoherent : promoted.Coherent pool := by
        unfold promote at promotion
        split at promotion
        · simp only [bind_eq_ok, pure_eq_ok] at promotion
          obtain ⟨_, _, rfl⟩ := promotion
          exact (maybeEvictCachedBlock_forgets config coherent block).coherent coherent
        · rw [pure_eq_ok] at promotion
          exact promotion ▸ coherent
      have insertedCoherent := insertBlockHash_coherent promotedCoherent real insertion
      obtain ⟨rfl, _⟩ := result
      exact ih insertedCoherent tail

theorem cacheFullBlocks_coherent {numCachedBlocks numFullBlocks blockSize kvCacheGroupId : Nat}
    (cached : index.cacheFullBlocks config request blocks numCachedBlocks numFullBlocks blockSize
      kvCacheGroupId blockMask = .ok after) : after.Coherent pool := by
  unfold cacheFullBlocks at cached
  split at cached
  · rw [pure_eq_ok] at cached
    exact cached ▸ coherent
  simp only [bind_eq_ok] at cached
  obtain ⟨_, _, _, _, ⟨_, _⟩, loop, emitted⟩ := cached
  have kept := cacheFullBlocksFrom_coherent coherent loop
  split at emitted
  · simp only [bind_eq_ok, pure_eq_ok] at emitted
    obtain ⟨_, _, _, _, rfl⟩ := emitted
    exact coherent_congr kept rfl rfl rfl rfl
  · rw [pure_eq_ok] at emitted
    exact emitted ▸ kept

theorem cachePartialBlock_coherent
    {numTokens kvCacheGroupId blockSize : Nat} {key : Option (BlockHashWithGroupId H)}
    (cached : index.cachePartialBlock config request block numTokens kvCacheGroupId blockSize =
      .ok (key, after)) : after.Coherent pool := by
  unfold cachePartialBlock at cached
  split at cached
  · simp only [pure_eq_ok, Prod.mk.injEq] at cached
    exact cached.2 ▸ coherent
  rename_i notNull
  have real : block ≠ .nullBlock := by simpa using notNull
  simp only [bind_eq_ok] at cached
  obtain ⟨_, _, _, _, _, _, _, _, inserted, insertion, emitted⟩ := cached
  have kept : inserted.Coherent pool := by
    apply insertBlockHash_coherent _ real insertion
    split
    · exact (maybeEvictCachedBlock_forgets config coherent block).coherent coherent
    · exact coherent
  split at emitted
  · obtain ⟨_, _, _, rfl⟩ := bind_eq_ok.mp emitted
    exact coherent_congr kept rfl rfl rfl rfl
  · simp only [pure_eq_ok, Prod.mk.injEq] at emitted
    exact emitted.2 ▸ kept

end

end VllmEngine.PrefixIndex

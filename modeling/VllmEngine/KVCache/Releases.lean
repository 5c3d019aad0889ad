import VllmEngine.KVCache.Holdings

set_option autoImplicit false

namespace VllmEngine.SingleTypeKVCacheManager

open BlockPool Outcome

variable {H : Type} {numBlocks : Nat} {rest : BlockRef → Nat} {pool after : BlockPool H}
  {manager changed : SingleTypeKVCacheManager H} {requestId : RequestId}
  {firstBlock lastBlock : Nat}

theorem freeAny_eq (pool : BlockPool H) (freed : List BlockRef) :
    freeAny pool freed = pool.freeBlocks freed := by
  unfold freeAny
  split
  · next none =>
    rw [none]
    rfl
  · rfl

structure NullsOut (gone : Nat → Prop) (blocks : List BlockRef)
    (result : List BlockRef × List BlockRef) : Prop where
  real : .nullBlock ∉ result.1
  count : ∀ block, block ≠ .nullBlock →
    result.2.count block + result.1.count block = blocks.count block
  own : ∀ i, result.2[i]? = blocks[i]? ∨ gone i ∧ result.2[i]? = some .nullBlock

theorem nullsOut_nil (gone : Nat → Prop) (blocks : List BlockRef) :
    NullsOut gone blocks ([], blocks) :=
  ⟨by simp, by simp, fun _ => .inl rfl⟩

theorem NullsOut.set {gone : Nat → Prop} {blocks freed left : List BlockRef} {i : Nat}
    {block : BlockRef} (found : blocks[i]? = some block) (real : ¬block.isNull) (here : gone i)
    (rest : NullsOut gone (blocks.set i .nullBlock) (freed, left)) :
    NullsOut gone blocks (block :: freed, left) where
  real member := by
    rcases List.mem_cons.mp member with rfl | later
    · exact real rfl
    · exact rest.real later
  count other different := by
    have replaced := count_set_add found .nullBlock other
    have null : [BlockRef.nullBlock].count other = 0 := by simp [Ne.symm different]
    have later := rest.count other different
    dsimp only at later ⊢
    rw [count_cons_add]
    omega
  own j := by
    by_cases same : i = j
    · subst same
      rcases rest.own i with kept | nulled
      · exact .inr ⟨here, by simp_all [(List.getElem?_eq_some_iff.mp found).1]⟩
      · exact .inr nulled
    · have kept := rest.own j
      rwa [List.getElem?_set_ne same] at kept

theorem nullsOut_nullOut (gone : Nat → Prop) (first last : Nat) (blocks : List BlockRef)
    (within : ∀ i, first ≤ i → i < last → gone i) :
    NullsOut gone blocks (nullOut first last blocks) := by
  induction last generalizing blocks with
  | zero => exact nullsOut_nil gone blocks
  | succ last ih =>
    unfold nullOut
    split
    · exact nullsOut_nil gone blocks
    split
    · exact nullsOut_nil gone blocks
    split
    · exact nullsOut_nil gone blocks
    · next early _ _ found real =>
      refine .set found real (within last (by omega) (by omega)) ?_
      exact ih _ fun i lower upper => within i lower (by omega)

structure OnlyNulls (gone : Nat → Prop) (requestId : RequestId)
    (manager changed : SingleTypeKVCacheManager H) : Prop where
  fields : changed = { manager with reqToBlocks := changed.reqToBlocks }
  others : ∀ other, other ≠ requestId →
    changed.reqToBlocks.lookup other = manager.reqToBlocks.lookup other
  own : ∀ i, (changed.blocksOf requestId)[i]? = (manager.blocksOf requestId)[i]? ∨
    gone i ∧ (changed.blocksOf requestId)[i]? = some .nullBlock

structure Releases (gone : Nat → Prop) (requestId : RequestId) (pool : BlockPool H)
    (manager : SingleTypeKVCacheManager H) (after : BlockPool H)
    (changed : SingleTypeKVCacheManager H) : Prop extends
    OnlyNulls gone requestId manager changed where
  released : pool.Released after manager.held changed.held
  exact : ∀ {numBlocks} {rest : BlockRef → Nat}, (pool.Exact numBlocks fun block => rest block + manager.held block) →
    after.Exact numBlocks fun block => rest block + changed.held block

variable {gone : Nat → Prop}

theorem Releases.refl (pool : BlockPool H) (manager : SingleTypeKVCacheManager H) :
    Releases gone requestId pool manager pool manager :=
  ⟨⟨rfl, fun _ _ => rfl, fun _ => .inl rfl⟩, .refl pool _, fun exact => exact⟩

theorem Releases.trans {between : BlockPool H} {middle : SingleTypeKVCacheManager H}
    (first : Releases gone requestId pool manager between middle)
    (second : Releases gone requestId between middle after changed) :
    Releases gone requestId pool manager after changed where
  fields := by rw [second.fields, first.fields]
  others other different := (second.others other different).trans (first.others other different)
  own i := by
    rcases second.own i with same | nulled
    · rw [same]
      exact first.own i
    · exact .inr nulled
  released := first.released.trans second.released fun block => by omega
  exact := fun exact => second.exact (first.exact exact)

theorem NullsOut.releases {freed left : List BlockRef}
    (nulls : NullsOut gone (manager.blocksOf requestId) (freed, left))
    (run : pool.freeBlocks freed = .ok after) :
    Releases gone requestId pool manager after (manager.setBlocks requestId left) := by
  have held (block : BlockRef) (real : block ≠ .nullBlock) :
      manager.held block = (manager.setBlocks requestId left).held block + freed.count block := by
    have counted := held_setBlocks manager requestId left block
    have counts := nulls.count block real
    dsimp only at counts
    omega
  refine ⟨⟨rfl, fun other different => AList.lookup_insert_ne different, fun i => ?_⟩,
    freeBlocks_released run nulls.real held, fun exact => ?_⟩
  · rw [blocksOf_setBlocks]
    exact nulls.own i
  · obtain ⟨_, freed, exact⟩ := Exact.freeBlocks
      (exact.owners_congr fun block real => by rw [held block real, Nat.add_assoc])
    rw [freed] at run
    cases run
    exact exact

theorem removeBlocksInRange_releases (within : ∀ i, firstBlock ≤ i → i < lastBlock → gone i)
    (run : manager.removeBlocksInRange pool requestId firstBlock lastBlock = .ok (after, changed)) :
    Releases gone requestId pool manager after changed := by
  unfold removeBlocksInRange at run
  split at run
  · cases run
    exact .refl pool manager
  rename_i blocks found
  obtain rfl : manager.blocksOf requestId = blocks := by simp [blocksOf, found]
  split at run
  · cases run
    exact .refl pool manager
  · obtain ⟨_, freed, result⟩ := bind_eq_ok.mp run
    cases result
    refine (nullsOut_nullOut gone _ _ _ fun i lower upper => ?_).releases ?_
    · exact within i lower (by omega)
    · rw [← freeAny_eq]
      exact freed

variable {processedComputedTokens numTokens : Nat} {request : EngineRequest H}
  {numPromptTokens : Option Nat}

def OutOfWindow (manager : SingleTypeKVCacheManager H) (processedComputedTokens : Nat)
    (numPromptTokens : Option Nat) (i : Nat) : Prop :=
  match manager.kvCacheSpec.kind, numPromptTokens with
  | .rswa rswaWindow, some numPromptTokens =>
    numPromptTokens ≤ i * manager.blockSize ∧
      (i + 1) * manager.blockSize ≤ max numPromptTokens (processedComputedTokens - rswaWindow)
  | _, _ => (i + 1) * manager.blockSize ≤ manager.getNumSkippedTokens processedComputedTokens

theorem removeSkippedBlocksBase_releases
    (within : ∀ i, (i + 1) * manager.blockSize ≤
      manager.getNumSkippedTokens processedComputedTokens → gone i)
    (run : manager.removeSkippedBlocksBase pool requestId processedComputedTokens =
      .ok (after, changed)) :
    Releases gone requestId pool manager after changed := by
  unfold removeSkippedBlocksBase at run
  dsimp only at run
  split at run
  · cases run
    exact .refl pool manager
  · refine removeBlocksInRange_releases (fun i _ early => within i ?_) run
    exact Nat.mul_le_of_le_div _ _ _ (by omega)

theorem freeLastStateBlock_releases
    (within : ∀ i, i + 1 < cdiv processedComputedTokens manager.blockSize → gone i)
    (run : manager.freeLastStateBlock pool requestId processedComputedTokens =
      .ok (after, changed)) :
    Releases gone requestId pool manager after changed := by
  unfold freeLastStateBlock at run
  split at run
  · cases run
    exact .refl pool manager
  split at run
  · next early =>
    simp only [bind_eq_ok, pyGet_eq_ok] at run
    obtain ⟨block, found, run⟩ := run
    split at run
    · cases run
      exact .refl pool manager
    · next real =>
      obtain ⟨_, freed, result⟩ := bind_eq_ok.mp run
      cases result
      exact (NullsOut.set found real (within _ early) (nullsOut_nil gone _)).releases freed
  · cases run
    exact .refl pool manager

theorem removeSkippedBlocks_releases
    (run : manager.removeSkippedBlocks pool requestId processedComputedTokens numPromptTokens =
      .ok (after, changed)) :
    Releases (manager.OutOfWindow processedComputedTokens numPromptTokens) requestId pool manager
      after changed := by
  unfold removeSkippedBlocks at run
  split at run
  · next rswaWindow _ kind =>
    refine removeBlocksInRange_releases (fun i late early => ?_) run
    have positive : 0 < manager.blockSize := by
      by_contra zero
      simp [Nat.eq_zero_of_not_pos zero] at early
    unfold OutOfWindow
    rw [kind]
    exact ⟨(cdiv_le_iff positive).mp late, Nat.mul_le_of_le_div _ _ _ early⟩
  · next kind =>
    obtain ⟨⟨_, middle⟩, base, last⟩ := bind_eq_ok.mp run
    unfold OutOfWindow
    rw [kind]
    have first := removeSkippedBlocksBase_releases (fun _ skipped => skipped) base
    refine first.trans (freeLastStateBlock_releases (fun i early => ?_) last)
    rw [first.fields] at early
    have positive : 0 < manager.blockSize := by
      by_contra zero
      simp [Nat.eq_zero_of_not_pos zero, cdiv] at early
    have skipped := (lt_cdiv_iff positive).mp early
    unfold getNumSkippedTokens
    rw [kind]
    exact Nat.le_sub_one_of_lt skipped
  · next _ gap =>
    refine removeSkippedBlocksBase_releases (fun i skipped => ?_) run
    unfold OutOfWindow
    split
    · next kind => exact (gap _ _ kind rfl).elim
    · exact skipped

theorem removeSkippedBlocks_accounted (accounted : Accounted numBlocks rest pool manager)
    (run : manager.removeSkippedBlocks pool requestId processedComputedTokens numPromptTokens =
      .ok (after, changed)) :
    Accounted numBlocks rest after changed := by
  have releases := removeSkippedBlocks_releases run
  refine ⟨releases.exact accounted.exact, ?_⟩
  rw [releases.fields]
  exact accounted.offloads

theorem popBlocksForFree_offloads (manager : SingleTypeKVCacheManager H) (requestId : RequestId)
    {offload : PartialTailOffload}
    (member : offload ∈ (manager.popBlocksForFree requestId).2.pendingPartialTailOffloads) :
    offload ∈ manager.pendingPartialTailOffloads := by
  unfold popBlocksForFree at member
  split at member
  · exact List.mem_of_mem_filter member
  · exact member

theorem free_accounted (accounted : Accounted numBlocks rest pool manager)
    (run : manager.free pool requestId = .ok (after, changed)) :
    Accounted numBlocks rest after changed := by
  simp only [free, bind_eq_ok] at run
  obtain ⟨_, freed, result⟩ := run
  cases result
  have released : pool.Exact numBlocks fun block =>
      (rest block + (manager.popBlocksForFree requestId).2.held block) +
        (manager.popBlocksForFree requestId).1.reverse.count block := by
    refine accounted.exact.owners_congr fun block _ => ?_
    have popped := held_popBlocksForFree manager requestId block
    rw [List.count_reverse]
    omega
  obtain ⟨_, run, exact⟩ := released.freeBlocks
  rw [run] at freed
  cases freed
  exact ⟨exact, fun offload member =>
    accounted.offloads offload (popBlocksForFree_offloads manager requestId member)⟩

structure OnlyIndexed (pool after : BlockPool H) (manager changed : SingleTypeKVCacheManager H) :
    Prop where
  queue : after.freeBlockQueue = pool.freeBlockQueue
  refCnt : after.refCnt = pool.refCnt
  config : after.config = pool.config
  held : ∀ block, changed.held block = manager.held block
  offloads : changed.pendingPartialTailOffloads = manager.pendingPartialTailOffloads

theorem OnlyIndexed.refl (pool : BlockPool H) (manager : SingleTypeKVCacheManager H) :
    OnlyIndexed pool pool manager manager :=
  ⟨rfl, rfl, rfl, fun _ => rfl, rfl⟩

theorem OnlyIndexed.trans {between : BlockPool H} {middle : SingleTypeKVCacheManager H}
    (first : OnlyIndexed pool between manager middle)
    (second : OnlyIndexed between after middle changed) : OnlyIndexed pool after manager changed :=
  ⟨second.queue.trans first.queue, second.refCnt.trans first.refCnt,
    second.config.trans first.config, fun block => (second.held block).trans (first.held block),
    second.offloads.trans first.offloads⟩

theorem OnlyIndexed.accounted (indexed : OnlyIndexed pool after manager changed)
    (accounted : Accounted numBlocks rest pool manager) :
    Accounted numBlocks rest after changed := by
  refine accounted.congr indexed.queue indexed.refCnt indexed.held fun offload member => ?_
  rw [indexed.offloads] at member
  exact member

variable [DecidableEq H] {retentionInterval : Option Nat}

theorem cacheBlocksBase_onlyIndexed
    (run : manager.cacheBlocksBase pool request numTokens retentionInterval =
      .ok (after, changed)) :
    OnlyIndexed pool after manager changed := by
  unfold cacheBlocksBase at run
  dsimp only at run
  split at run
  · cases run
    exact .refl pool manager
  · simp only [BlockPool.cacheFullBlocks, bind_eq_ok, pure_eq_ok] at run
    obtain ⟨_, _, _, ⟨_, _, rfl⟩, result⟩ := run
    cases result
    refine ⟨rfl, rfl, rfl, fun block => ?_, rfl⟩
    have counted := held_setBlocks manager request.requestId
      (manager.blocksOf request.requestId) block
    show (manager.setBlocks _ _).held block = _
    omega

theorem cachePartialTailBlockFull_onlyIndexed
    (run : manager.cachePartialTailBlockFull pool request numTokens = .ok after) :
    OnlyIndexed pool after manager manager := by
  unfold cachePartialTailBlockFull at run
  dsimp only at run
  split at run
  · cases run
    exact .refl pool manager
  split at run
  · cases run
    exact .refl pool manager
  · simp only [BlockPool.cachePartialBlock, bind_eq_ok, pure_eq_ok] at run
    obtain ⟨_, ⟨_, _, rfl⟩, rfl⟩ := run
    exact ⟨rfl, rfl, rfl, fun _ => rfl, rfl⟩

theorem addCachedThisStep_onlyIndexed (key : Option (BlockHashWithGroupId H)) :
    OnlyIndexed pool pool manager (manager.addCachedThisStep key) := by
  unfold addCachedThisStep
  split <;> exact ⟨rfl, rfl, rfl, fun _ => rfl, rfl⟩

theorem recordCachedBlocks_onlyIndexed (blocks : List BlockRef) :
    OnlyIndexed pool pool manager (manager.recordCachedBlocks pool blocks) := by
  unfold recordCachedBlocks
  refine List.foldlRecOn _ _ (.refl pool manager) fun current kept block _ => kept.trans ?_
  split
  · exact .refl pool current
  · exact addCachedThisStep_onlyIndexed _

theorem cachePartialTailBlockMamba_onlyIndexed {partialHash : Option (BlockHashWithGroupId H)}
    (run : manager.cachePartialTailBlockMamba pool request numTokens =
      .ok (partialHash, after, changed)) :
    OnlyIndexed pool after manager changed := by
  unfold cachePartialTailBlockMamba at run
  dsimp only at run
  split at run
  · cases run
    exact .refl pool manager
  split at run
  · cases run
    exact .refl pool manager
  split at run
  · cases run
    exact .refl pool manager
  · simp only [BlockPool.cachePartialBlock, bind_eq_ok, pure_eq_ok] at run
    obtain ⟨_, ⟨_, _, rfl⟩, result⟩ := run
    split at result <;> cases result <;> exact ⟨rfl, rfl, rfl, fun _ => rfl, rfl⟩

theorem cacheBlocksMamba_onlyIndexed
    (run : manager.cacheBlocksMamba pool request numTokens retentionInterval =
      .ok (after, changed)) :
    OnlyIndexed pool after manager changed := by
  simp only [cacheBlocksMamba, bind_eq_ok] at run
  obtain ⟨⟨pool', manager'⟩, base, ⟨pool'', manager''⟩, tail, run⟩ := run
  have tail : OnlyIndexed pool' pool'' manager' manager'' := by
    unfold cacheBlocksMamba.cacheTail at tail
    split at tail
    · obtain ⟨⟨partialHash, _, _⟩, cached, result⟩ := bind_eq_ok.mp tail
      cases result
      exact (cachePartialTailBlockMamba_onlyIndexed cached).trans
        (addCachedThisStep_onlyIndexed partialHash)
    · cases tail
      exact .refl pool' manager'
  have cached := (cacheBlocksBase_onlyIndexed base).trans tail
  split at run <;> cases run
  · exact cached.trans (recordCachedBlocks_onlyIndexed _)
  · exact cached

theorem cacheBlocks_onlyIndexed
    (run : manager.cacheBlocks pool request numTokens retentionInterval = .ok (after, changed)) :
    OnlyIndexed pool after manager changed := by
  have full (run : (manager.cacheBlocksBase pool request numTokens retentionInterval >>= fun made =>
      if made.2.blockSize = made.1.config.hashBlockSize then pure made
      else made.2.cachePartialTailBlockFull made.1 request numTokens >>= fun tail =>
        pure (tail, made.2)) = .ok (after, changed)) :
      OnlyIndexed pool after manager changed := by
    obtain ⟨⟨_, _⟩, base, run⟩ := bind_eq_ok.mp run
    have cached := cacheBlocksBase_onlyIndexed base
    split at run
    · cases run
      exact cached
    · obtain ⟨_, tail, result⟩ := bind_eq_ok.mp run
      cases result
      exact cached.trans (cachePartialTailBlockFull_onlyIndexed tail)
  unfold cacheBlocks at run
  split at run
  · exact full run
  · exact full run
  · exact cacheBlocksMamba_onlyIndexed run
  · cases run
  · exact cacheBlocksBase_onlyIndexed run
  · exact cacheBlocksBase_onlyIndexed run

end VllmEngine.SingleTypeKVCacheManager

import VllmEngine.KVCache.RefCount
import VllmEngine.KVCache.Retention
import VllmEngine.Shared.Tally

set_option autoImplicit false

namespace VllmEngine.SingleTypeKVCacheManager

open BlockPool Outcome List

variable {H : Type}

def endpoints (manager : SingleTypeKVCacheManager H) : List BlockRef :=
  manager.pendingCowCopies.flatMap fun copy => [copy.1, copy.2]

def held (manager : SingleTypeKVCacheManager H) (block : BlockRef) : Nat :=
  tally (List.count block) manager.reqToBlocks + manager.endpoints.count block

structure Accounted (numBlocks : Nat) (rest : BlockRef → Nat) (pool : BlockPool H)
    (manager : SingleTypeKVCacheManager H) : Prop where
  exact : pool.Exact numBlocks fun block => rest block + manager.held block
  offloads : ∀ offload ∈ manager.pendingPartialTailOffloads, offload.block ∈ poolBlocks numBlocks

variable {numBlocks : Nat} {rest : BlockRef → Nat} {pool after : BlockPool H}
  {manager changed : SingleTypeKVCacheManager H} {requestId : RequestId} {blocks : List BlockRef}
  {numLocalComputedTokens numExternalComputedTokens : Nat} {newBlocks : List BlockRef}
  {block : BlockRef} {blockIdx : Nat} {sourceBlock cowBlock : BlockRef}

theorem count_set_add {i : Nat} {old : BlockRef}
    (found : blocks[i]? = some old) (new block : BlockRef) :
    (blocks.set i new).count block + [old].count block =
      blocks.count block + [new].count block := by
  induction blocks generalizing i with
  | nil => simp at found
  | cons first rest ih =>
    cases i with
    | zero =>
      obtain rfl : first = old := by simpa using found
      rw [set_cons_zero, count_cons_add new, count_cons_add first block rest]
      omega
    | succ i =>
      have later := ih (by simpa using found)
      rw [set_cons_succ, count_cons_add first block (rest.set i new),
        count_cons_add first block rest]
      omega

theorem count_reuseSpeculativeBlocks (numSkippedBlocks : Nat) (positions : List Nat)
    (reqBlocks : List BlockRef) (real : block ≠ .nullBlock) :
    (reuseSpeculativeBlocks numSkippedBlocks positions reqBlocks).count block =
      reqBlocks.count block := by
  induction positions generalizing reqBlocks with
  | nil => rfl
  | cons position later ih =>
    have null : [BlockRef.nullBlock].count block = 0 := by simp [Ne.symm real]
    unfold reuseSpeculativeBlocks
    split
    · rw [ih, count_append, getD_eq_getElem?_getD]
      cases found : reqBlocks[position]? with
      | none =>
        rw [set_eq_of_length_le (List.getElem?_eq_none_iff.mp found)]
        simpa using null
      | some moved =>
        have replaced := count_set_add found .nullBlock block
        rw [Option.getD_some]
        omega
    · rfl

theorem length_reuseSpeculativeBlocks (numSkippedBlocks start count : Nat)
    (reqBlocks : List BlockRef) :
    (reuseSpeculativeBlocks numSkippedBlocks (List.range' start count) reqBlocks).length =
      reqBlocks.length + min count (numSkippedBlocks - start) := by
  induction count generalizing start reqBlocks with
  | zero => simp [reuseSpeculativeBlocks]
  | succ count ih =>
    rw [range'_succ, reuseSpeculativeBlocks]
    split
    · rw [ih, length_append, length_set, length_singleton]
      omega
    · omega

section

variable (manager : SingleTypeKVCacheManager H) (requestId : RequestId)

theorem held_setBlocks (blocks : List BlockRef) (block : BlockRef) :
    (manager.setBlocks requestId blocks).held block + (manager.blocksOf requestId).count block =
      manager.held block + blocks.count block := by
  have counted := tally_insert (List.count block) manager.reqToBlocks requestId blocks
  have old := elim_lookup (List.count block) manager.reqToBlocks requestId count_nil
  unfold held setBlocks endpoints blocksOf
  dsimp only
  omega

theorem held_popBlocksForFree (block : BlockRef) :
    (manager.popBlocksForFree requestId).2.held block +
        (manager.popBlocksForFree requestId).1.count block = manager.held block := by
  have counted := tally_erase (List.count block) manager.reqToBlocks requestId
  have old := elim_lookup (List.count block) manager.reqToBlocks requestId count_nil
  unfold held popBlocksForFree endpoints blocksOf
  split <;> dsimp only <;> omega

theorem blocksOf_setBlocks (blocks : List BlockRef) :
    (manager.setBlocks requestId blocks).blocksOf requestId = blocks := by
  simp [blocksOf, setBlocks]

theorem recordLastStateBlock_eq :
    ∃ indices, manager.recordLastStateBlock requestId =
      { manager with lastStateBlockIdx := indices } := by
  unfold recordLastStateBlock
  dsimp only
  split_ifs <;> exact ⟨_, rfl⟩

theorem count_alignedTable (numRequiredBlocks : Nat) (real : block ≠ .nullBlock) :
    (manager.alignedTable requestId numRequiredBlocks).count block =
      (manager.blocksOf requestId).count block := by
  have padded (count : Nat) :
      (manager.blocksOf requestId ++ List.replicate count BlockRef.nullBlock).count block =
        (manager.blocksOf requestId).count block := by
    rw [count_append, count_replicate]
    simp [Ne.symm real]
  unfold alignedTable
  dsimp only
  split
  · rw [count_reuseSpeculativeBlocks _ _ _ real, padded]
  · exact padded _

theorem length_alignedTable (numRequiredBlocks : Nat) :
    (manager.alignedTable requestId numRequiredBlocks).length =
      max (manager.blocksOf requestId).length
        (numRequiredBlocks - manager.numSpeculativeBlocks - 1) +
      if manager.allocatedBlockReqs requestId then
        min manager.numSpeculativeBlocks (numRequiredBlocks - manager.numSpeculativeBlocks - 1 -
          ((manager.blocksOf requestId).length - manager.numSpeculativeBlocks))
      else 0 := by
  have padded : (manager.blocksOf requestId ++ List.replicate
      (numRequiredBlocks - manager.numSpeculativeBlocks - 1 -
        (manager.blocksOf requestId).length) BlockRef.nullBlock).length =
      max (manager.blocksOf requestId).length
        (numRequiredBlocks - manager.numSpeculativeBlocks - 1) := by
    rw [length_append, length_replicate]
    omega
  unfold alignedTable
  dsimp only
  split
  · rw [length_reuseSpeculativeBlocks, padded]
  · rw [padded, Nat.add_zero]

theorem held_retainCopy (sourceBlock cowBlock block : BlockRef) :
    (manager.retainCopy sourceBlock cowBlock).held block =
      manager.held block + ([sourceBlock].count block + [cowBlock].count block) := by
  unfold held endpoints retainCopy
  simp only [flatMap_append, flatMap_cons, flatMap_nil, append_nil,
    count_append, count_cons_add sourceBlock block [cowBlock]]
  omega

end

theorem mem_held (member : block ∈ manager.blocksOf requestId) : manager.held block ≠ 0 := by
  have counted := held_setBlocks manager requestId [] block
  have positive := List.count_pos_iff.mpr member
  rw [count_nil] at counted
  omega

theorem Accounted.congr (accounted : Accounted numBlocks rest pool manager)
    (queue : after.freeBlockQueue = pool.freeBlockQueue) (refCnt : after.refCnt = pool.refCnt)
    (held : ∀ block, changed.held block = manager.held block)
    (offloads : ∀ offload ∈ changed.pendingPartialTailOffloads,
      offload ∈ manager.pendingPartialTailOffloads) :
    Accounted numBlocks rest after changed := by
  refine ⟨accounted.exact.congr queue refCnt fun block _ => ?_, fun offload member => ?_⟩
  · rw [held]
  · exact accounted.offloads offload (offloads offload member)

section

variable
  (accounted : Accounted numBlocks (fun block => rest block + blocks.count block) pool manager)

include accounted

theorem Accounted.adopt
    (offloads : changed.pendingPartialTailOffloads = manager.pendingPartialTailOffloads)
    (held : ∀ block, block ≠ .nullBlock →
      changed.held block = manager.held block + blocks.count block) :
    Accounted numBlocks rest pool changed := by
  refine ⟨accounted.exact.owners_congr fun block real => ?_, offloads ▸ accounted.offloads⟩
  rw [held block real]
  omega

theorem Accounted.setBlocks :
    Accounted numBlocks rest pool
      (manager.setBlocks requestId (manager.blocksOf requestId ++ blocks)) := by
  refine accounted.adopt rfl fun block _ => ?_
  have counted := held_setBlocks manager requestId (manager.blocksOf requestId ++ blocks) block
  rw [count_append] at counted
  omega

end

section

variable (accounted : Accounted numBlocks (fun block => rest block + [cowBlock].count block) pool
  manager)

include accounted

theorem applyCow_accounted
    (run : manager.applyCow pool requestId blockIdx sourceBlock cowBlock = .ok (after, changed)) :
    Accounted numBlocks rest after changed := by
  simp only [applyCow, bind_eq_ok, pyAssert_eq_ok, decide_eq_true_eq, pure_eq_ok,
    Prod.mk.injEq] at run
  obtain ⟨_, _, _, found, _, _, rfl, rfl⟩ := run
  have more := accounted.exact.addRef cowBlock fun _ => by simp
  refine ⟨more.owners_congr fun block _ => ?_, accounted.offloads⟩
  have counted := held_setBlocks manager requestId
    ((manager.blocksOf requestId).set blockIdx cowBlock) block
  have replaced := count_set_add found cowBlock block
  rw [held_retainCopy]
  omega

theorem moveToCow_accounted [DecidableEq H] (member : cowBlock ∈ poolBlocks numBlocks)
    (run : manager.moveToCow pool requestId blockIdx sourceBlock cowBlock = .ok (after, changed)) :
    Accounted numBlocks rest after changed := by
  simp only [moveToCow, BlockPool.moveBlockHashes, bind_eq_ok, pyAssert_eq_ok,
    decide_eq_true_eq, pure_eq_ok] at run
  obtain ⟨_, found, pool', ⟨_, _, moved⟩, rfl, rfl⟩ := run
  have exact : pool'.Exact numBlocks _ :=
    accounted.exact.congr (by rw [← moved]) (by rw [← moved]) fun _ _ => rfl
  have source := mem_held (mem_of_getElem? found)
  have more := exact.addRef sourceBlock fun _ => by omega
  set retained := manager.retainCopy sourceBlock cowBlock
  have handed : Accounted numBlocks rest (pool'.addRef sourceBlock 1)
      (retained.handOffPartialTail requestId cowBlock) := by
    refine ⟨more.owners_congr fun block _ => ?_, fun offload inside => ?_⟩
    · have kept : (retained.handOffPartialTail requestId cowBlock).held block =
          retained.held block := by
        unfold handOffPartialTail
        split <;> rfl
      have counted : retained.held block = _ := held_retainCopy manager sourceBlock cowBlock block
      omega
    · unfold handOffPartialTail at inside
      split at inside
      · exact accounted.offloads offload inside
      · rcases List.mem_append.mp inside with old | new
        · exact accounted.offloads offload old
        · rw [List.mem_singleton.mp new]
          exact member
  refine handed.congr rfl rfl (fun block => ?_) fun offload inside => ?_
  · unfold addCachedThisStep
    split <;> rfl
  · unfold addCachedThisStep at inside
    split at inside <;> exact inside

end

variable [DecidableEq H]

theorem placeAligned_accounted {prevBlockLen : Nat} {returned : List BlockRef}
    (accounted : Accounted numBlocks (fun block => rest block + blocks.count block) pool manager)
    (members : ∀ block ∈ blocks, block ∈ poolBlocks numBlocks)
    (run : manager.placeAligned pool requestId prevBlockLen blocks =
      .ok (returned, after, changed)) :
    Accounted numBlocks rest after changed := by
  unfold placeAligned at run
  split at run
  · cases run
    exact ⟨accounted.setBlocks.exact, accounted.offloads⟩
  · simp only [bind_eq_ok, pyGet_eq_ok] at run
    obtain ⟨cowBlock, first, run⟩ := run
    -- the other new blocks wait among the references of others
    have shape : blocks = cowBlock :: blocks.drop 1 := by
      cases blocks with
      | nil => simp at first
      | cons head tail => simpa using first
    have framed : Accounted numBlocks
        (fun block => (rest block + (blocks.drop 1).count block) + [cowBlock].count block) pool
        manager := by
      refine ⟨accounted.exact.owners_congr fun block _ => ?_, accounted.offloads⟩
      have counted := congrArg (List.count block) shape
      rw [count_cons_add cowBlock block (blocks.drop 1)] at counted
      omega
    split at run
    · obtain ⟨⟨pool', manager'⟩, cow, result⟩ := bind_eq_ok.mp run
      cases result
      have moved := moveToCow_accounted framed (members cowBlock (mem_of_getElem? first)) cow
      exact ⟨moved.setBlocks.exact, moved.offloads⟩
    · obtain ⟨⟨pool', manager'⟩, cow, result⟩ := bind_eq_ok.mp run
      cases result
      have applied := applyCow_accounted framed cow
      exact ⟨applied.setBlocks.exact, applied.offloads⟩

section

variable (accounted : Accounted numBlocks rest pool manager)

include accounted

theorem Accounted.getNewBlocks {count : Int} (positive : 0 ≤ count)
    (run : pool.getNewBlocks count = .ok (blocks, after)) :
    (blocks.length : Int) = count ∧ (∀ block ∈ blocks, block ∈ poolBlocks numBlocks) ∧
      Accounted numBlocks (fun block => rest block + blocks.count block) after manager := by
  obtain ⟨length, fresh, exact⟩ := accounted.exact.of_getNewBlocks positive run
  refine ⟨length, fun block member => (fresh block member).1, ?_, accounted.offloads⟩
  exact exact.owners_congr fun block _ => by omega

theorem addLocalComputedBlocks_accounted {newComputedBlocks : List BlockRef}
    (members : ∀ block ∈ newComputedBlocks, block ∈ poolBlocks numBlocks)
    (run : manager.addLocalComputedBlocks pool requestId newComputedBlocks numLocalComputedTokens
      numExternalComputedTokens = .ok (after, changed)) :
    Accounted numBlocks rest after changed ∧ changed.kvCacheSpec = manager.kvCacheSpec ∧
      changed.blockSize = manager.blockSize ∧
      (manager.isCrossAttention = false → (changed.blocksOf requestId).length =
        max (manager.getNumSkippedTokens (numLocalComputedTokens + numExternalComputedTokens) /
          manager.blockSize) newComputedBlocks.length) := by
  unfold addLocalComputedBlocks at run
  split at run
  · rename_i cross
    obtain ⟨_, _, result⟩ := bind_eq_ok.mp run
    cases result
    exact ⟨accounted, rfl, rfl, fun other => by simp [other] at cross⟩
  · simp only [addLocalComputedBlocksBase, bind_eq_ok, pyAssert_eq_ok, decide_eq_true_eq] at run
    obtain ⟨_, empty, touched, touch, result⟩ := run
    set numSkippedBlocks := manager.getNumSkippedTokens
      (numLocalComputedTokens + numExternalComputedTokens) / manager.blockSize
    set hits := newComputedBlocks.drop numSkippedBlocks with hitsEq
    set table := List.replicate numSkippedBlocks BlockRef.nullBlock ++ hits
    have touching : Accounted numBlocks (fun block => rest block + hits.count block) touched
        manager := by
      refine ⟨?_, accounted.offloads⟩
      unfold addLocalComputedBlocksBase.touchHits at touch
      split at touch
      · obtain ⟨_, run, exact⟩ := accounted.exact.touch hits fun block member =>
          members block (mem_of_mem_drop member)
        rw [run] at touch
        cases touch
        exact exact.owners_congr fun block _ => by omega
      · simp only [bind_eq_ok, pyAssert_eq_ok, decide_eq_true_eq, pure_eq_ok] at touch
        obtain ⟨_, none, rfl⟩ := touch
        simpa [none] using accounted.exact
    have tableCount (block : BlockRef) (real : block ≠ .nullBlock) :
        (manager.setBlocks requestId table).held block =
          manager.held block + hits.count block := by
      have counted := held_setBlocks manager requestId table block
      rw [empty, count_nil, Nat.add_zero] at counted
      rw [counted, count_append, List.count_eq_zero.mpr]
      · omega
      · simp [real]
    have tableLength : ((manager.setBlocks requestId table).blocksOf requestId).length =
        max numSkippedBlocks newComputedBlocks.length := by
      rw [blocksOf_setBlocks]
      simp only [table, hitsEq, length_append, length_replicate, length_drop]
      omega
    split at result <;> cases result <;>
      exact ⟨touching.adopt rfl tableCount, rfl, rfl, fun _ => tableLength⟩

theorem allocateExternalComputedBlocks_accounted
    (short : manager.isCrossAttention = false → (manager.blocksOf requestId).length ≤
      max (manager.getNumSkippedTokens (numLocalComputedTokens + numExternalComputedTokens) /
        manager.blockSize) (cdiv (numLocalComputedTokens + numExternalComputedTokens)
          manager.blockSize))
    (run : manager.allocateExternalComputedBlocks pool requestId numLocalComputedTokens
      numExternalComputedTokens = .ok (after, changed)) :
    Accounted numBlocks rest after changed := by
  unfold allocateExternalComputedBlocks at run
  dsimp only at run
  split at run
  · cases run
    exact accounted
  rename_i attention
  have short := short (by simpa using attention)
  generalize numLocalComputedTokens + numExternalComputedTokens = total at run short
  generalize loadedEq : (if manager.getNumSkippedTokens total > 0 then
    min (total - manager.getNumSkippedTokens total) numExternalComputedTokens
    else numExternalComputedTokens) = loaded at run
  split at run
  · cases run
    exact accounted
  -- some external token is not skipped, so the skipped blocks end before the last token
  have within : manager.getNumSkippedTokens total / manager.blockSize ≤
      cdiv total manager.blockSize := by
    have notAll : manager.getNumSkippedTokens total ≤ total := by
      split at loadedEq <;> omega
    have floor : total / manager.blockSize ≤ cdiv total manager.blockSize := by
      rw [cdiv_eq]
      rcases Nat.eq_zero_or_pos manager.blockSize with zero | _
      · simp [zero]
      · exact Nat.div_le_div_right (by omega)
    exact (Nat.div_le_div_right notAll).trans floor
  obtain ⟨⟨_, _⟩, taken, result⟩ := bind_eq_ok.mp run
  cases result
  obtain ⟨_, _, added⟩ := accounted.getNewBlocks (by omega) taken
  exact ⟨added.setBlocks.exact, accounted.offloads⟩

theorem redirectPartialHit_accounted {cowBlocks : List BlockRef}
    (run : manager.redirectPartialHit pool requestId = .ok (cowBlocks, after, changed)) :
    Accounted numBlocks rest after changed := by
  unfold redirectPartialHit at run
  split at run
  · cases run
    exact accounted
  · simp only [bind_eq_ok] at run
    obtain ⟨⟨newBlocks, _⟩, taken, cowBlock, first, ⟨_, _⟩, cow, result⟩ := run
    cases result
    obtain ⟨length, _, added⟩ := accounted.getNewBlocks (by omega) taken
    obtain ⟨only, rfl⟩ := List.length_eq_one_iff.mp (show newBlocks.length = 1 by omega)
    obtain rfl : only = cowBlock := by simpa using first
    refine (applyCow_accounted ?_ cow).congr rfl rfl (fun _ => rfl) fun _ member => member
    exact ⟨added.exact, added.offloads⟩

theorem allocateNewBlocksBase_accounted {numTokens : Nat}
    (run : manager.allocateNewBlocksBase pool requestId numTokens = .ok (newBlocks, after, changed)) :
    Accounted numBlocks rest after changed := by
  simp only [allocateNewBlocksBase, bind_eq_ok] at run
  obtain ⟨⟨_, _, manager'⟩, redirect, run⟩ := run
  have redirected := redirectPartialHit_accounted accounted redirect
  dsimp only at run
  split at run
  · cases run
    refine redirected.congr rfl rfl (fun block => ?_) fun _ member => member
    have counted := held_setBlocks manager' requestId (manager'.blocksOf requestId) block
    omega
  · obtain ⟨⟨_, _⟩, take, result⟩ := bind_eq_ok.mp run
    cases result
    obtain ⟨_, _, added⟩ := redirected.getNewBlocks (by omega) take
    exact ⟨added.setBlocks.exact, redirected.offloads⟩

theorem allocateNewBlocksAligned_accounted {numTokensMainModel : Nat}
    (run : manager.allocateNewBlocksAligned pool requestId numTokensMainModel =
      .ok (newBlocks, after, changed)) : Accounted numBlocks rest after changed := by
  unfold allocateNewBlocksAligned at run
  dsimp only at run
  split at run
  · cases run
    exact accounted
  rename_i needed
  simp only [bind_eq_ok] at run
  obtain ⟨_, _, ⟨_, _⟩, take, place⟩ := run
  set numRequiredBlocks := cdiv numTokensMainModel manager.blockSize + manager.numSpeculativeBlocks
  set table := manager.alignedTable requestId numRequiredBlocks with tableEq
  obtain ⟨indices, recorded⟩ := recordLastStateBlock_eq manager requestId
  rw [recorded] at place
  have same (block : BlockRef) (real : block ≠ .nullBlock) :
      ({ manager with lastStateBlockIdx := indices }.setBlocks requestId table).held block =
        manager.held block := by
    have counted : _ + (manager.blocksOf requestId).count block =
        manager.held block + table.count block :=
      held_setBlocks { manager with lastStateBlockIdx := indices } requestId table block
    have unmoved := count_alignedTable manager requestId numRequiredBlocks real
    rw [← tableEq] at unmoved
    omega
  have positive : (0 : Int) ≤ if (manager.partialHitReqs requestId).isSome then
      max ((numRequiredBlocks : Int) - table.length) 0 + 1
      else (numRequiredBlocks : Int) - table.length := by
    split
    · omega
    · rename_i noPartialHit
      have more : (manager.blocksOf requestId).length < numRequiredBlocks := by
        by_contra enough
        exact needed ⟨by omega, noPartialHit⟩
      have length := length_alignedTable manager requestId numRequiredBlocks
      rw [← tableEq] at length
      split at length <;> omega
  obtain ⟨_, members, added⟩ := accounted.getNewBlocks positive take
  refine placeAligned_accounted ?_ members place
  refine ⟨added.exact.owners_congr fun block real => ?_, accounted.offloads⟩
  rw [same block real]

theorem allocateNewBlocks_accounted {numTokens numTokensMainModel : Nat}
    (run : manager.allocateNewBlocks pool requestId numTokens numTokensMainModel =
      .ok (newBlocks, after, changed)) : Accounted numBlocks rest after changed := by
  unfold allocateNewBlocks at run
  split at run
  · exact allocateNewBlocksAligned_accounted accounted run
  · exact allocateNewBlocksBase_accounted accounted run
  · exact allocateNewBlocksBase_accounted accounted run

end

end VllmEngine.SingleTypeKVCacheManager

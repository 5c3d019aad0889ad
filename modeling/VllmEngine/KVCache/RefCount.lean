import VllmEngine.KVCache.BlockPool

set_option autoImplicit false

namespace VllmEngine

open List BlockRef

namespace FreeKVCacheBlockQueue

def Linked (queue : FreeKVCacheBlockQueue) (block : BlockRef) : Prop :=
  Relation.TransGen (fun node following => queue.links.next node = some following)
    .fakeFreeListHead block

theorem Represents.linked_iff {queue : FreeKVCacheBlockQueue} {blocks : List BlockRef}
    (represents : queue.Represents blocks) {block : BlockRef} (real : block ≠ .fakeFreeListTail) :
    queue.Linked block ↔ block ∈ blocks := by
  constructor
  · intro linked
    obtain ⟨node, _, last⟩ := Relation.TransGen.tail'_iff.mp linked
    simpa [real] using represents.next_mem last
  · intro member
    have chain := represents.threads.imp fun node following adjacent =>
      Relation.TransGen.single (r := fun node following =>
        queue.links.next node = some following) adjacent.1
    exact (List.pairwise_cons.mp chain.pairwise).1 block (by simp [member])

end FreeKVCacheBlockQueue

namespace BlockPool

open FreeKVCacheBlockQueue

variable {H : Type}

structure Exact (numBlocks : Nat) (pool : BlockPool H) (owners : BlockRef → Nat) : Prop where
  free : ∃ free, pool.freeBlockQueue.Represents free ∧ ∀ block,
    block ∈ free ↔ block ∈ poolBlocks numBlocks ∧ block ≠ .nullBlock ∧ owners block = 0
  refs : ∀ block, block ≠ .nullBlock → pool.refCnt block = owners block
  owned : ∀ block, block ≠ .nullBlock → owners block ≠ 0 → block ∈ poolBlocks numBlocks

variable {numBlocks : Nat} {pool after : BlockPool H} {owners : BlockRef → Nat}
  {owners' : BlockRef → Nat} {block : BlockRef} {blocks : List BlockRef}

theorem Exact.congr (exact : pool.Exact numBlocks owners)
    (queue : after.freeBlockQueue = pool.freeBlockQueue) (refCnt : after.refCnt = pool.refCnt)
    (same : ∀ block, block ≠ .nullBlock → owners' block = owners block) :
    after.Exact numBlocks owners' := by
  obtain ⟨⟨free, represents, free_iff⟩, refs, owned⟩ := exact
  refine ⟨⟨free, by rw [queue]; exact represents, fun block => ?_⟩, fun block real => ?_,
    fun block real => ?_⟩
  · rw [free_iff]
    by_cases null : block = .nullBlock
    · simp [null]
    · rw [same block null]
  · rw [refCnt, refs block real, same block real]
  · rw [same block real]
    exact owned block real

theorem Exact.owners_congr (exact : pool.Exact numBlocks owners)
    (same : ∀ block, block ≠ .nullBlock → owners' block = owners block) :
    pool.Exact numBlocks owners' :=
  exact.congr rfl rfl same

theorem count_cons_add (block other : BlockRef) (rest : List BlockRef) :
    (block :: rest).count other = [block].count other + rest.count other := by
  rw [← count_append, singleton_append]

theorem addRef_refCnt (pool : BlockPool H) (block other : BlockRef) (change : Int) :
    (pool.addRef block change).refCnt other =
      pool.refCnt other + change * [block].count other := by
  by_cases same : other = block
  · subst same
    simp [addRef]
  · simp [addRef, same, Ne.symm same]

theorem not_mem_sentinel (numBlocks : Nat) : fakeFreeListHead ∉ poolBlocks numBlocks ∧
    fakeFreeListTail ∉ poolBlocks numBlocks := by
  simp [mem_poolBlocks]

theorem Exact.linked_iff (exact : pool.Exact numBlocks owners)
    (member : block ∈ poolBlocks numBlocks) (real : block ≠ .nullBlock) :
    pool.freeBlockQueue.Linked block ↔ pool.refCnt block = 0 := by
  obtain ⟨⟨_, represents, free_iff⟩, refs, _⟩ := exact
  have notTail : block ≠ .fakeFreeListTail := by
    rintro rfl
    exact (not_mem_sentinel numBlocks).2 member
  rw [represents.linked_iff notTail, free_iff, refs block real]
  simp [member, real]

theorem create_exact {config : PoolConfig H} (created : create config = .ok pool) :
    pool.Exact config.numGpuBlocks fun _ => 0 := by
  obtain ⟨_, refCnt, _, represents, positive⟩ := create_spec created
  refine ⟨⟨_, represents, fun block => ?_⟩, fun block _ => ?_, fun block _ nonzero => ?_⟩
  · obtain ⟨count, shape⟩ : ∃ count, config.numGpuBlocks = count + 1 :=
      Nat.exists_eq_add_one.mpr positive
    rw [shape, mem_poolBlocks]
    simp only [poolBlocks, range_succ_eq_map, map_cons, tail_cons, map_map,
      mem_map, mem_range, and_true]
    constructor
    · rintro ⟨blockId, bound, rfl⟩
      exact ⟨⟨blockId + 1, by omega, rfl⟩, by simp [nullBlock]⟩
    · rintro ⟨⟨blockId, bound, rfl⟩, real⟩
      cases blockId with
      | zero => exact absurd rfl real
      | succ blockId => exact ⟨blockId, by omega, rfl⟩
  · simpa using refCnt block
  · exact absurd rfl nonzero

section

variable (exact : pool.Exact numBlocks owners)

include exact

theorem Exact.addRef (block : BlockRef)
    (owner : block ≠ .nullBlock → owners block ≠ 0) :
    (pool.addRef block 1).Exact numBlocks fun other => owners other + [block].count other := by
  obtain ⟨⟨free, represents, free_iff⟩, refs, owned⟩ := exact
  refine ⟨⟨free, represents, fun other => ?_⟩, fun other real => ?_, fun other real => ?_⟩
  · rw [free_iff]
    by_cases same : other = block
    · subst same
      by_cases null : other = .nullBlock
      · simp [null]
      · simp [owner null]
    · simp [Ne.symm same]
  · rw [addRef_refCnt, refs other real]
    omega
  · by_cases same : other = block
    · subst same
      exact fun _ => owned other real (owner real)
    · simpa [count_singleton, Ne.symm same] using owned other real

theorem Exact.touch_one
    (member : block ∈ poolBlocks numBlocks) :
    ∃ queue, (if pool.refCnt block = 0 ∧ ¬block.isNull then pool.freeBlockQueue.remove block
        else pure pool.freeBlockQueue) = .ok queue ∧
      Exact numBlocks { pool.addRef block 1 with freeBlockQueue := queue }
        fun other => owners other + [block].count other := by
  by_cases isFree : pool.refCnt block = 0 ∧ ¬block.isNull
  · obtain ⟨⟨_, represents, free_iff⟩, refs, owned⟩ := exact
    have real : block ≠ .nullBlock := by simpa using isFree.2
    have unowned : owners block = 0 := by
      have count := refs block real
      omega
    obtain ⟨front, back, rfl⟩ := append_of_mem ((free_iff block).mpr ⟨member, real, unowned⟩)
    obtain ⟨queue, removed, represents'⟩ := remove_represents represents
    have nodup := represents.disjoint.2.2
    rw [if_pos isFree]
    refine ⟨queue, removed, ⟨front ++ back, represents', fun other => ?_⟩, fun other real' => ?_,
      fun other real' => ?_⟩
    · have free_iff := free_iff other
      by_cases same : other = block
      · subst same
        simp only [nodup_middle, nodup_cons] at nodup
        simpa using nodup.1
      · simpa [same, count_singleton, Ne.symm same] using free_iff
    · show (pool.addRef block 1).refCnt other = _
      rw [addRef_refCnt, refs other real']
      omega
    · by_cases same : other = block
      · subst same
        exact fun _ => member
      · simpa [count_singleton, Ne.symm same] using owned other real'
  · rw [if_neg isFree]
    refine ⟨_, rfl, exact.addRef block fun real => ?_⟩
    intro unowned
    apply isFree
    have count := exact.refs block real
    exact ⟨by omega, by simpa using real⟩

theorem Exact.touch (blocks : List BlockRef)
    (members : ∀ block ∈ blocks, block ∈ poolBlocks numBlocks) :
    ∃ after, pool.touch blocks = .ok after ∧
      after.Exact numBlocks fun block => owners block + blocks.count block := by
  induction blocks generalizing pool owners with
  | nil => exact ⟨pool, rfl, by simpa using exact⟩
  | cons block rest ih =>
    obtain ⟨_, removed, exact'⟩ := exact.touch_one (members block mem_cons_self)
    obtain ⟨after, run, exact''⟩ :=
      ih exact' fun other member => members other (mem_cons_of_mem block member)
    refine ⟨after, ?_, exact''.owners_congr fun other _ => ?_⟩
    · rw [BlockPool.touch]
      split_ifs at removed ⊢
      · rw [removed]
        exact run
      · cases removed
        exact run
    · rw [count_cons_add]
      omega

end

theorem releaseRefs_frame (pool : BlockPool H) (blocks : List BlockRef) :
    ∃ refCnt, (pool.releaseRefs blocks).2.2 = { pool with refCnt } ∧
      ∀ block, refCnt block = pool.refCnt block - blocks.count block := by
  induction blocks generalizing pool with
  | nil => exact ⟨pool.refCnt, rfl, by simp⟩
  | cons block rest ih =>
    obtain ⟨refCnt, released, counts⟩ := ih (pool.addRef block (-1))
    refine ⟨refCnt, ?_, fun other => ?_⟩
    · unfold releaseRefs
      dsimp only
      split_ifs <;> exact released
    · have counted := count_cons_add block other rest
      rw [counts, addRef_refCnt]
      omega

theorem count_releaseRefs (pool : BlockPool H) (blocks : List BlockRef)
    (enough : ∀ block, block ≠ .nullBlock → (blocks.count block : Int) ≤ pool.refCnt block)
    (other : BlockRef) :
    ((pool.releaseRefs blocks).1 ++ (pool.releaseRefs blocks).2.1).count other =
      if 0 < blocks.count other ∧ other ≠ .nullBlock ∧ pool.refCnt other = blocks.count other
      then 1 else 0 := by
  induction blocks generalizing pool with
  | nil => simp [releaseRefs]
  | cons block rest ih =>
    have counts (other : BlockRef) := addRef_refCnt pool block other (-1)
    have split (other : BlockRef) := count_cons_add block other rest
    have later := ih (pool.addRef block (-1)) fun other real => by
      have := enough other real
      rw [counts, split] at *
      omega
    simp only [releaseRefs]
    generalize (pool.addRef block (-1)).releaseRefs rest = result at later ⊢
    obtain ⟨withoutHash, withHash, _⟩ := result
    simp only [count_append, counts] at later
    have enough := enough other
    rw [split] at enough ⊢
    by_cases same : other = block
    · subst same
      have self : [other].count other = 1 := by simp
      simp only [counts, self, isNull_eq_true] at *
      split_ifs at * <;> simp only [count_append, count_cons_self] <;> grind
    · have apart : [block].count other = 0 := by simp [Ne.symm same]
      rw [apart] at later ⊢
      split_ifs <;> simp_all [Ne.symm same]

theorem Exact.freeBlocks
    (exact : pool.Exact numBlocks fun block => owners block + blocks.count block) :
    ∃ after, pool.freeBlocks blocks = .ok after ∧ after.Exact numBlocks owners := by
  obtain ⟨⟨free, represents, free_iff⟩, refs, owned⟩ := exact
  have collected := count_releaseRefs pool blocks fun block real => by
    rw [refs block real]
    omega
  obtain ⟨_, released, refCnt⟩ := releaseRefs_frame pool blocks
  rcases run : pool.releaseRefs blocks with ⟨withoutHash, withHash, after⟩
  rw [run] at collected released
  have all : (fakeFreeListHead ::
      (withoutHash ++ free ++ withHash ++ [.fakeFreeListTail])).Nodup := by
    rw [nodup_iff_count_le_one]
    intro block
    have once := nodup_iff_count_le_one.mp represents.nodup block
    have collected := collected block
    simp only [count_append, count_cons, count_nil] at *
    split_ifs at collected with last
    · have member := owned block last.2.1 (by omega)
      have sentinels := not_mem_sentinel numBlocks
      have apart : free.count block = 0 :=
        List.count_eq_zero.mpr (mt (free_iff block).mp (by omega))
      grind
    · omega
  have front : (fakeFreeListHead :: (withoutHash ++ free ++ [.fakeFreeListTail])).Nodup :=
    all.sublist (((sublist_append_left _ withHash).append_right _).cons_cons _)
  obtain ⟨_, first, represents'⟩ := prependN_represents represents front
  obtain ⟨appended, second, represents''⟩ := appendN_represents represents' all
  refine ⟨{ after with freeBlockQueue := appended }, ?_,
    ⟨_, represents'', fun block => ?_⟩, fun block real => ?_, fun block real nonzero => ?_⟩
  · subst released
    simp [BlockPool.freeBlocks, run, first, second]
  · have collected := collected block
    have free_iff := free_iff block
    rw [← List.count_pos_iff] at free_iff ⊢
    simp only [count_append] at collected ⊢
    by_cases null : block = .nullBlock
    · grind
    · have refs := refs block null
      have owned := owned block null
      grind
  · subst released
    dsimp only
    rw [refCnt, refs block real]
    omega
  · exact owned block real (by omega)

structure Released (pool after : BlockPool H) (before now : BlockRef → Nat) :
    Prop where
  rest : after = { pool with refCnt := after.refCnt, freeBlockQueue := after.freeBlockQueue }
  null : after.refCnt .nullBlock = pool.refCnt .nullBlock
  refCnt : ∀ block, block ≠ .nullBlock →
    after.refCnt block + before block = pool.refCnt block + now block

theorem Released.refl (pool : BlockPool H) (counts : BlockRef → Nat) :
    Released pool pool counts counts :=
  ⟨rfl, rfl, fun _ _ => rfl⟩

theorem Released.trans {middle : BlockPool H} {a b c d before now : BlockRef → Nat}
    (first : Released pool middle a b) (second : Released middle after c d)
    (sum : ∀ block, before block + b block + d block = now block + a block + c block) :
    Released pool after before now where
  rest := by rw [second.rest, first.rest]
  null := second.null.trans first.null
  refCnt block real := by
    have earlier := first.refCnt block real
    have later := second.refCnt block real
    have sum := sum block
    omega

theorem freeBlocks_released {blocks : List BlockRef} {before now : BlockRef → Nat}
    (run : pool.freeBlocks blocks = .ok after) (real : .nullBlock ∉ blocks)
    (counts : ∀ block, block ≠ .nullBlock → before block = now block + blocks.count block) :
    Released pool after before now := by
  obtain ⟨_, released, refCnt⟩ := releaseRefs_frame pool blocks
  simp only [freeBlocks, released, Outcome.bind_eq_ok, Outcome.pure_eq_ok] at run
  obtain ⟨_, _, _, _, rfl⟩ := run
  refine ⟨rfl, ?_, fun block different => ?_⟩
  · have refs := refCnt .nullBlock
    rw [List.count_eq_zero.mpr real] at refs
    simpa using refs
  · have refs := refCnt block
    have counts := counts block different
    dsimp only
    omega

variable [DecidableEq H]

theorem claimBlocks_spec (pool : BlockPool H) (unowned : ∀ block ∈ blocks, pool.refCnt block = 0)
    (nodup : blocks.Nodup) :
    ∃ after, pool.claimBlocks blocks = .ok after ∧
      after.freeBlockQueue = pool.freeBlockQueue ∧
      ∀ block, after.refCnt block = pool.refCnt block + blocks.count block := by
  induction blocks generalizing pool with
  | nil => exact ⟨pool, rfl, rfl, by simp⟩
  | cons block rest ih =>
    obtain ⟨fresh, nodup⟩ := List.nodup_cons.mp nodup
    have counts (other : BlockRef) : (pool.addRef block 1).refCnt other =
        pool.refCnt other + [block].count other := by
      rw [addRef_refCnt]
      omega
    obtain ⟨after, run, queue, refCnt⟩ := ih
      { pool.addRef block 1 with
        index :=
          if pool.config.enableCaching then pool.index.maybeEvictCachedBlock pool.config block
          else pool.index }
      (fun other member => by
        have different : other ≠ block := fun same => fresh (same ▸ member)
        have zero := unowned other (mem_cons_of_mem block member)
        rw [counts, zero]
        simp [Ne.symm different]) nodup
    refine ⟨after, ?_, queue, fun other => ?_⟩
    · have zero := unowned block mem_cons_self
      simp [claimBlocks, zero, run]
    · rw [refCnt, counts, count_cons_add block other rest]
      omega

theorem Exact.getNewBlocks (exact : pool.Exact numBlocks owners) {count : Nat}
    (enough : (count : Int) ≤ pool.getNumFreeBlocks) :
    ∃ blocks after, pool.getNewBlocks count = .ok (blocks, after) ∧ blocks.length = count ∧
      (∀ block ∈ blocks, block ∈ poolBlocks numBlocks ∧ block ≠ .nullBlock ∧ owners block = 0) ∧
      after.Exact numBlocks fun block => owners block + blocks.count block := by
  obtain ⟨⟨free, represents, free_iff⟩, refs, owned⟩ := exact
  have bound : count ≤ free.length := by
    rw [getNumFreeBlocks, represents.count] at enough
    omega
  have shape : free = free.take count ++ free.drop count := (take_append_drop _ _).symm
  generalize takenEq : free.take count = taken at shape
  generalize backEq : free.drop count = back at shape
  have length : taken.length = count := by
    rw [← takenEq, length_take]
    omega
  subst shape
  obtain ⟨queue, popped, represents'⟩ := popleftN_represents represents
  have nodup := represents.disjoint.2.2
  obtain ⟨nodupTaken, _, _⟩ := List.nodup_append.mp nodup
  have fresh (block : BlockRef) (member : block ∈ taken) :
      block ∈ poolBlocks numBlocks ∧ block ≠ .nullBlock ∧ owners block = 0 :=
    (free_iff block).mp (mem_append_left back member)
  obtain ⟨after, run, queue', refCnt⟩ := claimBlocks_spec
    { pool with freeBlockQueue := queue }
    (fun block member => by
      obtain ⟨_, real, unowned⟩ := fresh block member
      rw [refs block real, unowned]
      rfl) nodupTaken
  refine ⟨taken, after, ?_, length, fresh,
    ⟨back, by rw [queue']; exact represents', fun block => ?_⟩, fun block real => ?_,
    fun block real nonzero => ?_⟩
  · rw [length] at popped
    simp [BlockPool.getNewBlocks, Int.not_lt.mpr enough, popped, run]
  · have free_iff := free_iff block
    by_cases member : block ∈ taken
    · have := List.count_pos_iff.mpr member
      grind
    · have := List.count_eq_zero.mpr member
      grind
  · rw [refCnt, refs block real]
    omega
  · by_cases member : block ∈ taken
    · exact (fresh block member).1
    · rw [List.count_eq_zero.mpr member] at nonzero
      exact owned block real nonzero

theorem Exact.of_getNewBlocks (exact : pool.Exact numBlocks owners) {count : Int}
    (positive : 0 ≤ count) (run : pool.getNewBlocks count = .ok (blocks, after)) :
    (blocks.length : Int) = count ∧
      (∀ block ∈ blocks, block ∈ poolBlocks numBlocks ∧ block ≠ .nullBlock ∧ owners block = 0) ∧
      after.Exact numBlocks fun block => owners block + blocks.count block := by
  obtain ⟨count, rfl⟩ := Int.eq_ofNat_of_zero_le positive
  by_cases enough : (count : Int) ≤ pool.getNumFreeBlocks
  · obtain ⟨_, _, run', length, fresh, exact'⟩ := exact.getNewBlocks enough
    rw [run'] at run
    cases run
    exact ⟨by rw [length], fresh, exact'⟩
  · rw [BlockPool.getNewBlocks, if_pos (by omega)] at run
    cases run

end BlockPool

end VllmEngine

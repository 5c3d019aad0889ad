import VllmEngine.Offload.PoolAccounting

set_option autoImplicit false

namespace VllmEngine

open Outcome Prod CachePolicy BlockStatus

variable {Key : Type} [DecidableEq Key]

structure PrepareStoreOutput.Allocates {Key : Type} (output : PrepareStoreOutput Key)
    (keys : List Key) : Prop where
  chosen : output.keysToStore.Sublist keys
  matched : output.storeSpec.length = output.keysToStore.length
  distinct : output.storeSpec.Nodup

namespace CPUOffloadingManager

variable {manager after : CPUOffloadingManager Key} {readers writers : List Key}
  {policy : CachePolicy Key} {keys : List Key}

omit [DecidableEq Key] in
theorem allocateBlocks_spec {used : List Nat} {count : Nat}
    (ids : (used ++ manager.freeList).Perm (List.range manager.numAllocatedBlocks))
    (bound : manager.numAllocatedBlocks ≤ manager.numBlocks)
    (room : (count : Int) ≤ manager.getNumFreeBlocks) :
    ∃ blocks numAllocated freeList, manager.allocateBlocks count =
        .ok (blocks, { manager with numAllocatedBlocks := numAllocated, freeList := freeList }) ∧
      blocks.length = count ∧ (∀ block ∈ blocks, block.refCnt = -1) ∧
      (blocks.map blockId ++ used ++ freeList).Perm (List.range numAllocated) ∧
      numAllocated ≤ manager.numBlocks := by
  unfold getNumFreeBlocks at room
  unfold allocateBlocks
  generalize fresh : min count (manager.numBlocks - manager.numAllocatedBlocks) = numFresh
  have enough : count - numFresh ≤ manager.freeList.length := by omega
  simp only [pyAssert, decide_eq_true enough, if_true, ok_bind]
  refine ⟨_, _, _, rfl, ?_, ?_, ?_, ?_⟩
  · simp
    omega
  · intro block member
    obtain ⟨_, _, rfl⟩ := List.mem_map.mp member
    rfl
  · -- The reused ids are the end of the free list.
    generalize kept : manager.freeList.length - (count - numFresh) = left
    have reused : manager.freeList.reverse.take (count - numFresh) =
        (manager.freeList.drop left).reverse := by
      rw [List.take_reverse, kept]
    have split : (manager.freeList.drop left ++ manager.freeList.take left).Perm
        manager.freeList := by
      refine List.perm_append_comm.trans ?_
      rw [List.take_append_drop]
    rw [List.map_map, reused]
    have same : (BlockStatus.blockId ∘ BlockStatus.create) = id := rfl
    have longer : List.range (manager.numAllocatedBlocks + numFresh) =
        List.range manager.numAllocatedBlocks ++
          List.range' manager.numAllocatedBlocks numFresh := by
      rw [List.range_eq_range', List.range_eq_range', ← List.range'_append_1, Nat.zero_add]
    rw [same, List.map_id, longer, List.perm_iff_count]
    intro id
    have old := ids.count_eq id
    have both := split.count_eq id
    simp only [List.count_append, List.count_reverse] at old both ⊢
    omega
  · omega

theorem insertAll_spec {entries : List (Key × BlockStatus)}
    (wellFormed : policy.WellFormed) (distinct : (entries.map fst).Nodup)
    (absent : ∀ entry ∈ entries, entry.1 ∉ policy.held.map fst) :
    (entries.foldl (fun policy entry => policy.insert entry.1 entry.2) policy).WellFormed ∧
      (entries.foldl (fun policy entry => policy.insert entry.1 entry.2) policy).held.Perm
        (entries ++ policy.held) := by
  induction entries generalizing policy with
  | nil => exact ⟨wellFormed, List.Perm.refl _⟩
  | cons entry rest ih =>
    obtain ⟨missing, others⟩ := List.forall_mem_cons.mp absent
    obtain ⟨different, distinct⟩ := List.nodup_cons.mp distinct
    obtain ⟨kept, longer⟩ := insert_spec wellFormed missing
    have still : ∀ other ∈ rest, other.1 ∉ (policy.insert entry.1 entry.2).held.map fst := by
      intro other member
      rw [(longer.map fst).mem_iff, List.map_cons, List.mem_cons, not_or]
      refine ⟨fun same => different ?_, others other member⟩
      exact List.mem_map.mpr ⟨other, member, same⟩
    obtain ⟨final, all⟩ := ih kept distinct still
    refine ⟨final, all.trans ?_⟩
    exact (longer.append_left rest).trans List.perm_middle

theorem Serves.store (serves : manager.Serves readers writers) {keysToStore : List Key}
    (distinct : keysToStore.Nodup) (absent : ∀ key ∈ keysToStore, key ∉ manager.policy.held.map fst)
    {blocks : List BlockStatus} (length : blocks.length = keysToStore.length)
    (pending : ∀ block ∈ blocks, block.refCnt = -1) (wellFormed : policy.WellFormed)
    (held : policy.held.Perm (keysToStore.zip blocks ++ manager.policy.held))
    {numAllocated : Nat} {freeList : List Nat}
    (ids : (blocks.map blockId ++ blockIds manager.policy.held ++ freeList).Perm
      (List.range numAllocated))
    (bound : numAllocated ≤ manager.numBlocks) :
    Serves
      { manager with
        numAllocatedBlocks := numAllocated
        freeList := freeList
        policy := policy
        numWritePendingBlocks := manager.numWritePendingBlocks + keysToStore.length }
      readers (keysToStore ++ writers) := by
  have keys : (keysToStore.zip blocks).map fst = keysToStore :=
    List.map_fst_zip (Nat.le_of_eq length.symm)
  have values : (keysToStore.zip blocks).map snd = blocks := List.map_snd_zip (Nat.le_of_eq length)
  have new : ∀ entry ∈ keysToStore.zip blocks, entry.1 ∈ keysToStore ∧ entry.2.refCnt = -1 := by
    intro entry member
    constructor
    · exact List.of_mem_zip member |>.1
    · exact pending entry.2 (List.of_mem_zip member).2
  have old : ∀ entry ∈ manager.policy.held, entry.1 ∉ keysToStore := by
    intro entry member listed
    exact absent entry.1 listed (List.mem_map.mpr ⟨entry, member, rfl⟩)
  have cases : ∀ entry ∈ policy.held,
      entry ∈ keysToStore.zip blocks ∨ entry ∈ manager.policy.held :=
    fun entry member => List.mem_append.mp (held.mem_iff.mp member)
  refine ⟨⟨wellFormed, ?_, bound, ?_, ?_⟩, ?_, ?_, ?_, ?_, ?_⟩
  · refine List.Perm.trans (List.Perm.append_right _ ?_) ids
    have mapped : (blockIds policy.held).Perm
        (blockIds (keysToStore.zip blocks) ++ blockIds manager.policy.held) := by
      unfold blockIds
      rw [← List.map_append]
      exact held.map _
    have zipped : blockIds (keysToStore.zip blocks) = blocks.map blockId := by
      conv_rhs => rw [← values, List.map_map]
      rfl
    rwa [zipped] at mapped
  · have counted := serves.evictable
    have none : (keysToStore.zip blocks).countP (fun entry => entry.2.refCnt = 0) = 0 :=
      List.countP_eq_zero.mpr fun entry member => by simp [(new entry member).2]
    unfold countRefCnt at counted ⊢
    rw [held.countP_eq, List.countP_append, none, Nat.zero_add]
    exact counted
  · have counted := serves.pending
    have all : (keysToStore.zip blocks).countP (fun entry => entry.2.refCnt = -1) =
        keysToStore.length := by
      rw [List.countP_eq_length.mpr fun entry member => by simpa using (new entry member).2,
        List.length_zip, length, Nat.min_self]
    unfold countRefCnt at counted ⊢
    rw [held.countP_eq, List.countP_append, all]
    dsimp only
    omega
  · intro entry member
    rcases cases entry member with stored | before
    · rw [if_pos (List.mem_append_left _ (new entry stored).1)]
      exact (new entry stored).2
    · rw [serves.status entry before]
      simp only [List.mem_append, old entry before, false_or]
  · intro entry member
    rcases cases entry member with stored | before
    · rw [(new entry stored).2]
      decide
    · exact serves.small entry before
  · intro key listed
    rw [(held.map fst).mem_iff, List.map_append, keys, List.mem_append]
    rcases listed with reading | writing
    · exact .inr (serves.held key (.inl reading))
    · rcases List.mem_append.mp writing with storing | before
      · exact .inl storing
      · exact .inr (serves.held key (.inr before))
  · intro key writing reading
    rcases List.mem_append.mp writing with storing | before
    · exact absent key storing (serves.held key (.inl reading))
    · exact serves.unread key before reading
  · refine List.nodup_append.mpr ⟨distinct, serves.distinct, ?_⟩
    rintro key storing _ before rfl
    exact absent key storing (serves.held key (.inr before))

structure StoreKeeps (manager : CPUOffloadingManager Key) (keys : List Key)
    (output : Option (PrepareStoreOutput Key)) (after : CPUOffloadingManager Key) : Prop where
  busy : ∀ entry ∈ manager.policy.held, entry.2.refCnt ≠ 0 → entry ∈ after.policy.held
  passed : ∀ entry ∈ manager.policy.held, entry.1 ∈ keys → entry ∈ after.policy.held
  refused : output = none → after.policy = manager.policy ∧ after.freeList = manager.freeList ∧
    after.numAllocatedBlocks = manager.numAllocatedBlocks ∧
    after.numEvictableCacheBlocks = manager.numEvictableCacheBlocks ∧
    after.numWritePendingBlocks = manager.numWritePendingBlocks

def Protects (manager : CPUOffloadingManager Key) (keys : List Key) : Prop :=
  ((manager.storing keys).length : Int) ≤ manager.getNumFreeBlocks ∨
    ∀ key ∈ keys, ∀ block, manager.policy.get key = some block → block.refCnt = 0 →
      key ∈ manager.wanted keys

section

variable (serves : manager.Serves readers writers)

include serves

theorem Serves.of_statistics (skipped : Nat)
    (sizes : List Nat) :
    Serves
      { manager with
        storesSkippedInCurrentBatch := skipped
        allocationSizesInCurrentBatch := sizes }
      readers writers :=
  ⟨⟨serves.wellFormed, serves.ids, serves.bound, serves.evictable, serves.pending⟩, serves.status,
    serves.small, serves.held, serves.unread, serves.distinct⟩

theorem storing_spec (keys : List Key) :
    (manager.storing keys).Sublist keys ∧
      ∀ key ∈ manager.storing keys, key ∉ manager.policy.held.map fst := by
  have wanted : (manager.wanted keys).Sublist keys := by
    unfold CPUOffloadingManager.wanted
    split
    · exact List.Sublist.refl keys
    · exact List.filter_sublist
  refine ⟨List.filter_sublist.trans wanted, fun key member => ?_⟩
  have missing := (List.mem_filter.mp member).2
  rw [Option.isNone_iff_eq_none] at missing
  exact (get_eq_none_iff serves.wellFormed).mp missing

theorem prepareStore_spec (keys : List Key) :
    ∃ output after, manager.prepareStore keys = .ok (output, after) ∧
      (∀ answer ∈ output, answer.Allocates keys) ∧ (keys.Nodup →
        after.Serves readers ((output.map PrepareStoreOutput.keysToStore).getD [] ++ writers) ∧
        (manager.Protects keys → manager.StoreKeeps keys output after)) := by
  obtain ⟨chosen, absent⟩ := storing_spec serves keys
  unfold prepareStore
  dsimp only
  by_cases nothing : manager.storing keys = []
  · rw [if_pos nothing]
    refine ⟨_, _, rfl, ?_, fun _ => ⟨serves.of_statistics _ _, fun _ => ⟨?_, ?_, by simp⟩⟩⟩
    · intro _ made
      cases made
      exact ⟨List.nil_sublist keys, rfl, List.nodup_nil⟩
    · exact fun entry member _ => member
    · exact fun entry member _ => member
  rw [if_neg nothing]
  have counting := serves.of_statistics
    (manager.storesSkippedInCurrentBatch + (keys.length - (manager.wanted keys).length))
    (manager.allocationSizesInCurrentBatch ++ [(manager.storing keys).length])
  obtain ⟨result, made, spec⟩ := makeRoom_spec counting (manager.wanted keys) (manager.storing keys)
  rw [made, ok_bind]
  cases result with
  | none =>
    refine ⟨none, _, rfl, fun _ made => (by cases made), fun _ => ⟨counting, fun _ => ⟨?_, ?_,
      fun _ => ⟨rfl, rfl, rfl, rfl, rfl⟩⟩⟩⟩
    · exact fun entry member _ => member
    · exact fun entry member _ => member
  | some result =>
    obtain ⟨toEvict, cleared⟩ := result
    obtain ⟨serving, room⟩ := spec toEvict cleared rfl
    obtain ⟨blocks, _, _, allocated, length, pending, ids, bound⟩ :=
      allocateBlocks_spec serving.ids serving.bound room.room
    have stillAbsent : ∀ key ∈ manager.storing keys, key ∉ cleared.policy.held.map fst := by
      intro key member inside
      obtain ⟨entry, held, rfl⟩ := List.mem_map.mp inside
      exact absent entry.1 member (List.mem_map.mpr ⟨entry, room.fewer entry held, rfl⟩)
    dsimp only
    rw [allocated, ok_bind]
    simp only [decide_eq_true length]
    refine ⟨_, _, rfl, ?_, fun distinct => ?_⟩
    · intro _ made
      cases made
      have handedOut := ids.nodup_iff.mpr List.nodup_range
      rw [List.append_assoc, List.nodup_append] at handedOut
      exact ⟨chosen, by rw [List.length_map, length], handedOut.1⟩
    have storingDistinct := chosen.nodup distinct
    have names : ((manager.storing keys).zip blocks).map fst = manager.storing keys :=
      List.map_fst_zip (Nat.le_of_eq length.symm)
    obtain ⟨wellFormed, held⟩ := insertAll_spec serving.wellFormed
      (names.symm ▸ storingDistinct)
      (fun entry member => stillAbsent entry.1 (List.of_mem_zip member).1)
    refine ⟨serving.store storingDistinct stillAbsent length pending wellFormed held ids bound,
      fun protects => ⟨fun entry member busy => ?_, fun entry member listed => ?_,
        fun none => by cases none⟩⟩
    · exact held.mem_iff.mpr (List.mem_append_right _ (room.busy entry member busy))
    · apply held.mem_iff.mpr
      apply List.mem_append_right
      rcases protects with enough | wanted
      · have same := room.unneeded enough
        rw [same]
        exact member
      · by_cases idle : entry.2.refCnt = 0
        · refine room.spared entry member (wanted entry.1 listed entry.2 ?_ idle)
          exact (get_eq_some_iff serves.wellFormed).mpr member
        · exact room.busy entry member idle

end

theorem resetCache_serves (manager : CPUOffloadingManager Key) :
    manager.resetCache.Serves [] [] := by
  obtain ⟨wellFormed, empty⟩ := clear_spec manager.policy
  have none : manager.resetCache.policy.held = [] := empty
  refine ⟨⟨wellFormed, ?_, Nat.zero_le _, ?_, ?_⟩, ?_, ?_, ?_, nofun, List.nodup_nil⟩
  · rw [none]
    exact List.Perm.refl _
  · rw [none]
    rfl
  · rw [none]
    rfl
  · rw [none]
    exact nofun
  · rw [none]
    exact nofun
  · rintro _ (reading | writing)
    · cases reading
    · cases writing

end CPUOffloadingManager

namespace OffloadPool

open CPUOffloadingManager

structure Exact (pool : OffloadPool Key) : Prop where
  ids : (blockIds pool.manager.policy.held ++ pool.manager.freeList).Perm
    (List.range pool.manager.numAllocatedBlocks)
  bound : pool.manager.numAllocatedBlocks ≤ pool.manager.numBlocks
  evictable : pool.manager.numEvictableCacheBlocks = countRefCnt 0 pool.manager.policy.held
  pending : pool.manager.numWritePendingBlocks = countRefCnt (-1) pool.manager.policy.held

def Proper (pool : OffloadPool Key) : OffloadPoolOp Key → Prop
  | .lookup _ => pool.manager.counts = none ∨ 0 < pool.manager.maxTrackerSize
  | .prepareLoad keys => ∀ key ∈ keys, ∀ block, pool.manager.policy.get key = some block →
      block.refCnt + keys.count key < 2 ^ 31
  | .prepareStore keys => pool.manager.Protects keys
  | _ => True

def Keeps (pool : OffloadPool Key) : OffloadPoolOp Key → Prop
  | .prepareStore keys => ∀ output after, pool.manager.prepareStore keys = .ok (output, after) →
      pool.manager.StoreKeeps keys output after
  | _ => True

def Serves (pool : OffloadPool Key) : Prop :=
  pool.manager.Serves pool.loads.flatten pool.stores.flatten

variable {pool : OffloadPool Key}

theorem Serves.exact (serves : pool.Serves) : pool.Exact :=
  ⟨serves.ids, serves.bound, serves.evictable, serves.pending⟩

def Unissued (error : Option PyError) : Prop := error = none

theorem track_ok {counts : OrderedDict Key Int} {maxTrackerSize : Int} (room : 0 < maxTrackerSize)
    (key : Key) : ∃ next, track counts maxTrackerSize key = .ok next := by
  unfold track
  cases counts.get? key with
  | some count => exact ⟨_, rfl⟩
  | none =>
    by_cases full : maxTrackerSize ≤ counts.keys.length
    · rw [if_pos full]
      cases popped : counts.popFirst? with
      | some rest => exact ⟨_, rfl⟩
      | none =>
        rw [OrderedDict.popFirst?_eq_none_iff] at popped
        simp only [OrderedDict.keys, popped, List.map_nil, List.length_nil] at full
        omega
    · rw [if_neg full]
      exact ⟨_, rfl⟩

theorem lookup_ensures (serves : pool.Serves) (key : Key) (proper : pool.Proper (.lookup key)) :
    Outcome.Ensures Unissued Serves (pool.step (.lookup key)) := by
  have tracked : ∃ counts, pool.manager.trackLookup key =
      .ok { pool.manager with counts := counts } := by
    unfold trackLookup
    cases found : pool.manager.counts with
    | none =>
      exact ⟨pool.manager.counts, rfl⟩
    | some counts =>
      have room : 0 < pool.manager.maxTrackerSize := by
        rcases proper with absent | room
        · rw [found] at absent
          cases absent
        · exact room
      obtain ⟨next, tracked⟩ := @track_ok _ _ counts _ room key
      refine ⟨some next, ?_⟩
      dsimp only
      rw [tracked]
      rfl
  obtain ⟨counts, tracked⟩ := tracked
  rw [step, lookup, tracked]
  exact ⟨⟨serves.wellFormed, serves.ids, serves.bound, serves.evictable, serves.pending⟩,
    serves.status, serves.small, serves.held, serves.unread, serves.distinct⟩

theorem touch_ensures (serves : pool.Serves) (keys : List Key) :
    Outcome.Ensures Unissued Serves (pool.step (.touch keys)) := by
  obtain ⟨wellFormed, same⟩ := touch_spec serves.wellFormed keys
  have same : pool.manager.policy.held.Perm ([] ++ (pool.manager.policy.touch keys).held) :=
    same.symm
  have kept := CPUOffloadingManager.Serves.drop serves wellFormed same (List.Sublist.refl _) (fun _ writing _ => writing) nofun
    (Int.add_zero _) (Int.add_zero _)
  rw [blockIds, List.map_nil, List.append_nil] at kept
  exact Outcome.Ensures.of_ok kept

theorem prepareLoad_ensures (serves : pool.Serves) (keys : List Key)
    (proper : pool.Proper (.prepareLoad keys)) :
    Outcome.Ensures Unissued Serves (pool.step (.prepareLoad keys)) := by
  rw [step]
  by_cases loadable : keys.all pool.loadable = true
  · rw [if_pos loadable]
    have stored : ∀ key ∈ keys, ∃ block, pool.manager.policy.get key = some block ∧
        (key, block) ∈ pool.manager.policy.held ∧ 0 ≤ block.refCnt := by
      intro key member
      have ready := List.all_eq_true.mp loadable key member
      unfold OffloadPool.loadable at ready
      cases found : pool.manager.policy.get key with
      | none => simp [found] at ready
      | some block =>
        refine ⟨block, rfl, (get_eq_some_iff serves.wellFormed).mp found, ?_⟩
        simpa [found, isReady] using ready
    have unwritten : ∀ key ∈ keys, key ∉ pool.stores.flatten := by
      intro key member writing
      obtain ⟨block, _, inside, ready⟩ := stored key member
      have status := serves.status _ inside
      rw [if_pos writing] at status
      dsimp only at status
      omega
    obtain ⟨_, done, served⟩ := prepareLoad_spec serves
      (fun key member => (stored key member).elim fun block found =>
        List.mem_map.mpr ⟨_, found.2.1, rfl⟩)
      unwritten
      (fun key member => by
        obtain ⟨block, found, inside, _⟩ := stored key member
        have small := proper key member block found
        have status := serves.status _ inside
        dsimp only at status
        omega)
    rw [done]
    exact served
  · rw [if_neg loadable]
    rfl

omit [DecidableEq Key] in
theorem flatten_perm_erase [BEq Key] [LawfulBEq Key] {jobs : List (List Key)} {keys : List Key}
    (member : keys ∈ jobs) : jobs.flatten.Perm (keys ++ (jobs.erase keys).flatten) :=
  (List.perm_cons_erase member).flatten

section

variable (serves : pool.Serves)

include serves

theorem completeLoad_ensures (keys : List Key) :
    Outcome.Ensures Unissued Serves (pool.step (.completeLoad keys)) := by
  rw [step]
  by_cases issued : keys ∈ pool.loads
  · rw [if_pos issued]
    obtain ⟨_, done, served⟩ := completeLoad_spec
      (serves.of_perm (flatten_perm_erase issued) (List.Perm.refl _))
    rw [done]
    exact served
  · rw [if_neg issued]
    rfl

theorem completeStore_ensures (keys : List Key) (success : Bool) :
    Outcome.Ensures Unissued Serves (pool.step (.completeStore keys success)) := by
  rw [step]
  by_cases issued : keys ∈ pool.stores
  · rw [if_pos issued]
    obtain ⟨_, done, served⟩ := completeStore_spec success
      (serves.of_perm (List.Perm.refl _) (flatten_perm_erase issued))
    rw [done]
    exact served
  · rw [if_neg issued]
    rfl

theorem prepareStore_ensures (keys : List Key) :
    Outcome.Ensures Unissued Serves (pool.step (.prepareStore keys)) := by
  rw [step]
  by_cases distinct : keys.Nodup
  · rw [if_pos distinct]
    obtain ⟨output, _, done, _, spec⟩ := prepareStore_spec serves keys
    obtain ⟨served, _⟩ := spec distinct
    rw [done]
    cases output with
    | none => exact served
    | some output => exact served
  · rw [if_neg distinct]
    rfl

theorem step_ensures (op : OffloadPoolOp Key) (proper : pool.Proper op) :
    Outcome.Ensures Unissued Serves (pool.step op) := by
  cases op with
  | lookup key => exact lookup_ensures serves key proper
  | touch keys => exact touch_ensures serves keys
  | prepareLoad keys => exact prepareLoad_ensures serves keys proper
  | completeLoad keys => exact completeLoad_ensures serves keys
  | prepareStore keys => exact prepareStore_ensures serves keys
  | completeStore keys success => exact completeStore_ensures serves keys success
  | resetCache => exact resetCache_serves pool.manager

theorem keeps_of_proper (op : OffloadPoolOp Key) (issued : pool.step op ≠ .error none) (proper : pool.Proper op) :
    pool.Keeps op := by
  cases op with
  | prepareStore keys =>
    intro output after prepared
    have distinct : keys.Nodup := by
      by_contra repeated
      exact issued (if_neg repeated)
    obtain ⟨_, _, done, _, spec⟩ := prepareStore_spec serves keys
    rw [prepared] at done
    obtain ⟨rfl, rfl⟩ := Prod.mk.inj (Except.ok.inj done)
    exact (spec distinct).2 proper
  | _ => trivial

end

theorem create_serves (numBlocks : Nat) (cachePolicy : CachePolicyName)
    (storeThreshold maxTrackerSize : Int) :
    (create numBlocks cachePolicy storeThreshold maxTrackerSize : OffloadPool Key).Serves := by
  cases cachePolicy with
  | lru => exact resetCache_serves (.create numBlocks .lru storeThreshold maxTrackerSize)
  | arc => exact resetCache_serves (.create numBlocks .arc storeThreshold maxTrackerSize)

theorem pool_accounts (numBlocks : Nat) (cachePolicy : CachePolicyName)
    (storeThreshold maxTrackerSize : Int) (ops : List (OffloadPoolOp Key))
    (meets : Run.Meets step Proper (create numBlocks cachePolicy storeThreshold maxTrackerSize)
      ops) :
    Run.Always step
      (fun pool => pool.Exact ∧ ∀ op, pool.Proper op → pool.step op ≠ .error none →
        (∃ next, pool.step op = .ok next) ∧ pool.Keeps op)
      (create numBlocks cachePolicy storeThreshold maxTrackerSize) ops := by
  have serving : Run.Always step Serves
      (create numBlocks cachePolicy storeThreshold maxTrackerSize : OffloadPool Key) ops := by
    refine Run.always_of_meets (fun pool op next taken proper serves => ?_) meets
      (create_serves numBlocks cachePolicy storeThreshold maxTrackerSize)
    exact (step_ensures serves op proper).result taken
  refine serving.imp fun pool serves => ⟨serves.exact, fun op proper issued => ?_⟩
  refine ⟨?_, keeps_of_proper serves op issued proper⟩
  cases ended : pool.step op with
  | ok next => exact ⟨next, rfl⟩
  | error error =>
    have none : error = none := (step_ensures serves op proper).failure ended
    rw [ended, none] at issued
    exact absurd rfl issued

theorem pool_accounts_evicting :
    Run.Always step
      (fun pool : OffloadPool Nat => pool.Exact ∧ ∀ op, pool.Proper op →
        pool.step op ≠ .error none → (∃ next, pool.step op = .ok next) ∧ pool.Keeps op)
      (create 1 .lru 1 64000)
      [.lookup 1, .prepareStore [1], .completeStore [1] true, .prepareLoad [1], .completeLoad [1],
        .prepareStore [2]] := by
  apply pool_accounts
  refine ⟨fun _ _ => .inl rfl, fun _ first => ?_⟩
  cases first
  refine ⟨fun _ _ => .inl (by decide), fun _ second => ?_⟩
  cases second
  refine ⟨fun _ _ => trivial, fun _ third => ?_⟩
  cases third
  refine ⟨fun _ _ key member block found => ?_, fun _ fourth => ?_⟩
  · obtain rfl := List.mem_singleton.mp member
    cases found
    decide
  cases fourth
  refine ⟨fun _ _ => trivial, fun _ fifth => ?_⟩
  cases fifth
  exact ⟨fun _ _ => .inr fun key member _ _ _ => member, fun _ _ => trivial⟩

def storeView (keys : List Nat) (pool : OffloadPool Nat) :
    List (Nat × BlockStatus) × Except PyError (List (Nat × BlockStatus)) :=
  (pool.manager.policy.held,
    (fun prepared => prepared.2.policy.held) <$> pool.manager.prepareStore keys)

-- Key 1 is stored and idle, but the tracker has forgotten it: a store of keys 1 and 2 filters it
-- out, does not protect it, and evicts it.
theorem pool_evicts_passed_key :
    ¬Run.Always step
      (fun pool : OffloadPool Nat => pool.Exact ∧ ∀ op,
        pool.step op ≠ .error none → (∃ next, pool.step op = .ok next) ∧ pool.Keeps op)
      (create 1 .lru 2 1)
      [.lookup 1, .lookup 1, .prepareStore [1], .completeStore [1] true, .lookup 2,
        .lookup 2] := by
  intro always
  obtain ⟨_, sound, seen⟩ := always.exists_view
    (fun pool => (storeView [1, 2] pool, (pool.step (.prepareStore [1, 2])).toBool))
    (([(1, ⟨0, 0⟩)], .ok [(2, ⟨-1, 0⟩)]), true) rfl
  simp only [storeView, Prod.mk.injEq, map_eq_ok] at seen
  obtain ⟨⟨before, ⟨output, after⟩, prepared, held⟩, issued⟩ := seen
  have kept := sound.2 (.prepareStore [1, 2]) (by
    intro refused
    rw [refused] at issued
    cases issued)
  have still := (kept.2 output after prepared).passed (1, ⟨0, 0⟩)
    (by rw [before]; exact List.mem_singleton_self _) (by decide)
  rw [held] at still
  exact absurd still (by decide)

end OffloadPool

end VllmEngine

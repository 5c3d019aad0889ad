import VllmEngine.Offload.CPUOffloadingManager
import VllmEngine.Offload.PolicySpec
import VllmEngine.Shared.Ensures

set_option autoImplicit false

namespace VllmEngine

open Outcome List CachePolicy Prod

variable {Key : Type} [DecidableEq Key]

def countRefCnt (refCnt : Int) (held : List (Key × BlockStatus)) : Nat :=
  held.countP fun entry => entry.2.refCnt = refCnt

def blockIds (held : List (Key × BlockStatus)) : List Nat :=
  held.map fun entry => entry.2.blockId

section Reassigned

variable {before after : List (Key × BlockStatus)} {key : Key} {old new : BlockStatus}

section

variable (reassigned : Reassigned before key old new after)

include reassigned

omit [DecidableEq Key] in
theorem Reassigned.count (refCnt : Int) :
    (countRefCnt refCnt after : Int) + (if old.refCnt = refCnt then 1 else 0) =
      countRefCnt refCnt before + (if new.refCnt = refCnt then 1 else 0) := by
  obtain ⟨_, first, second⟩ := reassigned
  unfold countRefCnt
  rw [first.countP_eq, second.countP_eq, countP_cons, countP_cons]
  simp only [decide_eq_true_eq]
  split <;> split <;> simp

omit [DecidableEq Key] in
theorem Reassigned.ids
    (same : new.blockId = old.blockId) : (blockIds after).Perm (blockIds before) := by
  obtain ⟨_, first, second⟩ := reassigned
  refine (second.map _).trans (List.Perm.trans ?_ (first.map _).symm)
  rw [map_cons, map_cons, same]

omit [DecidableEq Key] in
theorem Reassigned.keys :
    (after.map fst).Perm (before.map fst) := by
  obtain ⟨_, first, second⟩ := reassigned
  exact (second.map fst).trans (first.map fst).symm

omit [DecidableEq Key] in
theorem Reassigned.mem
    (distinct : (before.map fst).Nodup) {entry : Key × BlockStatus} (member : entry ∈ after) :
    entry = (key, new) ∨ (entry ∈ before ∧ entry.1 ≠ key) := by
  obtain ⟨_, first, second⟩ := reassigned
  rcases List.mem_cons.mp (second.mem_iff.mp member) with same | other
  · exact .inl same
  · refine .inr ⟨first.mem_iff.mpr (mem_cons_of_mem _ other), fun same => ?_⟩
    have distinct := (first.map fst).nodup_iff.mp distinct
    exact (List.nodup_cons.mp distinct).1 (List.mem_map.mpr ⟨entry, other, same⟩)

end

end Reassigned

namespace CPUOffloadingManager

structure Accounts (manager : CPUOffloadingManager Key) : Prop where
  wellFormed : manager.policy.WellFormed
  ids : (blockIds manager.policy.held ++ manager.freeList).Perm
    (List.range manager.numAllocatedBlocks)
  bound : manager.numAllocatedBlocks ≤ manager.numBlocks
  evictable : manager.numEvictableCacheBlocks = countRefCnt 0 manager.policy.held
  pending : manager.numWritePendingBlocks = countRefCnt (-1) manager.policy.held

-- `readers` lists the keys of the loads that are not completed, `writers` those of the stores.
structure Serves (manager : CPUOffloadingManager Key) (readers writers : List Key) : Prop
    extends Accounts manager where
  status : ∀ entry ∈ manager.policy.held,
    entry.2.refCnt = if entry.1 ∈ writers then -1 else (readers.count entry.1 : Int)
  small : ∀ entry ∈ manager.policy.held, entry.2.refCnt < 2 ^ 31
  held : ∀ key, key ∈ readers ∨ key ∈ writers → key ∈ manager.policy.held.map Prod.fst
  unread : ∀ key ∈ writers, key ∉ readers
  distinct : writers.Nodup

variable {manager after : CPUOffloadingManager Key} {readers writers : List Key} {key : Key}
  {old new : BlockStatus} {keys : List Key}

namespace Serves

variable {readers' writers' : List Key}

theorem of_perm (serves : manager.Serves readers writers)
    (sameReaders : readers.Perm readers') (sameWriters : writers.Perm writers') :
    manager.Serves readers' writers' where
  toAccounts := serves.toAccounts
  status entry member := by
    rw [serves.status entry member, sameReaders.count_eq]
    simp only [sameWriters.mem_iff]
  small := serves.small
  held key listed := by
    rw [← sameReaders.mem_iff, ← sameWriters.mem_iff] at listed
    exact serves.held key listed
  unread key member := by
    rw [← sameReaders.mem_iff]
    exact serves.unread key (sameWriters.mem_iff.mpr member)
  distinct := sameWriters.nodup_iff.mp serves.distinct

variable {policy : CachePolicy Key} {evictable pending : Int}

section

variable (serves : manager.Serves readers writers)

include serves

theorem reassign (reassigned : Reassigned manager.policy.held key old new policy.held)
    (wellFormed : policy.WellFormed) (sameId : new.blockId = old.blockId)
    (small : new.refCnt < 2 ^ 31)
    (status : new.refCnt = if key ∈ writers' then -1 else (readers'.count key : Int))
    (others : ∀ other, other ≠ key → (other ∈ writers' ↔ other ∈ writers) ∧
      readers'.count other = readers.count other) (unread : ∀ key ∈ writers', key ∉ readers')
    (distinct : writers'.Nodup)
    (idle : evictable + (if old.refCnt = 0 then 1 else 0) =
      manager.numEvictableCacheBlocks + (if new.refCnt = 0 then 1 else 0))
    (writing : pending + (if old.refCnt = -1 then 1 else 0) =
      manager.numWritePendingBlocks + (if new.refCnt = -1 then 1 else 0)) :
    Serves
      { manager with
        policy := policy
        numEvictableCacheBlocks := evictable
        numWritePendingBlocks := pending }
      readers' writers' := by
  have keys := held_keys_nodup serves.wellFormed
  have idleCount := reassigned.count 0
  have writingCount := reassigned.count (-1)
  refine ⟨⟨wellFormed, ((reassigned.ids sameId).append_right _).trans serves.ids, serves.bound,
    ?_, ?_⟩, ?_, ?_, ?_, unread, distinct⟩
  · have before := serves.evictable
    dsimp only
    omega
  · have before := serves.pending
    dsimp only
    omega
  · intro entry member
    rcases reassigned.mem keys member with rfl | ⟨inside, different⟩
    · exact status
    · obtain ⟨sameWriters, sameReaders⟩ := others entry.1 different
      rw [serves.status entry inside, sameReaders]
      simp only [sameWriters]
  · intro entry member
    rcases reassigned.mem keys member with rfl | ⟨inside, _⟩
    · exact small
    · exact serves.small entry inside
  · intro other listed
    rw [reassigned.keys.mem_iff]
    by_cases same : other = key
    · obtain ⟨_, first, _⟩ := reassigned
      rw [same]
      exact List.mem_map.mpr ⟨(key, old), first.mem_iff.mpr mem_cons_self, rfl⟩
    · apply serves.held other
      obtain ⟨sameWriters, sameReaders⟩ := others other same
      rcases listed with reading | writing
      · left
        rw [← count_pos_iff] at reading ⊢
        omega
      · exact .inr (sameWriters.mp writing)

theorem recount {refCnt : Int} (unwritten : key ∉ writers) (before : old.refCnt = readers.count key)
    (reassigned : Reassigned manager.policy.held key old ⟨refCnt, old.blockId⟩ policy.held)
    (wellFormed : policy.WellFormed) (small : refCnt < 2 ^ 31)
    (counted : refCnt = readers'.count key)
    (others : ∀ other, other ≠ key → readers'.count other = readers.count other)
    (idle : evictable + (if old.refCnt = 0 then 1 else 0) =
      manager.numEvictableCacheBlocks + (if refCnt = 0 then 1 else 0)) :
    Serves { manager with policy := policy, numEvictableCacheBlocks := evictable }
      readers' writers := by
  refine serves.reassign reassigned wellFormed rfl small ?_
    (fun other different => ⟨Iff.rfl, others other different⟩) ?_ serves.distinct idle ?_
  · rw [if_neg unwritten]
    exact counted
  · intro other writing reading
    by_cases same : other = key
    · exact unwritten (same ▸ writing)
    · rw [← count_pos_iff, others other same, count_pos_iff] at reading
      exact serves.unread other writing reading
  · rw [if_neg (by omega), if_neg (by dsimp only; omega)]

theorem drop {found : List (Key × BlockStatus)} (wellFormed : policy.WellFormed)
    (taken : manager.policy.held.Perm (found ++ policy.held)) (fewer : writers'.Sublist writers)
    (kept : ∀ key ∈ writers, key ∉ found.map fst → key ∈ writers')
    (gone : ∀ entry ∈ found, entry.1 ∉ readers ∧ entry.1 ∉ writers')
    (idle : evictable + countRefCnt 0 found = manager.numEvictableCacheBlocks)
    (writing : pending + countRefCnt (-1) found = manager.numWritePendingBlocks) :
    Serves
      { manager with
        policy := policy
        freeList := manager.freeList ++ blockIds found
        numEvictableCacheBlocks := evictable
        numWritePendingBlocks := pending }
      readers writers' := by
  have before : ∀ entry ∈ policy.held, entry ∈ manager.policy.held := fun entry member =>
    taken.mem_iff.mpr (mem_append_right _ member)
  have keys := held_keys_nodup serves.wellFormed
  rw [(taken.map fst).nodup_iff, map_append] at keys
  have counts (refCnt : Int) : countRefCnt refCnt manager.policy.held =
      countRefCnt refCnt found + countRefCnt refCnt policy.held := by
    unfold countRefCnt
    rw [taken.countP_eq, countP_append]
  refine ⟨⟨wellFormed, ?_, serves.bound, ?_, ?_⟩, ?_, ?_, ?_, ?_, fewer.nodup serves.distinct⟩
  · have ids : (blockIds manager.policy.held).Perm (blockIds found ++ blockIds policy.held) := by
      unfold blockIds
      rw [← map_append]
      exact taken.map _
    refine List.Perm.trans ?_ ((ids.append_right _).symm.trans serves.ids)
    rw [← append_assoc]
    refine List.perm_append_comm.trans ?_
    rw [append_assoc]
  · have counted := serves.evictable
    rw [counts] at counted
    dsimp only
    omega
  · have counted := serves.pending
    rw [counts] at counted
    dsimp only
    omega
  · intro entry member
    have stays : entry.1 ∉ found.map fst := fun away =>
      (List.nodup_append.mp keys).2.2 _ away _ (mem_map_of_mem member) rfl
    have same : entry.1 ∈ writers' ↔ entry.1 ∈ writers :=
      ⟨fun still => fewer.subset still, fun writing => kept entry.1 writing stays⟩
    rw [serves.status entry (before entry member)]
    simp only [same]
  · exact fun entry member => serves.small entry (before entry member)
  · intro key listed
    have wasHeld := serves.held key (listed.imp_right (fewer.subset ·))
    rw [(taken.map fst).mem_iff, map_append] at wasHeld
    refine (List.mem_append.mp wasHeld).resolve_left fun away => ?_
    obtain ⟨entry, member, rfl⟩ := List.mem_map.mp away
    exact listed.elim (gone entry member).1 (gone entry member).2
  · exact fun other still => serves.unread other (fewer.subset still)

end

end Serves

section

variable (serves : manager.Serves readers writers)

include serves

theorem Serves.exists_get (held : key ∈ manager.policy.held.map fst) :
    ∃ block, manager.policy.get key = some block ∧ (key, block) ∈ manager.policy.held ∧
      block.refCnt = if key ∈ writers then -1 else (readers.count key : Int) := by
  obtain ⟨⟨_, block⟩, inside, rfl⟩ := List.mem_map.mp held
  exact ⟨block, (get_eq_some_iff serves.wellFormed).mpr inside, inside, serves.status _ inside⟩

theorem prepareLoadKey_spec (held : key ∈ manager.policy.held.map fst)
    (unwritten : key ∉ writers) (room : readers.count key + 1 < 2 ^ 31) :
    ∃ after, manager.prepareLoadKey key = .ok after ∧ after.Serves (key :: readers) writers ∧
      (after.policy.held.map fst).Perm (manager.policy.held.map fst) := by
  obtain ⟨block, found, inside, status⟩ := serves.exists_get held
  rw [if_neg unwritten] at status
  have ready : block.isReady = true := by
    simp only [BlockStatus.isReady, decide_eq_true_eq]
    omega
  have small : block.refCnt + 1 < 2 ^ 31 := by omega
  have wrap : cInt32 (block.refCnt + 1) = block.refCnt + 1 := cInt32_of_bounds (by omega) small
  have statusAfter : block.refCnt + 1 = ((key :: readers).count key : Int) := by
    rw [count_cons_self, status]
    rfl
  have others : ∀ other, other ≠ key → (key :: readers).count other = readers.count other :=
    fun other different => count_cons_of_ne (Ne.symm different)
  unfold prepareLoadKey
  rw [found]
  dsimp only
  rw [ready, wrap]
  by_cases idle : block.refCnt = 0
  · obtain ⟨_, done, kept, reassigned⟩ := assign_claimed serves.wellFormed inside
      ⟨block.refCnt + 1, block.blockId⟩ idle (by dsimp only; omega)
    have positive : 0 ≤ manager.numEvictableCacheBlocks - 1 := by
      have some : 0 < countRefCnt 0 manager.policy.held :=
        List.countP_pos_iff.mpr ⟨_, inside, by simpa using idle⟩
      have counted := serves.evictable
      omega
    rw [if_pos idle, done]
    simp only [decide_eq_true positive]
    refine ⟨_, rfl, ?_, reassigned.keys⟩
    apply serves.recount unwritten status reassigned kept small statusAfter others
    dsimp only
    split_ifs <;> omega
  · obtain ⟨kept, reassigned⟩ := assign_busy serves.wellFormed inside
      ⟨block.refCnt + 1, block.blockId⟩ idle (by dsimp only; omega)
    rw [if_neg idle]
    refine ⟨_, rfl, ?_, reassigned.keys⟩
    apply serves.recount unwritten status reassigned kept small statusAfter others
    split_ifs <;> omega

theorem prepareLoad_spec (held : ∀ key ∈ keys, key ∈ manager.policy.held.map fst)
    (unwritten : ∀ key ∈ keys, key ∉ writers)
    (room : ∀ key ∈ keys, readers.count key + keys.count key < 2 ^ 31) :
    ∃ after, manager.prepareLoad keys = .ok after ∧ after.Serves (keys ++ readers) writers := by
  induction keys generalizing manager readers with
  | nil => exact ⟨manager, rfl, serves⟩
  | cons key rest ih =>
    obtain ⟨here, elsewhere⟩ := List.forall_mem_cons.mp held
    obtain ⟨free, others⟩ := List.forall_mem_cons.mp unwritten
    have fits := room key mem_cons_self
    rw [count_cons_self] at fits
    obtain ⟨_, first, serving, keys⟩ := prepareLoadKey_spec serves here free (by omega)
    have later : ∀ other ∈ rest, (key :: readers).count other + rest.count other < 2 ^ 31 := by
      intro other member
      have fits := room other (mem_cons_of_mem key member)
      rw [count_cons] at fits ⊢
      omega
    obtain ⟨after, done, served⟩ := ih serving
      (fun other member => keys.mem_iff.mpr (elsewhere other member)) others later
    refine ⟨after, ?_, served.of_perm perm_middle (List.Perm.refl _)⟩
    unfold prepareLoad at done ⊢
    rw [foldlM_cons, first, ok_bind, done]

theorem completeLoadKey_spec (reading : key ∈ readers) :
    ∃ after, manager.completeLoadKey key = .ok after ∧
      after.Serves (readers.erase key) writers := by
  have unwritten : key ∉ writers := fun writing => serves.unread key writing reading
  obtain ⟨block, found, inside, status⟩ := serves.exists_get (serves.held key (.inl reading))
  rw [if_neg unwritten] at status
  have some : 0 < readers.count key := List.count_pos_iff.mpr reading
  have positive : 0 < block.refCnt := by omega
  have small := serves.small _ inside
  dsimp only at small
  have wrap : cInt32 (block.refCnt - 1) = block.refCnt - 1 :=
    cInt32_of_bounds (by omega) (by omega)
  have statusAfter : block.refCnt - 1 = ((readers.erase key).count key : Int) := by
    rw [count_erase_self, status]
    omega
  have others : ∀ other, other ≠ key → (readers.erase key).count other = readers.count other :=
    fun other different => count_erase_of_ne different
  unfold completeLoadKey
  rw [found]
  dsimp only
  rw [wrap]
  simp only [decide_eq_true positive]
  by_cases last : block.refCnt - 1 = 0
  · obtain ⟨kept, reassigned⟩ := assign_released serves.wellFormed inside
      ⟨block.refCnt - 1, block.blockId⟩ last
    rw [if_pos last]
    refine ⟨_, rfl, ?_⟩
    apply serves.recount unwritten status reassigned kept (by omega) statusAfter others
    split_ifs <;> omega
  · obtain ⟨kept, reassigned⟩ := assign_busy serves.wellFormed inside
      ⟨block.refCnt - 1, block.blockId⟩ (by omega) last
    rw [if_neg last]
    refine ⟨_, rfl, ?_⟩
    apply serves.recount unwritten status reassigned kept (by omega) statusAfter others
    split_ifs <;> omega

end

theorem completeLoad_spec (serves : manager.Serves (keys ++ readers) writers) :
    ∃ after, manager.completeLoad keys = .ok after ∧ after.Serves readers writers := by
  induction keys generalizing manager with
  | nil => exact ⟨manager, rfl, serves⟩
  | cons key rest ih =>
    obtain ⟨_, first, serving⟩ := completeLoadKey_spec serves mem_cons_self
    rw [cons_append, erase_cons_head] at serving
    obtain ⟨after, done, served⟩ := ih serving
    refine ⟨after, ?_, served⟩
    unfold completeLoad at done ⊢
    rw [foldlM_cons, first, ok_bind, done]

theorem completeStoreKey_spec (success : Bool) (serves : manager.Serves readers writers)
    (writing : key ∈ writers) :
    ∃ after, manager.completeStoreKey success key = .ok after ∧
      after.Serves readers (writers.erase key) := by
  obtain ⟨block, found, inside, status⟩ := serves.exists_get (serves.held key (.inr writing))
  rw [if_pos writing] at status
  have notReady : block.isReady = false := by simp [BlockStatus.isReady, status]
  have unread := serves.unread key writing
  have done : key ∉ writers.erase key := fun again =>
    ((serves.distinct.mem_erase_iff).mp again).1 rfl
  unfold completeStoreKey
  rw [found]
  dsimp only
  rw [notReady, if_neg Bool.false_ne_true]
  cases success with
  | true =>
    obtain ⟨kept, reassigned⟩ := assign_released serves.wellFormed inside ⟨0, block.blockId⟩ rfl
    rw [if_pos rfl]
    refine ⟨_, rfl, serves.reassign reassigned kept rfl (by dsimp only; decide) ?_ ?_ ?_
      (serves.distinct.erase key) ?_ ?_⟩
    · rw [if_neg done, count_eq_zero_of_not_mem unread]
      rfl
    · intro other different
      exact ⟨mem_erase_of_ne different, rfl⟩
    · intro other still
      exact serves.unread other (mem_of_mem_erase still)
    · simp [status]
    · simp [status]
  | false =>
    obtain ⟨policy, removed, kept, rest⟩ := remove_spec serves.wellFormed inside
    rw [← singleton_append] at rest
    rw [if_neg Bool.false_ne_true, removed, ok_bind]
    refine ⟨_, rfl, serves.drop kept rest erase_sublist ?_ ?_ ?_ ?_⟩
    · intro other writing different
      rw [map_singleton, mem_singleton] at different
      exact (mem_erase_of_ne different).mpr writing
    · rintro entry member
      obtain rfl := List.mem_singleton.mp member
      exact ⟨unread, done⟩
    · simp [countRefCnt, status]
    · simp [countRefCnt, status]

theorem completeStore_spec (success : Bool) (serves : manager.Serves readers (keys ++ writers)) :
    ∃ after, manager.completeStore keys success = .ok after ∧ after.Serves readers writers := by
  induction keys generalizing manager with
  | nil => exact ⟨manager, rfl, serves⟩
  | cons key rest ih =>
    obtain ⟨_, first, serving⟩ := completeStoreKey_spec success serves mem_cons_self
    rw [cons_append, erase_cons_head] at serving
    obtain ⟨after, done, served⟩ := ih serving
    refine ⟨after, ?_, served⟩
    unfold completeStore at done ⊢
    rw [foldlM_cons, first, ok_bind, done]

theorem Serves.evict (serves : manager.Serves readers writers) {found : List (Key × BlockStatus)}
    {policy : CachePolicy Key} (wellFormed : policy.WellFormed)
    (taken : manager.policy.held.Perm (found ++ policy.held))
    (idle : ∀ entry ∈ found, entry.2.refCnt = 0) :
    Serves
      { manager with
        policy := policy
        freeList := manager.freeList ++ blockIds found
        numEvictableCacheBlocks := manager.numEvictableCacheBlocks - found.length }
      readers writers := by
  have all : countRefCnt 0 found = found.length :=
    List.countP_eq_length.mpr fun entry member => by simpa using idle entry member
  have none : countRefCnt (-1) found = 0 :=
    List.countP_eq_zero.mpr fun entry member => by simp [idle entry member]
  refine serves.drop wellFormed taken (List.Sublist.refl _) (fun _ writing _ => writing) ?_ ?_ ?_
  · -- A key with a transfer has a reference count other than 0.
    intro entry member
    have status := serves.status entry (taken.mem_iff.mpr (mem_append_left _ member))
    rw [idle entry member] at status
    split_ifs at status with writing
    exact ⟨fun reading => by have := List.count_pos_iff.mpr reading; omega, writing⟩
  · omega
  · omega

omit [DecidableEq Key] in
theorem freeBlocks_fields (manager : CPUOffloadingManager Key) (found : List (Key × BlockStatus)) :
    found.foldl (fun manager entry => manager.freeBlock entry.2) manager =
      { manager with freeList := manager.freeList ++ blockIds found } := by
  induction found generalizing manager with
  | nil => simp [blockIds]
  | cons entry rest ih =>
    rw [foldl_cons, ih]
    simp [freeBlock, blockIds]

structure MakesRoom (manager : CPUOffloadingManager Key) (keys : List Key) (count : Nat)
    (after : CPUOffloadingManager Key) : Prop where
  room : (count : Int) ≤ after.getNumFreeBlocks
  fewer : ∀ entry ∈ after.policy.held, entry ∈ manager.policy.held
  busy : ∀ entry ∈ manager.policy.held, entry.2.refCnt ≠ 0 → entry ∈ after.policy.held
  spared : ∀ entry ∈ manager.policy.held, entry.1 ∈ keys → entry ∈ after.policy.held
  unneeded : (count : Int) ≤ manager.getNumFreeBlocks → after.policy = manager.policy

theorem makeRoom_spec (serves : manager.Serves readers writers) (keys keysToStore : List Key) :
    ∃ result, manager.makeRoom keys keysToStore = .ok result ∧
      ∀ toEvict after, result = some (toEvict, after) → after.Serves readers writers ∧
        manager.MakesRoom keys keysToStore.length after := by
  unfold makeRoom
  by_cases fits : keysToStore.length - manager.getNumFreeBlocks ≤ 0
  · rw [if_pos fits]
    refine ⟨_, rfl, fun toEvict after same => ?_⟩
    obtain ⟨_, rfl⟩ := Prod.mk.inj (Option.some.inj same)
    refine ⟨serves, by omega, fun _ member => member, fun _ member _ => member,
      fun _ member _ => member, fun _ => rfl⟩
  rw [if_neg fits]
  by_cases few : manager.numEvictableCacheBlocks < keysToStore.length - manager.getNumFreeBlocks
  · rw [if_pos few]
    exact ⟨none, rfl, nofun⟩
  rw [if_neg few]
  obtain ⟨result, evicted, spec⟩ := evict_spec serves.wellFormed
    (keysToStore.length - manager.getNumFreeBlocks).toNat keys
  rw [evicted, ok_bind]
  cases result with
  | none => exact ⟨none, rfl, nofun⟩
  | some result =>
    obtain ⟨found, policy⟩ := result
    obtain ⟨kept, count, taken, idle⟩ := spec found policy rfl
    have left : 0 ≤ manager.numEvictableCacheBlocks - found.length := by omega
    simp only [decide_eq_true left, freeBlocks_fields]
    refine ⟨_, rfl, fun toEvict after same => ?_⟩
    obtain ⟨_, rfl⟩ := Prod.mk.inj (Option.some.inj same)
    refine ⟨serves.evict kept taken fun entry member => (idle entry member).1, ?_, ?_, ?_, ?_, ?_⟩
    · unfold getNumFreeBlocks at count ⊢
      simp only [blockIds, length_append, length_map]
      omega
    · exact fun entry member => taken.mem_iff.mpr (mem_append_right _ member)
    · intro entry member busy
      rcases List.mem_append.mp (taken.mem_iff.mp member) with gone | stays
      · exact absurd (idle entry gone).1 busy
      · exact stays
    · intro entry member spared
      rcases List.mem_append.mp (taken.mem_iff.mp member) with gone | stays
      · exact absurd spared (idle entry gone).2
      · exact stays
    · intro enough
      omega

end CPUOffloadingManager

end VllmEngine

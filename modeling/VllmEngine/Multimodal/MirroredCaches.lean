import VllmEngine.Shared.Outcome
import Mathlib.Algebra.Order.BigOperators.Group.List
import Mathlib.Algebra.Order.Ring.Nat
import Mathlib.Data.List.Dedup
import Mathlib.Data.List.Sort

set_option autoImplicit false

namespace VllmEngine

open List

-- The keys of an `LRUCache`, least recently used first; an item has the same size in both caches.
structure LRUConfig (Hash : Type) where
  capacity : Nat
  size : Hash → Nat

structure MmItem (Hash : Type) where
  mmHash : Hash
  offset : Nat

-- The items in the order of their modalities; the placeholders are sorted by offset later, when the
-- request has been accepted.
structure MmRequest (Hash : Type) where
  items : List (MmItem Hash)
  -- The sender's cache is not used, for passthrough data or as the processor of the model has it.
  bypassed : Bool
  accepted : Bool

inductive MmCacheError where
  | valueTooLarge
  | senderExpectedCachedItem
  | receiverExpectedCachedItem

namespace LRUConfig

variable {Hash : Type} [DecidableEq Hash] (config : LRUConfig Hash)

def currsize (cache : List Hash) : Nat := (cache.map config.size).sum

def moveToEnd (cache : List Hash) (key : Hash) : List Hash := cache.erase key ++ [key]

def touch (cache : List Hash) (key : Hash) : List Hash :=
  if key ∈ cache then moveToEnd cache key else cache

def popUntil (size : Nat) : List Hash → List Hash
  | [] => []
  | oldest :: rest =>
    if config.capacity < config.currsize (oldest :: rest) + size then popUntil size rest
    else oldest :: rest

def put (cache : List Hash) (key : Hash) : Except MmCacheError (List Hash) :=
  if config.capacity < config.size key then .error .valueTooLarge
  else .ok (config.popUntil (config.size key) cache ++ [key])

-- The loop of `_merge_mm_kwargs`: the cache, which stays as it is when the loop raises, and the
-- items with whether their data is sent.
def mergeItems (cached : List Hash) :
    List Hash → List (MmItem Hash) → List Hash × Except MmCacheError (List (MmItem Hash × Bool))
  | cache, [] => (cache, .ok [])
  | cache, item :: rest =>
    if item.mmHash ∈ cache then
      let merged := mergeItems cached (moveToEnd cache item.mmHash) rest
      (merged.1, merged.2.map ((item, false) :: ·))
    else if item.mmHash ∈ cached then (cache, .error .senderExpectedCachedItem)
    else match config.put cache item.mmHash with
      | .error error => (cache, .error error)
      | .ok cache =>
        let merged := mergeItems cached cache rest
        (merged.1, merged.2.map ((item, true) :: ·))

def mergeMmKwargs (cache : List Hash) (items : List (MmItem Hash)) :
    List Hash × Except MmCacheError (List (MmItem Hash × Bool)) :=
  let hashes := items.map MmItem.mmHash
  config.mergeItems (hashes.filter (· ∈ cache)) (hashes.foldl touch cache) items

def cachedApplyHfProcessor (cache : List Hash) (request : MmRequest Hash) :
    List Hash × Except MmCacheError (List (MmItem Hash × Bool)) :=
  if request.bypassed then (cache, .ok (request.items.map fun item => (item, true)))
  else config.mergeMmKwargs cache request.items

def receiveItem (cache : List Hash) (feature : MmItem Hash × Bool) :
    Except MmCacheError (List Hash) :=
  if feature.1.mmHash ∈ cache then .ok (moveToEnd cache feature.1.mmHash)
  else if feature.2 then config.put cache feature.1.mmHash
  else .error .receiverExpectedCachedItem

def getAndUpdateFeatures (cache : List Hash) (features : List (MmItem Hash × Bool)) :
    Except MmCacheError (List Hash) :=
  features.foldlM config.receiveItem ((features.map fun feature => feature.1.mmHash).foldl touch cache)

-- An item that is too large makes the sender raise, and the request is not delivered.
def handle (caches : List Hash × List Hash) (request : MmRequest Hash) :
    Except MmCacheError (List Hash × List Hash) :=
  let merged := config.cachedApplyHfProcessor caches.1 request
  match merged.2 with
  | .error .valueTooLarge => .ok (merged.1, caches.2)
  | .error error => .error error
  | .ok sent =>
    if request.accepted then do
      let received ← config.getAndUpdateFeatures caches.2
        (sent.insertionSort fun one other => one.1.offset ≤ other.1.offset)
      return (merged.1, received)
    else .ok (merged.1, caches.2)

def InStep (request : MmRequest Hash) : Prop :=
  request.bypassed = false ∧ request.accepted ∧
    request.items.Pairwise (fun one other => one.offset ≤ other.offset) ∧
    config.currsize (request.items.map MmItem.mmHash).dedup ≤ config.capacity

structure Kept (items cache recent : List Hash) : Prop where
  last : recent <:+ cache
  known : recent ⊆ items
  once : cache.Nodup

variable {config} {items cache recent : List Hash} {key : Hash}

theorem Kept.moveToEnd (kept : Kept items cache recent) (listed : key ∈ items)
    (cached : key ∈ cache) :
    Kept items (moveToEnd cache key) (recent.erase key ++ [key]) := by
  obtain ⟨old, rfl⟩ := kept.last
  have once := kept.once
  have known := kept.known
  refine ⟨?_, by grind, by unfold LRUConfig.moveToEnd; grind⟩
  by_cases new : key ∈ recent
  · have before : key ∉ old := by grind
    rw [LRUConfig.moveToEnd, erase_append_right _ before, append_assoc]
    exact suffix_append _ _
  · have before : key ∈ old := by grind
    rw [LRUConfig.moveToEnd, erase_append_left _ before, erase_of_not_mem new, append_assoc]
    exact suffix_append _ _

theorem popUntil_suffix {size : Nat} (last : recent <:+ cache)
    (fits : config.currsize recent + size ≤ config.capacity) :
    recent <:+ config.popUntil size cache ∧ config.popUntil size cache <:+ cache := by
  induction cache with
  | nil => exact ⟨last, suffix_rfl⟩
  | cons oldest rest ih =>
    unfold popUntil
    split
    next more =>
      rcases suffix_cons_iff.mp last with rfl | later
      · omega
      · have := ih later
        exact ⟨this.1, this.2.trans (suffix_cons oldest rest)⟩
    next => exact ⟨last, suffix_rfl⟩

theorem currsize_le (once : recent.Nodup) (known : recent ⊆ items) :
    config.currsize recent ≤ config.currsize items.dedup := by
  obtain ⟨list, perm, sublist⟩ := subperm_of_subset once
    fun key member => mem_dedup.mpr (known member)
  calc config.currsize recent
    _ = config.currsize list := ((perm.map config.size).sum_eq).symm
    _ ≤ config.currsize items.dedup := (sublist.map config.size).sum_le_sum (by simp)

variable (fits : config.currsize items.dedup ≤ config.capacity)

include fits in
theorem Kept.put (kept : Kept items cache recent) (listed : key ∈ items) (missing : key ∉ cache) :
    ∃ after, config.put cache key = .ok after ∧ Kept items after (recent ++ [key]) := by
  have once := kept.once
  have known := kept.known
  have total := @currsize_le _ _ config items (recent ++ [key])
    (by have := kept.last.subset; have := once.sublist kept.last.sublist; grind) (by grind)
  simp only [currsize, map_append, sum_append, map_singleton, sum_singleton] at total fits
  obtain ⟨last, suffix⟩ := @popUntil_suffix _ _ config cache recent (config.size key) kept.last
    (by unfold currsize; omega)
  refine ⟨_, if_neg (by omega), ?_, by grind, ?_⟩
  · exact suffix_append_self_iff.mpr last
  · have := once.sublist suffix.sublist
    have := suffix.subset
    grind

include fits in
theorem Kept.mergeItems (kept : Kept items cache recent) (cached : List Hash)
    (todo : List (MmItem Hash)) (listed : ∀ item ∈ todo, item.mmHash ∈ items)
    (safe : ∀ item ∈ todo, item.mmHash ∈ cached → item.mmHash ∈ recent) :
    ∃ after sent, config.mergeItems cached cache todo = (after, .ok sent) ∧
      sent.map Prod.fst = todo ∧ sent.foldlM config.receiveItem cache = .ok after ∧
        after.Nodup := by
  induction todo generalizing cache recent with
  | nil => exact ⟨cache, [], rfl, rfl, rfl, kept.once⟩
  | cons item rest ih =>
    obtain ⟨here, later⟩ := forall_mem_cons.mp listed
    have held := kept.last.subset
    unfold LRUConfig.mergeItems
    split
    next found =>
      obtain ⟨after, sent, merged, same, received, once⟩ :=
        ih (kept.moveToEnd here found) later (by grind)
      exact ⟨after, (item, false) :: sent, by simp [merged, Except.map], by simp [same],
        by simpa [receiveItem, found] using received, once⟩
    next missing =>
      obtain ⟨stored, put, kept⟩ := kept.put fits here missing
      obtain ⟨after, sent, merged, same, received, once⟩ := ih kept later (by grind)
      rw [if_neg (by grind), put]
      exact ⟨after, (item, true) :: sent, by simp [merged, Except.map], by simp [same],
        by simpa [receiveItem, missing, put] using received, once⟩

theorem Kept.touch {todo : List Hash} (kept : Kept items cache recent) (listed : todo ⊆ items) :
    ∃ after, Kept items (todo.foldl touch cache) after ∧ recent ⊆ after ∧
      ∀ key ∈ todo, key ∈ cache → key ∈ after := by
  induction todo generalizing cache recent with
  | nil => exact ⟨recent, kept, by simp, by simp⟩
  | cons key rest ih =>
    by_cases found : key ∈ cache
    · obtain ⟨after, touched, more, held⟩ := ih (kept.moveToEnd (by grind) found) (by grind)
      refine ⟨after, by simpa [LRUConfig.touch, found] using touched, by grind, ?_⟩
      unfold LRUConfig.moveToEnd at held
      grind
    · obtain ⟨after, touched, more, held⟩ := ih kept (by grind)
      exact ⟨after, by simpa [LRUConfig.touch, found] using touched, more, by grind⟩

theorem handle_mirrored {request : MmRequest Hash} (once : cache.Nodup)
    (inStep : config.InStep request) :
    ∃ after, config.handle (cache, cache) request = .ok (after, after) ∧ after.Nodup := by
  obtain ⟨bypassed, accepted, sorted, fits⟩ := inStep
  obtain ⟨_, kept, -, _⟩ := Kept.touch
    ⟨nil_suffix, nil_subset (request.items.map MmItem.mmHash), once⟩ (List.Subset.refl _)
  obtain ⟨after, sent, merged, same, received, once⟩ := kept.mergeItems fits
    ((request.items.map MmItem.mmHash).filter (· ∈ cache)) request.items (by grind) (by grind)
  have order : sent.insertionSort (fun one other => one.1.offset ≤ other.1.offset) = sent := by
    apply List.Pairwise.insertionSort_eq
    rwa [← same, pairwise_map] at sorted
  have hashes : (sent.map fun feature => feature.1.mmHash) = request.items.map MmItem.mmHash := by
    rw [← same, map_map]
    rfl
  refine ⟨after, ?_, once⟩
  simp [handle, cachedApplyHfProcessor, bypassed, mergeMmKwargs, merged, accepted, order,
    getAndUpdateFeatures, hashes, received]

instance (config : LRUConfig Hash) (request : MmRequest Hash) : Decidable (config.InStep request) :=
  inferInstanceAs (Decidable (_ ∧ _ ∧ _ ∧ _))

end LRUConfig

end VllmEngine

import VllmEngine.KVCache.RefExact

set_option autoImplicit false

namespace VllmEngine

open Outcome List KVCacheCoordinator SingleTypeKVCacheManager CacheState

variable {H : Type} {pool after : BlockPool H}
  {managers changed : List (SingleTypeKVCacheManager H)}
  {requestId : RequestId} {processedComputedTokens : Nat} {numPromptTokens : Option Nat}

structure KVCacheCoordinator.Removes (requestId : RequestId) (processedComputedTokens : Nat)
    (numPromptTokens : Option Nat) (pool after : BlockPool H)
    (managers changed : List (SingleTypeKVCacheManager H)) : Prop where
  released : pool.Released after (heldBy managers) (heldBy changed)
  tables : Forall₂ (fun manager changed => OnlyNulls
    (manager.OutOfWindow processedComputedTokens numPromptTokens) requestId manager changed)
    managers changed

theorem KVCacheCoordinator.removeSkippedBlocks_removes
    (run : KVCacheCoordinator.removeSkippedBlocks pool managers requestId processedComputedTokens
      numPromptTokens = .ok (after, changed)) :
    Removes requestId processedComputedTokens numPromptTokens pool after managers changed := by
  simp only [KVCacheCoordinator.removeSkippedBlocks, updateManagers, bind_eq_ok] at run
  obtain ⟨⟨results, _, left⟩, loop, equal⟩ := run
  cases equal
  generalize 0 = start at loop
  induction managers generalizing start pool results left with
  | nil =>
    cases loop
    exact ⟨.refl _ _, .nil⟩
  | cons manager later ih =>
    simp only [eachManager, bind_eq_ok] at loop
    obtain ⟨_, ⟨_, first, equal⟩, ⟨_, _, _⟩, loop, result⟩ := loop
    cases equal
    cases result
    have own := removeSkippedBlocks_releases first
    obtain ⟨released, tables⟩ := ih _ _ _ loop
    refine ⟨own.released.trans released fun block => ?_, .cons own.toOnlyNulls tables⟩
    simp only [heldBy, map_cons, sum_cons]
    omega

namespace KVCacheManager

variable [DecidableEq H] {manager next : KVCacheManager H} {call : SlotsCall H}

def processedTokens (manager : KVCacheManager H) (call : SlotsCall H) : Nat :=
  call.totalComputedTokens manager.config.maxModelLen - call.request.numInFlightTokens

structure OnlyRemoves (manager : KVCacheManager H) (call : SlotsCall H)
    (next : KVCacheManager H) : Prop extends
    Removes call.request.requestId (manager.processedTokens call)
      (some call.request.numPromptTokens) manager.blockPool next.blockPool
      manager.singleTypeManagers next.singleTypeManagers where
  rest : next = { manager with
    blockPool := next.blockPool, singleTypeManagers := next.singleTypeManagers }
  again : manager.fullSequenceFits call = .ok false ∧ next = manager ∨
    manager.removeSkippedBlocks call.request.requestId (manager.processedTokens call)
      (some call.request.numPromptTokens) = .ok next

theorem failed_allocation_only_removes (failed : manager.allocateSlots call = .ok (none, next)) :
    manager.OnlyRemoves call next := by
  simp only [allocateSlots] at failed
  split at failed
  · cases failed
  obtain ⟨fits, checked, failed⟩ := bind_eq_ok.mp failed
  split at failed
  · next refused =>
    cases failed
    obtain rfl : fits = false := by simpa using refused
    refine ⟨⟨.refl _ _, ?_⟩, rfl, .inl ⟨checked, rfl⟩⟩
    exact forall₂_same.mpr fun _ _ => ⟨rfl, fun _ _ => rfl, fun _ => .inl rfl⟩
  obtain ⟨removed, removes, failed⟩ := bind_eq_ok.mp failed
  obtain ⟨_, _, failed⟩ := bind_eq_ok.mp failed
  split at failed
  · cases failed
    obtain ⟨_, run, made⟩ := bind_eq_ok.mp removes
    cases made
    exact ⟨removeSkippedBlocks_removes run, rfl, .inr removes⟩
  obtain ⟨⟨_, _⟩, _, failed⟩ := bind_eq_ok.mp failed
  split at failed
  · cases failed
  · obtain ⟨_, _, result⟩ := bind_eq_ok.mp failed
    cases result

def prompt (numComputedTokens : Nat) : EngineRequest Nat :=
  { newRequest 1 [7, 8, 9, 10] with numComputedTokens }

-- The sliding-window group gives two blocks back, and a fourth token needs three.
theorem failed_allocation_window : ∃ manager started next blocks,
    create twoFullManagerConfig = .ok manager ∧
    manager.allocateSlots (firstCall (prompt 0) 3 0 [[], [], []]) = .ok (blocks, started) ∧
    started.allocateSlots (firstCall (prompt 3) 1 0 [[], [], []]) = .ok (none, next) ∧
    next.blockPool.getNumFreeBlocks = 2 ∧
    started.OnlyRemoves (firstCall (prompt 3) 1 0 [[], [], []]) next :=
  ⟨_, _, _, _, rfl, rfl, rfl, rfl, failed_allocation_only_removes rfl⟩

end KVCacheManager

end VllmEngine

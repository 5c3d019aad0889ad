import VllmEngine.KVCache.CacheRun
import VllmEngine.KVCache.Releases
import VllmEngine.Shared.Run

set_option autoImplicit false

namespace VllmEngine

open BlockPool Outcome SingleTypeKVCacheManager List

namespace KVCacheCoordinator

variable {H Result : Type}

def heldBy (managers : List (SingleTypeKVCacheManager H)) (block : BlockRef) : Nat :=
  (managers.map fun manager => manager.held block).sum

structure Accounted (numBlocks : Nat) (rest : BlockRef → Nat) (pool : BlockPool H)
    (managers : List (SingleTypeKVCacheManager H)) : Prop where
  exact : pool.Exact numBlocks fun block => rest block + heldBy managers block
  offloads : ∀ manager ∈ managers, ∀ offload ∈ manager.pendingPartialTailOffloads,
    offload.block ∈ poolBlocks numBlocks

variable {numBlocks : Nat} {rest : BlockRef → Nat} {pool after : BlockPool H}
  {managers changed : List (SingleTypeKVCacheManager H)} {requestId : RequestId}
  {update : Nat → BlockPool H → SingleTypeKVCacheManager H → Except PyError (BlockPool H × SingleTypeKVCacheManager H)}

theorem eachManager_accounted {visit : Nat → BlockPool H → SingleTypeKVCacheManager H →
      Except PyError (Result × BlockPool H × SingleTypeKVCacheManager H)}
    (before behind : Nat → SingleTypeKVCacheManager H → Prop)
    (visited : ∀ i rest pool manager result after changed, before i manager →
      manager.Accounted numBlocks rest pool → visit i pool manager = .ok (result, after, changed) →
      changed.Accounted numBlocks rest after ∧ behind i changed)
    (start : Nat) {results : List Result}
    (given : ∀ i manager, managers[i]? = some manager → before (start + i) manager)
    (accounted : Accounted numBlocks rest pool managers)
    (run : eachManager visit start pool managers = .ok (results, after, changed)) :
    Accounted numBlocks rest after changed ∧
      ∀ i manager, changed[i]? = some manager → behind (start + i) manager := by
  induction managers generalizing start rest pool results changed with
  | nil =>
    cases run
    exact ⟨accounted, fun i manager found => by simp at found⟩
  | cons manager later ih =>
    simp only [eachManager, bind_eq_ok] at run
    obtain ⟨⟨result, pool', manager'⟩, first, ⟨_, _, _⟩, loop, equal⟩ := run
    cases equal
    -- for this visit, the references of the later managers are references of others
    have own : manager.Accounted numBlocks (fun block => rest block + heldBy later block) pool := by
      refine ⟨accounted.exact.owners_congr fun block _ => ?_, ?_⟩
      · simp only [heldBy, map_cons, sum_cons]
        omega
      · exact accounted.offloads manager mem_cons_self
    obtain ⟨own', left⟩ := visited _ _ _ _ _ _ _ (given 0 manager rfl) own first
    have others : Accounted numBlocks (fun block => rest block + manager'.held block) pool'
        later := by
      refine ⟨own'.exact.owners_congr fun block _ => ?_, ?_⟩
      · omega
      · exact fun other member => accounted.offloads other (mem_cons_of_mem manager member)
    have shift (i : Nat) : start + (i + 1) = start + 1 + i := by omega
    obtain ⟨others', leftLater⟩ := ih (start + 1)
      (fun i other found => shift i ▸ given (i + 1) other (by simpa using found)) others loop
    refine ⟨⟨others'.exact.owners_congr fun block _ => ?_, ?_⟩, fun i other found => ?_⟩
    · simp only [heldBy, map_cons, sum_cons]
      omega
    · intro other member
      rcases mem_cons.mp member with rfl | member
      · exact own'.offloads
      · exact others'.offloads other member
    · cases i with
      | zero =>
        cases found
        exact left
      | succ i =>
        rw [shift]
        exact leftLater i other (by simpa using found)

theorem updateManagers_accounted (before behind : Nat → SingleTypeKVCacheManager H → Prop)
    (updated : ∀ i rest pool manager after changed, before i manager →
      manager.Accounted numBlocks rest pool → update i pool manager = .ok (after, changed) →
      changed.Accounted numBlocks rest after ∧ behind i changed)
    (given : ∀ i manager, managers[i]? = some manager → before i manager)
    (accounted : Accounted numBlocks rest pool managers)
    (run : updateManagers update pool managers = .ok (after, changed)) :
    Accounted numBlocks rest after changed ∧
      ∀ i manager, changed[i]? = some manager → behind i manager := by
  simp only [updateManagers, bind_eq_ok] at run
  obtain ⟨⟨_, pool', _⟩, loop, equal⟩ := run
  cases equal
  have outcome := eachManager_accounted before behind
    (fun i rest pool manager result after changed assumed accounted run => by
      simp only [bind_eq_ok] at run
      obtain ⟨⟨pool', _⟩, run, equal⟩ := run
      cases equal
      exact updated i rest pool manager _ _ assumed accounted run) 0
    (fun i manager found => by simpa using given i manager found) accounted loop
  simpa using outcome

theorem updateManagers_accounted_all
    (updated : ∀ i rest pool manager after changed, manager.Accounted numBlocks rest pool →
      update i pool manager = .ok (after, changed) → changed.Accounted numBlocks rest after)
    (accounted : Accounted numBlocks rest pool managers)
    (run : updateManagers update pool managers = .ok (after, changed)) :
    Accounted numBlocks rest after changed :=
  (updateManagers_accounted (fun _ _ => True) (fun _ _ => True)
    (fun i rest pool manager after changed _ accounted run =>
      ⟨updated i rest pool manager after changed accounted run, trivial⟩)
    (fun _ _ _ => trivial) accounted run).1

theorem heldBy_popBlocksForFree (managers : List (SingleTypeKVCacheManager H))
    (requestId : RequestId) (block : BlockRef) :
    heldBy (popBlocksForFree managers requestId).2 block +
      (popBlocksForFree managers requestId).1.count block = heldBy managers block := by
  induction managers with
  | nil => rfl
  | cons manager later ih =>
    have own := manager.held_popBlocksForFree requestId block
    simp only [heldBy, popBlocksForFree, map_cons, flatMap_cons, sum_cons, count_append] at *
    omega

variable [DecidableEq H]

def HitsFit (newComputedBlocks : List (List BlockRef))
    (numLocalComputedTokens numExternalComputedTokens i : Nat)
    (manager : SingleTypeKVCacheManager H) : Prop :=
  numExternalComputedTokens > 0 → manager.isCrossAttention = false →
    ∀ blocks, newComputedBlocks[i]? = some blocks →
      blocks.length ≤ cdiv (numLocalComputedTokens + numExternalComputedTokens) manager.blockSize

def TableFits (requestId : RequestId) (numTotalComputedTokens : Nat)
    (manager : SingleTypeKVCacheManager H) : Prop :=
  manager.isCrossAttention = false → (manager.blocksOf requestId).length ≤
    max (manager.getNumSkippedTokens numTotalComputedTokens / manager.blockSize)
      (cdiv numTotalComputedTokens manager.blockSize)

theorem allocateNewComputedBlocks_accounted {newComputedBlocks : List (List BlockRef)}
    {numLocalComputedTokens numExternalComputedTokens : Nat}
    (members : ∀ blocks ∈ newComputedBlocks, ∀ block ∈ blocks, block ∈ poolBlocks numBlocks)
    (fit : ∀ i manager, managers[i]? = some manager →
      HitsFit newComputedBlocks numLocalComputedTokens numExternalComputedTokens i manager)
    (accounted : Accounted numBlocks rest pool managers)
    (run : allocateNewComputedBlocks pool managers requestId newComputedBlocks
      numLocalComputedTokens numExternalComputedTokens = .ok (after, changed)) :
    Accounted numBlocks rest after changed := by
  unfold allocateNewComputedBlocks at run
  split at run
  · obtain ⟨_, _, equal⟩ := bind_eq_ok.mp run
    cases equal
    exact accounted
  simp only [bind_eq_ok] at run
  obtain ⟨⟨_, _⟩, first, run⟩ := run
  -- the first loop leaves a table that fits, so the second one asks for no negative number
  obtain ⟨accounted', short⟩ := updateManagers_accounted
    (HitsFit newComputedBlocks numLocalComputedTokens numExternalComputedTokens)
    (fun _ manager => numExternalComputedTokens > 0 →
      TableFits requestId (numLocalComputedTokens + numExternalComputedTokens) manager)
    (fun i rest pool manager after changed fit accounted run => by
      simp only [bind_eq_ok, pyGet_eq_ok] at run
      obtain ⟨blocks, found, run⟩ := run
      obtain ⟨accounted', kvCacheSpec, blockSize, length⟩ :=
        addLocalComputedBlocks_accounted accounted
          (members blocks (mem_of_getElem? found)) run
      refine ⟨accounted', fun external attention => ?_⟩
      have attention : manager.isCrossAttention = false := by
        simpa [isCrossAttention, kvCacheSpec] using attention
      have fit := fit external attention blocks found
      have length := length attention
      simp only [getNumSkippedTokens, kvCacheSpec, blockSize] at *
      omega) fit accounted first
  split at run
  · rename_i external
    exact (updateManagers_accounted
      (fun _ => TableFits requestId (numLocalComputedTokens + numExternalComputedTokens))
      (fun _ _ => True)
      (fun i rest pool manager after changed short accounted run =>
        ⟨allocateExternalComputedBlocks_accounted accounted short run, trivial⟩)
      (fun i manager found => short i manager found external) accounted' run).1
  · cases run
    exact accounted'

theorem allocateNewBlocks_accounted {numTokens numTokensMainModel numEncoderTokens : Nat}
    {newBlocks : List (List BlockRef)} (accounted : Accounted numBlocks rest pool managers)
    (run : allocateNewBlocks pool managers requestId numTokens numTokensMainModel
      numEncoderTokens = .ok (newBlocks, after, changed)) :
    Accounted numBlocks rest after changed :=
  (eachManager_accounted (fun _ _ => True) (fun _ _ => True) (fun _ _ _ _ _ _ _ _ accounted run =>
      ⟨SingleTypeKVCacheManager.allocateNewBlocks_accounted accounted run, trivial⟩) 0
    (fun _ _ _ => trivial) accounted run).1

theorem cacheBlocks_accounted {config : KVCacheManagerConfig H} {request : EngineRequest H}
    {numComputedTokens : Nat} (accounted : Accounted numBlocks rest pool managers)
    (run : cacheBlocks config pool managers request numComputedTokens = .ok (after, changed)) :
    Accounted numBlocks rest after changed :=
  updateManagers_accounted_all (fun _ _ _ _ _ _ accounted run =>
    (cacheBlocks_onlyIndexed run).accounted accounted) accounted run

end KVCacheCoordinator

end VllmEngine

import VllmEngine.KVCache.CacheLedger
import VllmEngine.KVCache.GroupLookup

set_option autoImplicit false

namespace VllmEngine

open BlockPool KVCacheCoordinator Outcome List KVCacheManager SingleTypeKVCacheManager

namespace KVCacheManager

variable {H : Type}

def Accounted (numBlocks : Nat) (rest : BlockRef → Nat) (manager : KVCacheManager H) : Prop :=
  KVCacheCoordinator.Accounted numBlocks
    (fun block => rest block + tally (List.count block) manager.partialTailPins)
    manager.blockPool manager.singleTypeManagers

variable {numBlocks : Nat} {rest : BlockRef → Nat} {manager changed : KVCacheManager H}
  {requestId : RequestId} {numPromptTokens : Option Nat} {processedComputedTokens : Nat}

theorem coordinate_accounted {update : BlockPool H → List (SingleTypeKVCacheManager H) →
      Except PyError (BlockPool H × List (SingleTypeKVCacheManager H))}
    (updated : ∀ after managers, update manager.blockPool manager.singleTypeManagers =
      .ok (after, managers) → KVCacheCoordinator.Accounted numBlocks
        (fun block => rest block + tally (List.count block) manager.partialTailPins)
        after managers)
    (run : manager.coordinate update = .ok changed) : changed.Accounted numBlocks rest := by
  simp only [coordinate, bind_eq_ok, pure_eq_ok] at run
  obtain ⟨⟨after, managers⟩, run, rfl⟩ := run
  exact updated after managers run

theorem count_popPins (manager : KVCacheManager H) (requestId : RequestId) (block : BlockRef) :
    tally (List.count block) (manager.popPins requestId).2.partialTailPins +
      (manager.popPins requestId).1.count block =
      tally (List.count block) manager.partialTailPins := by
  have erased := tally_erase (List.count block) manager.partialTailPins requestId
  have old := elim_lookup (List.count block) manager.partialTailPins requestId count_nil
  unfold popPins
  dsimp only
  omega

theorem pinOffloads_exact {owners : BlockRef → Nat} {pool after : BlockPool H}
    {pins pinned : AList fun _ : RequestId => List BlockRef} {offloads : List PartialTailOffload}
    (members : ∀ offload ∈ offloads, offload.block ∈ poolBlocks numBlocks)
    (exact : pool.Exact numBlocks fun block => owners block + tally (List.count block) pins)
    (run : pinOffloads pool pins offloads = .ok (after, pinned)) :
    after.Exact numBlocks fun block => owners block + tally (List.count block) pinned := by
  induction offloads generalizing pool pins with
  | nil =>
    cases run
    exact exact
  | cons offload later ih =>
    simp only [pinOffloads, bind_eq_ok] at run
    obtain ⟨_, touched, run⟩ := run
    refine ih (fun other member => members other (mem_cons_of_mem offload member)) ?_ run
    obtain ⟨_, touch, exact'⟩ := exact.touch [offload.block] fun block member => by
      rw [List.mem_singleton.mp member]
      exact members offload mem_cons_self
    rw [touch] at touched
    cases touched
    refine exact'.owners_congr fun block _ => ?_
    have inserted := tally_insert (List.count block) pins offload.requestId
      ((pins.lookup offload.requestId).getD [] ++ [offload.block])
    have old := elim_lookup (List.count block) pins offload.requestId count_nil
    rw [count_append] at inserted
    omega

theorem emitHitEvents_exact {owners : BlockRef → Nat} {request : EngineRequest H}
    {computedBlocks : List (List BlockRef)} {pool : BlockPool H}
    (exact : manager.blockPool.Exact numBlocks owners)
    (run : manager.emitHitEvents request computedBlocks = .ok pool) :
    pool.Exact numBlocks owners := by
  refine Run.foldlM_kept (·.Exact numBlocks owners) (fun pool _ _ next emitted exact => ?_)
    exact run
  dsimp only at emitted
  split at emitted
  · cases emitted
    exact exact
  simp only [bind_eq_ok, BlockPool.emitCachedBlockEvents] at emitted
  obtain ⟨_, _, emitted⟩ := emitted
  split at emitted
  · cases emitted
    exact exact
  · simp only [bind_eq_ok, pure_eq_ok] at emitted
    obtain ⟨_, _, _, _, rfl⟩ := emitted
    exact exact.congr rfl rfl fun _ _ => rfl

section

variable (accounted : manager.Accounted numBlocks rest)

include accounted

theorem free_accounted (run : manager.free requestId = .ok changed) :
    changed.Accounted numBlocks rest := by
  simp only [free, bind_eq_ok] at run
  obtain ⟨_, freed, run⟩ := run
  have unpinned : manager.blockPool.Exact numBlocks fun block =>
      ((rest block + tally (List.count block) (manager.popPins requestId).2.partialTailPins) +
        heldBy manager.singleTypeManagers block) +
        (manager.popPins requestId).1.count block := by
    refine accounted.exact.owners_congr fun block _ => ?_
    have popped := manager.count_popPins requestId block
    omega
  obtain ⟨_, pinsFreed, exact⟩ := unpinned.freeBlocks
  rw [show (manager.popPins requestId).2.blockPool = manager.blockPool from rfl, freeAny_eq,
    pinsFreed] at freed
  cases freed
  refine coordinate_accounted (fun after managers run => ?_) run
  exact updateManagers_accounted_all
    (fun _ _ _ _ _ _ accounted run => SingleTypeKVCacheManager.free_accounted accounted run)
    ⟨exact, accounted.offloads⟩ run

theorem removeSkippedBlocks_accounted
    (run : manager.removeSkippedBlocks requestId processedComputedTokens numPromptTokens =
      .ok changed) : changed.Accounted numBlocks rest :=
  coordinate_accounted (fun _ _ run => updateManagers_accounted_all
    (fun _ _ _ _ _ _ accounted run =>
      SingleTypeKVCacheManager.removeSkippedBlocks_accounted accounted run) accounted run) run

theorem removeSkippedBlocks_hitsFit {newComputedBlocks : List (List BlockRef)}
    {numLocalComputedTokens numExternalComputedTokens : Nat}
    (fit : ∀ i single, manager.singleTypeManagers[i]? = some single →
      HitsFit newComputedBlocks numLocalComputedTokens numExternalComputedTokens i single)
    (run : manager.removeSkippedBlocks requestId processedComputedTokens numPromptTokens =
      .ok changed) :
    ∀ i single, changed.singleTypeManagers[i]? = some single →
      HitsFit newComputedBlocks numLocalComputedTokens numExternalComputedTokens i single := by
  simp only [removeSkippedBlocks, coordinate, bind_eq_ok, pure_eq_ok] at run
  obtain ⟨⟨after, _⟩, run, rfl⟩ := run
  refine (updateManagers_accounted
    (HitsFit newComputedBlocks numLocalComputedTokens numExternalComputedTokens)
    (HitsFit newComputedBlocks numLocalComputedTokens numExternalComputedTokens)
    (fun i rest pool single after changed fit accounted run => ?_) fit accounted run).2
  refine ⟨SingleTypeKVCacheManager.removeSkippedBlocks_accounted accounted run, ?_⟩
  rw [(removeSkippedBlocks_releases run).fields]
  exact fit

theorem takePartialTailOffloads_accounted {offloads : List PartialTailOffload}
    (run : manager.takePartialTailOffloads = .ok (offloads, changed)) :
    changed.Accounted numBlocks rest := by
  simp only [takePartialTailOffloads, bind_eq_ok] at run
  obtain ⟨⟨pool, pins⟩, pinned, equal⟩ := run
  cases equal
  have exact : pool.Exact numBlocks fun block =>
      (rest block + heldBy manager.singleTypeManagers block) + tally (List.count block) pins := by
    refine pinOffloads_exact (fun offload member => ?_)
      (accounted.exact.owners_congr fun block _ => by omega) pinned
    obtain ⟨single, inside, member⟩ := List.mem_flatMap.mp member
    exact accounted.offloads single inside offload member
  refine ⟨exact.owners_congr fun block _ => ?_, fun single member offload inside => ?_⟩
  · have same : heldBy (manager.singleTypeManagers.map fun single =>
        { single with pendingPartialTailOffloads := [] }) block =
        heldBy manager.singleTypeManagers block := by
      simp only [heldBy, map_map]
      rfl
    dsimp only
    omega
  · obtain ⟨_, _, rfl⟩ := List.mem_map.mp member
    cases inside

theorem takeKvCacheBlockCopies_accounted {copies : List (BlockRef × BlockRef)}
    {retainedBlocks : List BlockRef}
    (run : manager.takeKvCacheBlockCopies = (copies, retainedBlocks, changed)) :
    changed.Accounted numBlocks fun block => rest block + retainedBlocks.count block := by
  cases run
  refine ⟨accounted.exact.owners_congr fun block _ => ?_, fun single member => ?_⟩
  · have split : heldBy manager.singleTypeManagers block =
        heldBy (manager.singleTypeManagers.map fun single =>
          { single with pendingCowCopies := [] }) block +
        ((manager.singleTypeManagers.flatMap (·.pendingCowCopies)).flatMap
          fun copy => [copy.1, copy.2]).count block := by
      induction manager.singleTypeManagers with
      | nil => rfl
      | cons single later ih =>
        simp only [heldBy, held, endpoints,
          map_cons, sum_cons, flatMap_cons, flatMap_append, count_append,
          flatMap_nil, count_nil] at ih ⊢
        omega
    dsimp only
    omega
  · obtain ⟨original, inside, rfl⟩ := List.mem_map.mp member
    exact accounted.offloads original inside

theorem getComputedBlocks_accounted {request : EngineRequest H}
    {hits : List (List BlockRef) × Nat × Int}
    (run : manager.getComputedBlocks request = .ok (hits, changed)) :
    changed.Accounted numBlocks rest := by
  unfold getComputedBlocks at run
  split at run
  · cases run
    exact accounted
  obtain ⟨⟨_, _, _⟩, _, run⟩ := bind_eq_ok.mp run
  dsimp only at run
  split at run
  · simp only [bind_eq_ok, pure_eq_ok] at run
    obtain ⟨_, emitted, equal⟩ := run
    cases equal
    exact ⟨emitHitEvents_exact accounted.exact emitted, accounted.offloads⟩
  · cases run
    exact accounted

theorem resetPrefixCache_accounted :
    manager.resetPrefixCache.2.Accounted numBlocks rest := by
  refine ⟨?_, accounted.offloads⟩
  show manager.blockPool.resetPrefixCache.2.Exact _ _
  unfold BlockPool.resetPrefixCache
  dsimp only
  split <;> exact accounted.exact.congr rfl rfl fun _ _ => rfl

theorem Accounted.map_managers {change : SingleTypeKVCacheManager H → SingleTypeKVCacheManager H}
    (held : ∀ single block, (change single).held block = single.held block)
    (offloads : ∀ single, (change single).pendingPartialTailOffloads =
      single.pendingPartialTailOffloads) :
    Accounted numBlocks rest
      { manager with
        singleTypeManagers := manager.singleTypeManagers.map change } := by
  refine ⟨accounted.exact.owners_congr fun block _ => ?_, fun single member => ?_⟩
  · simp only [heldBy, map_map, Function.comp_def, held]
  · obtain ⟨original, inside, rfl⟩ := List.mem_map.mp member
    rw [offloads]
    exact accounted.offloads original inside

variable [DecidableEq H] {request : EngineRequest H} {call : SlotsCall H}

theorem cacheBlocks_accounted {numComputedTokens : Nat}
    (run : manager.cacheBlocks request numComputedTokens = .ok changed) :
    changed.Accounted numBlocks rest := by
  unfold cacheBlocks at run
  split at run
  · exact coordinate_accounted (fun _ _ run =>
      KVCacheCoordinator.cacheBlocks_accounted accounted run) run
  · cases run
    exact accounted

structure HitsWithin (numBlocks : Nat) (manager : KVCacheManager H) (call : SlotsCall H) :
    Prop where
  members : ∀ blocks ∈ call.newComputedBlocks, ∀ block ∈ blocks, block ∈ poolBlocks numBlocks
  fit : ∀ i single, manager.singleTypeManagers[i]? = some single →
    HitsFit call.newComputedBlocks call.numLocalComputedTokens call.numExternalComputedTokens i
      single

theorem takeSlots_accounted {newBlocks : List (List BlockRef)}
    (within : HitsWithin numBlocks manager call)
    (run : manager.takeSlots call = .ok (newBlocks, changed)) :
    changed.Accounted numBlocks rest := by
  simp only [takeSlots, bind_eq_ok] at run
  obtain ⟨manager', computed, ⟨_, _, _⟩, taken, equal⟩ := run
  have accounted' : manager'.Accounted numBlocks rest := by
    unfold takeComputedSlots at computed
    split at computed
    · exact coordinate_accounted (fun _ _ run =>
        allocateNewComputedBlocks_accounted within.members within.fit accounted run) computed
    · cases computed
      exact accounted
  cases equal
  exact KVCacheCoordinator.allocateNewBlocks_accounted accounted' taken

theorem allocateSlots_accounted {newBlocks : Option (List (List BlockRef))}
    (within : HitsWithin numBlocks manager call)
    (run : manager.allocateSlots call = .ok (newBlocks, changed)) :
    changed.Accounted numBlocks rest := by
  simp only [allocateSlots] at run
  split at run
  · cases run
  obtain ⟨_, _, run⟩ := bind_eq_ok.mp run
  split at run
  · cases run
    exact accounted
  simp only [bind_eq_ok] at run
  obtain ⟨_, removed, _, _, run⟩ := run
  have accounted' := removeSkippedBlocks_accounted accounted removed
  have fit := removeSkippedBlocks_hitsFit accounted within.fit removed
  split at run
  · cases run
    exact accounted'
  obtain ⟨⟨_, _⟩, take, run⟩ := bind_eq_ok.mp run
  have accounted'' := takeSlots_accounted accounted' ⟨within.members, fit⟩ take
  split at run
  · cases run
    exact accounted''
  obtain ⟨_, cache, equal⟩ := bind_eq_ok.mp run
  cases equal
  exact cacheBlocks_accounted accounted'' cache

theorem evictBlocks_accounted {blockIds : List Nat}
    (run : manager.evictBlocks blockIds = .ok changed) : changed.Accounted numBlocks rest := by
  simp only [evictBlocks, bind_eq_ok, pure_eq_ok] at run
  obtain ⟨pool, evicted, rfl⟩ := run
  refine ⟨?_, accounted.offloads⟩
  have exact := accounted.exact
  generalize manager.blockPool = start at evicted exact
  induction blockIds generalizing start with
  | nil =>
    cases evicted
    exact exact
  | cons blockId later ih =>
    simp only [BlockPool.evictBlocks, bind_eq_ok] at evicted
    obtain ⟨_, _, evicted⟩ := evicted
    exact ih _ evicted (exact.congr rfl rfl fun _ _ => rfl)

end

end KVCacheManager

namespace CacheState

variable {H : Type}

def occurrences (state : CacheState H) (block : BlockRef) : Nat :=
  heldBy state.manager.singleTypeManagers block +
    tally (List.count block) state.manager.partialTailPins +
    (state.deferredFrees.map (List.count block)).sum

def RefCountsExact (numBlocks : Nat) (state : CacheState H) : Prop :=
  ∀ block ∈ poolBlocks numBlocks, block ≠ .nullBlock →
    state.manager.blockPool.refCnt block = state.occurrences block ∧
      (state.manager.blockPool.freeBlockQueue.Linked block ↔
        state.manager.blockPool.refCnt block = 0)

def Accounted (numBlocks : Nat) (state : CacheState H) : Prop :=
  state.manager.Accounted numBlocks fun block => (state.deferredFrees.map (List.count block)).sum

variable {numBlocks : Nat} {state next : CacheState H}

theorem freeBlocks_accounted {blocks : List BlockRef}
    (accounted : state.manager.Accounted numBlocks fun block =>
      (state.deferredFrees.map (List.count block)).sum + blocks.count block)
    (run : state.freeBlocks blocks = .ok next) : next.Accounted numBlocks := by
  simp only [freeBlocks, bind_eq_ok, pure_eq_ok] at run
  obtain ⟨_, freed, rfl⟩ := run
  have released : state.manager.blockPool.Exact numBlocks fun block =>
      (((state.deferredFrees.map (List.count block)).sum +
        tally (List.count block) state.manager.partialTailPins) +
        heldBy state.manager.singleTypeManagers block) + blocks.count block := by
    refine accounted.exact.owners_congr fun block _ => ?_
    dsimp only
    omega
  obtain ⟨_, run, exact⟩ := released.freeBlocks
  rw [run] at freed
  cases freed
  exact ⟨exact, accounted.offloads⟩

section

variable (accounted : state.Accounted numBlocks)

include accounted

theorem Accounted.refCountsExact : state.RefCountsExact numBlocks := by
  intro block member real
  have exact : state.manager.blockPool.Exact numBlocks state.occurrences := by
    refine KVCacheCoordinator.Accounted.exact accounted |>.owners_congr fun block _ => ?_
    unfold occurrences
    dsimp only
    omega
  exact ⟨exact.refs block real, exact.linked_iff member real⟩

theorem popBlocksForFree_accounted (requestId : RequestId) :
    (state.popBlocksForFree requestId).Accounted numBlocks := by
  have moved (block : BlockRef) :
      ((state.popBlocksForFree requestId).deferredFrees.map (List.count block)).sum =
        (state.deferredFrees.map (List.count block)).sum +
          (state.manager.popBlocksForFree requestId).1.count block := by
    unfold popBlocksForFree
    dsimp only
    split
    · rename_i none
      rw [none, count_nil, Nat.add_zero]
    · simp
  have popped (block : BlockRef) := heldBy_popBlocksForFree state.manager.singleTypeManagers
    requestId block
  have unpinned (block : BlockRef) := state.manager.count_popPins requestId block
  refine ⟨accounted.exact.owners_congr fun block _ => ?_, fun single member => ?_⟩
  · have moved := moved block
    have popped := popped block
    have unpinned := unpinned block
    have both : (state.manager.popBlocksForFree requestId).1.count block =
        (state.manager.popPins requestId).1.count block +
          (KVCacheCoordinator.popBlocksForFree state.manager.singleTypeManagers
            requestId).1.count block := count_append
    show _ + tally (List.count block) (state.manager.popPins requestId).2.partialTailPins +
      heldBy (KVCacheCoordinator.popBlocksForFree state.manager.singleTypeManagers
        requestId).2 block = _
    dsimp only
    omega
  · obtain ⟨original, inside, rfl⟩ := List.mem_map.mp member
    exact fun offload listed => accounted.offloads original inside offload
      (original.popBlocksForFree_offloads requestId listed)

theorem drainDeferredFree_accounted (run : state.drainDeferredFree = .ok next) :
    next.Accounted numBlocks := by
  unfold drainDeferredFree at run
  split at run
  · cases run
    exact accounted
  · rename_i blocks later shape
    apply freeBlocks_accounted _ run
    refine ⟨accounted.exact.owners_congr fun block _ => ?_, accounted.offloads⟩
    have total : (state.deferredFrees.map (List.count block)).sum =
        blocks.count block + (later.map (List.count block)).sum := by
      rw [shape, map_cons, sum_cons]
    dsimp only
    rw [count_reverse]
    omega

theorem takeKvCacheBlockCopies_accounted {deferBlockFree : Bool}
    (run : state.takeKvCacheBlockCopies deferBlockFree = .ok next) : next.Accounted numBlocks := by
  unfold takeKvCacheBlockCopies at run
  rcases taken : state.manager.takeKvCacheBlockCopies with ⟨copies, retainedBlocks, manager⟩
  have accounted' := KVCacheManager.takeKvCacheBlockCopies_accounted accounted taken
  have ends : retainedBlocks = copies.flatMap fun copy => [copy.1, copy.2] := by
    cases taken
    rfl
  rw [taken] at run
  dsimp only at run
  split at run
  · rename_i none
    cases run
    rw [ends, none] at accounted'
    exact accounted'
  split at run
  · cases run
    refine ⟨accounted'.exact.owners_congr fun block _ => ?_, accounted'.offloads⟩
    simp only [map_append, map_cons, map_nil, sum_append, sum_cons, sum_nil, count_reverse]
    omega
  · exact freeBlocks_accounted accounted' run

end

variable [DecidableEq H]

def HitsWithin (numBlocks : Nat) (state : CacheState H) : CacheOp H → Prop
  | .allocateSlots call => state.manager.HitsWithin numBlocks call
  | _ => True

theorem step_accounted {op : CacheOp H} (run : state.step op = .ok next)
    (within : state.HitsWithin numBlocks op) (accounted : state.Accounted numBlocks) :
    next.Accounted numBlocks := by
  cases op with
  | getComputedBlocks request =>
    simp only [step, bind_eq_ok, pure_eq_ok] at run
    obtain ⟨⟨_, manager⟩, run, rfl⟩ := run
    exact getComputedBlocks_accounted accounted run
  | allocateSlots call =>
    simp only [step, bind_eq_ok, pure_eq_ok] at run
    obtain ⟨⟨_, manager⟩, run, rfl⟩ := run
    exact allocateSlots_accounted accounted within run
  | cacheBlocks request numComputedTokens =>
    simp only [step, bind_eq_ok, pure_eq_ok] at run
    obtain ⟨manager, run, rfl⟩ := run
    exact cacheBlocks_accounted accounted run
  | removeSkippedBlocks requestId processedComputedTokens numPromptTokens =>
    simp only [step, bind_eq_ok, pure_eq_ok] at run
    obtain ⟨manager, run, rfl⟩ := run
    exact removeSkippedBlocks_accounted accounted run
  | free requestId =>
    simp only [step, bind_eq_ok, pure_eq_ok] at run
    obtain ⟨manager, run, rfl⟩ := run
    exact free_accounted accounted run
  | popBlocksForFree requestId =>
    cases run
    exact popBlocksForFree_accounted accounted requestId
  | drainDeferredFree => exact drainDeferredFree_accounted accounted run
  | takePartialTailOffloads =>
    simp only [step, bind_eq_ok, pure_eq_ok] at run
    obtain ⟨⟨_, manager⟩, run, rfl⟩ := run
    exact takePartialTailOffloads_accounted accounted run
  | takeKvCacheBlockCopies deferBlockFree =>
    exact takeKvCacheBlockCopies_accounted accounted run
  | evictBlocks blockIds =>
    simp only [step, bind_eq_ok, pure_eq_ok] at run
    obtain ⟨manager, run, rfl⟩ := run
    exact evictBlocks_accounted accounted run
  | resetPrefixCache =>
    cases run
    exact resetPrefixCache_accounted accounted
  | takeNewBlockIds =>
    cases run
    exact KVCacheManager.Accounted.map_managers accounted (fun _ _ => rfl) fun _ => rfl
  | newStepStarts =>
    cases run
    exact KVCacheManager.Accounted.map_managers accounted (fun _ _ => rfl) fun _ => rfl

theorem ref_counts_exact {config : KVCacheManagerConfig H} {manager : KVCacheManager H}
    (created : KVCacheManager.create config = .ok manager) (ops : List (CacheOp H))
    (within : Run.Meets step (HitsWithin config.numBlocks) ⟨manager, []⟩ ops) :
    Run.Always step (RefCountsExact config.numBlocks) ⟨manager, []⟩ ops := by
  have initial : Accounted config.numBlocks (⟨manager, []⟩ : CacheState H) := by
    simp only [KVCacheManager.create, bind_eq_ok, pure_eq_ok] at created
    obtain ⟨_, created, rfl⟩ := created
    refine ⟨(create_exact created).owners_congr fun block _ => ?_, fun single member => ?_⟩
    · have empty : heldBy (config.coordinator.kvCacheGroups.mapIdx config.createManager) block =
          0 := by
        rw [heldBy, sum_eq_zero]
        intro count member
        obtain ⟨single, inside, rfl⟩ := List.mem_map.mp member
        obtain ⟨i, _, rfl⟩ := List.mem_mapIdx.mp inside
        rfl
      simpa using empty
    · obtain ⟨i, _, rfl⟩ := List.mem_mapIdx.mp member
      exact fun offload listed => by cases listed
  have accounted := Run.always_of_meets
    (fun state op next run within accounted => step_accounted run within accounted) within initial
  exact accounted.imp fun state accounted => accounted.refCountsExact

def twoFullManagerConfig : KVCacheManagerConfig Nat where
  coordinator :=
    { kvCacheGroups :=
        [⟨⟨.fullAttention, 1, 0⟩, false⟩, ⟨⟨.fullAttention, 1, 1⟩, false⟩,
          ⟨⟨.slidingWindow 2, 1, 0⟩, false⟩]
      useEagle := false
      dcpWorldSize := 1
      schedulerBlockSize := 1
      hashBlockSize := 1 }
  numBlocks := 10
  enableCaching := true
  enableKvCacheEvents := false
  hasher := { hashFunction := fun _ => 0, noneHash := 0, sha256 := id }
  maxModelLen := 100
  maxInFlightTokens := 100
  watermarkBlocks := 0
  retentionInterval := none
  needsKvCacheZeroing := false

def newRequest (requestId : RequestId) (blockHashes : List Nat) : EngineRequest Nat where
  requestId
  promptTokenIds := some blockHashes
  promptEmbeds := none
  numPromptTokens := blockHashes.length
  outputTokenIds := []
  allTokenIds := blockHashes
  numComputedTokens := 0
  cacheSalt := none
  mmFeatures := []
  loraRequest := none
  blockHashes
  sharedPrefixBoundary := 0
  numInFlightTokens := 0
  awaitsAdmission := true
  skipReadingPrefixCache := false
  reportsFull := false

def firstCall (request : EngineRequest Nat) (numNewTokens numExternalComputedTokens : Nat)
    (newComputedBlocks : List (List BlockRef)) : SlotsCall Nat where
  request
  numNewTokens
  numNewComputedTokens := 0
  newComputedBlocks
  numLookaheadTokens := 0
  numExternalComputedTokens
  delayCacheBlocks := numNewTokens = 0
  numEncoderTokens := 0
  fullSequenceMustFit := false
  reservedBlocks := 0
  hasScheduledReqs := false

theorem ref_counts_exact_external : ∃ manager,
    KVCacheManager.create twoFullManagerConfig = .ok manager ∧
    Run.Always step (RefCountsExact 10) ⟨manager, []⟩
      [.allocateSlots (firstCall (newRequest 1 [7, 8]) 1 1 [[], [], []]), .free 1] := by
  refine ⟨_, rfl, ?_⟩
  apply @ref_counts_exact _ _ twoFullManagerConfig _ rfl
  refine ⟨fun _ _ => ⟨?_, ?_⟩, fun _ _ => ?_⟩
  · decide
  · intro i single _ _ _ blocks found
    have empty : blocks = [] := by simpa [firstCall] using mem_of_getElem? found
    simp [empty]
  · exact ⟨fun _ _ => trivial, fun _ _ => trivial⟩

def FromLookup (state : CacheState Nat) : CacheOp Nat → Prop
  | .allocateSlots call => ∃ boundary after, state.manager.getComputedBlocks call.request =
      .ok ((call.newComputedBlocks, call.numNewComputedTokens, boundary), after)
  | _ => True

def staleOps : List (CacheOp Nat) :=
  [.allocateSlots (firstCall (newRequest 1 [7, 8]) 2 0 [[], [], []]), .free 1, .evictBlocks [5, 6],
    .allocateSlots (firstCall (newRequest 2 [7, 8, 9]) 0 1 [[], [.block 3, .block 4], []]),
    .allocateSlots (firstCall (newRequest 3 [1, 2]) 2 0 [[], [], []])]

-- The external token asks for a negative number of blocks.
theorem ref_counts_stale_hit : twoFullManagerConfig.coordinator.Accepted ∧
    ∃ manager, KVCacheManager.create twoFullManagerConfig = .ok manager ∧
      Run.Meets step FromLookup ⟨manager, []⟩ staleOps ∧
      ¬Run.Always step (RefCountsExact 10) ⟨manager, []⟩ staleOps := by
  refine ⟨by constructor <;> decide, _, rfl, ?_, ?_⟩
  · refine ⟨fun _ _ => ⟨0, _, rfl⟩, fun _ taken => ?_⟩
    cases taken
    refine ⟨fun _ _ => trivial, fun _ taken => ?_⟩
    cases taken
    refine ⟨fun _ _ => trivial, fun _ taken => ?_⟩
    cases taken
    refine ⟨fun _ _ => ⟨2, _, rfl⟩, fun _ taken => ?_⟩
    cases taken
    exact ⟨fun _ _ => ⟨0, _, rfl⟩, fun _ _ => trivial⟩
  · rintro ⟨_, always⟩
    obtain ⟨_, always⟩ := always _ rfl
    obtain ⟨_, always⟩ := always _ rfl
    obtain ⟨_, always⟩ := always _ rfl
    obtain ⟨_, always⟩ := always _ rfl
    have exact := always _ rfl
    have five := exact (.block 5) (by decide) (by decide)
    have linked := five.2.mp (Relation.TransGen.single rfl)
    exact absurd linked (by decide)
end CacheState

end VllmEngine

import VllmEngine.Offload.StoreKeys
import VllmEngine.Offload.StoreTransfer

set_option autoImplicit false

namespace VllmEngine

open Outcome List StoreJob RequestGroupState Nat GroupPlan

section Flatten

variable {A B : Type} {items : List A} {lists : List (List B)}

theorem flatten_sublist_flatMap {values : A → List B}
    (each : List.Forall₂ (fun item list => list.Sublist (values item)) items lists) :
    lists.flatten.Sublist (items.flatMap values) := by
  induction each with
  | nil => exact nil_sublist _
  | cons first _ ih => exact first.append ih

theorem exists_of_mem_flatten {related : A → List B → Prop}
    (each : List.Forall₂ related items lists) {value : B} (member : value ∈ lists.flatten) :
    ∃ item ∈ items, ∃ list, related item list ∧ value ∈ list := by
  induction each with
  | nil => cases member
  | cons first _ ih =>
    rcases List.mem_append.mp member with here | later
    · exact ⟨_, mem_cons_self, _, first, here⟩
    · obtain ⟨item, listed, found⟩ := ih later
      exact ⟨item, mem_cons_of_mem _ listed, found⟩

end Flatten

section Lookup

variable {Key Value : Type} [DecidableEq Key] {keys : List Key} {values : List Value}

theorem lookup_zip_of_mem {key : Key} (length : values.length = keys.length) (member : key ∈ keys) :
    ∃ value, (keys.zip values).lookup key = some value := by
  induction keys generalizing values with
  | nil => cases member
  | cons first keys ih =>
    cases values with
    | nil => cases length
    | cons value values =>
      rw [zip_cons_cons, lookup_cons]
      by_cases same : key = first
      · exact ⟨value, by rw [beq_iff_eq.mpr same]⟩
      · obtain ⟨found, later⟩ :=
          ih (succ.inj length) ((List.mem_cons.mp member).resolve_left same)
        exact ⟨found, by rw [beq_eq_false_iff_ne.mpr same, later]⟩

theorem map_lookup_zip {default : Value}
    (length : values.length = keys.length) (distinct : keys.Nodup) :
    keys.map (fun key => ((keys.zip values).lookup key).getD default) = values := by
  induction keys generalizing values with
  | nil => rw [eq_nil_of_length_eq_zero length, map_nil]
  | cons first keys ih =>
    cases values with
    | nil => cases length
    | cons value values =>
      obtain ⟨fresh, distinct⟩ := List.nodup_cons.mp distinct
      rw [map_cons, zip_cons_cons, lookup_cons_self, Option.getD_some]
      congr 1
      rw [← ih (succ.inj length) distinct]
      apply map_congr_left
      intro key member
      have different : key ≠ first := fun same => fresh (same ▸ member)
      rw [lookup_cons, beq_eq_false_iff_ne.mpr different, ih (succ.inj length) distinct]

end Lookup

variable {Hash : Type} [DecidableEq Hash]

namespace RequestGroupState

def storedIndices (state : RequestGroupState Hash) (config : SchedulerOffloadConfig)
    (numChunks : Nat) (keysToStore : List (OffloadKey Hash)) : List Nat :=
  (subBlocks config.blocksPerChunk (state.chosenChunks numChunks keysToStore)).filter
    (holdsBlock state.blockIds)

end RequestGroupState

namespace StoreJob

variable (job : StoreJob Hash)

def cpuBlock (key : OffloadKey Hash) : Option Nat :=
  (job.keys.zip job.dstSpec).lookup key

def ownCopy (handler : SingleDirectionOffloadingHandler)
    (config : SchedulerOffloadConfig) (state : RequestGroupState Hash) (ref : CanonicalKVCacheRef)
    (index : Nat) : Option CopyOp := do
  let blockId ← state.blockIds[index]?
  let key ← state.offloadKeys[index / config.blocksPerChunk]?
  let cpuBlock ← job.cpuBlock key
  handler.slotCopy ref blockId cpuBlock (index % config.blocksPerChunk)

def ownCopies (handler : SingleDirectionOffloadingHandler)
    (config : SchedulerOffloadConfig) (status : RequestOffloadState Hash)
    (numOffloadableTokens : Nat) : List (Option CopyOp) :=
  ((status.groups config).zip handler.kvCacheGroupsDataRefs).flatMap fun ((group, state), refs) =>
    refs.flatMap fun ref =>
      (state.storedIndices config
        (state.storableChunks config group status.req numOffloadableTokens) job.keys).map
          (job.ownCopy handler config state ref)

def plan (config : SchedulerOffloadConfig) (status : RequestOffloadState Hash)
    (numOffloadableTokens : Nat) (entry : GroupOffloadConfig × RequestGroupState Hash) :
    GroupPlan where
  table := entry.2.blockIds
  placed := (((slice entry.2.offloadKeys entry.2.nextStoredChunkIdx
      (entry.2.storableChunks config entry.1 status.req numOffloadableTokens)).zipIdx
    entry.2.nextStoredChunkIdx).filter fun (key, _) => job.keys.contains key).map fun (key, chunk) =>
      (chunk, (job.cpuBlock key).getD 0)

end StoreJob

section Groups

variable {status : RequestOffloadState Hash} {config : SchedulerOffloadConfig}
  {numOffloadableTokens : Nat} {output : PrepareStoreOutput (OffloadKey Hash)} {job : StoreJob Hash}
  {newKeys : List (OffloadKey Hash)}
  {entry : GroupOffloadConfig × RequestGroupState Hash}

theorem StoreJob.plan_chunks : ((job.plan config status numOffloadableTokens entry).placed).map
    Prod.fst = entry.2.chosenChunks
      (entry.2.storableChunks config entry.1 status.req numOffloadableTokens) job.keys := by
  simp [plan, chosenChunks]

theorem StoreJob.mem_placed {pair : Nat × Nat}
    (member : pair ∈ (job.plan config status numOffloadableTokens entry).placed) :
    ∃ key ∈ job.keys, entry.2.offloadKeys[pair.1]? = some key ∧
      pair.1 < entry.2.storableChunks config entry.1 status.req numOffloadableTokens ∧
      pair.2 = (job.cpuBlock key).getD 0 := by
  obtain ⟨⟨key, _⟩, within, rfl⟩ := List.mem_map.mp member
  obtain ⟨listed, chosen⟩ := List.mem_filter.mp within
  obtain ⟨_, _, found⟩ := getElem_of_mem listed
  rw [getElem_zipIdx] at found
  obtain ⟨keyAt, rfl⟩ := Prod.mk.inj found
  rw [getElem_eq_iff, getElem?_slice] at keyAt
  split_ifs at keyAt with inside
  exact ⟨key, by simpa using chosen, keyAt, inside, rfl⟩

omit [DecidableEq Hash] in
theorem newOffloadKeys_sublist
    (ran : status.newOffloadKeys config numOffloadableTokens = .ok newKeys) :
    newKeys.Sublist ((status.groups config).flatMap fun entry =>
      slice entry.2.offloadKeys entry.2.nextStoredChunkIdx
        (entry.2.storableChunks config entry.1 status.req numOffloadableTokens)) := by
  unfold RequestOffloadState.newOffloadKeys at ran
  simp only [bind_eq_ok, pure_eq_ok] at ran
  obtain ⟨_, taken, rfl⟩ := ran
  apply flatten_sublist_flatMap ((Outcome.forall₂_of_mapM taken).imp _)
  intro entry keys offered
  exact (newOffloadKeys_spec (storableChunks_mul_le _ _) offered).1

omit [DecidableEq Hash] in
theorem holds_of_mem_newOffloadKeys
    (ran : status.newOffloadKeys config numOffloadableTokens = .ok newKeys) {key : OffloadKey Hash}
    (member : key ∈ newKeys) :
    ∃ entry ∈ status.groups config, ∃ chunk, entry.2.offloadKeys[chunk]? = some key ∧
      holdsBlock entry.2.blockIds
        (chunk * config.blocksPerChunk + (config.blocksPerChunk - 1)) := by
  unfold RequestOffloadState.newOffloadKeys at ran
  simp only [bind_eq_ok, pure_eq_ok] at ran
  obtain ⟨_, taken, rfl⟩ := ran
  obtain ⟨entry, listed, _, offered, within⟩ :=
    exists_of_mem_flatten (Outcome.forall₂_of_mapM taken) member
  exact ⟨entry, listed, (newOffloadKeys_spec (storableChunks_mul_le _ _) offered).2 key within⟩

section

variable (keyed : status.Keyed config)

include keyed

section

variable (ran : status.newOffloadKeys config numOffloadableTokens = .ok newKeys)

include ran

theorem flatMap_chosen {keysToStore : List (OffloadKey Hash)} (chosen : keysToStore.Sublist newKeys) :
    ((status.groups config).flatMap fun entry =>
      (slice entry.2.offloadKeys entry.2.nextStoredChunkIdx
        (entry.2.storableChunks config entry.1 status.req numOffloadableTokens)).filter
          (· ∈ keysToStore)) = keysToStore := by
  rw [← filter_flatMap]
  apply filter_mem_of_sublist (chosen.trans (newOffloadKeys_sublist ran))
  exact keyed.nodup_keys _ fun entry _ => slice_sublist _ _ _

theorem StoreJob.plan_stores (chosen : job.keys.Sublist newKeys)
    (member : entry ∈ status.groups config) :
    (job.plan config status numOffloadableTokens entry).Stores config.blocksPerChunk := by
  intro pair placed
  obtain ⟨_, listed, found, bound, _⟩ := mem_placed placed
  obtain ⟨_, member', _, found', holds⟩ :=
    holds_of_mem_newOffloadKeys ran (chosen.subset listed)
  obtain ⟨rfl, rfl⟩ := keyed.eq_of_key member member' found found'
  refine ⟨?_, holds⟩
  calc pair.1 * config.blocksPerChunk + config.blocksPerChunk
    _ = (pair.1 + 1) * config.blocksPerChunk := (succ_mul _ _).symm
    _ ≤ entry.2.storableChunks config entry.1 status.req numOffloadableTokens *
        config.blocksPerChunk := mul_le_mul_right _ bound
    _ ≤ entry.2.blockIds.length := storableChunks_mul_le _ _

theorem StoreJob.flatMap_cpuBlocks (chosen : job.keys.Sublist newKeys)
    (matched : job.dstSpec.length = job.keys.length) :
    ((status.groups config).flatMap fun entry =>
      (job.plan config status numOffloadableTokens entry).placed.map Prod.snd) = job.dstSpec := by
  have names (entry : GroupOffloadConfig × RequestGroupState Hash) :
      (job.plan config status numOffloadableTokens entry).placed.map Prod.snd =
        ((slice entry.2.offloadKeys entry.2.nextStoredChunkIdx
          (entry.2.storableChunks config entry.1 status.req numOffloadableTokens)).filter
            (· ∈ job.keys)).map fun key => (job.cpuBlock key).getD 0 := by
    conv_rhs => rw [← zipIdx_map_fst entry.2.nextStoredChunkIdx
      (slice entry.2.offloadKeys _ _), filter_map, map_map]
    simp only [plan, map_map, contains_eq_mem]
    rfl
  have distinct : job.keys.Nodup :=
    (chosen.trans (newOffloadKeys_sublist ran)).nodup
      (keyed.nodup_keys _ fun entry _ => slice_sublist _ _ _)
  simp only [names]
  rw [← map_flatMap, flatMap_chosen keyed ran chosen]
  exact map_lookup_zip matched distinct

end

end

theorem groupBlocks_eq (job : StoreJob Hash)
    (stores : (job.plan config status numOffloadableTokens entry).Stores config.blocksPerChunk) :
    entry.2.groupBlocks config
      (entry.2.storableChunks config entry.1 status.req numOffloadableTokens) job.keys = .ok {
        startGpuBlockIdx := (((job.plan config status numOffloadableTokens entry).kept
          config.blocksPerChunk).map Prod.fst).head?
        blockIds := (job.plan config status numOffloadableTokens entry).ids
          config.blocksPerChunk } := by
  have inRange : ∀ index ∈ subBlocks config.blocksPerChunk
      ((job.plan config status numOffloadableTokens entry).placed.map Prod.fst),
      index < entry.2.blockIds.length := by
    intro index member
    obtain ⟨_, within, sub⟩ := List.mem_flatMap.mp member
    obtain ⟨pair, placed, rfl⟩ := List.mem_map.mp within
    obtain ⟨_, bound, rfl⟩ := List.mem_map.mp sub
    have room := (stores pair placed).1
    have small := List.mem_range.mp bound
    have table : (job.plan config status numOffloadableTokens entry).table = entry.2.blockIds := rfl
    rw [table] at room
    omega
  have kept : ((job.plan config status numOffloadableTokens entry).kept
      config.blocksPerChunk).map Prod.fst = (subBlocks config.blocksPerChunk
        ((job.plan config status numOffloadableTokens entry).placed.map Prod.fst)).filter
          (holdsBlock entry.2.blockIds) := by
    rw [← places_fst, filter_map]
    rfl
  rw [groupBlocks, ← plan_chunks, GroupBlocks.foldlM_add inRange, ← kept, ids, map_map]
  rfl

def specOf (b : Nat) (plans : List GroupPlan) : GPULoadStoreSpec :=
  .ofGroups (plans.map fun plan => {
    startGpuBlockIdx := ((plan.kept b).map Prod.fst).head?
    blockIds := plan.ids b })

theorem storeJob_spec (keyed : status.Keyed config)
    (ran : status.newOffloadKeys config numOffloadableTokens = .ok newKeys)
    (chosen : output.keysToStore.Sublist newKeys)
    (built : status.storeJob config numOffloadableTokens output = .ok job) :
    job.keys = output.keysToStore ∧ job.dstSpec = output.storeSpec ∧
      job.srcSpec = specOf config.blocksPerChunk
        ((status.groups config).map (job.plan config status numOffloadableTokens)) := by
  unfold RequestOffloadState.storeJob at built
  simp only [bind_eq_ok, pure_eq_ok] at built
  obtain ⟨blocks, taken, rfl⟩ := built
  refine ⟨rfl, rfl, ?_⟩
  dsimp only
  generalize whole : mk _ _ _ _ _ = job
  have keys : output.keysToStore = job.keys := by rw [← whole]
  rw [keys] at chosen taken
  have listed : blocks = (status.groups config).map fun entry => (entry.1, {
      startGpuBlockIdx := (((job.plan config status numOffloadableTokens entry).kept
        config.blocksPerChunk).map Prod.fst).head?
      blockIds := (job.plan config status numOffloadableTokens entry).ids
        config.blocksPerChunk }) := by
    refine Except.ok.inj (taken.symm.trans (Outcome.mapM_of_forall fun entry member => ?_))
    rw [groupBlocks_eq job (plan_stores keyed ran chosen member), ok_bind]
    rfl
  rw [listed, specOf, map_map, map_map]
  rfl

end Groups

namespace SingleDirectionOffloadingHandler

variable {handler : SingleDirectionOffloadingHandler}

section Spec

variable {plans : List GroupPlan} {refs : List (List CanonicalKVCacheRef)} {b : Nat}

theorem specOf_blockIds (groups : plans.length = refs.length) :
    (specOf b plans).blockIds = (plans.zip refs).flatMap fun entry => entry.1.ids b := by
  have names : (plans.zip refs).map Prod.fst = plans := map_fst_zip (le_of_eq groups)
  dsimp only [specOf, GPULoadStoreSpec.ofGroups]
  conv_lhs => rw [← names, map_map, flatMap_map]
  rfl

theorem specOf_rows : ((specOf b plans).groupSizes.zip (specOf b plans).blockIndices).zip refs =
    (plans.zip refs).map fun entry => row b entry.1 entry.2 := by
  dsimp only [specOf, GPULoadStoreSpec.ofGroups]
  rw [map_map, map_map, zip_map', zip_map_left]
  apply map_congr_left
  rintro ⟨_, refs⟩ _
  simp [row, ids]

theorem length_ownCopies :
    ((plans.zip refs).flatMap fun entry => handler.ownCopies entry.1 entry.2).length =
      (List.zipWith (fun size refs => size * refs.length)
        (specOf handler.blocksPerChunk plans).groupSizes refs).sum := by
  rw [length_flatMap]
  congr 1
  dsimp only [specOf, GPULoadStoreSpec.ofGroups]
  rw [map_map, zipWith_map_left, ← map_uncurry_zip_eq_zipWith]
  apply map_congr_left
  rintro ⟨_, refs⟩ _
  simp [ownCopies, ids, mul_comm]

end Spec

theorem transferAsync_iff (toCpu : handler.gpuToCpu = true) {plans : List GroupPlan}
    (groups : plans.length = handler.kvCacheGroupsDataRefs.length)
    (sound : handler.Plans (plans.zip handler.kvCacheGroupsDataRefs)) :
    (∃ ops, handler.transferAsync (specOf handler.blocksPerChunk plans)
        (plans.flatMap fun plan => plan.placed.map Prod.snd) = .ok ops ∧
      ops.map some = (plans.zip handler.kvCacheGroupsDataRefs).flatMap fun entry =>
        handler.ownCopies entry.1 entry.2) ↔
    ∀ plan ∈ plans, Gapless (holdsBlock plan.table)
      (subBlocks handler.blocksPerChunk (plan.placed.map Prod.fst)) := by
  have names : (plans.zip handler.kvCacheGroupsDataRefs).map Prod.fst = plans :=
    map_fst_zip (le_of_eq groups)
  have cpu : ((plans.zip handler.kvCacheGroupsDataRefs).flatMap fun entry =>
      entry.1.placed.map Prod.snd) = plans.flatMap fun plan => plan.placed.map Prod.snd := by
    conv_rhs => rw [← names, flatMap_map]
  have all : (∀ entry ∈ plans.zip handler.kvCacheGroupsDataRefs, Gapless (holdsBlock entry.1.table)
        (subBlocks handler.blocksPerChunk (entry.1.placed.map Prod.fst))) ↔
      ∀ plan ∈ plans, Gapless (holdsBlock plan.table)
        (subBlocks handler.blocksPerChunk (plan.placed.map Prod.fst)) := by
    conv_rhs => rw [← names]
    simp only [mem_map, forall_exists_index, and_imp, forall_apply_eq_imp_iff₂]
  have loop := transferGroups_iff toCpu sound [] [] []
  simp only [all, ← specOf_blockIds groups, cpu, ← specOf_rows, nil_append, length_nil] at loop
  rw [← loop]
  have sizes : (specOf handler.blocksPerChunk plans).groupSizes.length =
      handler.kvCacheGroupsDataRefs.length := by
    simp [specOf, GPULoadStoreSpec.ofGroups, groups]
  have indices : (specOf handler.blocksPerChunk plans).blockIndices.length =
      handler.kvCacheGroupsDataRefs.length := by
    rw [(specOf handler.blocksPerChunk plans).indices, sizes]
  unfold transferAsync
  simp only [toCpu, if_true, sizes, indices]
  constructor
  · rintro ⟨ops, ran, own⟩
    simp only [bind_eq_ok, pyAssert_eq_ok, decide_eq_true_eq] at ran
    obtain ⟨_, _, _, _, cursor, run, _, srcEnd, _, dstEnd, _, _, done⟩ := ran
    cases done
    exact ⟨cursor.ops, by rw [run, ← srcEnd, ← dstEnd], own⟩
  · rintro ⟨added, run, own⟩
    refine ⟨added, ?_, own⟩
    have total : added.length = (List.zipWith (fun size refs => size * refs.length)
        (specOf handler.blocksPerChunk plans).groupSizes handler.kvCacheGroupsDataRefs).sum := by
      rw [← length_map some, own, length_ownCopies]
    simp only [run, ok_bind, total]
    rfl

end SingleDirectionOffloadingHandler

section InPlace

variable {status after : RequestOffloadState Hash} {config : SchedulerOffloadConfig}
  {handler : SingleDirectionOffloadingHandler} {job : StoreJob Hash}
  {numOffloadableTokens : Nat} {newKeys : List (OffloadKey Hash)}
  {entry : GroupOffloadConfig × RequestGroupState Hash}

theorem StoreJob.plan_ownCopies (sameChunk : handler.blocksPerChunk = config.blocksPerChunk)
    (matched : job.dstSpec.length = job.keys.length)
    (stores : (job.plan config status numOffloadableTokens entry).Stores config.blocksPerChunk)
    (refs : List CanonicalKVCacheRef) :
    handler.ownCopies (job.plan config status numOffloadableTokens entry) refs =
      refs.flatMap fun ref => (entry.2.storedIndices config
        (entry.2.storableChunks config entry.1 status.req numOffloadableTokens) job.keys).map
          (job.ownCopy handler config entry.2 ref) := by
  have kept : entry.2.storedIndices config
      (entry.2.storableChunks config entry.1 status.req numOffloadableTokens) job.keys =
        ((job.plan config status numOffloadableTokens entry).kept config.blocksPerChunk).map
          Prod.fst := by
    rw [storedIndices, ← plan_chunks, ← places_fst, filter_map]
    rfl
  unfold SingleDirectionOffloadingHandler.ownCopies
  rw [sameChunk, kept]
  congr 1
  funext ref
  rw [map_map]
  apply map_congr_left
  intro place member
  obtain ⟨pair, placed, inside⟩ := List.mem_flatMap.mp (List.mem_filter.mp member).1
  obtain ⟨sub, bound, rfl⟩ := List.mem_map.mp inside
  obtain ⟨key, listed, found, _, value⟩ := mem_placed placed
  obtain ⟨_, allocated⟩ := lookup_zip_of_mem matched listed
  have small := List.mem_range.mp bound
  have room := (stores pair placed).1
  have chunk : (pair.1 * config.blocksPerChunk + sub) / config.blocksPerChunk = pair.1 := by
    rw [mul_comm, mul_add_div config.positive, div_eq_of_lt small, add_zero]
  have offset : (pair.1 * config.blocksPerChunk + sub) % config.blocksPerChunk = sub := by
    rw [mul_comm, mul_add_mod, mod_eq_of_lt small]
  have cpuBlock : job.cpuBlock key = some pair.2 := by
    rw [value, cpuBlock, allocated]
    rfl
  have table : entry.2.blockIds[pair.1 * config.blocksPerChunk + sub]? =
      some (entry.2.blockIds.getD (pair.1 * config.blocksPerChunk + sub) 0) := by
    have within : pair.1 * config.blocksPerChunk + sub < entry.2.blockIds.length := by
      have same : (job.plan config status numOffloadableTokens entry).table = entry.2.blockIds := rfl
      rw [same] at room
      omega
    rw [getD_eq_getElem?_getD, getElem?_eq_getElem within, Option.getD_some]
  simp only [ownCopy, Function.comp_apply, chunk, offset, found, cpuBlock, table,
    Option.bind_eq_bind, Option.bind_some]
  rfl

theorem buildStoreJob_job {numScheduledTokens : Nat}
    {prepareStore : List (OffloadKey Hash) → Option (PrepareStoreOutput (OffloadKey Hash))}
    (built : status.buildStoreJob config numScheduledTokens prepareStore = .ok (some job, after)) :
    ∃ newKeys output, status.newOffloadKeys config (status.calcNumOffloadableTokens config
        (status.numTokensAfterBatch numScheduledTokens)) = .ok newKeys ∧
      prepareStore newKeys = some output ∧
      status.storeJob config (status.calcNumOffloadableTokens config
        (status.numTokensAfterBatch numScheduledTokens)) output = .ok job := by
  unfold RequestOffloadState.buildStoreJob at built
  rw [bind_eq_ok] at built
  obtain ⟨newKeys, ran, built⟩ := built
  split_ifs at built with none
  · cases built
  cases answered : prepareStore newKeys with
  | none =>
    rw [answered] at built
    cases built
  | some output =>
    rw [answered] at built
    dsimp only at built
    split_ifs at built with empty
    · cases built
    · simp only [bind_eq_ok, pure_eq_ok] at built
      obtain ⟨_, stored, same⟩ := built
      obtain rfl := Option.some.inj (Prod.mk.inj same).1
      exact ⟨newKeys, output, ran, answered, stored⟩

-- The manager may choose any of the offered keys.
theorem store_in_place (keyed : status.Keyed config) (toCpu : handler.gpuToCpu = true)
    (sameChunk : handler.blocksPerChunk = config.blocksPerChunk)
    (sameGroups : handler.kvCacheGroupsDataRefs.length = config.kvGroupConfigs.length)
    {numScheduledTokens : Nat}
    {prepareStore : List (OffloadKey Hash) → Option (PrepareStoreOutput (OffloadKey Hash))}
    (answers : ∀ keys output, prepareStore keys = some output → output.Allocates keys)
    (built : status.buildStoreJob config numScheduledTokens prepareStore = .ok (some job, after)) :
    (∃ ops, handler.transferAsync job.srcSpec job.dstSpec = .ok ops ∧
      ops.map some = job.ownCopies handler config status (status.calcNumOffloadableTokens config
        (status.numTokensAfterBatch numScheduledTokens))) ↔
    ∀ entry ∈ status.groups config, Gapless (holdsBlock entry.2.blockIds)
      (subBlocks config.blocksPerChunk (entry.2.chosenChunks
        (entry.2.storableChunks config entry.1 status.req (status.calcNumOffloadableTokens config
          (status.numTokensAfterBatch numScheduledTokens))) job.keys)) := by
  obtain ⟨newKeys, output, ran, answered, stored⟩ := buildStoreJob_job built
  generalize status.calcNumOffloadableTokens config
    (status.numTokensAfterBatch numScheduledTokens) = numOffloadableTokens at *
  obtain ⟨chosen, matched, distinct⟩ := answers newKeys output answered
  obtain ⟨keys, dst, src⟩ := storeJob_spec keyed ran chosen stored
  rw [← keys] at chosen matched
  rw [← dst] at matched distinct
  have stores (entry : GroupOffloadConfig × RequestGroupState Hash)
      (member : entry ∈ status.groups config) :=
    plan_stores keyed ran chosen member
  have blocks := flatMap_cpuBlocks keyed ran chosen matched
  have groups : ((status.groups config).map (job.plan config status numOffloadableTokens)).length =
      handler.kvCacheGroupsDataRefs.length := by
    rw [length_map, sameGroups, RequestOffloadState.groups, length_zip,
      ← keyed.leading.length_eq, min_self]
  have sound : handler.Plans (((status.groups config).map
      (job.plan config status numOffloadableTokens)).zip handler.kvCacheGroupsDataRefs) := by
    refine ⟨?_, ?_, ?_⟩
    · rintro ⟨plan, refs⟩ member
      obtain ⟨entry, listed, rfl⟩ := List.mem_map.mp (of_mem_zip member).1
      rw [sameChunk]
      exact stores entry listed
    · rintro ⟨plan, refs⟩ member
      obtain ⟨entry, listed, rfl⟩ := List.mem_map.mp (of_mem_zip member).1
      rw [← blocks, nodup_flatMap] at distinct
      exact distinct.1 entry listed
    · rintro ⟨plan, refs⟩ member
      exact handler.referenced refs (of_mem_zip member).2
  have own : job.ownCopies handler config status numOffloadableTokens =
      (((status.groups config).map (job.plan config status numOffloadableTokens)).zip
        handler.kvCacheGroupsDataRefs).flatMap fun entry => handler.ownCopies entry.1 entry.2 := by
    rw [zip_map_left, flatMap_map, ownCopies]
    apply flatMap_congr
    rintro ⟨entry, refs⟩ member
    exact (plan_ownCopies sameChunk matched (stores entry (of_mem_zip member).1) refs).symm
  have transfer := SingleDirectionOffloadingHandler.transferAsync_iff toCpu groups sound
  rw [flatMap_map, blocks, ← own, sameChunk, ← src] at transfer
  rw [transfer, forall_mem_map]
  simp only [plan_chunks]
  rfl

end InPlace

namespace TwoChunks

def config : SchedulerOffloadConfig where
  kvGroupConfigs := [{
    groupIdx := 0, tokensPerBlock := 4, tokensPerChunk := 8, hashesPerChunk := 1
    slidingWindowSizeInChunks := some 1, alignmentChunkCount := none, isEagleGroup := false }]
  blocksPerChunk := 2
  numWorkers := 1
  offloadPromptOnly := true
  positive := by decide
  indexed := rfl

def status (table : List Nat) : RequestOffloadState Nat where
  req := {
    requestId := 0, status := .running, numTokens := 16, numPromptTokens := 16
    numComputedTokens := 8, blockHashes := [10, 11] }
  groupStates := [{
    offloadKeys := [⟨10, 0⟩, ⟨11, 0⟩], blockIds := table, nextStoredChunkIdx := 0
    numHitChunks := 0 }]
  maxOffloadTokens := none
  numLocallyComputedTokens := 0
  transferJobs := []
  finishedSignaled := false

def handler : SingleDirectionOffloadingHandler where
  gpuTensors := [{ dataPtr := 0, rowStride := 8, rowSize := 8, nonempty := by decide, apart := by decide }]
  cpuTensors := [{
    dataPtr := 1000, rowStride := 16, rowSize := 16, nonempty := by decide, apart := by decide }]
  blocksPerChunk := 2
  kvCacheGroupsDataRefs := [[{ tensorIdx := 0, pageSizeBytes := 8 }]]
  gpuToCpu := true
  positive := by decide
  sameLength := rfl
  paged := by decide
  referenced := by decide

def prepareStore (keys : List (OffloadKey Nat)) : Option (PrepareStoreOutput (OffloadKey Nat)) :=
  some { keysToStore := keys, storeSpec := List.range' 3 keys.length, evictedKeys := [] }

theorem keyed (table : List Nat) : (status table).Keyed config where
  distinct := (by decide : [10, 11].Nodup)
  leading := by
    have chunks : [(⟨10, 0⟩ : OffloadKey Nat), ⟨11, 0⟩] <+:
        (stride [10, 11] 0 2 1).map fun hash => ⟨hash, 0⟩ := by decide
    exact .cons chunks .nil

theorem answers (keys : List (OffloadKey Nat)) (output : PrepareStoreOutput (OffloadKey Nat))
    (answered : prepareStore keys = some output) : output.Allocates keys := by
  cases answered
  exact ⟨List.Sublist.refl keys, length_range', nodup_range'⟩

theorem store_in_place_two_chunks : ∃ job after,
    (status [0, 7, 8, 9]).buildStoreJob config 8 prepareStore = .ok (some job, after) ∧
    ∃ ops, handler.transferAsync job.srcSpec job.dstSpec = .ok ops ∧
      ops.map some = job.ownCopies handler config (status [0, 7, 8, 9])
        ((status [0, 7, 8, 9]).calcNumOffloadableTokens config
          ((status [0, 7, 8, 9]).numTokensAfterBatch 8)) := by
  refine ⟨_, _, rfl, (store_in_place (keyed _) rfl rfl rfl answers rfl).mpr ?_⟩
  decide

-- The state of the second chunk lands in the first half of its CPU block.
theorem second_state_misplaced : ∃ job after,
    (status [0, 7, 0, 9]).buildStoreJob config 8 prepareStore = .ok (some job, after) ∧
    (∀ keys output, prepareStore keys = some output → output.Allocates keys) ∧
    (status [0, 7, 0, 9]).Keyed config ∧
    ¬ ∃ ops, handler.transferAsync job.srcSpec job.dstSpec = .ok ops ∧
      ops.map some = job.ownCopies handler config (status [0, 7, 0, 9])
        ((status [0, 7, 0, 9]).calcNumOffloadableTokens config
          ((status [0, 7, 0, 9]).numTokensAfterBatch 8)) := by
  refine ⟨_, _, rfl, answers, keyed _, ?_⟩
  rintro ⟨ops, ran, own⟩
  cases ran
  revert own
  decide

end TwoChunks

end VllmEngine

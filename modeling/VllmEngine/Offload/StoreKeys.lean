import VllmEngine.Offload.StorePlacement
import VllmEngine.Offload.PoolRun

set_option autoImplicit false

namespace VllmEngine

open Outcome List Nat

variable {Hash : Type} {state : RequestGroupState Hash} {config : SchedulerOffloadConfig}
  {group : GroupOffloadConfig} {numChunks : Nat}

namespace RequestGroupState

variable {offered after : List (OffloadKey Hash)}

theorem offerChunk_spec {entry : (OffloadKey Hash × Nat) × Nat}
    (taken : offerChunk group numChunks offered entry = .ok after) :
    after = offered ∨ entry.1.2 ≠ 0 ∧ after = offered ++ [entry.1.1] := by
  unfold offerChunk at taken
  dsimp only at taken
  split_ifs at taken with null
  · exact .inl (Except.ok.inj taken).symm
  · simp only [bind_eq_ok, pure_eq_ok] at taken
    obtain ⟨reachable, _, rfl⟩ := taken
    cases reachable with
    | true => exact .inr ⟨null, rfl⟩
    | false => exact .inl rfl

theorem offerChunks_spec {entries : List ((OffloadKey Hash × Nat) × Nat)}
    (taken : entries.foldlM (offerChunk group numChunks) offered = .ok after) :
    ∃ added, after = offered ++ added ∧ added.Sublist (entries.map fun entry => entry.1.1) ∧
      ∀ key ∈ added, ∃ entry ∈ entries, entry.1.1 = key ∧ entry.1.2 ≠ 0 := by
  induction entries generalizing offered with
  | nil =>
    cases taken
    exact ⟨[], (append_nil _).symm, nil_sublist _, nofun⟩
  | cons entry rest ih =>
    obtain ⟨_, first, taken⟩ := Run.foldlM_cons_ok taken
    obtain ⟨added, grown, sublist, source⟩ := ih taken
    have later (key : OffloadKey Hash) (member : key ∈ added) :
        ∃ other ∈ entry :: rest, other.1.1 = key ∧ other.1.2 ≠ 0 := by
      obtain ⟨other, within, found⟩ := source key member
      exact ⟨other, mem_cons_of_mem _ within, found⟩
    rcases offerChunk_spec first with rfl | ⟨holds, rfl⟩
    · exact ⟨added, grown, sublist.cons _, later⟩
    · refine ⟨entry.1.1 :: added, by rw [grown, append_assoc]; rfl, sublist.cons_cons _, ?_⟩
      intro key member
      rcases List.mem_cons.mp member with rfl | member
      · exact ⟨entry, mem_cons_self, rfl, holds⟩
      · exact later key member

theorem newOffloadKeys_spec {keys : List (OffloadKey Hash)}
    (allocated : numChunks * config.blocksPerChunk ≤ state.blockIds.length)
    (ran : state.newOffloadKeys config group numChunks = .ok keys) :
    keys.Sublist (slice state.offloadKeys state.nextStoredChunkIdx numChunks) ∧
      ∀ key ∈ keys, ∃ chunk, state.offloadKeys[chunk]? = some key ∧
        holdsBlock state.blockIds (chunk * config.blocksPerChunk + (config.blocksPerChunk - 1)) := by
  unfold newOffloadKeys at ran
  dsimp only at ran
  split_ifs at ran with none
  · cases ran
    exact ⟨nil_sublist _, nofun⟩
  · simp only [bind_eq_ok, pyAssert_eq_ok, decide_eq_true_eq] at ran
    obtain ⟨_, lengths, ran⟩ := ran
    obtain ⟨_, grown, sublist, source⟩ := offerChunks_spec ran
    subst grown
    constructor
    · have names : ∀ entries : List (OffloadKey Hash × Nat), ∀ start,
          (entries.zipIdx start).map (fun entry => entry.1.1) = entries.map Prod.fst := by
        intro entries start
        calc (entries.zipIdx start).map (fun entry => entry.1.1)
          _ = ((entries.zipIdx start).map Prod.fst).map Prod.fst := by rw [map_map]; rfl
          _ = entries.map Prod.fst := by rw [zipIdx_map_fst]
      rwa [names, map_fst_zip (le_of_eq lengths)] at sublist
    · intro key member
      obtain ⟨⟨⟨_, _⟩, chunk⟩, within, rfl, holds⟩ := source key member
      obtain ⟨i, _, found⟩ := getElem_of_mem within
      rw [getElem_zipIdx, getElem_zip] at found
      obtain ⟨pair, rfl⟩ := Prod.mk.inj found
      obtain ⟨keyAt, idAt⟩ := Prod.mk.inj pair
      rw [getElem_eq_iff, getElem?_slice] at keyAt
      rw [getElem_eq_iff, getElem?_stride allocated config.positive] at idAt
      refine ⟨state.nextStoredChunkIdx + i, ?_, ?_⟩
      · split_ifs at keyAt
        exact keyAt
      · split_ifs at idAt with inside
        have index : state.nextStoredChunkIdx * config.blocksPerChunk + config.blocksPerChunk - 1 +
            i * config.blocksPerChunk = (state.nextStoredChunkIdx + i) * config.blocksPerChunk +
              (config.blocksPerChunk - 1) := by
          rw [add_mul]
          have := config.positive
          omega
        rw [index] at idAt
        simpa [holdsBlock, getD_eq_getElem?_getD, idAt] using holds

theorem storableChunks_mul_le (req : OffloadRequest Hash) (numOffloadableTokens : Nat) :
    state.storableChunks config group req numOffloadableTokens * config.blocksPerChunk ≤
      state.blockIds.length := by
  have bound : state.storableChunks config group req numOffloadableTokens ≤
      state.blockIds.length / config.blocksPerChunk := min_le_right _ _
  exact (mul_le_mul_right _ bound).trans (div_mul_le_self _ _)

end RequestGroupState

section Choice

variable {A : Type} [DecidableEq A]

theorem filter_mem_of_sublist {taken items : List A} (sublist : taken.Sublist items)
    (distinct : items.Nodup) : items.filter (· ∈ taken) = taken := by
  induction sublist with
  | slnil => rfl
  | @cons taken items item sublist ih =>
    obtain ⟨fresh, distinct⟩ := List.nodup_cons.mp distinct
    rw [filter_cons_of_neg, ih distinct]
    simpa using fun member => fresh (sublist.subset member)
  | @cons_cons taken items item sublist ih =>
    obtain ⟨fresh, distinct⟩ := List.nodup_cons.mp distinct
    rw [filter_cons_of_pos (by simp)]
    congr 1
    rw [← ih distinct]
    apply filter_congr
    intro other member
    have different : other ≠ item := fun same => fresh (same ▸ member)
    simp [different, ih distinct]

end Choice

namespace RequestOffloadState

variable {status : RequestOffloadState Hash}

section

variable (keyed : status.Keyed config)

include keyed

theorem Keyed.updateOffloadKeys :
    (status.updateOffloadKeys config).Keyed config where
  distinct := keyed.distinct
  leading := by
    unfold RequestOffloadState.updateOffloadKeys groups
    rw [List.forall₂_map_right_iff, List.forall₂_iff_zip]
    have length := keyed.leading.length_eq
    refine ⟨by rw [length_zip, ← length, min_self], fun {group entry} member => ?_⟩
    obtain ⟨rfl, paired⟩ : group = entry.1 ∧ entry ∈ config.kvGroupConfigs.zip status.groupStates := by
      obtain ⟨_, _, found⟩ := getElem_of_mem member
      rw [getElem_zip] at found
      obtain ⟨rfl, rfl⟩ := Prod.mk.inj found
      exact ⟨by rw [getElem_zip], getElem_mem _⟩
    obtain ⟨group, state⟩ := entry
    have leading := (List.forall₂_iff_zip.mp keyed.leading).2 paired
    dsimp only [RequestGroupState.updateOffloadKeys]
    generalize keys : (stride status.req.blockHashes (group.hashesPerChunk - 1)
      status.req.blockHashes.length group.hashesPerChunk).map
        (fun hash => (⟨hash, group.groupIdx⟩ : OffloadKey Hash)) = chunks at leading ⊢
    have rest : (stride status.req.blockHashes
        (group.hashesPerChunk * state.offloadKeys.length + group.hashesPerChunk - 1)
        status.req.blockHashes.length group.hashesPerChunk).map
          (fun hash => (⟨hash, group.groupIdx⟩ : OffloadKey Hash)) =
        chunks.drop state.offloadKeys.length := by
      rcases Nat.eq_zero_or_pos group.hashesPerChunk with zero | positive
      · simp [← keys, zero, stride, cdiv_eq]
      · rw [← keys, ← map_drop, stride_drop le_rfl positive]
        congr 2
        rw [mul_comm group.hashesPerChunk]
        omega
    rw [rest, List.prefix_iff_eq_take.mp leading, length_take,
      min_eq_left leading.length_le, take_append_drop]

theorem Keyed.mem_groups {entry : GroupOffloadConfig × RequestGroupState Hash}
    (member : entry ∈ status.groups config) :
    entry.2.offloadKeys.Nodup ∧ ∀ key ∈ entry.2.offloadKeys, key.groupIdx = entry.1.groupIdx := by
  have leading := (List.forall₂_iff_zip.mp keyed.leading).2 member
  constructor
  · refine leading.sublist.nodup (List.Nodup.map (fun hash hash' same => ?_) ?_)
    · exact (OffloadKey.mk.inj same).1
    · exact nodup_stride keyed.distinct _ _ _
  · intro key listed
    obtain ⟨hash, _, rfl⟩ := List.mem_map.mp (leading.subset listed)
    rfl

theorem Keyed.nodup_groupIdx :
    ((status.groups config).map fun entry => entry.1.groupIdx).Nodup := by
  have distinct : (config.kvGroupConfigs.map GroupOffloadConfig.groupIdx).Nodup := by
    rw [config.indexed]
    exact nodup_range
  have names : (status.groups config).map Prod.fst = config.kvGroupConfigs :=
    map_fst_zip (le_of_eq keyed.leading.length_eq)
  rwa [← names, map_map] at distinct

theorem Keyed.nodup_keys
    (keys : GroupOffloadConfig × RequestGroupState Hash → List (OffloadKey Hash))
    (own : ∀ entry ∈ status.groups config, (keys entry).Sublist entry.2.offloadKeys) :
    ((status.groups config).flatMap keys).Nodup := by
  rw [nodup_flatMap]
  refine ⟨fun entry member => (own entry member).nodup (keyed.mem_groups member).1, ?_⟩
  refine (List.pairwise_map.mp keyed.nodup_groupIdx).imp_of_mem
    fun {entry other} first second different => ?_
  intro key mine yours
  apply different
  rw [← (keyed.mem_groups first).2 key ((own entry first).subset mine),
    (keyed.mem_groups second).2 key ((own other second).subset yours)]

theorem Keyed.eq_of_key {entry other : GroupOffloadConfig × RequestGroupState Hash}
    (member : entry ∈ status.groups config) (member' : other ∈ status.groups config)
    {key : OffloadKey Hash} {chunk chunk' : Nat} (found : entry.2.offloadKeys[chunk]? = some key)
    (found' : other.2.offloadKeys[chunk']? = some key) : entry = other ∧ chunk = chunk' := by
  have same : entry.1.groupIdx = other.1.groupIdx := by
    rw [← (keyed.mem_groups member).2 key (mem_of_getElem? found),
      (keyed.mem_groups member').2 key (mem_of_getElem? found')]
  have equal := inj_on_of_nodup_map keyed.nodup_groupIdx member member' same
  subst equal
  refine ⟨rfl, (getElem?_inj ?_ (keyed.mem_groups member).1).mp (found.trans found'.symm)⟩
  exact (List.getElem?_eq_some_iff.mp found).1

end

end RequestOffloadState

end VllmEngine

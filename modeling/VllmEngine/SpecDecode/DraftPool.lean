import VllmEngine.Shared.Arith
import Mathlib.Order.CompletePartialOrder

set_option autoImplicit false

namespace VllmEngine.DraftPool

open Nat

def dflashKvBlockSize : Nat := 16

def dflashKvTailTokens : Nat := 8

inductive ModelDtype where
  | float16
  | bfloat16
  | float32
  deriving DecidableEq, Repr

def ModelDtype.size : ModelDtype → Nat
  | .float16 => 2
  | .bfloat16 => 2
  | .float32 => 4

theorem ModelDtype.size_pos (dtype : ModelDtype) : 0 < dtype.size := by
  cases dtype <;> decide

structure DraftConfig where
  numLayers : Nat
  totalKvHeads : Nat
  tensorParallelSize : Nat
  headDim : Nat
  dtype : ModelDtype
  maxNumReqs : Nat
  maxModelLen : Nat
  numSpeculativeTokens : Nat
  maxNumBatchedTokens : Nat
  layersPos : 0 < numLayers
  headsPos : 0 < totalKvHeads
  headDimPos : 0 < headDim
  reqsPos : 0 < maxNumReqs
  lenPos : 0 < maxModelLen

namespace DraftConfig

variable (config : DraftConfig)

def numKvHeads : Nat :=
  max 1 (config.totalKvHeads / max 1 config.tensorParallelSize)

def ownKvPoolBlocksPerReq : Nat :=
  cdiv (config.maxModelLen + config.numSpeculativeTokens + dflashKvTailTokens) dflashKvBlockSize

def pageSizeBytes : Nat :=
  dflashKvBlockSize * config.numKvHeads * (config.headDim + config.headDim) * config.dtype.size

def scratchReserve : Nat := 128 * 1024 * 1024

def ownKvPoolReserveBytes : Nat :=
  let blocksPerReq := cdiv (config.maxModelLen + config.numSpeculativeTokens + 2) 16
  let pageBytes := 2 * 16 * config.numKvHeads * config.headDim * 2
  config.numLayers * config.maxNumReqs * blocksPerReq * pageBytes + scratchReserve

end DraftConfig

structure KVCacheTensor where
  size : Nat
  sharedBy : List Nat
  deriving DecidableEq, Repr

structure KVCacheConfig where
  numBlocks : Nat
  kvCacheTensors : List KVCacheTensor
  layerNames : List Nat
  deriving DecidableEq, Repr

variable (config : DraftConfig)

def buildDflashOwnKvConfig (numBlocks : Nat) : KVCacheConfig :=
  let layerNames := List.range config.numLayers
  { numBlocks := numBlocks
    kvCacheTensors := [{ size := config.pageSizeBytes * numBlocks, sharedBy := layerNames }]
    layerNames := layerNames }

structure Pool where
  rawTensorBytes : Nat
  kvCaches : List (Nat × Nat)
  blocksPerReq : Nat
  deriving DecidableEq, Repr

def initDflashOwnKvPool (isProfiling : Bool) : Pool :=
  let blocksPerReq :=
    if isProfiling then
      cdiv (min config.maxModelLen (config.maxNumBatchedTokens + config.numSpeculativeTokens))
        dflashKvBlockSize
    else config.ownKvPoolBlocksPerReq
  let kvConfig := buildDflashOwnKvConfig config (config.maxNumReqs * blocksPerReq)
  { rawTensorBytes := (kvConfig.kvCacheTensors.head?.map (·.size)).getD 0
    kvCaches := kvConfig.layerNames.map fun name => (name, 0)
    blocksPerReq := blocksPerReq }

def Pool.rowBase (pool : Pool) (row : Nat) : Nat := row * pool.blocksPerReq * dflashKvBlockSize

def Pool.slot (pool : Pool) (row position : Nat) : Nat := pool.rowBase row + position

-- The stride orders of the attention backends over `(blocks, heads, block_size, 2 * head_size)`.
inductive CacheLayout where
  | nhd
  | hnd
  deriving DecidableEq, Repr

def elementIndex (layout : CacheLayout) (page head offset lane : Nat) : Nat :=
  match layout with
  | .nhd => ((page * dflashKvBlockSize + offset) * config.numKvHeads + head) *
      (2 * config.headDim) + lane
  | .hnd => ((page * config.numKvHeads + head) * dflashKvBlockSize + offset) *
      (2 * config.headDim) + lane

abbrev ByteAddress := Nat × Nat

def byteOffset (layout : CacheLayout) (slot head lane byte : Nat) : Nat :=
  elementIndex config layout (slot / dflashKvBlockSize) head (slot % dflashKvBlockSize) lane *
    config.dtype.size + byte

def slotBytes (layout : CacheLayout) (pool : Pool) (layer row position : Nat) : Set ByteAddress :=
  { address | (layer, address.1) ∈ pool.kvCaches ∧
      ∃ head < config.numKvHeads, ∃ lane < 2 * config.headDim, ∃ byte < config.dtype.size,
        address.2 = byteOffset config layout (pool.slot row position) head lane byte }

structure InRange (config : DraftConfig) (layer row position : Nat) : Prop where
  layer : layer < config.numLayers
  row : row < config.maxNumReqs
  position : position < config.maxModelLen

def DisjointStorage (layout : CacheLayout) (pool : Pool) : Prop :=
  ∀ layer row position layer' row' position',
    InRange config layer row position → InRange config layer' row' position' →
    (layer, row, position) ≠ (layer', row', position') →
    Disjoint (slotBytes config layout pool layer row position)
      (slotBytes config layout pool layer' row' position')

def AllocatesReserved (pool : Pool) : Prop :=
  pool.rawTensorBytes =
      config.numLayers * config.maxNumReqs * pool.blocksPerReq * config.pageSizeBytes ∧
    config.ownKvPoolReserveBytes = pool.rawTensorBytes + DraftConfig.scratchReserve

theorem numKvHeads_pos : 0 < config.numKvHeads :=
  lt_of_lt_of_le one_pos (le_max_left _ _)

theorem elementIndex_inj (layout : CacheLayout)
    {page head offset lane page' head' offset' lane' : Nat}
    (headBound : head < config.numKvHeads) (headBound' : head' < config.numKvHeads)
    (offsetBound : offset < dflashKvBlockSize) (offsetBound' : offset' < dflashKvBlockSize)
    (laneBound : lane < 2 * config.headDim) (laneBound' : lane' < 2 * config.headDim)
    (same : elementIndex config layout page head offset lane =
      elementIndex config layout page' head' offset' lane') : page = page' ∧ offset = offset' := by
  cases layout with
  | nhd =>
    obtain ⟨rows, _⟩ := digits_inj laneBound laneBound' same
    obtain ⟨tokens, _⟩ := digits_inj headBound headBound' rows
    exact digits_inj offsetBound offsetBound' tokens
  | hnd =>
    obtain ⟨rows, _⟩ := digits_inj laneBound laneBound' same
    obtain ⟨heads, offsets⟩ := digits_inj offsetBound offsetBound' rows
    exact ⟨(digits_inj headBound headBound' heads).1, offsets⟩

theorem byteOffset_inj (layout : CacheLayout) {slot head lane byte slot' head' lane' byte' : Nat}
    (headBound : head < config.numKvHeads) (headBound' : head' < config.numKvHeads)
    (laneBound : lane < 2 * config.headDim) (laneBound' : lane' < 2 * config.headDim)
    (byteBound : byte < config.dtype.size) (byteBound' : byte' < config.dtype.size)
    (same : byteOffset config layout slot head lane byte =
      byteOffset config layout slot' head' lane' byte') : slot = slot' := by
  have positive : 0 < dflashKvBlockSize := by decide
  obtain ⟨elements, _⟩ := digits_inj byteBound byteBound' same
  obtain ⟨pages, offsets⟩ := elementIndex_inj config layout headBound headBound'
    (mod_lt _ positive) (mod_lt _ positive) laneBound laneBound' elements
  rw [← div_add_mod slot dflashKvBlockSize, pages, offsets, div_add_mod]

theorem slot_inj {row position row' position' : Nat}
    (bound : position < config.maxModelLen) (bound' : position' < config.maxModelLen)
    (same : (initDflashOwnKvPool config false).slot row position =
      (initDflashOwnKvPool config false).slot row' position') :
    row = row' ∧ position = position' := by
  have span : config.maxModelLen ≤ config.ownKvPoolBlocksPerReq * dflashKvBlockSize :=
    calc config.maxModelLen
        ≤ config.maxModelLen + config.numSpeculativeTokens + dflashKvTailTokens := by omega
      _ ≤ config.ownKvPoolBlocksPerReq * dflashKvBlockSize := le_cdiv_mul _ (by decide)
  simp only [Pool.slot, Pool.rowBase, mul_assoc] at same
  exact digits_inj (bound.trans_le span) (bound'.trans_le span) same

theorem mem_kvCaches (isProfiling : Bool) (layer raw : Nat) :
    (layer, raw) ∈ (initDflashOwnKvPool config isProfiling).kvCaches ↔
      layer < config.numLayers ∧ raw = 0 := by
  simp [initDflashOwnKvPool, buildDflashOwnKvConfig, eq_comm]

theorem rawTensorBytes_eq : (initDflashOwnKvPool config false).rawTensorBytes =
      config.pageSizeBytes * (config.maxNumReqs * config.ownKvPoolBlocksPerReq) := rfl

theorem disjointStorage_iff (layout : CacheLayout) :
    DisjointStorage config layout (initDflashOwnKvPool config false) ↔ config.numLayers = 1 := by
  constructor
  · intro disjoint
    by_contra several
    have layers : 1 < config.numLayers := by
      have := config.layersPos
      omega
    have first (layer : Nat) (within : layer < config.numLayers) :
        (0, byteOffset config layout ((initDflashOwnKvPool config false).slot 0 0) 0 0 0) ∈
          slotBytes config layout (initDflashOwnKvPool config false) layer 0 0 := by
      refine ⟨(mem_kvCaches config false layer 0).mpr ⟨within, rfl⟩, 0, numKvHeads_pos config, 0, ?_,
        0, config.dtype.size_pos, rfl⟩
      have := config.headDimPos
      omega
    have apart := disjoint 0 0 0 1 0 0 ⟨config.layersPos, config.reqsPos, config.lenPos⟩
      ⟨layers, config.reqsPos, config.lenPos⟩ (by simp)
    exact Set.disjoint_left.mp apart (first 0 config.layersPos) (first 1 layers)
  · intro single layer row position layer' row' position' within within' differ
    apply Set.disjoint_left.mpr
    rintro _ ⟨_, _, headBound, _, laneBound, byte, byteBound, offset⟩
      ⟨_, head', headBound', lane', laneBound', byte', byteBound', offset'⟩
    have slots := byteOffset_inj config layout headBound headBound' laneBound laneBound' byteBound
      byteBound' (offset.symm.trans offset')
    obtain ⟨rfl, rfl⟩ := slot_inj config within.position within'.position slots
    have := within.layer
    have := within'.layer
    apply differ
    simp only [Prod.mk.injEq, and_true]
    omega

theorem ownKvPoolBlocksPerReq_pos : 0 < config.ownKvPoolBlocksPerReq := by
  apply (lt_cdiv_iff (by decide)).mpr
  have := config.lenPos
  omega

theorem pageSizeBytes_eq :
    config.pageSizeBytes = config.dtype.size * (32 * config.numKvHeads * config.headDim) := by
  simp only [DraftConfig.pageSizeBytes, dflashKvBlockSize]
  ring

def DraftConfig.reservedBlocksPerReq : Nat :=
  cdiv (config.maxModelLen + config.numSpeculativeTokens + 2) 16

theorem reservedBlocksPerReq_le : config.reservedBlocksPerReq ≤ config.ownKvPoolBlocksPerReq :=
  cdiv_mono 16 (by simp only [dflashKvTailTokens]; omega)

theorem ownKvPoolReserveBytes_eq : config.ownKvPoolReserveBytes =
      config.numLayers * config.maxNumReqs * config.reservedBlocksPerReq * 2 *
        (32 * config.numKvHeads * config.headDim) + DraftConfig.scratchReserve := by
  simp only [DraftConfig.ownKvPoolReserveBytes, DraftConfig.reservedBlocksPerReq]
  ring

theorem allocatesReserved_iff : AllocatesReserved config (initDflashOwnKvPool config false) ↔
      config.numLayers = 1 ∧ config.dtype.size = 2 ∧
        config.reservedBlocksPerReq = config.ownKvPoolBlocksPerReq := by
  have blocks := ownKvPoolBlocksPerReq_pos config
  have cells : 0 < 32 * config.numKvHeads * config.headDim :=
    mul_pos (mul_pos (by decide) (numKvHeads_pos config)) config.headDimPos
  have page : 0 < config.pageSizeBytes := by
    rw [pageSizeBytes_eq]
    exact mul_pos config.dtype.size_pos cells
  have layers : (initDflashOwnKvPool config false).rawTensorBytes =
      config.numLayers * config.maxNumReqs * config.ownKvPoolBlocksPerReq *
        config.pageSizeBytes ↔ config.numLayers = 1 := by
    have total : 0 < config.maxNumReqs * config.ownKvPoolBlocksPerReq * config.pageSizeBytes :=
      mul_pos (mul_pos config.reqsPos blocks) page
    rw [rawTensorBytes_eq, mul_comm config.pageSizeBytes, mul_assoc config.numLayers,
      mul_assoc config.numLayers, eq_comm, mul_eq_right total.ne']
  have reserve (single : config.numLayers = 1) :
      config.ownKvPoolReserveBytes = (initDflashOwnKvPool config false).rawTensorBytes +
          DraftConfig.scratchReserve ↔
        config.reservedBlocksPerReq * 2 = config.ownKvPoolBlocksPerReq * config.dtype.size := by
    have factor : 0 < config.maxNumReqs * (32 * config.numKvHeads * config.headDim) :=
      mul_pos config.reqsPos cells
    have reserved : 1 * config.maxNumReqs * config.reservedBlocksPerReq * 2 *
          (32 * config.numKvHeads * config.headDim) =
        config.reservedBlocksPerReq * 2 *
          (config.maxNumReqs * (32 * config.numKvHeads * config.headDim)) := by ring
    have allocated : config.dtype.size * (32 * config.numKvHeads * config.headDim) *
          (config.maxNumReqs * config.ownKvPoolBlocksPerReq) =
        config.ownKvPoolBlocksPerReq * config.dtype.size *
          (config.maxNumReqs * (32 * config.numKvHeads * config.headDim)) := by ring
    rw [ownKvPoolReserveBytes_eq, rawTensorBytes_eq, pageSizeBytes_eq, single,
      Nat.add_right_cancel_iff, reserved, allocated, Nat.mul_right_cancel_iff factor]
  constructor
  · rintro ⟨allocated, reserved⟩
    have single := layers.mp allocated
    have sizes := (reserve single).mp reserved
    have bound := reservedBlocksPerReq_le config
    have half : config.dtype.size = 2 := by
      cases dtype : config.dtype with
      | float16 => rfl
      | bfloat16 => rfl
      | float32 =>
        rw [dtype, ModelDtype.size] at sizes
        omega
    rw [half] at sizes
    exact ⟨single, half, by omega⟩
  · rintro ⟨single, size, same⟩
    refine ⟨layers.mpr single, (reserve single).mpr ?_⟩
    rw [size, same]

theorem draft_pool_sound_iff (config : DraftConfig) (layout : CacheLayout) :
    DisjointStorage config layout (initDflashOwnKvPool config false) ∧
        AllocatesReserved config (initDflashOwnKvPool config false) ↔
      config.numLayers = 1 ∧ config.dtype.size = 2 ∧
        cdiv (config.maxModelLen + config.numSpeculativeTokens + 2) 16 =
          cdiv (config.maxModelLen + config.numSpeculativeTokens + 8) 16 := by
  rw [disjointStorage_iff, allocatesReserved_iff]
  exact ⟨fun sound => sound.2, fun condition => ⟨condition.1, condition⟩⟩

def twoLayerDraft : DraftConfig where
  numLayers := 2
  totalKvHeads := 2
  tensorParallelSize := 1
  headDim := 4
  dtype := .float16
  maxNumReqs := 1
  maxModelLen := 16
  numSpeculativeTokens := 3
  maxNumBatchedTokens := 16
  layersPos := Nat.two_pos
  headsPos := Nat.two_pos
  headDimPos := Nat.succ_pos 3
  reqsPos := Nat.one_pos
  lenPos := Nat.succ_pos 15

-- Position 0 of the only request has one storage for both draft layers.
theorem two_layer_draft_overlaps :
    ¬ DisjointStorage twoLayerDraft .nhd (initDflashOwnKvPool twoLayerDraft false) ∧
      2 * (initDflashOwnKvPool twoLayerDraft false).rawTensorBytes =
        twoLayerDraft.numLayers * twoLayerDraft.maxNumReqs *
          (initDflashOwnKvPool twoLayerDraft false).blocksPerReq * twoLayerDraft.pageSizeBytes := by
  refine ⟨fun disjoint => ?_, by decide⟩
  exact absurd ((disjointStorage_iff twoLayerDraft .nhd).mp disjoint) (by decide)

end VllmEngine.DraftPool

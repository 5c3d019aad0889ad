import VllmEngine.KVCache.Hybrid
import VllmEngine.KVCache.WindowHit

set_option autoImplicit false

namespace VllmEngine

open KVCacheSpec CoordinatorConfig

variable {H : Type} {blockHashes : List H} {groupIds : List Nat} {index : PrefixIndex H}

def CachedUnder (index : PrefixIndex H) (blockHashes : List H) (hashBlockSize groupId n : Nat)
    (block : BlockRef) : Prop :=
  0 < n ∧ hashBlockSize ∣ n ∧ ∃ blockHash, blockHashes[n / hashBlockSize - 1]? = some blockHash ∧
    index.cachedBlockHashToBlock.contain ⟨blockHash, groupId⟩ block = true

namespace CoordinatorConfig

structure Accepted (config : CoordinatorConfig) : Prop where
  split : 1 < config.attentionGroups.length
  hashPositive : 0 < config.hashBlockSize
  schedulerPositive : 0 < config.schedulerBlockSize
  dcpPositive : 0 < config.dcpWorldSize
  blockPositive : ∀ group ∈ config.kvCacheGroups, 0 < group.kvCacheSpec.blockSize
  divides : ∀ group ∈ config.kvCacheGroups,
    config.hashBlockSize ∣ group.kvCacheSpec.managerBlockSize config.dcpWorldSize
  schedules : ∀ group ∈ config.kvCacheGroups,
    group.kvCacheSpec.managerBlockSize config.dcpWorldSize ∣ config.schedulerBlockSize
  sharded : 1 < config.dcpWorldSize → ∀ group ∈ config.kvCacheGroups,
    group.kvCacheSpec.isFullAttention ∨ group.kvCacheSpec.isMamba
  chunkPositive : ∀ group ∈ config.kvCacheGroups, group.kvCacheSpec.kind ≠ .chunkedLocalAttention 0

def LookupReturns (config : CoordinatorConfig) (group : SpecGroup) : Prop :=
  match group.spec.kind with
  | .crossAttention => False
  | .slidingWindow _ => group.spec.blockSize ∣ config.cacheHitAlignmentTokens
  | .chunkedLocalAttention _ =>
    group.spec.blockSize = config.cacheHitAlignmentTokens ∧ group.useEagle = false
  | .fullAttention | .rswa _ | .mamba .. => True

instance (config : CoordinatorConfig) (group : SpecGroup) :
    Decidable (config.LookupReturns group) := by
  unfold LookupReturns
  cases group.spec.kind <;> infer_instance

-- Its chunks end on block boundaries, so no block after an aligned length is looked up.
def NeverShortens (group : SpecGroup) : Prop :=
  match group.spec.kind with
  | .chunkedLocalAttention chunk => chunk ∣ group.spec.blockSize
  | _ => False

instance (group : SpecGroup) : Decidable (NeverShortens group) := by
  unfold NeverShortens
  cases group.spec.kind <;> infer_instance

theorem NeverShortens.not_fullAttention {group : SpecGroup} (never : NeverShortens group) :
    ¬group.spec.isFullAttention = true := by
  unfold NeverShortens at never
  cases kind : group.spec.kind <;> simp_all [isFullAttention]

-- Only the first group's stale blocks are cut, so nothing may shorten the hit after a second full
-- attention spec was looked up.
structure Reconcilable (config : CoordinatorConfig) : Prop where
  returns : ∀ group ∈ config.attentionGroups, config.LookupReturns group
  keeps : ∀ second, config.attentionGroups[1]? = some second → second.spec.isFullAttention = true →
    ∀ group ∈ config.attentionGroups.drop 2, NeverShortens group

variable {config : CoordinatorConfig} {group : SpecGroup}

theorem attentionGroups_spec (member : group ∈ config.attentionGroups) {groupId : Nat}
    (inside : groupId ∈ group.groupIds) : ∃ kvCacheGroup ∈ config.kvCacheGroups,
      config.kvCacheGroups[groupId]? = some kvCacheGroup ∧ kvCacheGroup.kvCacheSpec = group.spec := by
  have spec := (attentionGroups_splits config).spec group member groupId inside
  obtain ⟨kvCacheGroup, stored, same⟩ := Option.map_eq_some_iff.mp spec
  exact ⟨kvCacheGroup, List.mem_of_getElem? stored, stored, same⟩

theorem attentionGroups_member (member : group ∈ config.attentionGroups) :
    ∃ kvCacheGroup ∈ config.kvCacheGroups, kvCacheGroup.kvCacheSpec = group.spec := by
  obtain ⟨_, inside⟩ :=
    List.exists_mem_of_ne_nil _ ((attentionGroups_splits config).nonempty group member)
  obtain ⟨kvCacheGroup, present, _, same⟩ := attentionGroups_spec member inside
  exact ⟨kvCacheGroup, present, same⟩

theorem Accepted.sizes (accepted : config.Accepted) (member : group ∈ config.attentionGroups) :
    Sizes config.hashBlockSize (group.spec.managerBlockSize config.dcpWorldSize)
      config.cacheHitAlignmentTokens := by
  obtain ⟨kvCacheGroup, present, same⟩ := attentionGroups_member member
  have blockPositive := accepted.blockPositive kvCacheGroup present
  have divides := accepted.divides kvCacheGroup present
  have schedules := accepted.schedules kvCacheGroup present
  have dcpPositive := accepted.dcpPositive
  rw [same] at blockPositive divides schedules
  refine ⟨accepted.hashPositive, ?_, ?_, divides, ?_⟩
  · unfold managerBlockSize
    split
    · exact blockPositive
    · split
      · exact Nat.mul_pos blockPositive dcpPositive
      · exact blockPositive
  · unfold cacheHitAlignmentTokens
    split
    · exact accepted.hashPositive
    · exact accepted.schedulerPositive
  · unfold cacheHitAlignmentTokens
    split
    · exact .inl rfl
    · exact .inr schedules

theorem Accepted.managerBlockSize_eq (accepted : config.Accepted)
    (member : group ∈ config.attentionGroups) (other : group.spec.isFullAttention = false) :
    group.spec.managerBlockSize config.dcpWorldSize = group.spec.blockSize := by
  obtain ⟨kvCacheGroup, present, _⟩ := attentionGroups_member member
  unfold managerBlockSize
  split
  · rfl
  · rename_i notMamba
    split
    · rename_i many
      have kinds := accepted.sharded many kvCacheGroup present
      simp_all
    · rfl

end CoordinatorConfig

theorem computedBlocks_getElem? {hashBlockSize n j groupId : Nat} {row : List BlockRef}
    (inside : groupIds[j]? = some groupId)
    (cached : RowCached (fun blockHash => index.getCachedBlock blockHash groupIds) blockHashes
      hashBlockSize n row) :
    CachedUnder index blockHashes hashBlockSize groupId n (row.getD j .nullBlock) := by
  obtain ⟨positive, boundary, blockHash, stored, found⟩ := cached
  refine ⟨positive, boundary, blockHash, stored, ?_⟩
  have contained := PrefixIndex.getCachedBlock_contain found
  obtain ⟨within, rfl⟩ := List.getElem?_eq_some_iff.mp inside
  have within' : j < row.length := contained.length_eq ▸ within
  have held := contained.get within within'
  rw [List.getD_eq_getElem?_getD, List.getElem?_eq_getElem within']
  exact held

theorem hit_computedBlocks {hashBlockSize blockSize length j groupId : Nat} {kind : SpecKind}
    {rows : List (List BlockRef)} (inside : groupIds[j]? = some groupId)
    (hit : Hit kind blockSize length
      (RowCached (fun blockHash => index.getCachedBlock blockHash groupIds) blockHashes
        hashBlockSize) rows) :
    ∃ blocks, (computedBlocks groupIds rows)[j]? = some blocks ∧
      Hit kind blockSize length (CachedUnder index blockHashes hashBlockSize groupId) blocks := by
  obtain ⟨within, _⟩ := List.getElem?_eq_some_iff.mp inside
  refine ⟨rows.map fun row => row.getD j .nullBlock, ?_, ?_⟩
  · simp [computedBlocks, within]
  · exact hit.map fun n row cached => computedBlocks_getElem? inside cached

namespace HybridKVCacheCoordinator

variable {config : CoordinatorConfig} {group : SpecGroup} {spec : KVCacheSpec}

def lookupLimit (config : CoordinatorConfig) (spec : KVCacheSpec) (dropEagleBlock : Bool)
    (maxLength : Nat) : Nat :=
  maxLength - if dropEagleBlock ∧ ¬spec.isMamba then eagleMargin config spec else 0

theorem eagleMargin_fullAttention (accepted : config.Accepted)
    (member : group ∈ config.attentionGroups) (full : group.spec.isFullAttention = true) :
    eagleMargin config group.spec = min config.cacheHitAlignmentTokens
      (group.spec.managerBlockSize config.dcpWorldSize) := by
  unfold eagleMargin
  simp only [supportsFineGrainedHashLookup, full, Bool.true_or]
  by_cases part : config.enablePartialHashHits = true
  · simp only [part, cacheHitAlignmentTokens, true_and, if_true]
    split <;> omega
  · have multiple : group.spec.managerBlockSize config.dcpWorldSize ∣ config.schedulerBlockSize := by
      obtain ⟨kvCacheGroup, present, same⟩ := attentionGroups_member member
      have schedules := accepted.schedules kvCacheGroup present
      rwa [same] at schedules
    have := Nat.le_of_dvd accepted.schedulerPositive multiple
    simp only [part, cacheHitAlignmentTokens, Bool.false_eq_true, false_and, if_false]
    omega

theorem eagleMargin_slidingWindow {window : Nat} (accepted : config.Accepted)
    (member : group ∈ config.attentionGroups) (kind : group.spec.kind = .slidingWindow window) :
    eagleMargin config group.spec = group.spec.blockSize := by
  have other : group.spec.isFullAttention = false := by simp [isFullAttention, kind]
  have coarse : group.spec.supportsFineGrainedHashLookup = false := by
    simp [supportsFineGrainedHashLookup, other, isMamba, kind]
  unfold eagleMargin
  simp [coarse, accepted.managerBlockSize_eq member other]

structure RowHit (config : CoordinatorConfig) (group : SpecGroup)
    (lookup : H → Option (List BlockRef)) (blockHashes : List H) (maxLength : Nat)
    (dropEagleBlock : Bool) (rows : List (List BlockRef)) (hitLength : Nat) : Prop where
  limit : hitLength ≤ lookupLimit config group.spec dropEagleBlock maxLength
  aligned : config.cacheHitAlignmentTokens ∣ hitLength
  hit : Hit group.spec.kind (group.spec.managerBlockSize config.dcpWorldSize) hitLength
    (RowCached lookup blockHashes config.hashBlockSize) rows
  keeps : CoordinatorConfig.NeverShortens group → config.cacheHitAlignmentTokens ∣ maxLength →
    hitLength = maxLength

theorem hit_of_fullAttention {A : Type} {blockSize length : Nat}
    {cached : Nat → A → Prop} {items : List A} (full : spec.isFullAttention = true)
    (hit : Hit .fullAttention blockSize length cached items) :
    Hit spec.kind blockSize length cached items := by
  cases kind : spec.kind <;> simp [isFullAttention, kind] at full
  · exact hit
  · exact ⟨hit.count, hit.valid⟩

theorem findCachedRows_eq_full (full : spec.isFullAttention = true)
    (lookup : H → Option (List BlockRef)) (hashBlockSize : Nat) (blockHashes : List H)
    (maxLength : Nat) (groupIds : List Nat) (dropEagleBlock : Bool)
    (alignmentTokens dcpWorldSize : Nat) :
    findCachedRows lookup hashBlockSize blockHashes maxLength groupIds spec dropEagleBlock
        alignmentTokens dcpWorldSize =
      FullAttentionManager.findLongestCacheHit lookup blockHashes maxLength hashBlockSize
        (spec.managerBlockSize dcpWorldSize) dropEagleBlock alignmentTokens := by
  unfold findCachedRows
  cases kind : spec.kind <;> simp [isFullAttention, kind] at full <;> rfl

theorem findCachedRows_spec (lookup : H → Option (List BlockRef)) (blockHashes : List H)
    (maxLength : Nat) (dropEagleBlock : Bool) (accepted : config.Accepted)
    (member : group ∈ config.attentionGroups) (returns : config.LookupReturns group)
    (hashed : maxLength / config.hashBlockSize ≤ blockHashes.length)
    (eagle : dropEagleBlock = true → group.useEagle = true) :
    ∃ rows hitLength, findCachedRows lookup config.hashBlockSize blockHashes maxLength
        group.groupIds group.spec dropEagleBlock config.cacheHitAlignmentTokens
        config.dcpWorldSize = .ok (rows, hitLength) ∧
      RowHit config group lookup blockHashes maxLength dropEagleBlock rows hitLength := by
  by_cases full : group.spec.isFullAttention = true
  · obtain ⟨rows, hitLength, run, limit, aligned, hit⟩ :=
      FullAttentionManager.findLongestCacheHit_spec lookup blockHashes maxLength
        (accepted.sizes member) dropEagleBlock
    have kinds : group.spec.isMamba = false ∧ ¬CoordinatorConfig.NeverShortens group := by
      cases kind : group.spec.kind <;> simp [isFullAttention, isMamba,
        CoordinatorConfig.NeverShortens, kind] at full ⊢
    rw [findCachedRows_eq_full full]
    refine ⟨rows, hitLength, run, ?_, aligned, hit_of_fullAttention full hit,
      fun never => absurd never kinds.2⟩
    simpa [lookupLimit, kinds.1, eagleMargin_fullAttention accepted member full] using limit
  have size := accepted.managerBlockSize_eq member (by simpa using full)
  have sizes := accepted.sizes member
  rw [size] at sizes
  unfold CoordinatorConfig.LookupReturns at returns
  unfold findCachedRows
  cases kind : group.spec.kind with
  | fullAttention => simp [isFullAttention, kind] at full
  | rswa _ => simp [isFullAttention, kind] at full
  | slidingWindow window =>
    simp only [kind] at returns
    have notMamba : group.spec.isMamba = false := by simp [isMamba, kind]
    obtain ⟨rows, hitLength, run, limit, aligned, hit⟩ :=
      SlidingWindowManager.findLongestCacheHit_spec lookup blockHashes sizes returns
        group.groupIds hashed window dropEagleBlock
    refine ⟨rows, hitLength, run, ?_, aligned, by rw [kind, size]; exact hit, ?_⟩
    · simpa [lookupLimit, notMamba, eagleMargin_slidingWindow accepted member kind] using limit
    · simp [CoordinatorConfig.NeverShortens, kind]
  | chunkedLocalAttention chunk =>
    simp only [kind] at returns
    obtain ⟨same, _⟩ := returns
    have noDrop : dropEagleBlock = false := by
      cases dropEagleBlock <;> simp_all
    subst noDrop
    rw [← same] at sizes ⊢
    obtain ⟨rows, hitLength, run, limit, aligned, start, hit⟩ :=
      ChunkedLocalAttentionManager.findLongestCacheHit_spec lookup blockHashes sizes
        group.groupIds hashed chunk
    refine ⟨rows, hitLength, run, by simpa [lookupLimit] using limit, same ▸ aligned,
      by rw [kind, size]; exact hit, ?_⟩
    intro never whole
    simp only [CoordinatorConfig.NeverShortens, kind] at never
    rw [← same] at whole
    rw [Nat.div_mul_cancel (never.trans whole), Nat.div_mul_cancel whole] at start
    exact Nat.le_antisymm limit start
  | mamba mode numSpeculativeBlocks =>
    have mamba : group.spec.isMamba = true := by simp [isMamba, kind]
    obtain ⟨rows, hitLength, run, limit, aligned, hit⟩ := MambaManager.findLongestCacheHit_spec
      lookup blockHashes sizes group.groupIds hashed mode numSpeculativeBlocks
    refine ⟨rows, hitLength, run, by simpa [lookupLimit, mamba] using limit, aligned,
      by rw [kind, size]; exact hit, ?_⟩
    simp [CoordinatorConfig.NeverShortens, kind]
  | crossAttention => simp only [kind] at returns

end HybridKVCacheCoordinator

end VllmEngine

import VllmEngine.KVCache.Block
import VllmEngine.Shared.Arith

set_option autoImplicit false

namespace VllmEngine

open List

inductive MambaCacheMode where
  | none
  | all
  | align
  deriving DecidableEq, Repr

inductive SpecKind where
  | fullAttention
  | rswa (rswaWindow : Nat)
  | slidingWindow (slidingWindow : Nat)
  | chunkedLocalAttention (attentionChunkSize : Nat)
  | mamba (mambaCacheMode : MambaCacheMode) (numSpeculativeBlocks : Nat)
  | crossAttention
  deriving DecidableEq, Repr

-- The fields that only describe the layout of a page are one number: they matter where specs are
-- compared.
structure KVCacheSpec where
  kind : SpecKind
  blockSize : Nat
  layout : Nat
  deriving DecidableEq, Repr

namespace KVCacheSpec

variable (spec : KVCacheSpec)

def isFullAttention : Bool :=
  match spec.kind with
  | .fullAttention | .rswa _ => true
  | _ => false

def isMamba : Bool :=
  match spec.kind with
  | .mamba .. => true
  | _ => false

-- Context parallelism shards the pages of attention groups, not the Mamba state.
def managerBlockSize (dcpWorldSize : Nat) : Nat :=
  if spec.isMamba then spec.blockSize
  else if dcpWorldSize > 1 then spec.blockSize * dcpWorldSize
  else spec.blockSize

def supportsFineGrainedHashLookup : Bool :=
  spec.isFullAttention || spec.isMamba

end KVCacheSpec

structure KVCacheGroupSpec where
  kvCacheSpec : KVCacheSpec
  isEagleGroup : Bool
  deriving DecidableEq, Repr

structure CoordinatorConfig where
  kvCacheGroups : List KVCacheGroupSpec
  useEagle : Bool
  dcpWorldSize : Nat
  schedulerBlockSize : Nat
  hashBlockSize : Nat
  deriving DecidableEq, Repr

structure SpecGroup where
  spec : KVCacheSpec
  groupIds : List Nat
  useEagle : Bool
  deriving DecidableEq, Repr

namespace CoordinatorConfig

variable (config : CoordinatorConfig) {group : SpecGroup} {groups : List SpecGroup} {i : Nat}
  {spec : KVCacheSpec} {useEagle : Bool}

-- `eagle_group_ids`: the flagged groups, or all groups when none is flagged.
def isEagle (group : KVCacheGroupSpec) : Bool :=
  group.isEagleGroup || (config.useEagle && !config.kvCacheGroups.any (·.isEagleGroup))

def enablePartialHashHits : Bool :=
  config.dcpWorldSize = 1 && config.kvCacheGroups.any fun group =>
    match group.kvCacheSpec.kind with
    | .mamba .align _ => group.kvCacheSpec.blockSize > config.hashBlockSize
    | _ => false

def cacheHitAlignmentTokens : Nat :=
  if config.enablePartialHashHits then config.hashBlockSize else config.schedulerBlockSize

def addToSpecGroups (i : Nat) (spec : KVCacheSpec) (useEagle : Bool) :
    List SpecGroup → List SpecGroup
  | [] => [{ spec, groupIds := [i], useEagle }]
  | group :: rest =>
    if group.spec = spec then
      { group with groupIds := group.groupIds ++ [i], useEagle := group.useEagle || useEagle } ::
        rest
    else group :: addToSpecGroups i spec useEagle rest

def specGroupsFrom (config : CoordinatorConfig) :
    Nat → List KVCacheGroupSpec → List SpecGroup → List SpecGroup
  | _, [], groups => groups
  | i, group :: rest, groups =>
    specGroupsFrom config (i + 1) rest
      (addToSpecGroups i group.kvCacheSpec (config.isEagle group) groups)

-- `attention_groups` as `verify_and_split_kv_cache_groups` leaves them: full attention first.
def attentionGroups : List SpecGroup :=
  let groups := specGroupsFrom config 0 config.kvCacheGroups []
  groups.filter (·.spec.isFullAttention) ++ groups.filter fun group => !group.spec.isFullAttention

structure Splits (kvCacheGroups : List KVCacheGroupSpec) (groups : List SpecGroup) : Prop where
  nonempty : ∀ group ∈ groups, group.groupIds ≠ []
  nodup : ∀ group ∈ groups, group.groupIds.Nodup
  spec : ∀ group ∈ groups, ∀ id ∈ group.groupIds,
    kvCacheGroups[id]?.map KVCacheGroupSpec.kvCacheSpec = some group.spec
  disjoint : groups.Pairwise fun group other => List.Disjoint group.groupIds other.groupIds
  total : ∀ id < kvCacheGroups.length, ∃ group ∈ groups, id ∈ group.groupIds

theorem mem_addToSpecGroups (member : group ∈ addToSpecGroups i spec useEagle groups) :
    group ∈ groups ∨ group.spec = spec ∧ group.groupIds = [i] ∨
      ∃ old ∈ groups, old.spec = spec ∧ group.spec = spec ∧ group.groupIds = old.groupIds ++ [i] := by
  induction groups with
  | nil =>
    simp only [addToSpecGroups, mem_singleton] at member
    subst member
    exact .inr (.inl ⟨rfl, rfl⟩)
  | cons first rest ih =>
    unfold addToSpecGroups at member
    split at member
    · rename_i same
      rcases mem_cons.mp member with rfl | later
      · exact .inr (.inr ⟨first, mem_cons_self, same, same, rfl⟩)
      · exact .inl (mem_cons_of_mem first later)
    · rcases mem_cons.mp member with rfl | later
      · exact .inl mem_cons_self
      · rcases ih later with old | new | ⟨old, inside, joined⟩
        · exact .inl (mem_cons_of_mem first old)
        · exact .inr (.inl new)
        · exact .inr (.inr ⟨old, mem_cons_of_mem first inside, joined⟩)

theorem addToSpecGroups_keeps (member : group ∈ groups) :
    ∃ kept ∈ addToSpecGroups i spec useEagle groups, group.groupIds ⊆ kept.groupIds := by
  induction groups with
  | nil => cases member
  | cons first rest ih =>
    unfold addToSpecGroups
    split
    · rcases mem_cons.mp member with rfl | later
      · exact ⟨_, mem_cons_self, by simp⟩
      · exact ⟨group, mem_cons_of_mem _ later, fun _ inside => inside⟩
    · rcases mem_cons.mp member with rfl | later
      · exact ⟨_, mem_cons_self, fun _ inside => inside⟩
      · obtain ⟨kept, inside, subset⟩ := ih later
        exact ⟨kept, mem_cons_of_mem _ inside, subset⟩

theorem addToSpecGroups_adds (i : Nat) (spec : KVCacheSpec) (useEagle : Bool)
    (groups : List SpecGroup) : ∃ group ∈ addToSpecGroups i spec useEagle groups,
      i ∈ group.groupIds := by
  induction groups with
  | nil => exact ⟨_, mem_cons_self, by simp⟩
  | cons first rest ih =>
    unfold addToSpecGroups
    split
    · exact ⟨_, mem_cons_self, by simp⟩
    · obtain ⟨group, member, inside⟩ := ih
      exact ⟨group, mem_cons_of_mem _ member, inside⟩

theorem addToSpecGroups_disjoint (fresh : ∀ group ∈ groups, i ∉ group.groupIds)
    (disjoint : groups.Pairwise fun group other => List.Disjoint group.groupIds other.groupIds) :
    (addToSpecGroups i spec useEagle groups).Pairwise fun group other =>
      List.Disjoint group.groupIds other.groupIds := by
  induction groups with
  | nil => simp [addToSpecGroups]
  | cons first rest ih =>
    obtain ⟨apart, later⟩ := pairwise_cons.mp disjoint
    have freshRest := fun group (member : group ∈ rest) =>
      fresh group (mem_cons_of_mem first member)
    unfold addToSpecGroups
    split
    · refine pairwise_cons.mpr ⟨fun other member => ?_, later⟩
      have outside : List.Disjoint [i] other.groupIds := by simpa using freshRest other member
      exact disjoint_append_left.mpr ⟨apart other member, outside⟩
    · refine pairwise_cons.mpr ⟨fun other member => ?_, ih freshRest later⟩
      have outside : List.Disjoint first.groupIds [i] := by simpa using fresh first mem_cons_self
      rcases mem_addToSpecGroups member with old | ⟨_, ids⟩ | ⟨old, inside, _, _, ids⟩
      · exact apart other old
      · rw [ids]
        exact outside
      · rw [ids]
        exact disjoint_append_right.mpr ⟨apart old inside, outside⟩

theorem addToSpecGroups_splits {kvCacheGroups : List KVCacheGroupSpec}
    (splits : Splits kvCacheGroups groups) (group : KVCacheGroupSpec) (useEagle : Bool) :
    Splits (kvCacheGroups ++ [group])
      (addToSpecGroups kvCacheGroups.length group.kvCacheSpec useEagle groups) := by
  have below : ∀ old ∈ groups, ∀ id ∈ old.groupIds, id < kvCacheGroups.length := by
    intro old member id inside
    by_contra past
    have spec := splits.spec old member id inside
    rw [getElem?_eq_none (by omega)] at spec
    cases spec
  have oldSpec : ∀ old ∈ groups, ∀ id ∈ old.groupIds,
      (kvCacheGroups ++ [group])[id]?.map KVCacheGroupSpec.kvCacheSpec = some old.spec := by
    intro old member id inside
    rw [getElem?_append_left (below old member id inside)]
    exact splits.spec old member id inside
  have newSpec : (kvCacheGroups ++ [group])[kvCacheGroups.length]?.map
      KVCacheGroupSpec.kvCacheSpec = some group.kvCacheSpec := by simp
  refine ⟨?_, ?_, ?_, ?_, ?_⟩
  · intro joined member
    rcases mem_addToSpecGroups member with old | ⟨_, ids⟩ | ⟨old, _, _, _, ids⟩
    · exact splits.nonempty joined old
    · simp [ids]
    · simp [ids]
  · intro joined member
    rcases mem_addToSpecGroups member with old | ⟨_, ids⟩ | ⟨old, inside, _, _, ids⟩
    · exact splits.nodup joined old
    · simp [ids]
    · rw [ids]
      apply Nodup.append (splits.nodup old inside) (by simp)
      simpa using fun member => (below old inside _ member).false
  · intro joined member id inside
    rcases mem_addToSpecGroups member with old | ⟨same, ids⟩ | ⟨old, inOld, same, spec, ids⟩
    · exact oldSpec joined old id inside
    · rw [ids, mem_singleton] at inside
      rw [inside, same]
      exact newSpec
    · rw [ids, mem_append, mem_singleton] at inside
      rcases inside with before | rfl
      · rw [spec, ← same]
        exact oldSpec old inOld id before
      · rw [spec]
        exact newSpec
  · apply addToSpecGroups_disjoint _ splits.disjoint
    intro old member inside
    exact (below old member _ inside).false
  · intro id within
    rw [length_append, length_singleton] at within
    rcases Nat.lt_succ_iff_lt_or_eq.mp within with before | rfl
    · obtain ⟨old, member, inside⟩ := splits.total id before
      obtain ⟨kept, keptMember, subset⟩ := addToSpecGroups_keeps member
      exact ⟨kept, keptMember, subset inside⟩
    · exact addToSpecGroups_adds _ _ _ _

theorem specGroupsFrom_splits (rest : List KVCacheGroupSpec)
    {seen : List KVCacheGroupSpec} (splits : Splits seen groups) :
    Splits (seen ++ rest) (specGroupsFrom config seen.length rest groups) := by
  induction rest generalizing seen groups with
  | nil => simpa [specGroupsFrom] using splits
  | cons group rest ih =>
    have step := ih (addToSpecGroups_splits splits group (config.isEagle group))
    simpa [specGroupsFrom] using step

theorem attentionGroups_splits : Splits config.kvCacheGroups config.attentionGroups := by
  have splits : Splits config.kvCacheGroups (specGroupsFrom config 0 config.kvCacheGroups []) := by
    have empty : Splits [] [] := ⟨by simp, by simp, by simp, by simp, by simp⟩
    simpa using specGroupsFrom_splits config config.kvCacheGroups empty
  have reordered : config.attentionGroups.Perm (specGroupsFrom config 0 config.kvCacheGroups []) :=
    filter_append_perm _ _
  refine ⟨?_, ?_, ?_, ?_, ?_⟩
  · exact fun group member => splits.nonempty group (reordered.mem_iff.mp member)
  · exact fun group member => splits.nodup group (reordered.mem_iff.mp member)
  · exact fun group member => splits.spec group (reordered.mem_iff.mp member)
  · exact (reordered.pairwise_iff fun apart => apart.symm).mpr splits.disjoint
  · intro id within
    obtain ⟨group, member, inside⟩ := splits.total id within
    exact ⟨group, reordered.mem_iff.mpr member, inside⟩

theorem isFullAttention_of_later {config : CoordinatorConfig} (front : List SpecGroup)
    {back : List SpecGroup} {group later : SpecGroup}
    (order : config.attentionGroups = front ++ group :: back)
    (member : later ∈ back) (full : later.spec.isFullAttention = true) :
    group.spec.isFullAttention = true := by
  by_contra other
  have sorted : config.attentionGroups.Pairwise fun earlier after =>
      after.spec.isFullAttention = true → earlier.spec.isFullAttention = true := by
    apply pairwise_append.mpr
    refine ⟨?_, ?_, ?_⟩
    · exact pairwise_of_forall_mem_list fun earlier inside _ _ _ => by simp_all
    · exact pairwise_of_forall_mem_list fun _ _ after inside full => by simp_all
    · intro earlier inside _ _ _
      simp_all
  rw [order, pairwise_append] at sorted
  exact other ((pairwise_cons.mp sorted.2.1).1 later member full)

end CoordinatorConfig

end VllmEngine

import VllmEngine.KVCache.GroupLookup

set_option autoImplicit false

namespace VllmEngine.HybridKVCacheCoordinator

open Function List CoordinatorConfig Nat

variable {H : Type} {config : CoordinatorConfig} {index : PrefixIndex H} {blockHashes : List H}
  {group : SpecGroup} {maxCacheHitLength : Nat} {groupIds : List Nat} {groupId : Nat}
  {hits : List (Nat × List BlockRef)} {length : Nat}

theorem head_mem (nonempty : groupIds ≠ []) :
    groupIds.headD 0 ∈ groupIds := by
  obtain ⟨_, _, split⟩ := exists_cons_of_ne_nil nonempty
  simp [split]

theorem storeHits_other (search : Search) (hitLength : Nat)
    (outside : groupId ∉ hits.map Prod.fst) :
    (storeHits search hitLength hits).hitBlocksByGroup groupId = search.hitBlocksByGroup groupId ∧
      (storeHits search hitLength hits).hitLengthByGroup groupId =
        search.hitLengthByGroup groupId := by
  induction hits generalizing search with
  | nil => exact ⟨rfl, rfl⟩
  | cons first rest ih =>
    simp only [map_cons, mem_cons, not_or] at outside
    obtain ⟨apart, later⟩ := outside
    have stored := ih { search with
      hitBlocksByGroup := update search.hitBlocksByGroup first.1 (some first.2)
      hitLengthByGroup := update search.hitLengthByGroup first.1 hitLength } later
    simpa [storeHits, update_of_ne apart] using stored

theorem storeHits_at (search : Search) (hitLength : Nat)
    (nodup : (hits.map Prod.fst).Nodup) {blocks : List BlockRef}
    (member : (groupId, blocks) ∈ hits) :
    (storeHits search hitLength hits).hitBlocksByGroup groupId = some blocks ∧
      (storeHits search hitLength hits).hitLengthByGroup groupId = hitLength := by
  induction hits generalizing search with
  | nil => cases member
  | cons first rest ih =>
    rw [map_cons, nodup_cons] at nodup
    rcases List.mem_cons.mp member with rfl | later
    · have stored := storeHits_other { search with
        hitBlocksByGroup := update search.hitBlocksByGroup groupId (some blocks)
        hitLengthByGroup := update search.hitLengthByGroup groupId hitLength }
        hitLength nodup.1
      simpa [storeHits] using stored
    · exact ih _ nodup.2 later

@[simp]
theorem storeHits_currHitLength (search : Search) (hitLength : Nat)
    (hits : List (Nat × List BlockRef)) :
    (storeHits search hitLength hits).currHitLength = search.currHitLength := by
  induction hits generalizing search with
  | nil => rfl
  | cons first rest ih => exact ih _

structure Settled (config : CoordinatorConfig) (index : PrefixIndex H) (blockHashes : List H)
    (search : Search) (group : SpecGroup) (length : Nat) : Prop where
  aligned : config.cacheHitAlignmentTokens ∣ length
  hits : ∀ groupId ∈ group.groupIds, ∃ blocks,
    search.hitBlocksByGroup groupId = some blocks ∧ search.hitLengthByGroup groupId = length ∧
    Hit group.spec.kind (group.spec.managerBlockSize config.dcpWorldSize) length
      (CachedUnder index blockHashes config.hashBlockSize groupId) blocks

def Frame (groupIds : List Nat) (before after : Search) : Prop :=
  ∀ groupId, groupId ∉ groupIds → after.hitBlocksByGroup groupId = before.hitBlocksByGroup groupId ∧
    after.hitLengthByGroup groupId = before.hitLengthByGroup groupId

theorem Frame.refl (groupIds : List Nat) (search : Search) : Frame groupIds search search :=
  fun _ _ => ⟨rfl, rfl⟩

theorem Frame.trans {first second : List Nat} {before middle after : Search}
    (early : Frame first before middle) (late : Frame second middle after) :
    Frame (first ++ second) before after := by
  intro groupId outside
  rw [mem_append, not_or] at outside
  obtain ⟨blocks, length⟩ := late groupId outside.2
  obtain ⟨blocks', length'⟩ := early groupId outside.1
  exact ⟨blocks.trans blocks', length.trans length'⟩

theorem Settled.frame {before after : Search}
    (settled : Settled config index blockHashes before group length)
    (frame : Frame groupIds before after) (apart : List.Disjoint group.groupIds groupIds) :
    Settled config index blockHashes after group length := by
  refine ⟨settled.aligned, fun groupId inside => ?_⟩
  obtain ⟨blocks, stored, hitLength, hit⟩ := settled.hits groupId inside
  obtain ⟨sameBlocks, sameLength⟩ := frame groupId fun other => apart inside other
  exact ⟨blocks, sameBlocks.trans stored, sameLength.trans hitLength, hit⟩

variable {search : Search} {hitLength : Nat} {rest : List SpecGroup} {rows : List (List BlockRef)}

theorem Settled.stored (settled : Settled config index blockHashes search group length)
    (nonempty : group.groupIds ≠ []) :
    (search.hitBlocksByGroup (group.groupIds.headD 0)).isSome ∧
      search.hitLengthByGroup (group.groupIds.headD 0) = length := by
  obtain ⟨_, stored, hitLength, _⟩ := settled.hits _ (head_mem nonempty)
  exact ⟨by rw [stored]; rfl, hitLength⟩

theorem visitGroup_settled (idx : Nat) (full : group.spec.isFullAttention = true)
    (nonempty : group.groupIds ≠ [])
    (settled : Settled config index blockHashes search group length) :
    visitGroup config index blockHashes maxCacheHitLength idx group search =
      .ok { search with currHitLength := min search.currHitLength length } := by
  obtain ⟨isSome, hitLength⟩ := settled.stored nonempty
  unfold visitGroup
  simp only [full, isSome, and_self, if_true, hitLength]

theorem groupHits_stored (nodup : group.groupIds.Nodup)
    (aligned : config.cacheHitAlignmentTokens ∣ hitLength)
    (hit : Hit group.spec.kind (group.spec.managerBlockSize config.dcpWorldSize) hitLength
      (RowCached (fun blockHash => index.getCachedBlock blockHash group.groupIds) blockHashes
        config.hashBlockSize) rows) :
    Settled config index blockHashes
      (storeHits search hitLength (group.groupIds.zip (computedBlocks group.groupIds rows)))
      group hitLength := by
  refine ⟨aligned, fun groupId inside => ?_⟩
  obtain ⟨j, within⟩ := getElem?_of_mem inside
  obtain ⟨blocks, column, valid⟩ := hit_computedBlocks within hit
  have firsts : (group.groupIds.zip (computedBlocks group.groupIds rows)).map Prod.fst =
      group.groupIds := by
    apply map_fst_zip
    simp [computedBlocks]
  have member : (groupId, blocks) ∈ group.groupIds.zip (computedBlocks group.groupIds rows) := by
    apply mem_of_getElem? (i := j)
    rw [getElem?_zip_eq_some]
    exact ⟨within, column⟩
  obtain ⟨stored, length⟩ := storeHits_at search hitLength (firsts.symm ▸ nodup) member
  exact ⟨blocks, stored, length, valid⟩

structure Looked (config : CoordinatorConfig) (index : PrefixIndex H) (blockHashes : List H)
    (maxCacheHitLength idx : Nat) (group : SpecGroup) (search : Search)
    (rows : List (List BlockRef)) (hitLength : Nat) : Prop where
  run : findCachedRows (fun blockHash => index.getCachedBlock blockHash group.groupIds)
    config.hashBlockSize blockHashes (maxLookupLength config maxCacheHitLength idx group search)
    group.groupIds group.spec (dropEagleBlock idx group search) config.cacheHitAlignmentTokens
    config.dcpWorldSize = .ok (rows, hitLength)
  found : RowHit config group (fun blockHash => index.getCachedBlock blockHash group.groupIds)
    blockHashes (maxLookupLength config maxCacheHitLength idx group search)
    (dropEagleBlock idx group search) rows hitLength

def IsStored (search : Search) (group : SpecGroup) : Prop :=
  group.spec.isFullAttention = true ∧ (search.hitBlocksByGroup (group.groupIds.headD 0)).isSome

theorem not_isStored (fresh : search.hitBlocksByGroup (group.groupIds.headD 0) = none) :
    ¬IsStored search group := by
  rw [IsStored, fresh]
  simp

structure Visited (config : CoordinatorConfig) (index : PrefixIndex H) (blockHashes : List H)
    (group : SpecGroup) (before after : Search) : Prop where
  settled : Settled config index blockHashes after group after.currHitLength
  shorter : after.currHitLength ≤ before.currHitLength
  frame : Frame group.groupIds before after

def Ready (config : CoordinatorConfig) (index : PrefixIndex H) (blockHashes : List H)
    (search : Search) (group : SpecGroup) : Prop :=
  IsStored search group → config.cacheHitAlignmentTokens ∣ search.currHitLength ∧
    ∃ length, Settled config index blockHashes search group length

structure Passed (config : CoordinatorConfig) (index : PrefixIndex H) (blockHashes : List H)
    (groups : List SpecGroup) (before after : Search) : Prop where
  shorter : after.currHitLength ≤ before.currHitLength
  aligned : groups ≠ [] ∨ config.cacheHitAlignmentTokens ∣ before.currHitLength →
    config.cacheHitAlignmentTokens ∣ after.currHitLength
  settled : ∀ group ∈ groups, ∃ length, Settled config index blockHashes after group length ∧
    after.currHitLength ≤ length ∧
    (group.spec.isFullAttention = false → length ≤ before.currHitLength)
  keeps : (∀ group ∈ groups, NeverShortens group) →
    config.cacheHitAlignmentTokens ∣ before.currHitLength →
    after.currHitLength = before.currHitLength
  frame : Frame (groups.flatMap SpecGroup.groupIds) before after

theorem Looked.visited {idx : Nat}
    (looked : Looked config index blockHashes maxCacheHitLength idx group search rows hitLength)
    (member : group ∈ config.attentionGroups) (fresh : ¬IsStored search group) :
    ∃ after, visitGroup config index blockHashes maxCacheHitLength idx group search = .ok after ∧
      after.currHitLength = hitLength ∧ Visited config index blockHashes group search after := by
  have nodup := (attentionGroups_splits config).nodup group member
  obtain ⟨eagleVerified, longestHitLength, visited⟩ : ∃ eagleVerified longestHitLength,
      visitGroup config index blockHashes maxCacheHitLength idx group search = .ok (storeHits
          { search with eagleVerified, currHitLength := hitLength, longestHitLength }
          hitLength (group.groupIds.zip (computedBlocks group.groupIds rows))) := by
    unfold IsStored at fresh
    unfold visitGroup
    rw [if_neg fresh, VllmEngine.findLongestCacheHit, looked.run]
    exact ⟨_, _, rfl⟩
  refine ⟨_, visited, storeHits_currHitLength _ _ _, ?_, ?_, ?_⟩
  · rw [storeHits_currHitLength]
    exact groupHits_stored nodup looked.found.aligned looked.found.hit
  · rw [storeHits_currHitLength]
    apply le_trans looked.found.limit
    unfold lookupLimit maxLookupLength
    split <;> omega
  · intro groupId outside
    apply storeHits_other
    rw [map_fst_zip (by simp [computedBlocks])]
    exact outside

section

variable (index : PrefixIndex H) (accepted : config.Accepted)
  (hashed : maxCacheHitLength / config.hashBlockSize ≤ blockHashes.length)

include accepted hashed

section

variable (idx : Nat) (member : group ∈ config.attentionGroups)
  (returns : config.LookupReturns group) (bounded : search.currHitLength ≤ maxCacheHitLength)

include member returns bounded

theorem exists_looked :
    ∃ rows hitLength,
      Looked config index blockHashes maxCacheHitLength idx group search rows hitLength := by
  have eagle (dropped : dropEagleBlock idx group search = true) : group.useEagle = true := by
    simp_all [dropEagleBlock]
  have within : maxLookupLength config maxCacheHitLength idx group search ≤ maxCacheHitLength := by
    unfold maxLookupLength
    split <;> omega
  obtain ⟨rows, hitLength, run, found⟩ := findCachedRows_spec
    (fun blockHash => index.getCachedBlock blockHash group.groupIds) blockHashes
    (maxLookupLength config maxCacheHitLength idx group search) (dropEagleBlock idx group search)
    accepted member returns (Nat.le_trans (Nat.div_le_div_right within) hashed) eagle
  exact ⟨rows, hitLength, run, found⟩

theorem visitGroup_lookup (fresh : ¬IsStored search group) :
    ∃ after, visitGroup config index blockHashes maxCacheHitLength idx group search = .ok after ∧
      Visited config index blockHashes group search after ∧
      (NeverShortens group →
        config.cacheHitAlignmentTokens ∣ search.currHitLength →
        after.currHitLength = search.currHitLength) := by
  obtain ⟨_, _, looked⟩ := exists_looked index accepted hashed idx member returns bounded
  obtain ⟨after, visits, length, visited⟩ := looked.visited member fresh
  refine ⟨after, visits, visited, fun never whole => ?_⟩
  have noEagle : group.useEagle = false := by
    unfold NeverShortens at never
    unfold LookupReturns at returns
    cases kind : group.spec.kind <;> simp_all
  have same : maxLookupLength config maxCacheHitLength idx group search =
      search.currHitLength := by simp [maxLookupLength, dropEagleBlock, noEagle]
  rw [length, ← same]
  exact looked.found.keeps never (same ▸ whole)

theorem visitGroup_passed (ready : Ready config index blockHashes search group) :
    ∃ after, visitGroup config index blockHashes maxCacheHitLength idx group search = .ok after ∧
      Passed config index blockHashes [group] search after := by
  have one {property : SpecGroup → Prop} (holds : property group) : ∀ other ∈ [group],
      property other := by simpa using holds
  by_cases stored : IsStored search group
  · obtain ⟨aligned, length, settled⟩ := ready stored
    have nonempty := (attentionGroups_splits config).nonempty group member
    refine ⟨_, visitGroup_settled idx stored.1 nonempty settled, min_le_left _ _, fun _ => ?_,
      one ⟨length, ⟨settled.aligned, settled.hits⟩, min_le_right _ _, by simp [stored.1]⟩,
      fun never => absurd stored.1 (never group mem_cons_self).not_fullAttention,
      fun _ _ => ⟨rfl, rfl⟩⟩
    rcases le_total search.currHitLength length with below | above
    · simpa [min_eq_left below] using aligned
    · simpa [min_eq_right above] using settled.aligned
  · obtain ⟨after, visits, ⟨settled, shorter, frame⟩, keeps⟩ := visitGroup_lookup index accepted
      hashed idx member returns bounded stored
    exact ⟨after, visits, shorter, fun _ => settled.aligned,
      one ⟨_, settled, le_rfl, fun _ => shorter⟩, fun never => keeps (never group mem_cons_self),
      by simpa using frame⟩

end

theorem visitGroups_spec {groups : List SpecGroup} (search : Search) (idx : Nat)
    (members : groups ⊆ config.attentionGroups)
    (apart : groups.Pairwise fun group other => List.Disjoint group.groupIds other.groupIds)
    (returns : ∀ group ∈ groups, config.LookupReturns group)
    (bounded : search.currHitLength ≤ maxCacheHitLength)
    (ready : ∀ group ∈ groups, Ready config index blockHashes search group) :
    ∃ after, visitGroups config index blockHashes maxCacheHitLength idx groups search = .ok after ∧
      Passed config index blockHashes groups search after := by
  induction groups generalizing idx search with
  | nil => exact ⟨search, rfl, le_rfl, by simp, by simp, fun _ _ => rfl, Frame.refl _ _⟩
  | cons group rest ih =>
    obtain ⟨apartRest, later⟩ := List.pairwise_cons.mp apart
    obtain ⟨middle, visited, passed⟩ := visitGroup_passed index accepted hashed idx
      (members mem_cons_self) (returns group mem_cons_self) bounded (ready group mem_cons_self)
    have aligned := passed.aligned (.inl (cons_ne_nil _ _))
    have frame : Frame group.groupIds search middle := by simpa using passed.frame
    have readyRest : ∀ other ∈ rest, Ready config index blockHashes middle other := by
      rintro other inside ⟨full, stored⟩
      have nonempty := (attentionGroups_splits config).nonempty other
        (members (mem_cons_of_mem group inside))
      rw [(frame _ fun both => apartRest other inside both (head_mem nonempty)).1] at stored
      obtain ⟨_, length, before⟩ := ready other (mem_cons_of_mem group inside) ⟨full, stored⟩
      exact ⟨aligned, length, before.frame frame (apartRest other inside).symm⟩
    obtain ⟨after, visits, passedRest⟩ := ih middle (idx + 1)
      (fun other inside => members (mem_cons_of_mem group inside)) later
      (fun other inside => returns other (mem_cons_of_mem group inside))
      (le_trans passed.shorter bounded) readyRest
    refine ⟨after, by simp only [visitGroups, visited]; exact visits,
      le_trans passedRest.shorter passed.shorter, fun _ => passedRest.aligned (.inr aligned),
      fun other inside => ?_, fun never whole => ?_, frame.trans passedRest.frame⟩
    · rcases List.mem_cons.mp inside with rfl | inRest
      · obtain ⟨length, settled, within, bound⟩ := passed.settled other mem_cons_self
        refine ⟨length, settled.frame passedRest.frame ?_, le_trans passedRest.shorter within, bound⟩
        intro groupId first others
        obtain ⟨other, inRest, inOther⟩ := List.mem_flatMap.mp others
        exact apartRest other inRest first inOther
      · obtain ⟨length, settled, within, bound⟩ := passedRest.settled other inRest
        exact ⟨length, settled, within, fun notFull => le_trans (bound notFull) passed.shorter⟩
    · rw [passedRest.keeps (fun other inside => never other (mem_cons_of_mem group inside)) aligned]
      exact passed.keeps (by simpa using never group mem_cons_self) whole

end

def Fresh (search : Search) : Prop := ∀ groupId, search.hitBlocksByGroup groupId = none

structure Carried (config : CoordinatorConfig) (index : PrefixIndex H) (blockHashes : List H)
    (hitLength : Nat) (search : Search) : Prop where
  aligned : config.cacheHitAlignmentTokens ∣ hitLength
  full : ∀ group ∈ config.attentionGroups, group.spec.isFullAttention = true →
    ∃ length, Settled config index blockHashes search group length ∧ hitLength ≤ length
  second : ∀ second, config.attentionGroups[1]? = some second → second.spec.isFullAttention = true →
    Settled config index blockHashes search second hitLength
  loops : isSimpleHybrid config.attentionGroups = false

section

variable {first second : SpecGroup} (order : config.attentionGroups = first :: second :: rest)

include order

theorem attentionGroups_apart :
    List.Disjoint first.groupIds second.groupIds ∧
      List.Disjoint second.groupIds (rest.flatMap SpecGroup.groupIds) ∧
      rest.Pairwise fun group other => List.Disjoint group.groupIds other.groupIds := by
  have disjoint := (attentionGroups_splits config).disjoint
  rw [order, pairwise_cons, pairwise_cons] at disjoint
  obtain ⟨apartFirst, apartSecond, later⟩ := disjoint
  refine ⟨apartFirst second mem_cons_self, ?_, later⟩
  intro groupId inside others
  obtain ⟨other, inRest, inOther⟩ := List.mem_flatMap.mp others
  exact apartSecond other inRest inside inOther

theorem disjoint_of_mem_rest (member : group ∈ rest) :
    List.Disjoint group.groupIds (first.groupIds ++ second.groupIds) := by
  have disjoint := (attentionGroups_splits config).disjoint
  rw [order, pairwise_cons, pairwise_cons] at disjoint
  rw [disjoint_append_right]
  exact ⟨(disjoint.1 group (mem_cons_of_mem _ member)).symm, (disjoint.2.1 group member).symm⟩

variable (reconcilable : config.Reconcilable)

include reconcilable

theorem fullAttention_cases (member : group ∈ config.attentionGroups)
    (full : group.spec.isFullAttention = true) : group = first ∨ group = second := by
  rw [order, mem_cons, mem_cons] at member
  rcases member with isFirst | isSecond | inRest
  · exact .inl isFirst
  · exact .inr isSecond
  · have second := isFullAttention_of_later [first] order inRest full
    have never := reconcilable.keeps _ (by simp [order]) second group (by simpa [order])
    exact absurd full never.not_fullAttention

variable (accepted : config.Accepted)
  (hashed : maxCacheHitLength / config.hashBlockSize ≤ blockHashes.length)

include accepted hashed

theorem second_settled {after : Search} (bounded : search.currHitLength ≤ maxCacheHitLength)
    (run : visitGroups config index blockHashes maxCacheHitLength 0 config.attentionGroups search =
      .ok after) (last : second.spec.isFullAttention = true ∧
        (Fresh search ∨ Carried config index blockHashes search.currHitLength search) ∨
      Fresh search ∧ rest = []) :
    Settled config index blockHashes after second after.currHitLength := by
  have inFirst : first ∈ config.attentionGroups := by simp [order]
  have inSecond : second ∈ config.attentionGroups := by simp [order]
  have splits := attentionGroups_splits config
  obtain ⟨apart, apartRest, later⟩ := attentionGroups_apart order
  have never : ∀ group ∈ rest, NeverShortens group := by
    rcases last with ⟨full, _⟩ | ⟨_, rfl⟩
    · simpa [order] using reconcilable.keeps second (by simp [order]) full
    · simp
  rw [order] at run
  simp only [visitGroups, Outcome.bind_eq_ok] at run
  obtain ⟨middle, visitFirst, both, visitSecond, visitRest⟩ := run
  have settled : both.currHitLength ≤ maxCacheHitLength ∧
      Settled config index blockHashes both second both.currHitLength := by
    have start : Fresh search ∨ second.spec.isFullAttention = true ∧
        Carried config index blockHashes search.currHitLength search := by tauto
    rcases start with fresh | ⟨full, carried⟩
    · obtain ⟨middle', visited, ⟨_, shorter, frame⟩, _⟩ := visitGroup_lookup index accepted hashed 0
        inFirst (reconcilable.returns first inFirst) bounded (not_isStored (fresh _))
      obtain rfl : middle' = middle := by simpa [visited] using visitFirst
      have head : second.groupIds.headD 0 ∉ first.groupIds :=
        fun inside => apart inside (head_mem (splits.nonempty second inSecond))
      obtain ⟨both', visited', ⟨settled, _, _⟩, _⟩ := visitGroup_lookup index accepted hashed 1
        inSecond (reconcilable.returns second inSecond) (le_trans shorter bounded)
        (not_isStored ((frame _ head).1.trans (fresh _)))
      obtain rfl : both' = both := by simpa [visited'] using visitSecond
      exact ⟨by omega, settled⟩
    · have fullFirst := isFullAttention_of_later [] order mem_cons_self full
      obtain ⟨_, settledFirst, above⟩ := carried.full first inFirst fullFirst
      have settledSecond := carried.second second (by simp [order]) full
      rw [visitGroup_settled 0 fullFirst (splits.nonempty first inFirst) settledFirst,
        min_eq_left above] at visitFirst
      obtain rfl : search = middle := by simpa using visitFirst
      rw [visitGroup_settled 1 full (splits.nonempty second inSecond) settledSecond,
        min_self] at visitSecond
      obtain rfl : search = both := by simpa using visitSecond
      exact ⟨bounded, settledSecond⟩
  obtain ⟨after', visits, passed⟩ := visitGroups_spec index accepted hashed both 2
    (fun group inside => by simp [order, inside]) later
    (fun group inside => reconcilable.returns group (by simp [order, inside])) settled.1
    (fun group inside stored => absurd stored.1 (never group inside).not_fullAttention)
  obtain rfl : after' = after := by simpa [visits] using visitRest
  rw [passed.keeps never settled.2.aligned]
  exact settled.2.frame passed.frame apartRest

theorem pass_spec (index : PrefixIndex H) (search : Search)
    (bounded : search.currHitLength ≤ maxCacheHitLength)
    (ready : Fresh search ∨ Carried config index blockHashes search.currHitLength search) :
    ∃ after, visitGroups config index blockHashes maxCacheHitLength 0 config.attentionGroups
        search = .ok after ∧
      Passed config index blockHashes config.attentionGroups search after ∧
      (second.spec.isFullAttention = true ∨ Fresh search ∧ rest = [] →
        Settled config index blockHashes after second after.currHitLength) := by
  have stored : ∀ group ∈ config.attentionGroups,
      Ready config index blockHashes search group := by
    rintro group member ⟨full, isSome⟩
    rcases ready with fresh | carried
    · simp [fresh _] at isSome
    · obtain ⟨length, settled, _⟩ := carried.full group member full
      exact ⟨carried.aligned, length, settled⟩
  obtain ⟨after, run, passed⟩ := visitGroups_spec index accepted hashed search 0
    (List.Subset.refl _) (attentionGroups_splits config).disjoint reconcilable.returns bounded stored
  refine ⟨after, run, passed, fun last => ?_⟩
  apply second_settled order reconcilable accepted hashed bounded run
  exact last.imp (fun full => ⟨full, ready⟩) id

def Finished (config : CoordinatorConfig) (index : PrefixIndex H) (blockHashes : List H)
    (search : Search) (hitLength : Nat) (group : SpecGroup) : Prop :=
  ∃ length, Settled config index blockHashes search group length ∧ hitLength ≤ length ∧
    (config.attentionGroups.head? = some group ∧ group.spec.isFullAttention = true ∨
      length = hitLength)

theorem reconcile_spec (index : PrefixIndex H) (search : Search) {fuel : Nat}
    (bounded : hitLength ≤ maxCacheHitLength) (enough : hitLength < fuel)
    (ready : Fresh search ∨ Carried config index blockHashes hitLength search) :
    ∃ finalLength after, reconcile config index blockHashes maxCacheHitLength fuel hitLength
        search = .ok (finalLength, after) ∧
      finalLength ≤ hitLength ∧ config.cacheHitAlignmentTokens ∣ finalLength ∧
      ∀ group ∈ config.attentionGroups,
        Finished config index blockHashes after finalLength group := by
  induction fuel generalizing hitLength search with
  | zero => omega
  | succ fuel ih =>
    have readyNow : Fresh { search with currHitLength := hitLength } ∨
        Carried config index blockHashes hitLength { search with currHitLength := hitLength } := by
      rcases ready with fresh | ⟨aligned, full, second, loops⟩
      · exact .inl fresh
      · refine .inr ⟨aligned, fun group member isFull => ?_, fun group at_1 isFull => ?_, loops⟩
        · obtain ⟨length, settled, above⟩ := full group member isFull
          exact ⟨length, ⟨settled.aligned, settled.hits⟩, above⟩
        · have settled := second group at_1 isFull
          exact ⟨settled.aligned, settled.hits⟩
    obtain ⟨after, run, ⟨shorter, aligned, settled, _, _⟩, settledSecond⟩ := pass_spec order
      reconcilable accepted hashed index { search with currHitLength := hitLength } bounded readyNow
    have aligned := aligned (.inl (by simp [order]))
    simp only [reconcile, run, Outcome.ok_bind]
    by_cases agreed : after.currHitLength ≥ hitLength
    · rw [if_pos agreed]
      have same : after.currHitLength = hitLength := le_antisymm shorter agreed
      refine ⟨hitLength, after, rfl, le_rfl, same ▸ aligned, fun group member => ?_⟩
      by_cases full : group.spec.isFullAttention = true
      · rcases fullAttention_cases order reconcilable member full with rfl | rfl
        · obtain ⟨length, settled, above, _⟩ := settled group member
          exact ⟨length, settled, by omega, .inl ⟨by simp [order], full⟩⟩
        · exact ⟨_, settledSecond (.inl full), by omega, .inr same⟩
      · obtain ⟨length, settled, above, below⟩ := settled group member
        have below := below (by simpa using full)
        exact ⟨length, settled, by omega, .inr (le_antisymm below (by omega))⟩
    · rw [if_neg agreed]
      by_cases simple : isSimpleHybrid config.attentionGroups = true
      · -- one pass is enough: the second group is looked up at the first group's length
        rw [if_pos simple]
        have fresh : Fresh search := by
          rcases ready with fresh | carried
          · exact fresh
          · simp [carried.loops] at simple
        have two : rest = [] ∧ first.spec.isFullAttention = true := by
          simpa [isSimpleHybrid, order] using simple
        refine ⟨_, after, rfl, shorter, aligned, fun group member => ?_⟩
        rw [order, two.1, mem_cons, mem_singleton] at member
        rcases member with rfl | rfl
        · obtain ⟨length, settled, above, _⟩ := settled group (by simp [order])
          exact ⟨length, settled, above, .inl ⟨by simp [order], two.2⟩⟩
        · exact ⟨_, settledSecond (.inr ⟨fresh, two.1⟩), le_rfl, .inr rfl⟩
      · rw [if_neg simple]
        have carried : Carried config index blockHashes after.currHitLength after := by
          refine ⟨aligned, fun group member _ => ?_, fun group at_1 full => ?_, by simpa using simple⟩
          · obtain ⟨length, settled, above, _⟩ := settled group member
            exact ⟨length, settled, above⟩
          · obtain rfl : second = group := by simpa [order] using at_1
            exact settledSecond (.inl full)
        obtain ⟨finalLength, final, again, le, rest⟩ := ih after
          (le_trans shorter bounded) (by omega) (.inr carried)
        exact ⟨finalLength, final, again, le_trans le shorter, rest⟩

end

def Sound (config : CoordinatorConfig) (index : PrefixIndex H) (blockHashes : List H)
    (maxCacheHitLength : Nat) : Prop :=
  ∃ hitBlocks hitLength numUncachedCommonPrefixTokens,
    findLongestCacheHit config index blockHashes maxCacheHitLength =
      .ok (hitBlocks, hitLength, numUncachedCommonPrefixTokens) ∧
    hitLength ≤ maxCacheHitLength ∧ config.cacheHitAlignmentTokens ∣ hitLength ∧
    ∀ (groupId : Nat) group, config.kvCacheGroups[groupId]? = some group →
      ∃ blocks, hitBlocks[groupId]? = some blocks ∧
        Hit group.kvCacheSpec.kind (group.kvCacheSpec.managerBlockSize config.dcpWorldSize)
          hitLength (CachedUnder index blockHashes config.hashBlockSize groupId) blocks

theorem truncateFirst_hit {first : SpecGroup}
    (head : config.attentionGroups.head? = some first) (member : group ∈ config.attentionGroups)
    (inside : groupId ∈ group.groupIds)
    (finished : Finished config index blockHashes search hitLength group) :
    ∃ blocks, truncateFirst config hitLength search groupId = some blocks ∧
      Hit group.spec.kind (group.spec.managerBlockSize config.dcpWorldSize) hitLength
        (CachedUnder index blockHashes config.hashBlockSize groupId) blocks := by
  obtain ⟨length, settled, above, ends⟩ := finished
  obtain ⟨blocks, stored, _, hit⟩ := settled.hits groupId inside
  have spec (other : SpecGroup) (memberOther : other ∈ config.attentionGroups)
      (insideOther : groupId ∈ other.groupIds) : other.spec = group.spec := by
    have splits := attentionGroups_splits config
    exact Option.some.inj ((splits.spec other memberOther groupId insideOther).symm.trans
      (splits.spec group member groupId inside))
  unfold truncateFirst
  rw [head]
  by_cases full : first.spec.isFullAttention = true
  · simp only [full]
    by_cases inFirst : groupId ∈ first.groupIds
    · -- the stale blocks are cut to the final length
      have same := spec first (mem_of_head? head) inFirst
      have kinds : group.spec.kind = .fullAttention ∨ ∃ window, group.spec.kind = .rswa window := by
        rw [same] at full
        cases kind : group.spec.kind <;> simp [KVCacheSpec.isFullAttention, kind] at full ⊢
      refine ⟨_, by simp [inFirst, stored]; rfl, ?_⟩
      rw [same]
      exact hit.truncate kinds above
    · refine ⟨blocks, by simp [inFirst, stored], ?_⟩
      rcases ends with ⟨isFirst, _⟩ | rfl
      · rw [head, Option.some.injEq] at isFirst
        exact absurd (isFirst ▸ inside) inFirst
      · exact hit
  · simp only [full]
    refine ⟨blocks, by simp [stored], ?_⟩
    rcases ends with ⟨isFirst, isFull⟩ | rfl
    · rw [head, Option.some.injEq] at isFirst
      exact absurd (isFirst ▸ isFull) full
    · exact hit

theorem sound_of_reconcilable (index : PrefixIndex H) (accepted : config.Accepted)
    (reconcilable : config.Reconcilable)
    (hashed : maxCacheHitLength / config.hashBlockSize ≤ blockHashes.length) :
    Sound config index blockHashes maxCacheHitLength := by
  obtain ⟨first, second, rest, order⟩ : ∃ first second rest,
      config.attentionGroups = first :: second :: rest := by
    have split := accepted.split
    match config.attentionGroups, split with
    | first :: second :: rest, _ => exact ⟨first, second, rest, rfl⟩
  obtain ⟨hitLength, _, run, le, aligned, finished⟩ := reconcile_spec order
    reconcilable accepted hashed index (.initial maxCacheHitLength) le_rfl (lt_succ_self _)
    (.inl fun _ => rfl)
  refine ⟨_, hitLength, _, by simp only [findLongestCacheHit, run]; rfl, le,
    aligned, fun groupId kvCacheGroup present => ?_⟩
  have splits := attentionGroups_splits config
  obtain ⟨within, _⟩ := List.getElem?_eq_some_iff.mp present
  obtain ⟨group, member, inside⟩ := splits.total groupId within
  have spec : kvCacheGroup.kvCacheSpec = group.spec := by
    simpa [present] using splits.spec group member groupId inside
  obtain ⟨blocks, stored, hit⟩ := truncateFirst_hit (by rw [order]; rfl) member inside
    (finished group member)
  refine ⟨blocks, by simp [within, stored], ?_⟩
  rw [spec]
  exact hit

end VllmEngine.HybridKVCacheCoordinator

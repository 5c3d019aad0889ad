import VllmEngine.KVCache.StaleHit

set_option autoImplicit false

namespace VllmEngine.HybridKVCacheCoordinator

open Outcome List CoordinatorConfig Nat

variable {H : Type} {config : CoordinatorConfig} {index : PrefixIndex H} {blockHashes : List H}
  {group : SpecGroup} {maxCacheHitLength : Nat}

@[simp]
theorem storeHits_eagleVerified (search : Search) (hitLength : Nat)
    (hits : List (Nat × List BlockRef)) :
    (storeHits search hitLength hits).eagleVerified = search.eagleVerified := by
  induction hits generalizing search with
  | nil => rfl
  | cons first rest ih => exact ih _

variable {idx : Nat} {search after : Search} {groups : List SpecGroup} {cached groupIds : List Nat}

section

variable (run : visitGroup config index blockHashes maxCacheHitLength idx group search = .ok after)

include run

theorem visitGroup_cases :
    group.spec.isFullAttention = true ∧ (search.hitBlocksByGroup (group.groupIds.headD 0)).isSome ∧
        after = { search with
          currHitLength :=
            min search.currHitLength (search.hitLengthByGroup (group.groupIds.headD 0)) } ∨
      ∃ rows hitLength longestHitLength,
        findCachedRows (fun blockHash => index.getCachedBlock blockHash group.groupIds)
          config.hashBlockSize blockHashes
          (maxLookupLength config maxCacheHitLength idx group search) group.groupIds group.spec
          (dropEagleBlock idx group search) config.cacheHitAlignmentTokens config.dcpWorldSize =
            .ok (rows, hitLength) ∧
        after = storeHits
          { search with
            eagleVerified :=
              if dropEagleBlock idx group search then idx :: search.eagleVerified
              else if hitLength < search.currHitLength then [] else search.eagleVerified
            currHitLength := hitLength
            longestHitLength }
          hitLength (group.groupIds.zip (computedBlocks group.groupIds rows)) := by
  unfold visitGroup at run
  dsimp only at run
  split at run
  · rename_i stored
    cases run
    exact .inl ⟨stored.1, stored.2, rfl⟩
  · simp only [VllmEngine.findLongestCacheHit, bind_eq_ok, pure_eq_ok] at run
    obtain ⟨⟨_, hitLength⟩, ⟨⟨rows, rowLength⟩, found, columns⟩, result⟩ := run
    cases columns
    exact .inr ⟨rows, rowLength, _, found, result.symm⟩

theorem visitGroup_frame : Frame group.groupIds search after := by
  intro groupId outside
  rcases visitGroup_cases run with ⟨_, _, rfl⟩ | ⟨_, _, _, _, rfl⟩
  · exact ⟨rfl, rfl⟩
  · apply storeHits_other
    rw [map_fst_zip (by simp [computedBlocks])]
    exact outside

end

theorem visitGroups_frame
    (run : visitGroups config index blockHashes maxCacheHitLength idx groups search = .ok after) :
    Frame (groups.flatMap SpecGroup.groupIds) search after := by
  induction groups generalizing idx search with
  | nil =>
    cases run
    exact Frame.refl _ _
  | cons group rest ih =>
    simp only [visitGroups, bind_eq_ok] at run
    obtain ⟨_, visited, visits⟩ := run
    exact (visitGroup_frame visited).trans (ih visits)

theorem findCachedRows_returns {lookup : H → Option (List BlockRef)} {maxLength : Nat}
    {dropped : Bool} {result : List (List BlockRef) × Nat}
    (run : findCachedRows lookup config.hashBlockSize blockHashes maxLength group.groupIds
      group.spec dropped config.cacheHitAlignmentTokens config.dcpWorldSize = .ok result)
    (eagle : group.useEagle = true → dropped = true) : config.LookupReturns group := by
  unfold LookupReturns
  unfold findCachedRows at run
  cases kind : group.spec.kind with
  | fullAttention => trivial
  | rswa _ => trivial
  | slidingWindow window =>
    simp only [kind, SlidingWindowManager.findLongestCacheHit, bind_eq_ok,
      pyAssert_eq_ok, decide_eq_true_eq] at run
    obtain ⟨_, divides, _⟩ := run
    exact dvd_of_mod_eq_zero divides
  | chunkedLocalAttention chunk =>
    simp only [kind, ChunkedLocalAttentionManager.findLongestCacheHit, bind_eq_ok,
      pyAssert_eq_ok, decide_eq_true_eq] at run
    obtain ⟨_, noDrop, _, same, _⟩ := run
    refine ⟨same, ?_⟩
    by_contra useEagle
    simp [eagle (by simpa using useEagle)] at noDrop
  | mamba _ _ => trivial
  | crossAttention => simp [kind] at run

theorem lookupReturns_of_full (full : group.spec.isFullAttention = true) :
    config.LookupReturns group := by
  unfold LookupReturns
  cases kind : group.spec.kind <;> simp [KVCacheSpec.isFullAttention, kind] at full ⊢

theorem visitGroup_returns
    (run : visitGroup config index blockHashes maxCacheHitLength idx group search = .ok after)
    (verified : ∀ i ∈ search.eagleVerified, i < idx) :
    config.LookupReturns group ∧ ∀ i ∈ after.eagleVerified, i < idx + 1 := by
  rcases visitGroup_cases run with ⟨full, _, rfl⟩ | ⟨_, _, _, found, rfl⟩
  · exact ⟨lookupReturns_of_full full, fun i inside => lt_succ_of_lt (verified i inside)⟩
  · refine ⟨findCachedRows_returns found fun eagle => ?_, ?_⟩
    · -- no group is verified before its own visit
      have unverified : idx ∉ search.eagleVerified := fun inside => (verified idx inside).false
      simp [dropEagleBlock, eagle, unverified]
    · intro i inside
      rw [storeHits_eagleVerified] at inside
      split at inside
      · rcases List.mem_cons.mp inside with rfl | before
        · exact lt_succ_self i
        · exact lt_succ_of_lt (verified i before)
      · split at inside
        · cases inside
        · exact lt_succ_of_lt (verified i inside)

theorem visitGroups_returns
    (run : visitGroups config index blockHashes maxCacheHitLength idx groups search = .ok after)
    (verified : ∀ i ∈ search.eagleVerified, i < idx) :
    ∀ group ∈ groups, config.LookupReturns group := by
  induction groups generalizing idx search with
  | nil => simp
  | cons group rest ih =>
    simp only [visitGroups, bind_eq_ok] at run
    obtain ⟨_, visited, visits⟩ := run
    obtain ⟨returns, verified'⟩ := visitGroup_returns visited verified
    intro other member
    rcases List.mem_cons.mp member with rfl | later
    · exact returns
    · exact ih visits verified' other later

theorem Sound.returns (sound : Sound config index blockHashes maxCacheHitLength) :
    ∀ group ∈ config.attentionGroups, config.LookupReturns group := by
  obtain ⟨_, _, _, run, _⟩ := sound
  simp only [findLongestCacheHit, reconcile, bind_eq_ok] at run
  obtain ⟨_, ⟨_, visits, _⟩, _⟩ := run
  exact visitGroups_returns visits (by simp [Search.initial])

theorem visitGroups_settled {length : Nat}
    (run : visitGroups config index blockHashes maxCacheHitLength idx groups search = .ok after)
    (nonempty : ∀ group ∈ groups, group.groupIds ≠ [])
    (apart : groups.Pairwise fun group other => List.Disjoint group.groupIds other.groupIds)
    (member : group ∈ groups) (full : group.spec.isFullAttention = true)
    (settled : Settled config index blockHashes search group length) :
    Settled config index blockHashes after group length := by
  induction groups generalizing idx search with
  | nil => cases member
  | cons first rest ih =>
    simp only [visitGroups, bind_eq_ok] at run
    obtain ⟨_, visited, visits⟩ := run
    obtain ⟨apartRest, later⟩ := List.pairwise_cons.mp apart
    rcases List.mem_cons.mp member with rfl | inRest
    · -- what was stored is not looked up again, and the other groups do not touch it
      rw [visitGroup_settled idx full (nonempty group mem_cons_self) settled] at visited
      cases visited
      have moved : Settled config index blockHashes
          { search with currHitLength := min search.currHitLength length } group length :=
        ⟨settled.aligned, settled.hits⟩
      apply moved.frame (visitGroups_frame visits)
      intro groupId inside others
      obtain ⟨other, inOthers, inOther⟩ := List.mem_flatMap.mp others
      exact apartRest other inOthers inside inOther
    · exact ih visits (fun other inside => nonempty other (mem_cons_of_mem first inside))
        later inRest (settled.frame (visitGroup_frame visited) (apartRest group inRest).symm)

def cachedFor (groupIds : List Nat) : PrefixIndex H :=
  { PrefixIndex.empty with
    cachedBlockHashToBlock :=
      { cache := fun key => if key.groupId ∈ groupIds then some (.single (.block 1)) else none } }

theorem cachedFor_all (subset : groupIds ⊆ cached) (blockHash : H) :
    ((cachedFor cached).getCachedBlock blockHash groupIds).isSome := by
  induction groupIds with
  | nil => rfl
  | cons groupId rest ih =>
    obtain ⟨inside, others⟩ := List.cons_subset.mp subset
    obtain ⟨_, found⟩ := Option.isSome_iff_exists.mp (ih others)
    have first : (cachedFor cached).cachedBlockHashToBlock.getOneBlock ⟨blockHash, groupId⟩ =
        some (.block 1) := by
      simp [cachedFor, BlockHashToBlockMap.getOneBlock, inside, CachedBlocks.first]
    unfold PrefixIndex.getCachedBlock at found ⊢
    simp [first, found]

theorem cachedFor_none (nonempty : groupIds ≠ [])
    (apart : List.Disjoint groupIds cached) (blockHash : H) :
    (cachedFor cached).getCachedBlock blockHash groupIds = none := by
  cases groupIds with
  | nil => exact absurd rfl nonempty
  | cons groupId rest =>
    have outside : groupId ∉ cached := fun inside => apart mem_cons_self inside
    have first : (cachedFor cached).cachedBlockHashToBlock.getOneBlock ⟨blockHash, groupId⟩ =
        none := by
      simp [cachedFor, BlockHashToBlockMap.getOneBlock, outside]
    unfold PrefixIndex.getCachedBlock
    simp [first]

section

variable (accepted : config.Accepted)
  (hashed : maxCacheHitLength / config.hashBlockSize ≤ blockHashes.length)

include accepted hashed

def firstDrop (config : CoordinatorConfig) (group : SpecGroup) : Nat :=
  if group.useEagle then eagleMargin config group.spec else 0

theorem visitGroup_all (search : Search) (idx : Nat) (member : group ∈ config.attentionGroups)
    (full : group.spec.isFullAttention = true)
    (all : ∀ blockHash, (index.getCachedBlock blockHash group.groupIds).isSome)
    (bounded : search.currHitLength ≤ maxCacheHitLength)
    (fresh : search.hitBlocksByGroup (group.groupIds.headD 0) = none)
    (verified : ∀ i ∈ search.eagleVerified, i < idx)
    (reach : config.cacheHitAlignmentTokens ≤ search.currHitLength)
    (reachDrop : config.cacheHitAlignmentTokens + firstDrop config group ≤ maxCacheHitLength) :
    ∃ after, visitGroup config index blockHashes maxCacheHitLength idx group search = .ok after ∧
      Visited config index blockHashes group search after ∧
      config.cacheHitAlignmentTokens ≤ after.currHitLength ∧
      after.currHitLength + firstDrop config group ≤ maxCacheHitLength := by
  have notMamba : group.spec.isMamba = false := by
    cases kind : group.spec.kind <;>
      simp [KVCacheSpec.isFullAttention, KVCacheSpec.isMamba, kind] at full ⊢
  -- the group is not verified before its visit, so an EAGLE group drops a block
  have unverified : idx ∉ search.eagleVerified := fun inside => (verified idx inside).false
  have drops : dropEagleBlock idx group search = group.useEagle := by
    simp [dropEagleBlock, unverified]
  have candidate : maxLookupLength config maxCacheHitLength idx group search =
      min (search.currHitLength + firstDrop config group) maxCacheHitLength := by
    cases eagle : group.useEagle <;>
      simp [maxLookupLength, firstDrop, drops, notMamba, eagle, bounded]
  obtain ⟨_, _, looked⟩ := exists_looked index accepted hashed idx member
    (lookupReturns_of_full full) bounded
  obtain ⟨after, visits, length, visited⟩ := looked.visited member (not_isStored fresh)
  obtain ⟨run, found⟩ := looked
  rw [candidate, drops] at run found
  have limit := found.limit
  simp only [lookupLimit, notMamba, Bool.false_eq_true, not_false_eq_true, and_true] at limit
  change _ ≤ _ - firstDrop config group at limit
  refine ⟨after, visits, visited, ?_, by omega⟩
  obtain ⟨rows', trimmed⟩ := FullAttentionManager.findLongestCacheHit_all all
    (accepted.sizes member)
    (Nat.le_trans (Nat.div_le_div_right (min_le_right _ maxCacheHitLength)) hashed) group.useEagle
  rw [findCachedRows_eq_full full, trimmed] at run
  have reaches := le_min (Nat.add_le_add_right reach (firstDrop config group)) reachDrop
  nth_rewrite 1 [firstDrop, eagleMargin_fullAttention accepted member full] at reaches
  have hit := FullAttentionManager.trimHit_reaches rows' (accepted.sizes member) reaches
  rw [Except.ok.inj run, ← length] at hit
  exact hit

theorem visitGroup_none (idx : Nat) (member : group ∈ config.attentionGroups)
    (returns : config.LookupReturns group) (shortens : ¬NeverShortens group)
    (none : ∀ blockHash, index.getCachedBlock blockHash group.groupIds = none)
    (bounded : search.currHitLength ≤ maxCacheHitLength)
    (short : search.currHitLength ≤ config.cacheHitAlignmentTokens)
    (fresh : search.hitBlocksByGroup (group.groupIds.headD 0) = .none) :
    ∃ after, visitGroup config index blockHashes maxCacheHitLength idx group search = .ok after ∧
      Visited config index blockHashes group search after ∧ after.currHitLength = 0 := by
  obtain ⟨rows, hitLength, looked⟩ := exists_looked index accepted hashed idx member returns bounded
  obtain ⟨after, visits, length, visited⟩ := looked.visited member (not_isStored fresh)
  refine ⟨after, visits, visited, length.trans ?_⟩
  obtain ⟨run, found⟩ := looked
  have sizes := accepted.sizes member
  have uncached (n : Nat) (row : List BlockRef) : ¬RowCached
      (fun blockHash => index.getCachedBlock blockHash group.groupIds) blockHashes
      config.hashBlockSize n row := by
    rintro ⟨_, _, blockHash, _, hit⟩
    simp [none] at hit
  have valid := found.hit.valid
  have count := found.hit.count
  -- a valid hit of a full attention or Mamba group has a cached block, unless it is empty
  have noRows (empty : rows = []) : hitLength = 0 := by
    rw [empty, length_nil] at count
    have := (cdiv_le_iff sizes.blockPositive).mp count.ge
    omega
  have full (covered : ∀ i item, rows[i]? = some item → ∃ n, RowCached
      (fun blockHash => index.getCachedBlock blockHash group.groupIds) blockHashes
      config.hashBlockSize n item ∧ n ≤ (i + 1) * group.spec.managerBlockSize config.dcpWorldSize ∧
      min ((i + 1) * group.spec.managerBlockSize config.dcpWorldSize) hitLength ≤ n) :
      hitLength = 0 := by
    apply noRows
    cases rows with
    | nil => rfl
    | cons row rest =>
      obtain ⟨n, cached, _⟩ := covered 0 row rfl
      exact absurd cached (uncached n row)
  unfold findCachedRows at run
  unfold LookupReturns at returns
  unfold NeverShortens at shortens
  cases kind : group.spec.kind with
  | fullAttention =>
    rw [kind] at valid
    exact full valid
  | rswa window =>
    rw [kind] at valid
    exact full valid
  | slidingWindow window =>
    simp only [kind] at run
    exact SlidingWindowManager.findLongestCacheHit_none none run
  | chunkedLocalAttention chunk =>
    simp only [kind] at run returns shortens
    have candidate : maxLookupLength config maxCacheHitLength idx group search =
        search.currHitLength := by simp [maxLookupLength, dropEagleBlock, returns.2]
    rw [ChunkedLocalAttentionManager.findLongestCacheHit_none none run, candidate]
    have below : search.currHitLength / chunk * chunk < group.spec.blockSize := by
      have le := div_mul_le_self search.currHitLength chunk
      rw [← returns.1] at short
      apply lt_of_le_of_ne (le_trans le short)
      intro same
      exact shortens ⟨_, by rw [mul_comm]; exact same.symm⟩
    rw [div_eq_of_lt below, zero_mul]
  | mamba mode numSpeculativeBlocks =>
    rw [kind] at valid
    by_contra positive
    obtain ⟨row, _, cached⟩ := valid (pos_of_ne_zero positive)
    exact uncached hitLength row cached
  | crossAttention => simp only [kind] at returns

theorem visitGroups_none (members : groups ⊆ config.attentionGroups)
    (apart : groups.Pairwise fun group other => List.Disjoint group.groupIds other.groupIds)
    (returns : ∀ group ∈ groups, config.LookupReturns group) (none : ∀ group ∈ groups, ∀ blockHash,
      index.getCachedBlock blockHash group.groupIds = none)
    (bounded : search.currHitLength ≤ maxCacheHitLength)
    (fresh : ∀ group ∈ groups, search.hitBlocksByGroup (group.groupIds.headD 0) = .none)
    (run : visitGroups config index blockHashes maxCacheHitLength idx groups search = .ok after)
    (candidate : search.currHitLength = 0 ∨ search.currHitLength = config.cacheHitAlignmentTokens ∧
        ∃ group ∈ groups, ¬NeverShortens group) :
    after.currHitLength = 0 := by
  induction groups generalizing idx search with
  | nil =>
    cases run
    simpa using candidate
  | cons group rest ih =>
    simp only [visitGroups, bind_eq_ok] at run
    obtain ⟨middle, visits, later⟩ := run
    obtain ⟨apartRest, apartLater⟩ := List.pairwise_cons.mp apart
    have member := members mem_cons_self
    have returnsFirst := returns group mem_cons_self
    have freshFirst := fresh group mem_cons_self
    obtain ⟨shorter, candidate'⟩ : middle.currHitLength ≤ search.currHitLength ∧
        (middle.currHitLength = 0 ∨ middle.currHitLength = config.cacheHitAlignmentTokens ∧
          ∃ other ∈ rest, ¬NeverShortens other) := by
      by_cases never : NeverShortens group
      · obtain ⟨middle', visits', visited, keeps⟩ := visitGroup_lookup index accepted hashed
          idx member returnsFirst bounded (not_isStored freshFirst)
        obtain rfl : middle' = middle := by simpa [visits'] using visits
        refine ⟨visited.shorter, ?_⟩
        rcases candidate with zero | ⟨whole, other, inside, shortens⟩
        · have := visited.shorter
          omega
        · rcases List.mem_cons.mp inside with rfl | inRest
          · exact absurd never shortens
          · have kept := keeps never (by rw [whole])
            exact .inr ⟨kept.trans whole, other, inRest, shortens⟩
      · obtain ⟨middle', visits', visited, zero⟩ := visitGroup_none accepted hashed idx member
          returnsFirst never (none group mem_cons_self) bounded
          (by rcases candidate with zero | whole <;> omega) freshFirst
        obtain rfl : middle' = middle := by simpa [visits'] using visits
        exact ⟨visited.shorter, .inl zero⟩
    have freshRest : ∀ other ∈ rest,
        middle.hitBlocksByGroup (other.groupIds.headD 0) = .none := by
      intro other inside
      have memberOther := members (mem_cons_of_mem group inside)
      have head := head_mem
        ((attentionGroups_splits config).nonempty other memberOther)
      rw [(visitGroup_frame visits _ fun both => apartRest other inside both head).1]
      exact fresh other (mem_cons_of_mem group inside)
    exact ih (fun other inside => members (mem_cons_of_mem group inside)) apartLater
      (fun other inside => returns other (mem_cons_of_mem group inside))
      (fun other inside => none other (mem_cons_of_mem group inside))
      (le_trans shorter bounded) freshRest later candidate'

variable {first second bad : SpecGroup} {rest : List SpecGroup}
  (order : config.attentionGroups = first :: second :: rest)

include order

section

variable (full : second.spec.isFullAttention = true)
  (allFirst : ∀ blockHash, (index.getCachedBlock blockHash first.groupIds).isSome)
  (allSecond : ∀ blockHash, (index.getCachedBlock blockHash second.groupIds).isSome)
  (limit : maxCacheHitLength = config.cacheHitAlignmentTokens +
    max (firstDrop config first) (firstDrop config second))

include full allFirst allSecond limit

theorem visit_both :
    ∃ middle both, visitGroup config index blockHashes maxCacheHitLength 0 first
        (.initial maxCacheHitLength) = .ok middle ∧
      visitGroup config index blockHashes maxCacheHitLength 1 second middle = .ok both ∧
      Settled config index blockHashes both second config.cacheHitAlignmentTokens ∧
      both.currHitLength = config.cacheHitAlignmentTokens ∧
      Frame (first.groupIds ++ second.groupIds) (.initial maxCacheHitLength) both := by
  have inSecond : second ∈ config.attentionGroups := by simp [order]
  obtain ⟨apart, _, _⟩ := attentionGroups_apart order
  obtain ⟨middle, visitsFirst, visitedFirst, reached, dropped⟩ := visitGroup_all accepted hashed
    (.initial maxCacheHitLength) 0 (by simp [order])
    (isFullAttention_of_later [] order mem_cons_self full) allFirst le_rfl rfl
    (by simp [Search.initial]) (by simp only [Search.initial]; omega) (by omega)
  have fresh : middle.hitBlocksByGroup (second.groupIds.headD 0) = none := by
    have head := head_mem ((attentionGroups_splits config).nonempty second inSecond)
    rw [(visitedFirst.frame _ fun inside => apart inside head).1]
    rfl
  obtain ⟨_, verified⟩ := visitGroup_returns visitsFirst (by simp [Search.initial])
  obtain ⟨both, visitsSecond, visitedSecond, reached', dropped'⟩ := visitGroup_all accepted hashed
    middle 1 inSecond full allSecond (le_trans visitedFirst.shorter le_rfl) fresh
    verified reached (by omega)
  have exact : both.currHitLength = config.cacheHitAlignmentTokens := by
    have := visitedSecond.shorter
    omega
  exact ⟨middle, both, visitsFirst, visitsSecond, exact ▸ visitedSecond.settled, exact,
    visitedFirst.frame.trans visitedSecond.frame⟩

theorem reconcile_stale (returns : ∀ group ∈ config.attentionGroups, config.LookupReturns group)
    (none : ∀ group ∈ rest, ∀ blockHash, index.getCachedBlock blockHash group.groupIds = none)
    (inRest : bad ∈ rest) (shortens : ¬NeverShortens bad) :
    ∃ after, reconcile config index blockHashes maxCacheHitLength (maxCacheHitLength + 1)
        maxCacheHitLength (.initial maxCacheHitLength) = .ok (0, after) ∧
      Settled config index blockHashes after second config.cacheHitAlignmentTokens := by
  have splits := attentionGroups_splits config
  have inSecond : second ∈ config.attentionGroups := by simp [order]
  have alignmentPositive := (accepted.sizes inSecond).alignmentPositive
  obtain ⟨_, apartSecond, apartRest⟩ := attentionGroups_apart order
  obtain ⟨after, pass, passed⟩ := visitGroups_spec index accepted hashed
    (.initial maxCacheHitLength) 0 (List.Subset.refl _) splits.disjoint returns le_rfl
    (fun _ _ stored => absurd stored (not_isStored rfl))
  obtain ⟨_, both, visitsFirst, visitsSecond, settledBoth, candidate, frame⟩ :=
    visit_both accepted hashed order full allFirst allSecond limit
  have later : visitGroups config index blockHashes maxCacheHitLength 2 rest both = .ok after := by
    have run := pass
    rw [order] at run
    simpa [visitGroups, visitsFirst, visitsSecond] using run
  have zero : after.currHitLength = 0 := by
    apply visitGroups_none accepted hashed (fun group member => by simp [order, member]) apartRest
      (fun group member => returns group (by simp [order, member])) none (by omega) _ later
      (.inr ⟨candidate, bad, inRest, shortens⟩)
    intro group member
    have head := head_mem (splits.nonempty group (by simp [order, member]))
    rw [(frame _ fun inside => disjoint_of_mem_rest order member head inside).1]
    rfl
  have settledSecond := settledBoth.frame (visitGroups_frame later) apartSecond
  -- the second pass accepts 0 and does not look the second group up again
  obtain ⟨final, again, _⟩ := visitGroups_spec index accepted hashed
    { after with currHitLength := 0 } 0 (List.Subset.refl _) splits.disjoint returns (zero_le _)
    (fun group member _ => by
      obtain ⟨length, settled, _⟩ := passed.settled group member
      exact ⟨dvd_zero _, length, settled.aligned, settled.hits⟩)
  refine ⟨final, ?_, visitGroups_settled again splits.nonempty splits.disjoint inSecond full
    ⟨settledSecond.aligned, settledSecond.hits⟩⟩
  have loops : isSimpleHybrid config.attentionGroups = false := by
    simp [isSimpleHybrid, order, ne_nil_of_mem inRest]
  have ends (fuel : Nat) : reconcile config index blockHashes maxCacheHitLength (fuel + 1) 0 after =
      .ok (0, final) := by
    rw [reconcile, again, ok_bind, if_pos (zero_le _)]
    rfl
  rw [reconcile]
  change (visitGroups config _ blockHashes maxCacheHitLength 0 config.attentionGroups
    (.initial maxCacheHitLength) >>= _) = _
  rw [pass, ok_bind, if_neg (by omega), loops, zero]
  exact (by omega : maxCacheHitLength - 1 + 1 = maxCacheHitLength) ▸ ends (maxCacheHitLength - 1)

end

omit hashed in
theorem not_sound_of_stale (blockHash : H)
    (returns : ∀ group ∈ config.attentionGroups, config.LookupReturns group)
    (full : second.spec.isFullAttention = true) (inRest : bad ∈ rest)
    (shortens : ¬NeverShortens bad) :
    ∃ (index : PrefixIndex H) (blockHashes : List H) (maxCacheHitLength : Nat),
      maxCacheHitLength / config.hashBlockSize ≤ blockHashes.length ∧
      ¬Sound config index blockHashes maxCacheHitLength := by
  obtain ⟨maxCacheHitLength, limit⟩ : ∃ maxCacheHitLength, maxCacheHitLength =
    config.cacheHitAlignmentTokens +
      max (firstDrop config first) (firstDrop config second) := ⟨_, rfl⟩
  have hashed : maxCacheHitLength / config.hashBlockSize ≤
      (List.replicate (maxCacheHitLength / config.hashBlockSize) blockHash).length := by simp
  refine ⟨cachedFor (first.groupIds ++ second.groupIds),
    List.replicate (maxCacheHitLength / config.hashBlockSize) blockHash, maxCacheHitLength, hashed,
    ?_⟩
  rintro ⟨_, _, _, run, _, _, hits⟩
  have inSecond : second ∈ config.attentionGroups := by simp [order]
  have splits := attentionGroups_splits config
  obtain ⟨after, loop, settled⟩ := reconcile_stale accepted hashed order full
    (cachedFor_all (subset_append_left _ _)) (cachedFor_all (subset_append_right _ _)) limit returns
    (fun group member => cachedFor_none (splits.nonempty group (by simp [order, member]))
      (disjoint_of_mem_rest order member)) inRest shortens
  obtain ⟨apart, _, _⟩ := attentionGroups_apart order
  have head := head_mem (splits.nonempty second inSecond)
  have sizes := accepted.sizes inSecond
  simp only [findLongestCacheHit, loop] at run
  obtain ⟨rfl, rfl, _⟩ := run
  obtain ⟨kvCacheGroup, _, present, spec⟩ :=
    attentionGroups_spec inSecond head
  obtain ⟨blocks, returned, hit⟩ := hits _ kvCacheGroup present
  obtain ⟨stale, stored, _, staleHit⟩ := settled.hits _ head
  have same : blocks = stale := by
    have outside : second.groupIds.headD 0 ∉ first.groupIds := fun inside => apart inside head
    obtain ⟨within, _⟩ := List.getElem?_eq_some_iff.mp present
    have kept : truncateFirst config 0 after (second.groupIds.headD 0) = some stale := by
      unfold truncateFirst
      rw [order]
      dsimp only [head?_cons]
      split
      · dsimp only
        rw [if_neg outside]
        exact stored
      · exact stored
    rw [getElem?_map, getElem?_range within, Option.map_some, kept] at returned
    exact (Option.some.inj returned).symm
  have empty := hit.count
  rw [same, staleHit.count, spec] at empty
  have positive := (lt_cdiv_iff (c := 0) sizes.blockPositive).mpr
    (by have := sizes.alignmentPositive; omega :
      0 * second.spec.managerBlockSize config.dcpWorldSize < config.cacheHitAlignmentTokens)
  rw [empty, lt_cdiv_iff sizes.blockPositive] at positive
  omega

end

theorem hybrid_hit_sound_iff [Nonempty H] (accepted : config.Accepted) :
    (∀ (index : PrefixIndex H) (blockHashes : List H) (maxCacheHitLength : Nat),
      maxCacheHitLength / config.hashBlockSize ≤ blockHashes.length →
      Sound config index blockHashes maxCacheHitLength) ↔ config.Reconcilable := by
  constructor
  · intro sound
    have returns := (sound .empty [] 0 (by simp)).returns
    refine ⟨returns, fun second at_1 full bad inRest => ?_⟩
    by_contra shortens
    obtain ⟨first, rest, order⟩ : ∃ first rest,
        config.attentionGroups = first :: second :: rest := by
      match groups : config.attentionGroups, at_1 with
      | first :: _ :: rest, at_1 => exact ⟨first, rest, by simpa using at_1⟩
    rw [order] at inRest
    obtain ⟨index, blockHashes, maxCacheHitLength, hashed, unsound⟩ := not_sound_of_stale
      accepted order (Classical.arbitrary H) returns full (by simpa using inRest) shortens
    exact unsound (sound index blockHashes maxCacheHitLength hashed)
  · intro reconcilable index blockHashes maxCacheHitLength hashed
    exact sound_of_reconcilable index accepted reconcilable hashed

def windowConfig : CoordinatorConfig where
  kvCacheGroups := [⟨⟨.fullAttention, 16, 0⟩, false⟩, ⟨⟨.slidingWindow 64, 16, 0⟩, false⟩]
  useEagle := true
  dcpWorldSize := 1
  schedulerBlockSize := 16
  hashBlockSize := 16

theorem hybrid_hit_sound_window : windowConfig.Accepted ∧
    ∀ (index : PrefixIndex Nat) (blockHashes : List Nat) (maxCacheHitLength : Nat),
      maxCacheHitLength / windowConfig.hashBlockSize ≤ blockHashes.length →
      Sound windowConfig index blockHashes maxCacheHitLength := by
  have accepted : windowConfig.Accepted := by
    constructor <;> decide
  have reconcilable : windowConfig.Reconcilable := by
    constructor <;> decide
  exact ⟨accepted, (hybrid_hit_sound_iff accepted).mpr reconcilable⟩

def twoFullConfig : CoordinatorConfig where
  kvCacheGroups :=
    [⟨⟨.fullAttention, 16, 0⟩, false⟩, ⟨⟨.fullAttention, 16, 1⟩, false⟩,
      ⟨⟨.slidingWindow 64, 16, 0⟩, false⟩]
  useEagle := false
  dcpWorldSize := 1
  schedulerBlockSize := 16
  hashBlockSize := 16

theorem hybrid_hit_two_full : twoFullConfig.Accepted ∧
    findLongestCacheHit twoFullConfig (cachedFor [0, 1]) [100, 101] 32 =
      .ok ([[], [.block 1, .block 1], []], 0, 32) ∧
    ¬Sound twoFullConfig (cachedFor [0, 1]) [100, 101] 32 := by
  have value : findLongestCacheHit twoFullConfig (cachedFor [0, 1]) [100, 101] 32 =
      .ok ([[], [.block 1, .block 1], []], 0, 32) := by rfl
  refine ⟨by constructor <;> decide, value, ?_⟩
  rintro ⟨_, _, _, run, _, _, hits⟩
  cases run
  obtain ⟨_, returned, hit⟩ := hits 1 _ rfl
  cases returned
  exact absurd hit.count (by decide)

end VllmEngine.HybridKVCacheCoordinator

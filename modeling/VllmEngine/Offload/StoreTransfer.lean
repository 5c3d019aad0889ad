import VllmEngine.Offload.StorePlacement

set_option autoImplicit false

namespace VllmEngine

open List GroupPlan Nat

namespace Outcome

variable {Error A B : Type}

theorem mapM_flatten {items : List A} {next : A → Except Error (List B)}
    {values : A → List (Option B)} (each : ∀ item ∈ items, ∃ results, next item = .ok results ∧
      results.map some = values item) :
    ∃ results, items.mapM next = .ok results ∧ results.flatten.map some = items.flatMap values := by
  induction items with
  | nil => exact ⟨[], rfl, rfl⟩
  | cons item rest ih =>
    obtain ⟨⟨first, taken, same⟩, others⟩ := List.forall_mem_cons.mp each
    obtain ⟨results, run, equal⟩ := ih others
    refine ⟨first :: results, ?_, ?_⟩
    · rw [mapM_cons, taken, ok_bind, run]
      rfl
    · rw [flatten_cons, map_append, same, equal, flatMap_cons]

end Outcome

namespace SingleDirectionOffloadingHandler

variable {handler : SingleDirectionOffloadingHandler} {ref : CanonicalKVCacheRef}

def slotCopy (handler : SingleDirectionOffloadingHandler) (ref : CanonicalKVCacheRef)
    (blockId cpuBlock sub : Nat) : Option CopyOp := do
  let gpu ← handler.gpuTensors[ref.tensorIdx]?
  let cpu ← handler.cpuTensors[ref.tensorIdx]?
  return {
    src := gpu.slotPtr 1 blockId 0
    dst := cpu.slotPtr handler.blocksPerChunk cpuBlock sub
    size := ref.pageSizeBytes }

theorem tensors_of_lt (within : ref.tensorIdx < handler.gpuTensors.length) :
    ∃ gpu cpu, handler.gpuTensors[ref.tensorIdx]? = some gpu ∧
      handler.cpuTensors[ref.tensorIdx]? = some cpu ∧ cpu.rowSize % handler.blocksPerChunk = 0 := by
  have within' : ref.tensorIdx < handler.cpuTensors.length := by rwa [← handler.sameLength]
  refine ⟨_, _, getElem?_eq_getElem within, getElem?_eq_getElem within', ?_⟩
  have member : (handler.gpuTensors[ref.tensorIdx], handler.cpuTensors[ref.tensorIdx]) ∈
      handler.gpuTensors.zip handler.cpuTensors := by
    have both : ref.tensorIdx < (handler.gpuTensors.zip handler.cpuTensors).length := by
      rw [length_zip]
      omega
    rw [← getElem_zip (h := both)]
    exact getElem_mem both
  rw [handler.paged _ member, mul_mod_left]

theorem slotCopy_inj (within : ref.tensorIdx < handler.gpuTensors.length) {blockId : Nat}
    {slot slot' : Nat × Nat} (bound : slot.2 < handler.blocksPerChunk)
    (bound' : slot'.2 < handler.blocksPerChunk) (same : handler.slotCopy ref blockId slot.1 slot.2 =
      handler.slotCopy ref blockId slot'.1 slot'.2) : slot = slot' := by
  obtain ⟨_, _, gpuAt, cpuAt, divides⟩ := tensors_of_lt within
  simp only [slotCopy, gpuAt, cpuAt, Option.bind_eq_bind, Option.bind_some, Option.pure_def,
    Option.some.injEq, CopyOp.mk.injEq] at same
  obtain ⟨block, sub⟩ := KVTensor.slotPtr_inj divides bound bound' same.2.1
  exact Prod.ext block sub

theorem transferRef_store (toCpu : handler.gpuToCpu = true)
    (within : ref.tensorIdx < handler.gpuTensors.length) (ids blocks : List Nat) {skip : Nat}
    (skipped : skip < handler.blocksPerChunk)
    (fits : skip + ids.length ≤ blocks.length * handler.blocksPerChunk) :
    ∃ ops, handler.transferRef ids.length ids blocks 0 skip ref = .ok ops ∧
      ops.map some = List.zipWith (fun id slot => handler.slotCopy ref id slot.1 slot.2) ids
        (((slots handler.blocksPerChunk blocks).drop skip).take ids.length) := by
  obtain ⟨gpu, cpu, gpuAt, cpuAt, divides⟩ := tensors_of_lt within
  have sources : computeSubBlockPtrs ids 1 ids.length gpu 0 =
      .ok (ids.map fun id => gpu.slotPtr 1 id 0) := by
    rw [computeSubBlockPtrs_eq zero_lt_one (mod_one _) (by omega), drop_zero, slots_one,
      take_of_length_le (by rw [length_map]), map_map]
    rfl
  refine ⟨List.zipWith (fun src dst => { src, dst, size := ref.pageSizeBytes })
    (ids.map fun id => gpu.slotPtr 1 id 0)
    ((((slots handler.blocksPerChunk blocks).drop skip).take ids.length).map fun slot =>
      cpu.slotPtr handler.blocksPerChunk slot.1 slot.2), ?_, ?_⟩
  · unfold transferRef srcTensors dstTensors srcBlocksPerChunk dstBlocksPerChunk
    simp only [toCpu, if_true, tensorAt, gpuAt, cpuAt, Outcome.ok_bind, sources,
      computeSubBlockPtrs_eq skipped divides fits]
    rfl
  · rw [zipWith_map, map_zipWith]
    congr 1
    funext id slot
    simp [slotCopy, gpuAt, cpuAt]

variable {plan : GroupPlan} {refs : List CanonicalKVCacheRef} {cursor after : TransferCursor}
  {srcBlocks dstBlocks : List Nat}

def runCopies (handler : SingleDirectionOffloadingHandler) (plan : GroupPlan)
    (refs : List CanonicalKVCacheRef) : List (Option CopyOp) :=
  refs.flatMap fun ref =>
    List.zipWith (fun id slot => handler.slotCopy ref id slot.1 slot.2)
      (plan.ids handler.blocksPerChunk) (plan.run handler.blocksPerChunk)

def ownCopies (handler : SingleDirectionOffloadingHandler) (plan : GroupPlan)
    (refs : List CanonicalKVCacheRef) : List (Option CopyOp) :=
  refs.flatMap fun ref => (plan.kept handler.blocksPerChunk).map fun place =>
    handler.slotCopy ref (plan.table.getD place.1 0) place.2.1 place.2.2

theorem zipWith_inj {A B C : Type} {combine : A → B → C} {firsts : List A} {seconds others : List B}
    (length : firsts.length = seconds.length) (length' : seconds.length = others.length)
    (injective : ∀ first, ∀ second ∈ seconds, ∀ other ∈ others,
      combine first second = combine first other → second = other)
    (same : List.zipWith combine firsts seconds = List.zipWith combine firsts others) :
    seconds = others := by
  induction firsts generalizing seconds others with
  | nil =>
    rw [eq_nil_of_length_eq_zero length.symm,
      eq_nil_of_length_eq_zero (length'.symm.trans length.symm)]
  | cons first firsts ih =>
    cases seconds with
    | nil => cases length
    | cons second seconds =>
      cases others with
      | nil => cases length'
      | cons other others =>
        rw [zipWith_cons_cons, zipWith_cons_cons, List.cons.injEq] at same
        rw [injective first second mem_cons_self other mem_cons_self same.1,
          ih (succ.inj length) (succ.inj length') _ same.2]
        intro first second member other within
        exact injective first second (mem_cons_of_mem _ member) other
          (mem_cons_of_mem _ within)

theorem runCopies_eq_iff (stores : plan.Stores handler.blocksPerChunk)
    (distinct : (plan.placed.map Prod.snd).Nodup)
    (nonempty : refs ≠ []) (within : ∀ ref ∈ refs, ref.tensorIdx < handler.gpuTensors.length) :
    handler.runCopies plan refs = handler.ownCopies plan refs ↔ Gapless (holdsBlock plan.table)
        (subBlocks handler.blocksPerChunk (plan.placed.map Prod.fst)) := by
  rw [← kept_eq_run_iff handler.positive stores distinct]
  have own (ref : CanonicalKVCacheRef) :
      ((plan.kept handler.blocksPerChunk).map fun place =>
        handler.slotCopy ref (plan.table.getD place.1 0) place.2.1 place.2.2) =
      List.zipWith (fun id slot => handler.slotCopy ref id slot.1 slot.2)
        (plan.ids handler.blocksPerChunk) ((plan.kept handler.blocksPerChunk).map Prod.snd) := by
    rw [ids, zipWith_map, zipWith_self]
  unfold runCopies ownCopies
  simp only [own]
  constructor
  · intro same
    obtain ⟨ref, _, rfl⟩ := exists_cons_of_ne_nil nonempty
    have equal := (append_inj same (by simp [ids])).1
    refine (zipWith_inj ?_ ?_ ?_ equal).symm
    · simp [ids]
    · simp
    · intro id slot member slot' member' copied
      obtain ⟨place, kept, rfl⟩ := List.mem_map.mp member'
      exact slotCopy_inj (within ref mem_cons_self) (lt_of_mem_run member)
        (lt_of_mem_kept kept) copied
  · intro same
    rw [same]

def row (b : Nat) (plan : GroupPlan) (refs : List CanonicalKVCacheRef) :
    (Nat × Nat) × List CanonicalKVCacheRef :=
  (((plan.kept b).length, ((plan.kept b).map Prod.fst).head?.getD 0), refs)

theorem transferGroup_store (toCpu : handler.gpuToCpu = true)
    (stores : plan.Stores handler.blocksPerChunk)
    (within : ∀ ref ∈ refs, ref.tensorIdx < handler.gpuTensors.length)
    (earlierSrc laterSrc earlierDst laterDst : List Nat) (ops : List CopyOp) :
    ∃ added, handler.transferGroup
        (earlierSrc ++ plan.ids handler.blocksPerChunk ++ laterSrc)
        (earlierDst ++ plan.placed.map Prod.snd ++ laterDst)
        { srcOffset := earlierSrc.length, dstOffset := earlierDst.length, ops }
        (row handler.blocksPerChunk plan refs) = .ok {
          srcOffset := earlierSrc.length + (plan.ids handler.blocksPerChunk).length
          dstOffset := earlierDst.length + cdiv ((plan.kept handler.blocksPerChunk).length +
            (plan.places handler.blocksPerChunk).findIdx (holdsBlock plan.table ·.1))
              handler.blocksPerChunk
          ops := ops ++ added } ∧
      added.map some = handler.runCopies plan refs := by
  have lengths : (plan.ids handler.blocksPerChunk).length =
      (plan.kept handler.blocksPerChunk).length := by rw [ids, length_map]
  have fits := plan.start_add_length_le handler.blocksPerChunk
  obtain ⟨skipped, start⟩ := start_spec handler.positive stores
  by_cases empty : plan.placed = []
  · have none : plan.kept handler.blocksPerChunk = [] := by
      rw [kept, places, empty, flatMap_nil, filter_nil]
    have first : (plan.places handler.blocksPerChunk).findIdx (holdsBlock plan.table ·.1) = 0 := by
      rw [places, empty, flatMap_nil, findIdx_nil]
    refine ⟨[], ?_, ?_⟩
    · simp [transferGroup, row, none, first, ids, cdiv_eq, Except.pure,
        div_eq_of_lt (sub_lt handler.positive one_pos)]
    · simp [runCopies, ids, none]
  · have some := kept_ne_nil handler.positive stores empty
    specialize start empty
    generalize skip : (plan.places handler.blocksPerChunk).findIdx (holdsBlock plan.table ·.1) = s
      at *
    generalize size : (plan.kept handler.blocksPerChunk).length = n at *
    have positive : n ≠ 0 := by
      rw [← size]
      exact fun zero => some (eq_nil_of_length_eq_zero zero)
    generalize count : cdiv (n + s) handler.blocksPerChunk = blocks
    have few : blocks ≤ (plan.placed.map Prod.snd).length := by
      rw [← count, cdiv_le_iff handler.positive, length_map]
      omega
    have enough : s + n ≤ blocks * handler.blocksPerChunk := by
      rw [← count, add_comm]
      exact le_cdiv_mul _ handler.positive
    have each : ∀ ref ∈ refs, ∃ copies, handler.transferRef n (plan.ids handler.blocksPerChunk)
          ((plan.placed.map Prod.snd).take blocks) 0 s ref = .ok copies ∧
        copies.map Option.some = List.zipWith (fun id slot => handler.slotCopy ref id slot.1 slot.2)
            (plan.ids handler.blocksPerChunk) (plan.run handler.blocksPerChunk) := by
      intro ref member
      obtain ⟨copies, taken, same⟩ := transferRef_store toCpu (within ref member)
        (plan.ids handler.blocksPerChunk) ((plan.placed.map Prod.snd).take blocks) skipped
        (by rw [lengths, length_take, min_eq_left few]; exact enough)
      rw [lengths] at taken
      refine ⟨copies, taken, same.trans ?_⟩
      rw [lengths, slots_take_run _ enough few, run, skip, size]
    obtain ⟨results, taken, same⟩ := Outcome.mapM_flatten each
    refine ⟨results.flatten, ?_, same⟩
    unfold transferGroup row srcBlocksPerChunk dstBlocksPerChunk
    have one : cdiv n 1 = n := by rw [cdiv_eq, Nat.add_sub_cancel, Nat.div_one]
    have roomDst : earlierDst.length + blocks ≤
        (earlierDst ++ plan.placed.map Prod.snd ++ laterDst).length := by
      rw [length_append, length_append]
      omega
    have roomSrc : earlierSrc.length + n ≤
        (earlierSrc ++ plan.ids handler.blocksPerChunk ++ laterSrc).length := by
      rw [length_append, length_append]
      omega
    have whole : (plan.ids handler.blocksPerChunk).take n = plan.ids handler.blocksPerChunk :=
      take_of_length_le (le_of_eq lengths)
    simp only [toCpu, if_true, size, positive, start, mod_one, add_zero, one,
      count, decide_eq_true roomDst, decide_eq_true roomSrc,
      slice_append _ _ _ few, slice_append _ _ _ (le_of_eq lengths.symm), whole, taken, lengths]
    rfl

theorem transferGroup_ops {group : (Nat × Nat) × List CanonicalKVCacheRef}
    (taken : handler.transferGroup srcBlocks dstBlocks cursor group = .ok after) :
    ∃ added, after.ops = cursor.ops ++ added := by
  unfold transferGroup at taken
  dsimp only at taken
  split_ifs at taken with empty
  · cases taken
    exact ⟨[], (append_nil _).symm⟩
  · simp only [Outcome.bind_eq_ok] at taken
    obtain ⟨_, _, _, _, copies, _, done⟩ := taken
    cases done
    exact ⟨copies.flatten, rfl⟩

theorem transferGroups_ops {groups : List ((Nat × Nat) × List CanonicalKVCacheRef)}
    (taken : groups.foldlM (handler.transferGroup srcBlocks dstBlocks) cursor = .ok after) :
    ∃ added, after.ops = cursor.ops ++ added := by
  induction groups generalizing cursor with
  | nil =>
    cases taken
    exact ⟨[], (append_nil _).symm⟩
  | cons group rest ih =>
    obtain ⟨_, first, taken⟩ := Run.foldlM_cons_ok taken
    obtain ⟨added, grown⟩ := transferGroup_ops first
    obtain ⟨more, whole⟩ := ih taken
    exact ⟨added ++ more, by rw [whole, grown, append_assoc]⟩

structure Plans (handler : SingleDirectionOffloadingHandler)
    (plans : List (GroupPlan × List CanonicalKVCacheRef)) : Prop where
  stores : ∀ entry ∈ plans, entry.1.Stores handler.blocksPerChunk
  distinct : ∀ entry ∈ plans, (entry.1.placed.map Prod.snd).Nodup
  referenced : ∀ entry ∈ plans, entry.2 ≠ [] ∧
    ∀ ref ∈ entry.2, ref.tensorIdx < handler.gpuTensors.length

theorem transferGroups_iff (toCpu : handler.gpuToCpu = true)
    {plans : List (GroupPlan × List CanonicalKVCacheRef)} (sound : handler.Plans plans)
    (earlierSrc earlierDst : List Nat) (ops : List CopyOp) :
    (∃ added, (plans.map fun entry => row handler.blocksPerChunk entry.1 entry.2).foldlM
        (handler.transferGroup
          (earlierSrc ++ plans.flatMap fun entry => entry.1.ids handler.blocksPerChunk)
          (earlierDst ++ plans.flatMap fun entry => entry.1.placed.map Prod.snd))
        { srcOffset := earlierSrc.length, dstOffset := earlierDst.length, ops } = .ok {
          srcOffset := (earlierSrc ++
            plans.flatMap fun entry => entry.1.ids handler.blocksPerChunk).length
          dstOffset := (earlierDst ++ plans.flatMap fun entry => entry.1.placed.map Prod.snd).length
          ops := ops ++ added } ∧
      added.map some = plans.flatMap fun entry => handler.ownCopies entry.1 entry.2) ↔
    ∀ entry ∈ plans, Gapless (holdsBlock entry.1.table)
      (subBlocks handler.blocksPerChunk (entry.1.placed.map Prod.fst)) := by
  induction plans generalizing earlierSrc earlierDst ops with
  | nil => simp [Except.pure]
  | cons entry rest ih =>
    obtain ⟨plan, refs⟩ := entry
    obtain ⟨stores, restStores⟩ := List.forall_mem_cons.mp sound.stores
    obtain ⟨distinct, restDistinct⟩ := List.forall_mem_cons.mp sound.distinct
    obtain ⟨⟨nonempty, within⟩, restWithin⟩ := List.forall_mem_cons.mp sound.referenced
    obtain ⟨copies, taken, same⟩ := transferGroup_store toCpu stores within earlierSrc
      (rest.flatMap fun entry => entry.1.ids handler.blocksPerChunk) earlierDst
      (rest.flatMap fun entry => entry.1.placed.map Prod.snd) ops
    have iff := runCopies_eq_iff stores distinct nonempty within
    specialize ih ⟨restStores, restDistinct, restWithin⟩
      (earlierSrc ++ plan.ids handler.blocksPerChunk) (earlierDst ++ plan.placed.map Prod.snd)
      (ops ++ copies)
    have offset (gapless : Gapless (holdsBlock plan.table)
        (subBlocks handler.blocksPerChunk (plan.placed.map Prod.fst))) :
        cdiv ((plan.kept handler.blocksPerChunk).length +
          (plan.places handler.blocksPerChunk).findIdx (holdsBlock plan.table ·.1))
            handler.blocksPerChunk = (plan.placed.map Prod.snd).length := by
      rw [add_comm, start_add_length_of_gapless gapless, cdiv_mul _ handler.positive, length_map]
    rw [forall_mem_cons]
    simp only [flatMap_cons, map_cons, ← append_assoc]
    rw [foldlM_cons, taken, Outcome.ok_bind]
    constructor
    · rintro ⟨added, run, own⟩
      obtain ⟨more, grown⟩ := transferGroups_ops run
      dsimp only at grown
      rw [append_assoc, append_cancel_left_eq] at grown
      subst grown
      rw [map_append] at own
      have lengths : (copies.map some).length = (handler.ownCopies plan refs).length := by
        rw [same]
        simp [runCopies, ownCopies, ids]
      obtain ⟨first, others⟩ := append_inj own lengths
      have gapless := iff.mp (same.symm.trans first)
      refine ⟨gapless, ih.mp ⟨more, ?_, others⟩⟩
      rw [offset gapless, ← length_append, ← length_append] at run
      rw [run, append_assoc ops]
    · rintro ⟨gapless, others⟩
      obtain ⟨more, run, own⟩ := ih.mpr others
      refine ⟨copies ++ more, ?_, ?_⟩
      · rw [offset gapless, ← length_append, ← length_append, run, append_assoc ops]
      · rw [map_append, own, same, iff.mpr gapless]

end SingleDirectionOffloadingHandler

end VllmEngine

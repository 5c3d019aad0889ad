import VllmEngine.Sched.Queues

set_option autoImplicit false

namespace VllmEngine.Sched

open EngineCore List

variable (config : SchedulerConfig) (request : SchedRequest)

def prefillEnd : Int := max (request.numPromptTokens : Int) (request.numTokens - 1)

def PartialTail (position : Int) : Prop :=
  config.mambaPartialCacheHit = true ∧
    position = request.numPromptTokens / config.hashBlockSize * config.hashBlockSize ∧
    lastCachePosition config request < position ∧ position < request.numPromptTokens

instance (position : Int) : Decidable (PartialTail config request position) :=
  inferInstanceAs (Decidable (_ ∧ _ ∧ _ ∧ _))

-- The state is cached there, or kept until the next chunk because a block takes several chunks.
def CacheableEnd (start stop : Int) : Prop :=
  (config.blockSize : Int) ∣ stop ∨ PartialTail config request stop ∨ prefillEnd request ≤ stop ∨
    (stop < (start / config.blockSize + 1) * config.blockSize ∧
      maxPrefillTokens config < config.blockSize)

instance (start stop : Int) : Decidable (CacheableEnd config request start stop) :=
  inferInstanceAs (Decidable (_ ∨ _ ∨ _ ∨ _))

def chunkEnds (position : Int) : List Nat → List Int
  | [] => []
  | budget :: rest =>
    let next := position + mambaBlockAlignedSplit config
      { request with numComputedTokens := position } budget 0 0
    next :: chunkEnds next rest

variable {config request} {start stop computed numNewTokens numNewLocal numExternal position : Int}

theorem foldl_min_cases (positions : List Int) (stop : Int) :
    (positions.foldl min stop = stop ∨ positions.foldl min stop ∈ positions) ∧
      ∀ position ∈ positions, positions.foldl min stop ≤ position := by
  induction positions generalizing stop with
  | nil => simp
  | cons first rest ih =>
    obtain ⟨earliest, least⟩ := ih (min stop first)
    have below := foldl_min_le rest (min stop first)
    rw [foldl_cons]
    refine ⟨?_, forall_mem_cons.mpr ⟨by omega, least⟩⟩
    rcases earliest with same | inside
    · rcases Int.le_total stop first with before | after
      · exact .inl (same.trans (Int.min_eq_left before))
      · exact .inr (mem_cons.mpr (.inl (same.trans (Int.min_eq_right after))))
    · exact .inr (mem_cons_of_mem _ inside)

theorem blockSize_dvd_lastCachePosition :
    (config.blockSize : Int) ∣ lastCachePosition config request := by
  have aligned : (config.blockSize : Int) ∣
      (request.numTokens : Int) - request.numTokens % config.blockSize := Int.dvd_self_sub_emod
  unfold lastCachePosition
  split_ifs
  · rcases Int.le_total ((request.numTokens : Int) - request.numTokens % config.blockSize -
      config.blockSize) 0 with none | some
    · rw [Int.max_eq_right none]
      exact Int.dvd_zero _
    · rw [Int.max_eq_left some]
      exact Int.dvd_sub aligned (Int.dvd_refl _)
  · exact aligned

def stopsInside (config : SchedulerConfig) (request : SchedRequest) (start stop : Int) : List Int :=
  (mandatoryStops config request start stop).filter fun position =>
    start < position ∧ position < stop

section

variable {count : Int} (prefilling : start < prefillEnd request)
  (placed : computed + numNewLocal + numExternal = start)
  (limit : alignedEnd config start (start + numNewTokens) (prefillEnd request) = stop)
  (counted : mambaBlockAlignedSplit config { request with numComputedTokens := computed }
    numNewTokens numNewLocal numExternal = count)
  (nonempty : 0 < count)

include prefilling placed limit counted nonempty

theorem split_cases :
    (start + count = stop ∨ start + count ∈ mandatoryStops config request start stop) ∧
      ∀ position ∈ mandatoryStops config request start stop, start < position →
        start + count ≤ position := by
  have counted : max ((stopsInside config request start stop).foldl min stop - start) 0 = count := by
    subst placed limit
    exact (if_neg (Int.not_le.mpr prefilling)).symm.trans counted
  have below := foldl_min_le (stopsInside config request start stop) stop
  obtain ⟨earliest, least⟩ := foldl_min_cases (stopsInside config request start stop) stop
  have ends : (stopsInside config request start stop).foldl min stop = start + count := by omega
  rw [ends] at below earliest least
  constructor
  · rcases earliest with same | inside
    · exact .inl same
    · exact .inr (mem_filter.mp inside).1
  · intro position stops after
    by_cases before : position < stop
    · exact least position (mem_filter.mpr ⟨stops, by simp [after, before]⟩)
    · omega

theorem split_cacheable (nonneg : 0 ≤ start) :
    CacheableEnd config request start (start + count) := by
  obtain ⟨ends, earliest⟩ := split_cases prefilling placed limit counted nonempty
  have positive : (0 : Int) < config.blockSize := Int.natCast_pos.mpr config.blockSize_pos
  rcases ends with same | inside
  · rw [same, ← limit]
    unfold alignedEnd
    dsimp only
    split_ifs with short aligned
    · exact .inl (Int.dvd_mul_left _ _)
    · -- The chunk ends in the block that it starts in.
      obtain ⟨here, wide⟩ := not_or.mp aligned
      refine .inr (.inr (.inr ⟨?_, Nat.not_le.mp wide⟩))
      have : (start + numNewTokens) / config.blockSize ≤ start / config.blockSize := by
        apply Int.le_ediv_of_mul_le positive
        exact Int.not_lt.mp here
      exact Int.lt_mul_of_ediv_lt positive (Int.lt_add_one_of_le this)
    · exact .inr (.inr (.inl (Int.not_lt.mp short)))
  · unfold mandatoryStops at inside
    simp only [mem_cons, not_mem_nil, or_false] at inside
    rcases inside with boundary | last | tail | junction
    · split_ifs at boundary
      · rw [boundary]
        exact .inl (Int.dvd_mul_left _ _)
      · omega
    · rw [last]
      exact .inl blockSize_dvd_lastCachePosition
    · split_ifs at tail with hits between
      · exact .inr (.inl ⟨hits, tail, tail ▸ between.1, tail ▸ between.2⟩)
      all_goals omega
    · split_ifs at junction with between
      · by_cases aligned : start % config.blockSize = 0
        · rw [junction]
          exact .inl (Int.dvd_add (Int.dvd_of_emod_eq_zero aligned) (Int.dvd_mul_left _ _))
        · -- From inside a block, the next boundary comes before the junction.
          have next := earliest ((start / config.blockSize + 1) * config.blockSize)
            (mem_cons.mpr (.inl (if_pos aligned).symm))
          have inBlock := Int.emod_add_mul_ediv start config.blockSize
          have inside := Int.emod_nonneg start (Int.ne_of_gt positive)
          have width := Int.emod_lt_of_pos start positive
          have some : 1 ≤ (request.sharedPrefixBoundary - start) / config.blockSize := by
            refine Int.pos_of_mul_pos_left ?_ positive
            omega
          have step := Int.mul_le_mul_of_nonneg_right some (Int.le_of_lt positive)
          rw [Int.add_mul, Int.one_mul, Int.mul_comm] at next
          omega
      · omega

end

theorem split_passes_no_stop (prefilling : position < prefillEnd request)
    {stop : Int} (stops : stop = lastCachePosition config request ∨ PartialTail config request stop)
    (after : position < stop) (budget : Nat) :
    position + mambaBlockAlignedSplit config { request with numComputedTokens := position } budget
      0 0 ≤ stop := by
  by_cases nonempty : 0 < mambaBlockAlignedSplit config
      { request with numComputedTokens := position } budget 0 0
  · have earliest := (split_cases prefilling
      ((Int.add_zero _).trans (Int.add_zero _)) rfl rfl nonempty).2
    refine earliest stop ?_ after
    rcases stops with rfl | ⟨hits, tail, between⟩
    · exact mem_cons_of_mem _ mem_cons_self
    · refine mem_cons_of_mem _ (mem_cons_of_mem _ (mem_cons.mpr (.inl ?_)))
      rw [if_pos hits, ← tail, if_pos between]
  · omega

theorem mem_chunkEnds {stop : Int} (budgets : List Nat)
    (stops : stop = lastCachePosition config request ∨ PartialTail config request stop)
    (within : stop ≤ prefillEnd request) (after : position < stop)
    (reached : stop ≤ (chunkEnds config request position budgets).getLastD position) :
    stop ∈ chunkEnds config request position budgets := by
  induction budgets generalizing position with
  | nil => exact absurd reached (Int.not_le.mpr after)
  | cons budget rest ih =>
    have ends := split_passes_no_stop (Int.lt_of_lt_of_le after within) stops after budget
    rw [chunkEnds] at reached ⊢
    rw [getLastD_cons] at reached
    rcases Int.lt_or_eq_of_le ends with before | same
    · exact mem_cons_of_mem _ (ih before reached)
    · exact mem_cons.mpr (.inl same.symm)

theorem chunks_end_cacheable (config : SchedulerConfig) (request : SchedRequest)
    (computed numNewTokens numNewLocal numExternal : Nat) :
    let start : Int := computed + numNewLocal + numExternal
    let count := mambaBlockAlignedSplit config { request with numComputedTokens := computed }
      numNewTokens numNewLocal numExternal
    (0 ≤ count ∧ count ≤ numNewTokens) ∧ (start < prefillEnd request →
        (0 < count → CacheableEnd config request start (start + count)) ∧
        ∀ stop ∈ mandatoryStops config request start
            (alignedEnd config start (start + numNewTokens) (prefillEnd request)),
          ¬ (start < stop ∧ stop < start + count)) ∧
      ∀ (budgets : List Nat) (stop : Int),
        (stop = lastCachePosition config request ∨ PartialTail config request stop) →
        stop ≤ prefillEnd request → start < stop →
        stop ≤ (chunkEnds config request start budgets).getLastD start →
        stop ∈ chunkEnds config request start budgets := by
  intro start count
  refine ⟨mambaBlockAlignedSplit_bounds (Int.natCast_nonneg _) _ _, fun prefilling => ?_,
    fun budgets stop stops within after reached => mem_chunkEnds budgets stops within after reached⟩
  refine ⟨fun nonempty => split_cacheable prefilling rfl rfl rfl nonempty (by omega), ?_⟩
  rintro stop stops ⟨after, _⟩
  have earliest := (split_cases prefilling rfl rfl rfl (by omega)).2 stop
    stops after
  omega

def resumed : SchedRequest :=
  ((SchedRequest.create { session with promptTokenIds := some [1, 1, 1, 1, 1, 1] }).appendOutputTokenId
    2).appendOutputTokenId 2

theorem chunk_ends_inside_block :
    (mambaBlockAlignedSplit asyncConfig { resumed with numComputedTokens := 5 } 1 0 0 = 0 ∧
      ¬ CacheableEnd asyncConfig resumed 5 5) ∧
    chunkEnds asyncConfig resumed 4 [3, 2] = [7, 9] ∧ lastCachePosition asyncConfig resumed = 8 := by
  decide

end VllmEngine.Sched

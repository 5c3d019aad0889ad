import VllmEngine.Sched.Scheduler

set_option autoImplicit false

namespace VllmEngine.Sched

variable (config : SchedulerConfig) (request : SchedRequest)

def lastCachePosition : Int :=
  let aligned : Int := request.numTokens - request.numTokens % config.blockSize
  if config.useEagle then max (aligned - config.blockSize) 0 else aligned

def maxPrefillTokens : Nat :=
  if 0 < config.longPrefillTokenThreshold then
    min config.maxNumScheduledTokens config.longPrefillTokenThreshold
  else config.maxNumScheduledTokens

-- The end of a chunk from `start`, moved back to a block boundary unless the chunk ends the prefill
-- or a block is too wide for one chunk.
def alignedEnd (start stop prefillEnd : Int) : Int :=
  if stop < prefillEnd then
    let aligned := stop / config.blockSize * config.blockSize
    if start < aligned ∨ config.blockSize ≤ maxPrefillTokens config then aligned else stop
  else stop

def mandatoryStops (start stop : Int) : List Int :=
  let blockSize : Int := config.blockSize
  let tailBoundary : Int :=
    if config.mambaPartialCacheHit then
      request.numPromptTokens / config.hashBlockSize * config.hashBlockSize
    else 0
  let junction : Int := request.sharedPrefixBoundary
  [if start % blockSize ≠ 0 then (start / blockSize + 1) * blockSize else 0,
    lastCachePosition config request,
    if lastCachePosition config request < tailBoundary ∧ tailBoundary < request.numPromptTokens then
      tailBoundary
    else 0,
    if start < junction ∧ junction < stop then
      start + (junction - start) / blockSize * blockSize
    else 0]

def mambaBlockAlignedSplit (numNewTokens numNewLocalComputedTokens numExternalComputedTokens : Int) :
    Int :=
  let start := request.numComputedTokens + numNewLocalComputedTokens + numExternalComputedTokens
  let prefillEnd : Int := max (request.numPromptTokens : Int) (request.numTokens - 1)
  if prefillEnd ≤ start then numNewTokens
  else
    let stop := alignedEnd config start (start + numNewTokens) prefillEnd
    let inside := (mandatoryStops config request start stop).filter fun position =>
      start < position ∧ position < stop
    max (inside.foldl min stop - start) 0

variable {config request}

theorem alignedEnd_le (start stop prefillEnd : Int) :
    alignedEnd config start stop prefillEnd ≤ stop := by
  unfold alignedEnd
  dsimp only
  split_ifs
  · apply Int.ediv_mul_le stop
    have positive := config.blockSize_pos
    omega
  · exact Int.le_refl _
  · exact Int.le_refl _

theorem foldl_min_le (positions : List Int) (stop : Int) : positions.foldl min stop ≤ stop :=
  List.foldlRecOn (motive := (· ≤ stop)) _ _ (Int.le_refl _) fun _ below _ _ =>
    Int.le_trans (Int.min_le_left _ _) below

theorem mambaBlockAlignedSplit_bounds {numNewTokens : Int} (nonneg : 0 ≤ numNewTokens)
    (numNewLocalComputedTokens numExternalComputedTokens : Int) :
    0 ≤ mambaBlockAlignedSplit config request numNewTokens numNewLocalComputedTokens
        numExternalComputedTokens ∧
      mambaBlockAlignedSplit config request numNewTokens numNewLocalComputedTokens
        numExternalComputedTokens ≤ numNewTokens := by
  unfold mambaBlockAlignedSplit
  dsimp only
  split_ifs with decoding
  · exact ⟨nonneg, Int.le_refl _⟩
  · generalize request.numComputedTokens + numNewLocalComputedTokens +
      numExternalComputedTokens = start
    generalize max (request.numPromptTokens : Int) (request.numTokens - 1) = prefillEnd
    have aligned : alignedEnd config start (start + numNewTokens) prefillEnd ≤ _ :=
      alignedEnd_le start (start + numNewTokens) prefillEnd
    generalize alignedEnd config start (start + numNewTokens) prefillEnd = stop at aligned ⊢
    have earliest := foldl_min_le ((mandatoryStops config request start stop).filter
      fun position => start < position ∧ position < stop) stop
    omega

end VllmEngine.Sched

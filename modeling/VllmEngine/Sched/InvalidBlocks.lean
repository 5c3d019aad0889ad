import VllmEngine.Hashing.Request
import Mathlib.Data.List.Induction

set_option autoImplicit false

namespace VllmEngine

open List

structure LoadedRequest where
  requestId : RequestId
  numComputedTokens : Int
  blockIds : List Nat
  deriving DecidableEq

structure InvalidCall where
  blockSize : Nat
  positive : 0 < blockSize
  invalidBlockIds : List Nat
  numScheduledTokens : RequestId → Nat
  evictBlocks : Bool

structure InvalidUpdate where
  requests : List LoadedRequest
  affectedReqIds : List RequestId
  totalAffectedTokens : Int
  blocksToEvict : List Nat
  markedInvalidBlockIds : List Nat

structure BlockScan where
  isAffected : Bool
  markedInvalidBlock : Bool
  numComputedTokens : Int
  totalAffectedTokens : Int
  blocksToEvict : List Nat
  markedInvalidBlockIds : List Nat

namespace InvalidCall

variable (call : InvalidCall)

def reqNumComputedTokens (request : LoadedRequest) : Int :=
  request.numComputedTokens - call.numScheduledTokens request.requestId

def reqNumComputedBlocks (request : LoadedRequest) : Nat :=
  ((call.reqNumComputedTokens request + call.blockSize - 1) / call.blockSize).toNat

def visitBlock (request : LoadedRequest) (scan : BlockScan) : Nat × Nat → BlockScan
  | (blockId, idx) =>
    if blockId ∉ call.invalidBlockIds then scan
    else if blockId ∈ scan.markedInvalidBlockIds then
      { scan with isAffected := true }
    else if scan.markedInvalidBlock then
      { scan with
        isAffected := true
        markedInvalidBlockIds := scan.markedInvalidBlockIds ++ [blockId] }
    else
      { scan with
        isAffected := true
        markedInvalidBlockIds := scan.markedInvalidBlockIds ++ [blockId]
        markedInvalidBlock := true
        numComputedTokens := (idx * call.blockSize : Nat)
        totalAffectedTokens := scan.totalAffectedTokens +
          (call.reqNumComputedTokens request - (idx * call.blockSize : Nat))
        blocksToEvict := scan.blocksToEvict ++
          if call.evictBlocks then request.blockIds.drop idx else [] }

def scanBlocks (update : InvalidUpdate) (request : LoadedRequest) : BlockScan :=
  (request.blockIds.take (call.reqNumComputedBlocks request)).zipIdx.foldl
    (call.visitBlock request)
    { isAffected := false
      markedInvalidBlock := false
      numComputedTokens := request.numComputedTokens
      totalAffectedTokens := update.totalAffectedTokens
      blocksToEvict := update.blocksToEvict
      markedInvalidBlockIds := update.markedInvalidBlockIds }

def visitRequest (update : InvalidUpdate) (request : LoadedRequest) : InvalidUpdate :=
  let scan := call.scanBlocks update request
  -- all its invalid blocks are computed again by earlier requests
  let shared := scan.isAffected && !scan.markedInvalidBlock
  let numComputedTokens :=
    if shared then call.reqNumComputedTokens request else scan.numComputedTokens
  { requests := update.requests ++ [{ request with numComputedTokens }]
    affectedReqIds :=
      if scan.isAffected then update.affectedReqIds ++ [request.requestId]
      else update.affectedReqIds
    totalAffectedTokens := scan.totalAffectedTokens +
      if shared then scan.numComputedTokens - numComputedTokens else 0
    blocksToEvict := scan.blocksToEvict
    markedInvalidBlockIds := scan.markedInvalidBlockIds }

def updateRequestsWithInvalidBlocks (requests : List LoadedRequest) : InvalidUpdate :=
  requests.foldl call.visitRequest ⟨[], [], 0, [], []⟩

structure Invalid (request : LoadedRequest) (idx blockId : Nat) : Prop where
  invalid : blockId ∈ call.invalidBlockIds
  found : request.blockIds[idx]? = some blockId
  computed : (idx * call.blockSize : Nat) < call.reqNumComputedTokens request

def Recomputes (blockId : Nat) (pair : LoadedRequest × LoadedRequest) : Prop :=
  ∃ idx, call.Invalid pair.1 idx blockId ∧ pair.2.numComputedTokens ≤ (idx * call.blockSize : Nat)

structure Handled (earlier : List (LoadedRequest × LoadedRequest)) (affectedReqIds : List RequestId)
    (request updated : LoadedRequest) : Prop where
  kept : (∀ idx blockId, ¬call.Invalid request idx blockId) → updated = request
  reported : ∀ idx blockId, call.Invalid request idx blockId →
    request.requestId ∈ affectedReqIds ∧
      updated.numComputedTokens ≤ call.reqNumComputedTokens request
  shared : ∀ idx blockId, call.Invalid request idx blockId →
    (idx * call.blockSize : Nat) < updated.numComputedTokens →
      ∃ pair ∈ earlier, call.Recomputes blockId pair

structure Scanned (numComputedTokens : Int) (marked : List Nat) (seen : List (Nat × Nat))
    (scan : BlockScan) : Prop where
  affected : scan.isAffected = true ↔
    ∃ idx blockId, (blockId, idx) ∈ seen ∧ blockId ∈ call.invalidBlockIds
  marks : ∀ blockId, blockId ∈ scan.markedInvalidBlockIds ↔
    blockId ∈ marked ∨ ∃ idx, (blockId, idx) ∈ seen ∧ blockId ∈ call.invalidBlockIds
  own : ∀ idx blockId, (blockId, idx) ∈ seen ∧ blockId ∈ call.invalidBlockIds →
    blockId ∉ marked → scan.markedInvalidBlock = true ∧
      scan.numComputedTokens ≤ (idx * call.blockSize : Nat)
  cut : scan.markedInvalidBlock = true → ∃ idx blockId, ((blockId, idx) ∈ seen ∧
    blockId ∈ call.invalidBlockIds) ∧ scan.numComputedTokens = (idx * call.blockSize : Nat)
  uncut : scan.markedInvalidBlock = false → scan.numComputedTokens = numComputedTokens

variable {call} {numComputedTokens : Int} {marked : List Nat} {seen : List (Nat × Nat)}
  {scan : BlockScan} {request : LoadedRequest}

theorem Scanned.visitBlock (scanned : call.Scanned numComputedTokens marked seen scan) {idx : Nat}
    (ordered : ∀ earlier blockId, (blockId, earlier) ∈ seen → earlier ≤ idx) (blockId : Nat) :
    call.Scanned numComputedTokens marked (seen ++ [(blockId, idx)])
      (call.visitBlock request scan (blockId, idx)) := by
  have later : ∀ earlier blockId, (blockId, earlier) ∈ seen →
      earlier * call.blockSize ≤ idx * call.blockSize :=
    fun earlier blockId member => Nat.mul_le_mul_right _ (ordered earlier blockId member)
  obtain ⟨affected, marks, own, cut, uncut⟩ := scanned
  have visited : ∀ block other, (block, other) ∈ seen ++ [(blockId, idx)] ↔
      (block, other) ∈ seen ∨ block = blockId ∧ other = idx := by simp
  have cutBefore (flag : scan.markedInvalidBlock = true) : ∃ other block,
      ((block, other) ∈ seen ++ [(blockId, idx)] ∧ block ∈ call.invalidBlockIds) ∧
        scan.numComputedTokens = (other * call.blockSize : Nat) := by
    obtain ⟨other, block, ⟨member, invalid⟩, equal⟩ := cut flag
    exact ⟨other, block, ⟨mem_append_left _ member, invalid⟩, equal⟩
  simp only [InvalidCall.visitBlock]
  split
  · exact ⟨by grind, by grind, by grind, cutBefore, uncut⟩
  next invalid =>
  have hit : (blockId, idx) ∈ seen ++ [(blockId, idx)] ∧ blockId ∈ call.invalidBlockIds :=
    ⟨by simp, by simpa using invalid⟩
  have affectedNow : true = true ↔ ∃ other block,
      (block, other) ∈ seen ++ [(blockId, idx)] ∧ block ∈ call.invalidBlockIds :=
    iff_of_true rfl ⟨idx, blockId, hit⟩
  split
  · exact ⟨affectedNow, by grind, by grind, cutBefore, uncut⟩
  split
  · exact ⟨affectedNow, by grind, by grind, cutBefore, uncut⟩
  · exact ⟨affectedNow, by grind, by grind, fun _ => ⟨idx, blockId, hit, rfl⟩, by simp⟩

theorem scanned_scanBlocks (update : InvalidUpdate) (request : LoadedRequest) :
    call.Scanned request.numComputedTokens update.markedInvalidBlockIds
      (request.blockIds.take (call.reqNumComputedBlocks request)).zipIdx
      (call.scanBlocks update request) := by
  unfold scanBlocks
  induction request.blockIds.take (call.reqNumComputedBlocks request) using List.reverseRecOn with
  | nil => constructor <;> simp
  | append_singleton blocks blockId ih =>
    rw [zipIdx_append, foldl_append, Nat.zero_add]
    refine ih.visitBlock (fun earlier block member => ?_) blockId
    have found := (List.getElem?_eq_some_iff.mp (mk_mem_zipIdx_iff_getElem?.mp member)).1
    exact Nat.le_of_lt found

theorem invalid_iff {idx blockId : Nat} : call.Invalid request idx blockId ↔
    (blockId, idx) ∈ (request.blockIds.take (call.reqNumComputedBlocks request)).zipIdx ∧
      blockId ∈ call.invalidBlockIds := by
  have bound : idx < call.reqNumComputedBlocks request ↔
      (idx * call.blockSize : Nat) < call.reqNumComputedTokens request := by
    have positive : (0 : Int) < call.blockSize := Int.natCast_pos.mpr call.positive
    rw [reqNumComputedBlocks, Int.lt_toNat, Int.lt_iff_add_one_le,
      Int.le_ediv_iff_mul_le positive, Int.add_mul]
    push_cast
    omega
  rw [mk_mem_zipIdx_iff_getElem?, getElem?_take]
  constructor
  · rintro ⟨invalid, found, computed⟩
    rw [if_pos (bound.mpr computed)]
    exact ⟨found, invalid⟩
  · rintro ⟨found, invalid⟩
    split at found
    · next within => exact ⟨invalid, found, bound.mp within⟩
    · cases found

variable {update : InvalidUpdate} {pairs : List (LoadedRequest × LoadedRequest)}

theorem visitRequest_handled (marks : ∀ blockId ∈ update.markedInvalidBlockIds,
      ∃ pair ∈ pairs, call.Recomputes blockId pair) (request : LoadedRequest) :
    ∃ updated, (call.visitRequest update request).requests = update.requests ++ [updated] ∧
      update.affectedReqIds ⊆ (call.visitRequest update request).affectedReqIds ∧
      call.Handled pairs (call.visitRequest update request).affectedReqIds request updated ∧
      ∀ blockId ∈ (call.visitRequest update request).markedInvalidBlockIds,
        ∃ pair ∈ pairs ++ [(request, updated)], call.Recomputes blockId pair := by
  obtain ⟨affected, marked, own, cut, uncut⟩ := call.scanned_scanBlocks update request
  simp only [← invalid_iff] at affected marked own cut
  unfold visitRequest
  generalize call.scanBlocks update request = scan at affected marked own cut uncut ⊢
  refine ⟨_, rfl, ?_, ⟨fun none => ?_, fun idx blockId invalid => ?_, fun idx blockId invalid => ?_⟩,
    fun blockId member => ?_⟩
  · dsimp only
    split
    · exact subset_append_left _ _
    · exact List.Subset.refl _
  · have unaffected : scan.isAffected = false := by
      rw [Bool.eq_false_iff, Ne, affected]
      exact fun ⟨idx, blockId, invalid⟩ => none idx blockId invalid
    have unmarked : scan.markedInvalidBlock = false := by
      rw [Bool.eq_false_iff]
      exact fun flag => have ⟨idx, blockId, invalid, _⟩ := cut flag; none idx blockId invalid
    simp [unaffected, uncut unmarked]
  · have isAffected := affected.mpr ⟨idx, blockId, invalid⟩
    simp only [isAffected, if_true, mem_append, mem_singleton, or_true, true_and, Bool.true_and]
    cases flag : scan.markedInvalidBlock with
    | false => simp
    | true =>
      obtain ⟨first, _, own, equal⟩ := cut flag
      have := own.computed
      simp only [Bool.not_true, Bool.false_eq_true, if_false]
      omega
  · intro below
    apply marks
    by_contra fresh
    obtain ⟨flag, position⟩ := own idx blockId invalid fresh
    simp only [flag, Bool.not_true, Bool.and_false, Bool.false_eq_true, if_false] at below
    omega
  · rcases (marked blockId).mp member with old | ⟨idx, invalid⟩
    · obtain ⟨pair, inside, recomputes⟩ := marks blockId old
      exact ⟨pair, mem_append_left _ inside, recomputes⟩
    by_cases old : blockId ∈ update.markedInvalidBlockIds
    · obtain ⟨pair, inside, recomputes⟩ := marks blockId old
      exact ⟨pair, mem_append_left _ inside, recomputes⟩
    · obtain ⟨flag, position⟩ := own idx blockId invalid old
      refine ⟨_, mem_append_right _ (mem_singleton_self _), idx, invalid, ?_⟩
      simpa [flag] using position

structure Updated (call : InvalidCall) (requests : List LoadedRequest) (update : InvalidUpdate) :
    Prop where
  length : update.requests.length = requests.length
  marks : ∀ blockId ∈ update.markedInvalidBlockIds,
    ∃ pair ∈ requests.zip update.requests, call.Recomputes blockId pair
  handled : ∀ earlier request updated later,
    requests.zip update.requests = earlier ++ (request, updated) :: later →
      call.Handled earlier update.affectedReqIds request updated

theorem updated_updateRequests (requests : List LoadedRequest) :
    call.Updated requests (call.updateRequestsWithInvalidBlocks requests) := by
  induction requests using List.reverseRecOn with
  | nil => constructor <;> simp [updateRequestsWithInvalidBlocks]
  | append_singleton requests last ih =>
    obtain ⟨length, marks, handled⟩ := ih
    rw [updateRequestsWithInvalidBlocks, foldl_append, ← updateRequestsWithInvalidBlocks]
    generalize call.updateRequestsWithInvalidBlocks requests = before at length marks handled ⊢
    obtain ⟨final, requestsEq, grown, lastHandled, lastMarks⟩ := visitRequest_handled marks last
    simp only [foldl_cons, foldl_nil]
    have zipped : (requests ++ [last]).zip (call.visitRequest before last).requests =
        requests.zip before.requests ++ [(last, final)] := by
      rw [requestsEq, zip_append length.symm]
      rfl
    refine ⟨by simp [requestsEq, length], zipped ▸ lastMarks, ?_⟩
    rw [zipped]
    intro earlier request updated later split
    rcases List.eq_nil_or_concat later with rfl | ⟨later, pair, rfl⟩
    · obtain ⟨rfl, same⟩ := append_inj' split rfl
      cases same
      exact lastHandled
    · rw [concat_eq_append, ← cons_append, ← append_assoc] at split
      have old := handled earlier request updated later (append_inj' split rfl).1
      exact { old with reported := fun idx blockId invalid =>
        (old.reported idx blockId invalid).imp_left (grown ·) }

theorem invalid_blocks_recomputed (call : InvalidCall) (requests : List LoadedRequest) :
    (call.updateRequestsWithInvalidBlocks requests).requests.length = requests.length ∧
      ∀ earlier request updated later,
        requests.zip (call.updateRequestsWithInvalidBlocks requests).requests =
          earlier ++ (request, updated) :: later →
        call.Handled earlier (call.updateRequestsWithInvalidBlocks requests).affectedReqIds request
          updated :=
  have updated := updated_updateRequests requests
  ⟨updated.length, updated.handled⟩

-- A block of which this step computes all tokens is not looked at.
theorem scheduled_block_kept :
    let call : InvalidCall := ⟨16, by decide, [7], fun _ => 16, true⟩
    let request : LoadedRequest := ⟨0, 16, [7]⟩
    (7 ∈ call.invalidBlockIds ∧ request.blockIds[0]? = some 7 ∧
      ((0 * call.blockSize : Nat) : Int) < request.numComputedTokens) ∧
    (call.updateRequestsWithInvalidBlocks [request]).requests = [request] ∧
    (call.updateRequestsWithInvalidBlocks [request]).affectedReqIds = [] := by
  decide

end InvalidCall

end VllmEngine

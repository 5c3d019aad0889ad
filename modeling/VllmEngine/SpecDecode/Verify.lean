import VllmEngine.SpecDecode.Rejection
import VllmEngine.Shared.Arith

set_option autoImplicit false

namespace VllmEngine

open Ragged List

def verify : List Int → List Int → List Int
  | _, [] => []
  | [], target :: _ => [target]
  | draft :: drafts, target :: targets =>
    if draft = target then target :: verify drafts targets else [target]

def accept : List Int → List Int → List Int × Bool
  | draft :: drafts, target :: targets =>
    if draft = target then (target :: (accept drafts targets).1, (accept drafts targets).2)
    else ([target], true)
  | _, _ => ([], false)

theorem foldl_greedyRound_rejected (draftTokenIds targetArgmax : List Int) (startIdx : Nat)
    (row : List Int) (positions : List Nat) :
    positions.foldl (greedyRound draftTokenIds targetArgmax startIdx) (row, true) =
      (row, true) := by
  refine foldl_fixed' (fun pos => ?_) positions
  rw [greedyRound, if_pos rfl]

theorem set_replicate {stored : List Int} {left : Nat} (token : Int) (some : 0 < left) :
    (stored ++ List.replicate left placeholderTokenId).set stored.length token =
      (stored ++ [token]) ++ List.replicate (left - 1) placeholderTokenId := by
  obtain ⟨_, rfl⟩ := Nat.exists_eq_succ_of_ne_zero some.ne'
  rw [set_append_right _ _ (Nat.le_refl _), Nat.sub_self, replicate_succ,
    set_cons_zero, append_assoc]
  rfl

theorem foldl_greedyRound {draftTokenIds targetArgmax : List Int} {startIdx : Nat}
    {drafts targets stored : List Int} {left : Nat} (sameLength : targets.length = drafts.length)
    (room : drafts.length ≤ left) (draftsHere : ∀ j < drafts.length,
      draftTokenIds.getD (startIdx + (stored.length + j)) 0 = drafts.getD j 0)
    (targetsHere : ∀ j < drafts.length,
      targetArgmax.getD (startIdx + (stored.length + j)) 0 = targets.getD j 0) :
    (List.range' stored.length drafts.length).foldl
        (greedyRound draftTokenIds targetArgmax startIdx)
        (stored ++ List.replicate left placeholderTokenId, false) =
      (stored ++ (accept drafts targets).1 ++
          List.replicate (left - (accept drafts targets).1.length) placeholderTokenId,
        (accept drafts targets).2) := by
  induction drafts generalizing targets stored left with
  | nil => simp [accept]
  | cons draft drafts ih =>
    cases targets with
    | nil => simp at sameLength
    | cons target targets =>
      have draftHere := draftsHere 0 (Nat.succ_pos _)
      have targetHere := targetsHere 0 (Nat.succ_pos _)
      simp only [Nat.add_zero, getD_cons_zero] at draftHere targetHere
      have room' : 0 < left := by
        rw [length_cons] at room
        omega
      rw [length_cons, range'_succ, foldl_cons, greedyRound, if_neg Bool.false_ne_true]
      simp only [draftHere, targetHere]
      rw [set_replicate target room']
      by_cases same : draft = target
      · -- The draft token is accepted, and the loop goes on.
        have shift (j : Nat) : startIdx + ((stored ++ [target]).length + j) =
            startIdx + (stored.length + (j + 1)) := by
          rw [length_append, length_singleton]
          omega
        have rest := @ih targets (stored ++ [target]) (left - 1)
          (by simpa using sameLength) (by rw [length_cons] at room; omega)
          (fun j bound => by
            rw [shift, draftsHere (j + 1) (by simpa using bound), getD_cons_succ])
          (fun j bound => by
            rw [shift, targetsHere (j + 1) (by simpa using bound), getD_cons_succ])
        rw [length_append, length_singleton] at rest
        have unrejected : decide (draft ≠ target) = false := by simp [same]
        rw [unrejected, rest, accept, if_pos same]
        simp only [append_assoc, singleton_append, length_cons, Nat.sub_sub, Nat.add_comm 1]
      · have rejected : decide (draft ≠ target) = true := by simp [same]
        rw [rejected, foldl_greedyRound_rejected, accept, if_neg same]
        rfl

theorem accept_length_of_accepted {drafts targets : List Int}
    (sameLength : targets.length = drafts.length) (accepted : (accept drafts targets).2 = false) :
    (accept drafts targets).1.length = drafts.length := by
  induction drafts generalizing targets with
  | nil => simp [accept]
  | cons draft drafts ih =>
    cases targets with
    | nil => simp at sameLength
    | cons target targets =>
      rw [accept] at accepted ⊢
      by_cases same : draft = target
      · rw [if_pos same] at accepted ⊢
        exact congrArg (· + 1) (ih (by simpa using sameLength) accepted)
      · rw [if_neg same] at accepted
        cases accepted

theorem accept_verify {drafts targets : List Int} (bonus : Int)
    (sameLength : targets.length = drafts.length) :
    (accept drafts targets).1 ++ (if (accept drafts targets).2 then [] else [bonus]) =
      verify drafts (targets ++ [bonus]) := by
  induction drafts generalizing targets with
  | nil =>
    obtain rfl := List.length_eq_zero_iff.mp sameLength
    rfl
  | cons draft drafts ih =>
    cases targets with
    | nil => simp at sameLength
    | cons target targets =>
      rw [accept, cons_append, verify]
      by_cases same : draft = target
      · rw [if_pos same, if_pos same, cons_append, ih (by simpa using sameLength)]
      · rw [if_neg same, if_neg same]
        rfl

theorem rejectionGreedySampleKernel_eq {counts : List Nat}
    {draftTokenIds targetArgmax bonusTokenIds drafts targets : List Int} {reqIdx width : Nat}
    {bonus : Int} (countHere : counts[reqIdx]? = some drafts.length)
    (sameLength : targets.length = drafts.length) (room : drafts.length ≤ width)
    (draftsHere : ∀ j < drafts.length,
      draftTokenIds.getD (offset counts reqIdx + j) 0 = drafts.getD j 0)
    (targetsHere : ∀ j < drafts.length,
      targetArgmax.getD (offset counts reqIdx + j) 0 = targets.getD j 0)
    (bonusHere : bonusTokenIds.getD reqIdx 0 = bonus) :
    rejectionGreedySampleKernel (List.replicate (width + 1) placeholderTokenId) (cumsum counts)
        draftTokenIds targetArgmax bonusTokenIds reqIdx =
      verify drafts (targets ++ [bonus]) ++
        List.replicate (width + 1 - (verify drafts (targets ++ [bonus])).length)
          placeholderTokenId := by
  have startIdx : (if reqIdx = 0 then 0 else (cumsum counts).getD (reqIdx - 1) 0) =
      offset counts reqIdx := by
    cases reqIdx with
    | zero => rfl
    | succ before =>
      have inside : before < counts.length := by
        have bound := (List.getElem?_eq_some_iff.mp countHere).1
        omega
      have here : counts[before]? = some (counts[before]) := getElem?_eq_getElem inside
      rw [if_neg (Nat.succ_ne_zero before), Nat.add_sub_cancel, getD_eq_getElem?_getD,
        cumsum_getElem? here, offset_succ here]
      rfl
  have endIdx : (cumsum counts).getD reqIdx 0 = offset counts reqIdx + drafts.length := by
    rw [getD_eq_getElem?_getD, cumsum_getElem? countHere]
    rfl
  have loop := @foldl_greedyRound draftTokenIds targetArgmax (offset counts reqIdx) drafts targets
    [] (width + 1) sameLength (by omega) (by simpa using draftsHere) (by simpa using targetsHere)
  simp only [length_nil, nil_append] at loop
  have parts := accept_verify bonus sameLength
  rw [← range_eq_range'] at loop
  simp only [rejectionGreedySampleKernel, startIdx, endIdx, Nat.add_sub_cancel_left, loop,
    bonusHere]
  cases rejected : (accept drafts targets).2 with
  | true =>
    rw [rejected, if_pos rfl, append_nil] at parts
    rw [if_pos rfl, parts]
  | false =>
    have whole := accept_length_of_accepted sameLength rejected
    rw [rejected, if_neg Bool.false_ne_true] at parts
    rw [if_neg Bool.false_ne_true, ← parts, ← whole, set_replicate bonus (by omega),
      length_append, length_singleton, Nat.sub_sub]

structure StepRow where
  inputIds : List Int
  argmax : List Int
  numDraftTokens : Nat
  discard : Bool

namespace StepRow

def sample (vocabSize : Nat) (rows : List StepRow) : List (List Int) :=
  sampleStep vocabSize (rows.map (·.numDraftTokens)) (rows.map (·.inputIds.length))
    (rows.map (·.discard)) (rows.map (·.inputIds)).flatten (rows.map (·.argmax)).flatten

def drafts (row : StepRow) : List Int :=
  row.inputIds.drop (row.inputIds.length - row.numDraftTokens)

def targets (row : StepRow) : List Int :=
  row.argmax.drop (row.inputIds.length - (row.numDraftTokens + 1))

structure Proper (vocabSize : Nat) (row : StepRow) : Prop where
  sameLength : row.argmax.length = row.inputIds.length
  room : row.numDraftTokens < row.inputIds.length
  valid : ∀ token ∈ row.argmax, 0 ≤ token ∧ token < (vocabSize : Int)

variable {vocabSize : Nat} {rows : List StepRow} {row : StepRow} {i : Nat}

theorem Proper.length_drafts (proper : row.Proper vocabSize) :
    row.drafts.length = row.numDraftTokens := by
  have room := proper.room
  rw [drafts, length_drop]
  omega

theorem Proper.length_targets (proper : row.Proper vocabSize) :
    row.targets.length = row.numDraftTokens + 1 := by
  have room := proper.room
  rw [targets, length_drop, proper.sameLength]
  omega

section Flat

variable (here : rows[i]? = some row) (room : row.numDraftTokens < row.inputIds.length) {j : Nat}

theorem getElem?_map_of {A : Type} (here : rows[i]? = some row) (field : StepRow → A) :
    (rows.map field)[i]? = some (field row) := by
  rw [getElem?_map, here]
  rfl

theorem flatten_getElem?_of {values : StepRow → List Int}
    (lengths : ∀ row ∈ rows, (values row).length = row.inputIds.length) (here : rows[i]? = some row)
    (inside : j < (values row).length) :
    (rows.map values).flatten[offset (rows.map (·.inputIds.length)) i + j]? =
      some (values row)[j] := by
  have sameLengths : (rows.map values).map List.length = rows.map (·.inputIds.length) := by
    rw [map_map]
    exact map_congr_left fun row member => lengths row member
  have found := flatten_getElem? (getElem?_map_of here values) inside
  rwa [sameLengths, getElem?_eq_getElem inside] at found

include here room in
theorem logitsIndices_getElem? (within : j ≤ row.numDraftTokens) (inputIds : List Int) :
    (calcSpecDecodeMetadata (rows.map (·.numDraftTokens))
        (cumsum (rows.map (·.inputIds.length))) inputIds).logitsIndices[
          offset (rows.map fun row => row.numDraftTokens + 1) i + j]? =
      some ((offset (rows.map (·.inputIds.length)) i +
        (row.inputIds.length - (row.numDraftTokens + 1) + j) : Nat) : Int) := by
  have sampledHere := getElem?_map_of here fun row => row.numDraftTokens + 1
  have lengthHere := getElem?_map_of here (·.inputIds.length)
  have endHere : (List.zipWith (fun total count : Nat => (total : Int) - (count : Int))
      (cumsum (rows.map (·.inputIds.length))) (rows.map fun row => row.numDraftTokens + 1))[i]? =
      some (((offset (rows.map (·.inputIds.length)) i + row.inputIds.length : Nat) : Int) -
        ((row.numDraftTokens + 1 : Nat) : Int)) := by
    rw [getElem?_zipWith, cumsum_getElem? lengthHere, sampledHere]
  have selected := blocks_getElem? (by simp [cumsum_length]) endHere sampledHere
    (Nat.lt_succ_of_le within)
  simp only [calcSpecDecodeMetadata, map_map, Function.comp_def]
  rw [selected]
  congr 1
  omega

theorem gather_getElem? (here : rows[i]? = some row)
    (room : row.numDraftTokens < row.inputIds.length) {values : StepRow → List Int}
    (lengths : ∀ row ∈ rows, (values row).length = row.inputIds.length)
    (within : j ≤ row.numDraftTokens) (inputIds : List Int) :
    ((calcSpecDecodeMetadata (rows.map (·.numDraftTokens))
        (cumsum (rows.map (·.inputIds.length))) inputIds).logitsIndices.map
          (Ragged.pyGet (rows.map values).flatten))[
          offset (rows.map fun row => row.numDraftTokens + 1) i + j]? =
      some ((values row).getD (row.inputIds.length - (row.numDraftTokens + 1) + j) 0) := by
  have member := mem_of_getElem? here
  have inside : row.inputIds.length - (row.numDraftTokens + 1) + j < (values row).length := by
    rw [lengths row member]
    omega
  rw [getElem?_map, logitsIndices_getElem? here room within, Option.map_some,
    Ragged.pyGet_of_getElem? rfl (flatten_getElem?_of lengths here inside), getD_eq_getElem?_getD, getElem?_eq_getElem inside]
  rfl

theorem targetLogitsIndices_getElem? (here : rows[i]? = some row)
    (within : j < row.numDraftTokens) (inputIds : List Int) (cuNumScheduledTokens : List Nat) :
    (calcSpecDecodeMetadata (rows.map (·.numDraftTokens)) cuNumScheduledTokens
        inputIds).targetLogitsIndices[offset (rows.map (·.numDraftTokens)) i + j]? =
      some ((offset (rows.map fun row => row.numDraftTokens + 1) i + j : Nat) : Int) := by
  have sampledHere := getElem?_map_of here fun row => row.numDraftTokens + 1
  have draftsHere := getElem?_map_of here (·.numDraftTokens)
  have startHere : (List.zipWith (fun total count : Nat => (total : Int) - (count : Int))
      (cumsum (rows.map fun row => row.numDraftTokens + 1))
      (rows.map fun row => row.numDraftTokens + 1))[i]? =
      some (((offset (rows.map fun row => row.numDraftTokens + 1) i +
        (row.numDraftTokens + 1) : Nat) : Int) - ((row.numDraftTokens + 1 : Nat) : Int)) := by
    rw [getElem?_zipWith, cumsum_getElem? sampledHere, sampledHere]
  have selected := blocks_getElem? (by simp [cumsum_length]) startHere draftsHere within
  simp only [calcSpecDecodeMetadata, map_map, Function.comp_def]
  rw [selected]
  congr 1
  omega

end Flat

theorem rejectionSample_getElem? (lengths : ∀ row ∈ rows, row.argmax.length = row.inputIds.length)
    (here : rows[i]? = some row) (proper : row.Proper vocabSize) :
    let metadata := calcSpecDecodeMetadata (rows.map (·.numDraftTokens))
      (cumsum (rows.map (·.inputIds.length))) (rows.map (·.inputIds)).flatten
    ∃ padding, (rejectionSample metadata
        (metadata.logitsIndices.map (Ragged.pyGet (rows.map (·.argmax)).flatten)))[i]? =
      some (verify row.drafts row.targets ++ List.replicate padding placeholderTokenId) := by
  intro metadata
  have room := proper.room
  have countHere : (rows.map (·.numDraftTokens))[i]? = some row.drafts.length := by
    rw [getElem?_map, here, proper.length_drafts]
    rfl
  have sampledHere := getElem?_map_of here fun row => row.numDraftTokens + 1
  -- The targets are the tokens at the selected rows, and the last of these gives the bonus token.
  have split : row.targets =
      row.targets.take row.numDraftTokens ++ [row.targets.getD row.numDraftTokens 0] := by
    have last : row.numDraftTokens < row.targets.length := by
      rw [proper.length_targets]
      exact Nat.lt_succ_self _
    rw [getD_eq_getElem?_getD, getElem?_eq_getElem last, Option.getD_some,
      take_append_getElem last, take_of_length_le (by rw [proper.length_targets])]
  have kernel := @rejectionGreedySampleKernel_eq (rows.map (·.numDraftTokens))
    metadata.draftTokenIds
    (metadata.targetLogitsIndices.map
      (Ragged.pyGet (metadata.logitsIndices.map (Ragged.pyGet (rows.map (·.argmax)).flatten))))
    (metadata.bonusLogitsIndices.map
      (Ragged.pyGet (metadata.logitsIndices.map (Ragged.pyGet (rows.map (·.argmax)).flatten))))
    row.drafts (row.targets.take row.numDraftTokens) i metadata.maxSpecLen
    (row.targets.getD row.numDraftTokens 0) countHere
    (by rw [proper.length_drafts, length_take, proper.length_targets]; omega)
    (le_foldr_max (mem_of_getElem? countHere))
    (fun j bound => ?_) (fun j bound => ?_) ?_
  · rw [← split] at kernel
    rw [rejectionSample, getElem?_map, getElem?_range, Option.map_some]
    · exact ⟨_, congrArg some kernel⟩
    · simpa [metadata, calcSpecDecodeMetadata] using (List.getElem?_eq_some_iff.mp here).1
  · rw [proper.length_drafts] at bound
    have index := targetLogitsIndices_getElem? here bound (rows.map (·.inputIds)).flatten
      (cumsum (rows.map (·.inputIds.length)))
    have input := gather_getElem? here room (fun _ _ => rfl) (Nat.succ_le_of_lt bound)
      (rows.map (·.inputIds)).flatten
    have drafted : metadata.draftTokenIds = metadata.targetLogitsIndices.map fun index =>
        Ragged.pyGet (metadata.logitsIndices.map
          (Ragged.pyGet (rows.map (·.inputIds)).flatten)) (index + 1) := rfl
    rw [drafted, getD_eq_getElem?_getD, getElem?_map, index, Option.map_some,
      Option.getD_some, Ragged.pyGet_of_getElem? (by push_cast; omega) input, drafts,
      getD_eq_getElem?_getD, getD_eq_getElem?_getD, getElem?_drop]
    congr 2
    omega
  · rw [proper.length_drafts] at bound
    have index := targetLogitsIndices_getElem? here bound (rows.map (·.inputIds)).flatten
      (cumsum (rows.map (·.inputIds.length)))
    have target := gather_getElem? here room lengths bound.le (rows.map (·.inputIds)).flatten
    rw [getD_eq_getElem?_getD, getElem?_map, index, Option.map_some, Option.getD_some,
      Ragged.pyGet_of_getElem? rfl target, targets, getD_eq_getElem?_getD,
      getD_eq_getElem?_getD, getElem?_take_of_lt bound, getElem?_drop]
  · have index : metadata.bonusLogitsIndices[i]? = some
        (((offset (rows.map fun row => row.numDraftTokens + 1) i +
          (row.numDraftTokens + 1) : Nat) : Int) - 1) := by
      simp only [metadata, calcSpecDecodeMetadata, map_map, Function.comp_def]
      rw [getElem?_map, cumsum_getElem? sampledHere]
      rfl
    have bonus := gather_getElem? here room lengths (Nat.le_refl row.numDraftTokens)
      (rows.map (·.inputIds)).flatten
    rw [getD_eq_getElem?_getD, getElem?_map, index, Option.map_some, Option.getD_some,
      Ragged.pyGet_of_getElem? (by omega) bonus, targets, getD_eq_getElem?_getD,
      getD_eq_getElem?_getD, getElem?_drop]

theorem mem_of_mem_verify {drafts targets : List Int} {token : Int}
    (member : token ∈ verify drafts targets) : token ∈ targets := by
  induction drafts generalizing targets with
  | nil =>
    cases targets with
    | nil => exact member
    | cons target targets =>
      rw [verify, mem_singleton] at member
      exact member ▸ mem_cons_self
  | cons draft drafts ih =>
    cases targets with
    | nil => exact member
    | cons target targets =>
      rw [verify] at member
      split at member
      · rcases List.mem_cons.mp member with rfl | later
        · exact mem_cons_self
        · exact mem_cons_of_mem _ (ih later)
      · rw [mem_singleton] at member
        exact member ▸ mem_cons_self

theorem sample_getElem? (lengths : ∀ row ∈ rows, row.argmax.length = row.inputIds.length)
    (here : rows[i]? = some row) (proper : row.Proper vocabSize) :
    (sample vocabSize rows)[i]? =
      some (if row.discard then [] else verify row.drafts row.targets) := by
  have discardHere := getElem?_map_of here (·.discard)
  rw [sample, sampleStep]
  by_cases none : (rows.map (·.numDraftTokens)).all (· = 0) = true
  · -- Only the last row of logits is sampled.
    rw [if_pos none]
    have noDrafts : row.numDraftTokens = 0 := by
      have each := List.all_eq_true.mp none row.numDraftTokens
        (mem_map_of_mem (mem_of_getElem? here))
      simpa using each
    have lengthHere := getElem?_map_of here (·.inputIds.length)
    have room := proper.room
    have inside : row.inputIds.length - 1 < row.argmax.length := by
      rw [proper.sameLength]
      omega
    have found := flatten_getElem?_of lengths here inside
    have only : verify row.drafts row.targets = [row.argmax[row.inputIds.length - 1]] := by
      have noDraft : row.drafts = [] := by
        rw [← length_eq_zero_iff, proper.length_drafts, noDrafts]
      have last : row.targets = [row.argmax[row.inputIds.length - 1]] := by
        rw [targets, noDrafts, Nat.zero_add, drop_eq_getElem_cons inside,
          drop_of_length_le (by rw [proper.sameLength]; omega)]
      rw [noDraft, last, verify]
    rw [getElem?_zipWith, discardHere, cumsum_getElem? lengthHere]
    simp only
    rw [Ragged.pyGet_of_getElem? (by omega) found, only]
  · rw [if_neg none, parseOutput]
    obtain ⟨_, output⟩ := rejectionSample_getElem? lengths here proper
    rw [getElem?_zipWith, discardHere, output]
    simp only
    congr 2
    rw [filter_append, List.filter_eq_self.mpr, List.filter_eq_nil_iff.mpr, append_nil]
    · intro token member
      rw [eq_of_mem_replicate member]
      simp
    · intro token member
      have inTargets : token ∈ row.argmax := mem_of_mem_drop (mem_of_mem_verify member)
      obtain ⟨_, below⟩ := proper.valid token inTargets
      have notPlaceholder : token ≠ placeholderTokenId := by
        rw [placeholderTokenId]
        omega
      exact decide_eq_true ⟨notPlaceholder, below⟩

end StepRow

section Continuation

variable (next : List Int → Int)

def targetsAfter (context : List Int) : List Int → List Int
  | [] => [next context]
  | draft :: drafts => next context :: targetsAfter (context ++ [draft]) drafts

def continuation (context : List Int) : Nat → List Int
  | 0 => []
  | count + 1 => next context :: continuation (context ++ [next context]) count

theorem verify_targetsAfter (context drafts : List Int) :
    ∃ accepted ≤ drafts.length,
      verify drafts (targetsAfter next context drafts) = continuation next context (accepted + 1) ∧
      continuation next context accepted = drafts.take accepted := by
  induction drafts generalizing context with
  | nil => exact ⟨0, Nat.le_refl 0, rfl, rfl⟩
  | cons draft drafts ih =>
    rw [targetsAfter, verify]
    by_cases same : draft = next context
    · obtain ⟨accepted, bound, out, taken⟩ := ih (context ++ [draft])
      refine ⟨accepted + 1, Nat.succ_le_succ bound, ?_, ?_⟩
      · rw [if_pos same, out, same]
        rfl
      · rw [continuation, take_succ_cons, ← taken, same]
    · refine ⟨0, Nat.zero_le _, ?_, rfl⟩
      rw [if_neg same]
      rfl

end Continuation

end VllmEngine

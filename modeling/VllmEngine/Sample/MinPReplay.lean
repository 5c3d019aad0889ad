import VllmEngine.Sample.ProcessorReplay
import Mathlib.Data.Set.Card
import Mathlib.Algebra.Group.Support
import Mathlib.Tactic.Linarith

set_option autoImplicit false

namespace VllmEngine

open Function List

noncomputable def nonzeroRows (rows : Nat → ℚ) : Int := (Function.support rows).ncard

theorem support_update (rows : Nat → ℚ) (row : Nat) (value : ℚ) :
    Function.support (update rows row value) =
      if value = 0 then Function.support rows \ {row} else insert row (Function.support rows) := by
  split
  · next zero =>
    rw [zero]
    exact Function.support_update_zero rows row
  · next nonzero => exact Function.support_update_of_ne_zero rows row nonzero

theorem finite_support_update {rows : Nat → ℚ} (finite : (Function.support rows).Finite) (row : Nat)
    (value : ℚ) : (Function.support (update rows row value)).Finite := by
  rw [support_update]
  split
  · exact finite.sdiff
  · exact finite.insert row

theorem nonzeroRows_update {rows : Nat → ℚ} (finite : (Function.support rows).Finite) (row : Nat)
    (value : ℚ) :
    nonzeroRows (update rows row value) =
      nonzeroRows rows - (if rows row = 0 then 0 else 1) + if value = 0 then 0 else 1 := by
  unfold nonzeroRows
  rw [support_update]
  by_cases before : rows row = 0
  · have absent : row ∉ Function.support rows := fun member => member before
    rw [if_pos before]
    split
    · rw [Set.sdiff_singleton_eq_self absent]
      omega
    · rw [Set.ncard_insert_of_notMem absent finite]
      omega
  · have member : row ∈ Function.support rows := before
    rw [if_neg before]
    split
    · have lower := Set.ncard_sdiff_singleton_add_one member finite
      omega
    · rw [Set.insert_eq_of_mem member]
      omega

namespace MinPLogitsProcessor

structure Counted (processor : MinPLogitsProcessor) : Prop where
  finite : (Function.support processor.minPCpu).Finite
  count : processor.minPCount = nonzeroRows processor.minPCpu

variable {processor : MinPLogitsProcessor}

theorem Counted.nonneg (counted : processor.Counted) :
    0 ≤ processor.minPCount := by
  rw [counted.count]
  exact Int.natCast_nonneg _

theorem Counted.eq_zero (counted : processor.Counted)
    (none : processor.minPCount = 0) : processor.minPCpu = fun _ => 0 := by
  rw [counted.count] at none
  have empty := (Set.ncard_eq_zero counted.finite).mp (by unfold nonzeroRows at none; omega)
  exact Function.support_eq_empty_iff.mp empty

structure SameTensor (processor next : MinPLogitsProcessor) : Prop where
  toFloat32 : next.toFloat32 = processor.toFloat32
  useDoubleTensor : next.useDoubleTensor = processor.useDoubleTensor
  device : next.minPDevice = processor.minPDevice
  size : next.minPSize = processor.minPSize

structure Changed (start : MinPLogitsProcessor) (left : Nat → Prop)
    (current : Bool × MinPLogitsProcessor) : Prop where
  counted : current.2.Counted
  tensor : SameTensor start current.2
  fewer : current.1 = false → current.2.minPCount ≤ start.minPCount
  still : current.1 = false → ∀ row, ¬left row → current.2.minPCpu row = start.minPCpu row

variable {start : MinPLogitsProcessor} {left : Nat → Prop} {current : Bool × MinPLogitsProcessor}
  {moved : MovedRequest}

theorem Changed.addMinP (changed : Changed start left current) (added : AddedRequest)
    (exact : start.toFloat32 added.params.minP = 0 ↔ added.params.minP = 0) :
    Changed start left (addMinP current added) ∧ (addMinP current added).2.minPCpu =
        update current.2.minPCpu added.index (start.toFloat32 added.params.minP) := by
  obtain ⟨_, processor⟩ := current
  have float := changed.tensor.toFloat32
  have count := changed.counted.count
  have finite := changed.counted.finite
  rw [← float] at exact ⊢
  unfold MinPLogitsProcessor.addMinP
  dsimp only
  split
  · refine ⟨⟨⟨finite_support_update finite _ _, ?_⟩,
      ⟨changed.tensor.toFloat32, changed.tensor.useDoubleTensor, changed.tensor.device,
        changed.tensor.size⟩, fun same => (nomatch same), fun same => (nomatch same)⟩, rfl⟩
    rw [nonzeroRows_update finite, count, if_congr exact rfl rfl]
    by_cases before : processor.minPCpu added.index = 0 <;>
      by_cases new : added.params.minP = 0 <;> simp [before, new]
  · next same =>
    rw [not_not] at same
    refine ⟨changed, ?_⟩
    rw [← same, update_eq_self]

theorem Changed.removeMinP (changed : Changed start left current) (row : Nat) :
    Changed start left (true, removeMinP current.2 row) ∧
      (removeMinP current.2 row).minPCpu = update current.2.minPCpu row 0 := by
  have count := changed.counted.count
  have finite := changed.counted.finite
  unfold MinPLogitsProcessor.removeMinP
  split
  · next nonzero =>
    refine ⟨⟨⟨finite_support_update finite _ _, ?_⟩,
      ⟨changed.tensor.toFloat32, changed.tensor.useDoubleTensor, changed.tensor.device,
        changed.tensor.size⟩, fun same => (nomatch same), fun same => (nomatch same)⟩, rfl⟩
    rw [nonzeroRows_update finite, count, if_neg nonzero, if_pos rfl, add_zero]
  · next zero =>
    rw [not_not] at zero
    refine ⟨⟨changed.counted, changed.tensor, fun same => (nomatch same),
      fun same => (nomatch same)⟩, ?_⟩
    rw [← zero, update_eq_self]

theorem moveMinP_eq (needsUpdate : Bool) (processor : MinPLogitsProcessor)
    (proper : ProperMove processor.minPCpu moved) :
    moveMinP (needsUpdate, processor) moved =
      (needsUpdate || processor.minPCpu moved.first ≠ processor.minPCpu moved.second,
        { processor with
          minPCpu := replayMove 0 processor.minPCpu moved
          minPCount :=
            if moved.direction = .unidirectional ∧ processor.minPCpu moved.second ≠ 0 then
              processor.minPCount - 1
            else processor.minPCount }) := by
  unfold moveMinP replayMove
  cases direction : moved.direction with
  | unidirectional =>
    have apart := proper direction
    have source : update processor.minPCpu moved.second
        (processor.minPCpu moved.first) moved.first = processor.minPCpu moved.first :=
      update_of_ne apart _ _
    -- the guards only skip assignments of the value that is there
    have cpu : ∀ written : Nat → ℚ, written = update processor.minPCpu moved.second
        (processor.minPCpu moved.first) →
        (if processor.minPCpu moved.first ≠ 0 then update written moved.first 0
          else written) = Rows.shift 0 processor.minPCpu moved.first moved.second := by
      rintro written rfl
      split
      · rfl
      · next zero =>
        rw [not_not] at zero
        exact (update_eq_self_iff.mpr (source.trans zero).symm).symm
    by_cases same : processor.minPCpu moved.first = processor.minPCpu moved.second
    · have kept := cpu processor.minPCpu (by rw [same, update_eq_self])
      simp [same] at kept ⊢
      exact kept
    · have kept := cpu _ rfl
      simp [same] at kept ⊢
      exact kept
  | swap =>
    by_cases same : processor.minPCpu moved.first = processor.minPCpu moved.second
    · have kept : Rows.swap processor.minPCpu moved.first moved.second = processor.minPCpu := by
        unfold Rows.swap
        rw [← same, update_eq_self, same, update_eq_self]
      simp [same, kept]
    · have apart : moved.first ≠ moved.second := fun equal => same (by rw [equal])
      simp [same, Rows.swap, update_comm apart]

theorem nonzeroRows_replayMove {rows : Nat → ℚ} (finite : (Function.support rows).Finite)
    (proper : ProperMove rows moved) :
    (Function.support (replayMove 0 rows moved)).Finite ∧ nonzeroRows (replayMove 0 rows moved) =
        if moved.direction = .unidirectional ∧ rows moved.second ≠ 0 then nonzeroRows rows - 1
        else nonzeroRows rows := by
  unfold replayMove
  cases direction : moved.direction with
  | unidirectional =>
    have apart := proper direction
    have first := finite_support_update finite moved.second (rows moved.first)
    unfold Rows.shift Rows.copy
    refine ⟨finite_support_update first _ _, ?_⟩
    rw [nonzeroRows_update first, nonzeroRows_update finite, update_of_ne apart]
    by_cases overwritten : rows moved.second = 0 <;> simp [overwritten]
  | swap =>
    have first := finite_support_update finite moved.first (rows moved.second)
    unfold Rows.swap
    refine ⟨finite_support_update first _ _, ?_⟩
    rw [nonzeroRows_update first, nonzeroRows_update finite]
    by_cases same : moved.second = moved.first
    · simp [same]
    · rw [update_of_ne same]
      simp

section

variable (changed : Changed start left current)

include changed

theorem Changed.moveMinP (proper : ProperMove current.2.minPCpu moved)
    (leaves : moved.direction = .unidirectional → left moved.first) :
    Changed start left (moveMinP current moved) ∧
      (moveMinP current moved).2.minPCpu = replayMove 0 current.2.minPCpu moved := by
  obtain ⟨needsUpdate, processor⟩ := current
  have count := changed.counted.count
  obtain ⟨finite, total⟩ := nonzeroRows_replayMove changed.counted.finite proper
  rw [moveMinP_eq needsUpdate processor proper]
  refine ⟨⟨⟨finite, ?_⟩, ⟨changed.tensor.toFloat32, changed.tensor.useDoubleTensor,
    changed.tensor.device, changed.tensor.size⟩, fun same => ?_, fun same row notLeft => ?_⟩, rfl⟩
  · dsimp only
    rw [total, count]
  · simp only [Bool.or_eq_false_iff] at same
    have before := changed.fewer same.1
    dsimp only at before ⊢
    split <;> omega
  · simp only [decide_not, Bool.or_eq_false_iff, Bool.not_eq_eq_eq_not, Bool.not_false,
      decide_eq_true_eq] at same
    have before := changed.still same.1 row notLeft
    rw [← before]
    unfold replayMove
    cases direction : moved.direction with
    | unidirectional =>
      have notFirst : row ≠ moved.first := fun equal => notLeft (equal ▸ leaves direction)
      dsimp only
      unfold Rows.shift Rows.copy
      rw [update_of_ne notFirst, same.2, update_eq_self]
    | swap =>
      unfold Rows.swap
      rw [← same.2, update_eq_self, same.2, update_eq_self]

theorem Changed.adds (added : List AddedRequest)
    (exact : ∀ entry ∈ added, start.toFloat32 entry.params.minP = 0 ↔ entry.params.minP = 0) :
    Changed start left (added.foldl MinPLogitsProcessor.addMinP current) ∧
      (added.foldl MinPLogitsProcessor.addMinP current).2.minPCpu =
        BatchState.replayAdded (fun entry => start.toFloat32 entry.params.minP)
          current.2.minPCpu added := by
  unfold BatchState.replayAdded
  induction added generalizing current with
  | nil => exact ⟨changed, rfl⟩
  | cons entry added ih =>
    obtain ⟨step, cpu⟩ := changed.addMinP entry (exact entry mem_cons_self)
    rw [foldl_cons, foldl_cons, ← cpu]
    exact ih step fun other member => exact other (mem_cons_of_mem entry member)

theorem Changed.removes (removed : List Nat) :
    Changed start left (current.1 || !removed.isEmpty,
        removed.foldl MinPLogitsProcessor.removeMinP current.2) ∧
      (removed.foldl MinPLogitsProcessor.removeMinP current.2).minPCpu =
        replayRemoved 0 current.2.minPCpu removed := by
  unfold replayRemoved
  induction removed generalizing current with
  | nil =>
    rw [isEmpty_nil, Bool.not_true, Bool.or_false]
    exact ⟨changed, rfl⟩
  | cons row removed ih =>
    obtain ⟨step, cpu⟩ := changed.removeMinP row
    have later := ih step
    rw [isEmpty_cons, Bool.not_false, Bool.or_true, foldl_cons, foldl_cons, ← cpu]
    exact later

theorem Changed.moves {moves : List MovedRequest}
    (along : Along 0 ProperMove current.2.minPCpu moves)
    (leaves : ∀ moved ∈ moves, moved.direction = .unidirectional → left moved.first) :
    Changed start left (moves.foldl MinPLogitsProcessor.moveMinP current) ∧
      (moves.foldl MinPLogitsProcessor.moveMinP current).2.minPCpu =
        moves.foldl (replayMove 0) current.2.minPCpu := by
  induction moves generalizing current with
  | nil => exact ⟨changed, rfl⟩
  | cons moved moves ih =>
    obtain ⟨step, cpu⟩ := changed.moveMinP along.1 (leaves moved mem_cons_self)
    rw [foldl_cons, foldl_cons, ← cpu]
    apply ih step
    · rw [cpu]
      exact along.2
    · exact fun other member => leaves other (mem_cons_of_mem moved member)

end

def Shown (processor : MinPLogitsProcessor) : Prop :=
  ∀ row < processor.minPSize, processor.minP row = processor.minPCpu row

def Leaves (update : BatchUpdate) (row : Nat) : Prop :=
  ∃ moved ∈ update.moved, moved.direction = .unidirectional ∧ moved.first = row

theorem Changed.updateTensor (changed : Changed start left current) (size : Nat) :
    let next := MinPLogitsProcessor.updateTensor size current.1 current.2
    next.minPCount = current.2.minPCount ∧ next.minPCpu = current.2.minPCpu ∧
      next.toFloat32 = start.toFloat32 ∧
      ((start.minPCount ≠ 0 → start.Shown) → next.minPCount ≠ 0 →
        next.minPSize = size ∧ ∀ row < size, ¬left row → next.minP row = next.minPCpu row) := by
  have tensor := changed.tensor
  unfold MinPLogitsProcessor.updateTensor
  split
  · refine ⟨rfl, rfl, tensor.toFloat32, fun _ _ => ⟨rfl, fun row within _ => ?_⟩⟩
    unfold minP
    split
    · exact if_pos within
    · rfl
  · next same =>
    refine ⟨rfl, rfl, tensor.toFloat32, fun shown nonzero => ?_⟩
    push Not at same
    obtain ⟨noUpdate, sameSize⟩ := same nonzero
    have noUpdate : current.1 = false := by simpa using noUpdate
    have some : start.minPCount ≠ 0 := by
      have fewer := changed.fewer noUpdate
      have nonneg := changed.counted.nonneg
      omega
    refine ⟨sameSize, fun row within notLeft => ?_⟩
    have before := shown some row (by rw [← tensor.size]; omega)
    have still := changed.still noUpdate row notLeft
    unfold minP at before ⊢
    rw [tensor.useDoubleTensor, tensor.device]
    split
    · next double =>
      rw [if_pos double] at before
      rw [before, still]
    · rfl

structure Replayed (processor : MinPLogitsProcessor) (update : BatchUpdate)
    (next : MinPLogitsProcessor) : Prop where
  counted : next.Counted
  toFloat32 : next.toFloat32 = processor.toFloat32
  cpu : next.minPCpu = update.replay 0 (fun entry => processor.toFloat32 entry.params.minP)
    processor.minPCpu
  shown : (processor.minPCount ≠ 0 → processor.Shown) → next.minPCount ≠ 0 →
    next.minPSize = update.batchSize ∧
      ∀ row < update.batchSize, ¬Leaves update row → next.minP row = next.minPCpu row

theorem updateState_spec (update : BatchUpdate) (counted : processor.Counted)
    (exact : ∀ entry ∈ update.added,
      processor.toFloat32 entry.params.minP = 0 ↔ entry.params.minP = 0)
    (along : Along 0 ProperMove (replayRemoved 0 (BatchState.replayAdded
      (fun entry => processor.toFloat32 entry.params.minP) processor.minPCpu update.added)
      update.removed) update.moved) :
    Replayed processor update (processor.updateState (some update)) := by
  have initial : Changed processor (Leaves update) (false, processor) :=
    ⟨counted, ⟨rfl, rfl, rfl, rfl⟩, fun _ => le_refl _, fun _ _ _ => rfl⟩
  obtain ⟨added, addedCpu⟩ := initial.adds update.added exact
  rw [← addedCpu] at along
  have finish : ∀ current, Changed processor (Leaves update) current →
      current.2.minPCpu = update.replay 0 (fun entry => processor.toFloat32 entry.params.minP)
        processor.minPCpu →
      Replayed processor update
        (MinPLogitsProcessor.updateTensor update.batchSize current.1 current.2) := by
    intro current changed cpu
    obtain ⟨count, same, float, shown⟩ := changed.updateTensor update.batchSize
    refine ⟨⟨?_, ?_⟩, float, same.trans cpu, shown⟩
    · rw [same]
      exact changed.counted.finite
    · rw [same, count]
      exact changed.counted.count
  unfold MinPLogitsProcessor.updateState
  dsimp only
  split
  · next nonzero =>
    obtain ⟨removed, removedCpu⟩ := added.removes update.removed
    rw [← removedCpu] at along
    obtain ⟨moved, movedCpu⟩ := removed.moves along
      fun entry member direction => ⟨entry, member, direction, rfl⟩
    apply finish _ moved
    rw [movedCpu]
    unfold BatchUpdate.replay
    rw [removedCpu, addedCpu]
  · next zero =>
    rw [not_not] at zero
    apply finish _ added
    have blank := added.counted.eq_zero zero
    unfold BatchUpdate.replay
    rw [← addedCpu, blank]
    rw [replayRemoved_blank, foldl_replayMove_blank]

end MinPLogitsProcessor

end VllmEngine

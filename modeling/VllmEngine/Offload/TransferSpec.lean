import VllmEngine.Offload.Transfer
import VllmEngine.Shared.Gapless
import Mathlib.Data.List.ProdSigma

set_option autoImplicit false

namespace VllmEngine

open List Nat

def slots (blocksPerChunk : Nat) (blocks : List Nat) : List (Nat × Nat) :=
  blocks ×ˢ List.range blocksPerChunk

theorem slots_cons (b block : Nat) (blocks : List Nat) :
    slots b (block :: blocks) = (List.range b).map (Prod.mk block) ++ slots b blocks := rfl

theorem slots_append (b : Nat) (blocks others : List Nat) :
    slots b (blocks ++ others) = slots b blocks ++ slots b others := flatMap_append

@[simp] theorem length_slots (b : Nat) (blocks : List Nat) :
    (slots b blocks).length = blocks.length * b := by
  rw [slots, length_product, length_range]

theorem slots_one (blocks : List Nat) : slots 1 blocks = blocks.map fun block => (block, 0) := by
  induction blocks with
  | nil => rfl
  | cons block blocks ih =>
    rw [slots_cons, ih]
    rfl

variable {blocks : List Nat}

theorem lt_of_mem_slots {b : Nat} {slot : Nat × Nat}
    (member : slot ∈ slots b blocks) : slot.2 < b :=
  List.mem_range.mp (List.mem_product.mp member).2

theorem nodup_slots (b : Nat) (distinct : blocks.Nodup) :
    (slots b blocks).Nodup := distinct.product nodup_range

theorem slots_take_run {b skip count limit : Nat} (blocks : List Nat)
    (within : skip + count ≤ limit * b) (available : limit ≤ blocks.length) :
    ((slots b (blocks.take limit)).drop skip).take count =
      ((slots b blocks).drop skip).take count := by
  have length : (slots b (blocks.take limit)).length = limit * b := by
    rw [length_slots, length_take, min_eq_left available]
  have longer : skip ≤ (slots b (blocks.take limit)).length := by omega
  calc ((slots b (blocks.take limit)).drop skip).take count
    _ = ((slots b (blocks.take limit ++ blocks.drop limit)).drop skip).take count := by
      rw [slots_append, drop_append_of_le_length longer, take_append_of_le_length]
      rw [length_drop]
      omega
    _ = ((slots b blocks).drop skip).take count := by rw [take_append_drop]

theorem flatMap_slotPtr (tensor : KVTensor) (b : Nat) (blocks : List Nat) :
    (blocks.flatMap fun block => (List.range b).map (tensor.slotPtr b block)) =
      (slots b blocks).map fun slot => tensor.slotPtr b slot.1 slot.2 := by
  induction blocks with
  | nil => rfl
  | cons block blocks ih =>
    rw [flatMap_cons, slots_cons, map_append, map_map, ih]
    rfl

theorem assignAll_of_length {length : Nat} {values : List Nat} (same : values.length = length) :
    assignAll length values = .ok values := if_pos same

theorem computeSubBlockPtrs_eq {b count skip : Nat} {tensor : KVTensor}
    (skipped : skip < b) (divides : tensor.rowSize % b = 0)
    (fits : skip + count ≤ blocks.length * b) :
    computeSubBlockPtrs blocks b count tensor skip =
      .ok ((((slots b blocks).drop skip).take count).map fun slot =>
        tensor.slotPtr b slot.1 slot.2) := by
  unfold computeSubBlockPtrs
  rw [decide_eq_true skipped]
  by_cases one : b = 1
  · subst one
    obtain rfl : skip = 0 := by omega
    have length : (blocks.take count).length = count := by
      rw [length_take]
      omega
    simp only [pyAssert]
    rw [assignAll_of_length (by rw [length_map, length]), slots_one, drop_zero, ← map_take, map_map]
    simp [KVTensor.slotPtr, Function.comp_def]
  · simp only [pyAssert, if_true, one, if_false, Outcome.ok_bind, divides, decide_true]
    have run : slice ((slots b blocks).map fun slot => tensor.slotPtr b slot.1 slot.2) skip
        (skip + count) = (((slots b blocks).drop skip).take count).map fun slot =>
          tensor.slotPtr b slot.1 slot.2 := by
      rw [slice, ← map_take, ← map_drop, drop_take, Nat.add_sub_cancel_left]
    rw [flatMap_slotPtr, run, assignAll_of_length]
    rw [length_map, length_take, length_drop, length_slots]
    omega

namespace KVTensor

theorem slotPtr_inj {tensor : KVTensor} {b block sub block' sub' : Nat}
    (divides : tensor.rowSize % b = 0) (bound : sub < b) (bound' : sub' < b)
    (same : tensor.slotPtr b block sub = tensor.slotPtr b block' sub') :
    block = block' ∧ sub = sub' := by
  obtain ⟨page, split⟩ := dvd_of_mod_eq_zero divides
  have positive : 0 < b := zero_lt_of_lt bound
  have size : tensor.rowSize / b = page := by rw [split, Nat.mul_div_cancel_left page positive]
  have paged : 0 < page := by
    rcases Nat.eq_zero_or_pos page with rfl | paged
    · have := tensor.nonempty
      omega
    · exact paged
  have row : ∀ sub < b, sub * page < tensor.rowStride := by
    intro sub bound
    calc sub * page
      _ < b * page := mul_lt_mul_of_pos_right bound paged
      _ ≤ tensor.rowStride := by rw [← split]; exact tensor.apart
  unfold slotPtr at same
  rw [size, add_assoc, add_assoc] at same
  obtain ⟨first, second⟩ := digits_inj (row sub bound) (row sub' bound') (add_left_cancel same)
  exact ⟨first, eq_of_mul_eq_mul_right paged second⟩

end KVTensor

end VllmEngine

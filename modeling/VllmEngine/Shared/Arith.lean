import Mathlib.Algebra.Order.Floor.Div
import Mathlib.Tactic.Linarith
import Mathlib.Tactic.Ring

set_option autoImplicit false

namespace VllmEngine

def cdiv (a b : Nat) : Nat := a ⌈/⌉ b

theorem cdiv_eq (a b : Nat) : cdiv a b = (a + b - 1) / b := Nat.ceilDiv_eq_add_pred_div a b

theorem cdiv_le_iff {a b c : Nat} (positive : 0 < b) : cdiv a b ≤ c ↔ a ≤ c * b := by
  rw [cdiv, ceilDiv_le_iff_le_mul positive, Nat.mul_comm]

theorem lt_cdiv_iff {a b c : Nat} (positive : 0 < b) : c < cdiv a b ↔ c * b < a := by
  rw [← not_le, cdiv_le_iff positive, not_le]

theorem le_cdiv_mul (a : Nat) {b : Nat} (positive : 0 < b) : a ≤ cdiv a b * b :=
  (cdiv_le_iff positive).mp le_rfl

theorem cdiv_mono {a a' : Nat} (b : Nat) (le : a ≤ a') : cdiv a b ≤ cdiv a' b := by
  rw [cdiv_eq, cdiv_eq]
  exact Nat.div_le_div_right (by omega)

theorem cdiv_mul (count : Nat) {b : Nat} (positive : 0 < b) : cdiv (count * b) b = count := by
  apply le_antisymm
  · rw [cdiv_le_iff positive]
  · exact Nat.le_of_mul_le_mul_right (le_cdiv_mul (count * b) positive) positive

theorem cdiv_eq_succ {a b count : Nat} (positive : 0 < b) (above : count * b < a)
    (within : a ≤ (count + 1) * b) : cdiv a b = count + 1 := by
  apply le_antisymm
  · rwa [cdiv_le_iff positive]
  · rwa [Nat.succ_le_iff, lt_cdiv_iff positive]

theorem digits_inj {high low high' low' base : Nat} (bound : low < base) (bound' : low' < base)
    (same : high * base + low = high' * base + low') : high = high' ∧ low = low' := by
  have positive : 0 < base := Nat.zero_lt_of_lt bound
  have quotient (digit rest : Nat) (within : rest < base) : (digit * base + rest) / base = digit := by
    rw [Nat.mul_comm, Nat.mul_add_div positive, Nat.div_eq_of_lt within, Nat.add_zero]
  have first : high = high' := by
    rw [← quotient high low bound, same, quotient high' low' bound']
  subst first
  exact ⟨rfl, Nat.add_left_cancel same⟩

theorem le_foldr_max {counts : List Nat} {count : Nat} (member : count ∈ counts) :
    count ≤ counts.foldr max 0 := by
  induction counts with
  | nil => exact absurd member List.not_mem_nil
  | cons first rest ih =>
    rcases List.mem_cons.mp member with rfl | later
    · exact le_max_left _ _
    · exact (ih later).trans (le_max_right _ _)

end VllmEngine

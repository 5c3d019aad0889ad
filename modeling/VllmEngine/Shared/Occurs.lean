import Mathlib.Data.List.Infix

set_option autoImplicit false

namespace VllmEngine

open List

variable {α : Type}

def OccursAt (marker tokens : List α) (i : Nat) : Prop :=
  i ≤ tokens.length ∧ marker <+: tokens.drop i

instance [DecidableEq α] (marker tokens : List α) (i : Nat) :
    Decidable (OccursAt marker tokens i) :=
  inferInstanceAs (Decidable (_ ∧ _))

def Borderless (marker : List α) : Prop :=
  ∀ k < marker.length, 0 < k → ¬marker.drop k <+: marker

instance [DecidableEq α] (marker : List α) : Decidable (Borderless marker) :=
  inferInstanceAs (Decidable (∀ k < _, _))

def NotWithin (other marker : List α) : Prop :=
  ∀ k < marker.length, ¬other <+: marker.drop k ∧ ¬marker.drop k <+: other

instance [DecidableEq α] (other marker : List α) : Decidable (NotWithin other marker) :=
  inferInstanceAs (Decidable (∀ k < _, _))

namespace OccursAt

variable {marker other tokens rest : List α} {i j : Nat}

section

variable (occurs : OccursAt marker tokens i)

include occurs

theorem add_length_le : i + marker.length ≤ tokens.length := by
  have fits := occurs.2.length_le
  have bound := occurs.1
  rw [length_drop] at fits
  omega

theorem lt_length (nonempty : marker ≠ []) : i < tokens.length := by
  have fits := occurs.add_length_le
  have some := length_pos_of_ne_nil nonempty
  omega

theorem append : OccursAt marker (tokens ++ rest) i := by
  refine ⟨?_, ?_⟩
  · rw [length_append]
    exact occurs.1.trans (Nat.le_add_right _ _)
  · rw [drop_append_of_le_length occurs.1]
    exact occurs.2.trans (prefix_append _ _)

end

theorem of_append (occurs : OccursAt marker (tokens ++ rest) i)
    (before : i + marker.length ≤ tokens.length) : OccursAt marker tokens i := by
  have bound : i ≤ tokens.length := by omega
  refine ⟨bound, ?_⟩
  have found := occurs.2
  rw [drop_append_of_le_length bound] at found
  apply prefix_of_prefix_length_le found (prefix_append _ _)
  rw [length_drop]
  omega

theorem of_concat {token : α} (occurs : OccursAt marker (tokens ++ [token]) i) :
    OccursAt marker tokens i ∨ i + marker.length = tokens.length + 1 := by
  by_cases before : i + marker.length ≤ tokens.length
  · exact .inl (occurs.of_append before)
  · have bound := occurs.add_length_le
    rw [length_append, length_singleton] at bound
    exact .inr (by omega)

theorem append_left (front : List α) :
    OccursAt marker (front ++ tokens) (front.length + i) ↔ OccursAt marker tokens i := by
  simp only [OccursAt, length_append, Nat.add_le_add_iff_left, drop_append,
    drop_eq_nil_of_le (Nat.le_add_right front.length i), Nat.add_sub_cancel_left,
    nil_append]

theorem drop (offset : Nat) (within : offset ≤ tokens.length) :
    OccursAt marker (tokens.drop offset) i ↔ OccursAt marker tokens (offset + i) := by
  simp only [OccursAt, length_drop, drop_drop]
  exact and_congr_left fun _ => by omega

theorem concat_end (front : List α) : OccursAt marker (front ++ marker) front.length := by
  refine ⟨by simp, ?_⟩
  rw [drop_left]

theorem overlap (first : OccursAt marker tokens i) (second : OccursAt other tokens j)
    (after : i ≤ j) :
    other <+: marker.drop (j - i) ∨ marker.drop (j - i) <+: other := by
  have shifted : marker.drop (j - i) <+: tokens.drop j := by
    have dropped := first.2.drop (j - i)
    rwa [drop_drop, Nat.add_sub_cancel' after] at dropped
  exact prefix_or_prefix_of_prefix second.2 shifted

theorem not_within (apart : NotWithin other marker) (first : OccursAt marker tokens i)
    (second : OccursAt other tokens j) : j < i ∨ i + marker.length ≤ j := by
  by_contra inside
  have bounds : i ≤ j ∧ j < i + marker.length := by omega
  have alone := apart (j - i) (by omega)
  exact (first.overlap second bounds.1).elim alone.1 alone.2

theorem of_append_take (borderless : Borderless marker) {count : Nat}
    (partly : count < marker.length)
    (occurs : OccursAt marker (tokens ++ marker.take count) i) : OccursAt marker tokens i := by
  apply occurs.of_append
  by_contra late
  have bound := occurs.add_length_le
  rw [length_append, length_take_of_le partly.le] at bound
  -- The end of the occurrence lies in what was appended, which is a beginning of the marker.
  have inside : i ≤ tokens.length := by omega
  have found := occurs.2.drop (tokens.length - i)
  rw [drop_drop, Nat.add_sub_cancel' inside, drop_left] at found
  apply borderless (tokens.length - i) (by omega) (by omega)
  exact found.trans ( take_prefix _ _)

end OccursAt

end VllmEngine

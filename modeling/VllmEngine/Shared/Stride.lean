import VllmEngine.Shared.Arith

set_option autoImplicit false

namespace VllmEngine

open List

variable {A : Type} {count : Nat} {items : List A} {start stop step : Nat}

def stride (items : List A) (start stop step : Nat) : List A :=
  (List.range (cdiv (stop - start) step)).filterMap fun i => items[start + i * step]?

def slice (items : List A) (start stop : Nat) : List A := (items.take stop).drop start

theorem slice_sublist (items : List A) (start stop : Nat) : (slice items start stop).Sublist items :=
  (drop_sublist _ _).trans (take_sublist _ _)

theorem getElem?_slice (items : List A) (start stop i : Nat) :
    (slice items start stop)[i]? = if start + i < stop then items[start + i]? else none := by
  rw [slice, getElem?_drop, getElem?_take]

theorem slice_append (before items after : List A) (within : count ≤ items.length) :
    slice (before ++ items ++ after) before.length (before.length + count) = items.take count := by
  rw [slice, append_assoc, take_length_add_append, drop_left, take_append_of_le_length within]

theorem getElem?_filterMap_range {value : Nat → Option A} (total : ∀ i < count, (value i).isSome) :
    ((List.range count).filterMap value).length = count ∧
      ∀ i, ((List.range count).filterMap value)[i]? = if i < count then value i else none := by
  induction count with
  | zero => simp
  | succ count ih =>
    obtain ⟨length, items⟩ := ih fun i bound => total i (Nat.lt_succ_of_lt bound)
    obtain ⟨_, found⟩ := Option.isSome_iff_exists.mp (total count (Nat.lt_succ_self count))
    rw [range_succ, filterMap_append, filterMap_cons_some found, filterMap_nil]
    refine ⟨by rw [length_append, length, length_singleton], fun i => ?_⟩
    rcases Nat.lt_trichotomy i count with before | rfl | _
    · rw [getElem?_append_left (by omega), items, if_pos before, if_pos (by omega)]
    · rw [getElem?_append_right (by omega), length, Nat.sub_self, if_pos (by omega), found]
      rfl
    · rw [getElem?_eq_none (by rw [length_append, length, length_singleton]; omega),
        if_neg (by omega)]

theorem getElem?_stride (within : stop ≤ items.length) (positive : 0 < step) (i : Nat) :
    (stride items start stop step)[i]? =
      if start + i * step < stop then items[start + i * step]? else none := by
  have bound (i : Nat) : i < cdiv (stop - start) step ↔ start + i * step < stop := by
    rw [lt_cdiv_iff positive]
    omega
  have total : ∀ i < cdiv (stop - start) step, (items[start + i * step]?).isSome := by
    intro i small
    have inside := Nat.lt_of_lt_of_le ((bound i).mp small) within
    rw [getElem?_eq_getElem inside]
    rfl
  rw [stride, (getElem?_filterMap_range total).2]
  simp only [bound]

theorem stride_drop (within : stop ≤ items.length) (positive : 0 < step) (count : Nat) :
    (stride items start stop step).drop count = stride items (start + count * step) stop step := by
  apply ext_getElem?
  intro i
  rw [getElem?_drop, getElem?_stride within positive, getElem?_stride within positive,
    Nat.add_mul, Nat.add_assoc]

theorem nodup_stride (distinct : items.Nodup) (start stop step : Nat) :
    (stride items start stop step).Nodup := by
  rcases Nat.eq_zero_or_pos step with rfl | positive
  · simp [stride, cdiv_eq]
  · refine List.Nodup.filterMap (fun i j item first second => ?_) nodup_range
    have within : start + i * step < items.length := (List.getElem?_eq_some_iff.mp first).1
    have same := (getElem?_inj within distinct).mp (first.trans second.symm)
    exact Nat.eq_of_mul_eq_mul_right positive (by omega)

end VllmEngine

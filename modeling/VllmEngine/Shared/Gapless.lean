import Mathlib.Data.List.Nodup
import Mathlib.Data.List.TakeWhile

set_option autoImplicit false

namespace VllmEngine

open List Prod

variable {A B : Type}

def Gapless (keep : A → Bool) (items : List A) : Prop :=
  items.Pairwise fun earlier later => keep earlier → keep later

namespace Gapless

variable {keep : A → Bool} {items : List A} {pairs : List (A × B)}

instance (keep : A → Bool) (items : List A) : Decidable (Gapless keep items) :=
  inferInstanceAs (Decidable (items.Pairwise _))

section

variable (keep) (items : List A)

include keep

theorem head?_filter_eq : (items.filter keep).head? = items[items.findIdx keep]? := by
  induction items with
  | nil => rfl
  | cons item rest ih =>
    cases kept : keep item with
    | true => simp [findIdx_cons, kept]
    | false => simpa [findIdx_cons, kept] using ih

theorem filter_drop_findIdx :
    (items.drop (items.findIdx keep)).filter keep = items.filter keep := by
  induction items with
  | nil => rfl
  | cons item rest ih =>
    cases kept : keep item with
    | true => simp [findIdx_cons, kept]
    | false => simpa [findIdx_cons, kept] using ih

theorem findIdx_add_length_filter_le :
    items.findIdx keep + (items.filter keep).length ≤ items.length := by
  have fewer := length_filter_le keep (items.drop (items.findIdx keep))
  rw [filter_drop_findIdx, length_drop] at fewer
  have bound : items.findIdx keep ≤ items.length := findIdx_le_length
  omega

end

theorem nil (keep : A → Bool) : Gapless keep [] := List.Pairwise.nil

theorem append_of_dropped {dropped items : List A} (none : ∀ item ∈ dropped, keep item = false) :
    Gapless keep (dropped ++ items) ↔ Gapless keep items := by
  unfold Gapless
  rw [pairwise_append]
  constructor
  · exact fun whole => whole.2.1
  · intro tail
    refine ⟨?_, tail, ?_⟩
    · refine pairwise_of_forall_mem_list fun earlier member _ _ kept => ?_
      rw [none earlier member] at kept
      cases kept
    · intro earlier member _ _ kept
      rw [none earlier member] at kept
      cases kept

theorem cons_of_kept {item : A} (kept : keep item) :
    Gapless keep (item :: items) ↔ ∀ other ∈ items, keep other := by
  unfold Gapless
  rw [pairwise_cons]
  constructor
  · exact fun whole other member => whole.1 other member kept
  · intro all
    refine ⟨fun other member _ => all other member, ?_⟩
    exact pairwise_of_forall_mem_list fun _ _ other member _ => all other member

theorem findIdx_add_length_filter (gapless : Gapless keep items) :
    items.findIdx keep + (items.filter keep).length = items.length := by
  induction items with
  | nil => rfl
  | cons item rest ih =>
    cases kept : keep item with
    | true =>
      rw [cons_of_kept kept] at gapless
      rw [findIdx_cons, kept, filter_cons_of_pos kept, List.filter_eq_self.mpr gapless]
      exact Nat.zero_add _
    | false =>
      have tail := ih (List.Pairwise.of_cons gapless)
      rw [findIdx_cons, kept, filter_cons_of_neg (by simp [kept]), length_cons]
      simp only [cond_false]
      omega

section

variable (distinct : (pairs.map snd).Nodup) (final : ∀ pair ∈ pairs.getLast?, keep pair.1)

include distinct final

theorem filter_eq_take_iff :
    (pairs.filter (keep ·.1)).map snd = (pairs.map snd).take (pairs.filter (keep ·.1)).length ↔
      ∀ pair ∈ pairs, keep pair.1 := by
  constructor
  · intro same
    rcases eq_nil_or_concat pairs with rfl | ⟨front, pair, rfl⟩
    · simp
    have last : keep pair.1 := final pair (by simp)
    by_contra gap
    have short : (front.filter (keep ·.1)).length < front.length := by
      rw [length_filter_lt_length_iff_exists]
      push Not at gap
      obtain ⟨other, member, dropped⟩ := gap
      rw [concat_eq_append, mem_append, mem_singleton] at member
      rcases member with earlier | rfl
      · exact ⟨other, earlier, dropped⟩
      · exact absurd last dropped
    have moved : pair.2 ∈ (front.map snd).take ((front.filter (keep ·.1)).length + 1) := by
      have within : pair.2 ∈ ((front ++ [pair]).filter (keep ·.1)).map snd := by simp [last]
      rw [concat_eq_append] at same
      rw [same] at within
      have one : ([pair].filter (keep ·.1)).length = 1 := by simp [last]
      rw [filter_append, length_append, one, map_append,
        take_append_of_le_length (by rw [length_map]; exact short)] at within
      exact within
    rw [concat_eq_append, map_append, nodup_append] at distinct
    exact distinct.2.2 _ (mem_of_mem_take moved) pair.2 (by simp) rfl
  · intro all
    rw [List.filter_eq_self.mpr all, take_of_length_le (by simp)]

theorem filter_eq_run_iff :
    (pairs.filter (keep ·.1)).map snd = ((pairs.map snd).drop (pairs.findIdx (keep ·.1))).take
          (pairs.filter (keep ·.1)).length ↔
      Gapless keep (pairs.map fst) := by
  obtain ⟨dropped, rest, split, none, first⟩ : ∃ dropped rest, pairs = dropped ++ rest ∧
      (∀ pair ∈ dropped, keep pair.1 = false) ∧ ∀ pair ∈ rest.head?, keep pair.1 := by
    refine ⟨pairs.takeWhile (!keep ·.1), pairs.dropWhile (!keep ·.1),
      List.takeWhile_append_dropWhile.symm, ?_, ?_⟩
    · intro pair member
      simpa using mem_takeWhile_imp member
    · intro pair head
      have found := head?_dropWhile_not (fun pair : A × B => !keep pair.1) pairs
      rw [head] at found
      simpa using found
  subst split
  have none' : dropped.filter (keep ·.1) = [] := by
    rw [filter_eq_nil_iff]
    intro pair member
    rw [none pair member]
    exact Bool.false_ne_true
  have start : (dropped ++ rest).findIdx (keep ·.1) = dropped.length := by
    rw [findIdx_append, if_neg]
    · cases rest with
      | nil => rw [findIdx_nil, Nat.zero_add]
      | cons pair rest =>
        have kept : keep pair.1 = true := first pair rfl
        rw [findIdx_cons, kept]
        exact Nat.zero_add _
    · rw [findIdx_lt_length]
      rintro ⟨pair, member, kept⟩
      rw [none pair member] at kept
      cases kept
  have front : ∀ item ∈ dropped.map fst, keep item = false := by
    intro item member
    obtain ⟨pair, within, rfl⟩ := List.mem_map.mp member
    exact none pair within
  rw [start, filter_append, none', nil_append, map_append, map_append,
    drop_left' (length_map _), append_of_dropped front]
  rw [map_append, nodup_append] at distinct
  have tail : ∀ pair ∈ rest.getLast?, keep pair.1 := by
    intro pair last
    apply final
    rw [getLast?_append, Option.mem_def.mp last]
    rfl
  rw [filter_eq_take_iff distinct.2.1 tail]
  cases rest with
  | nil => simp [nil]
  | cons pair rest =>
    rw [map_cons, cons_of_kept (first pair rfl)]
    simp [first pair rfl]

end

end Gapless

end VllmEngine

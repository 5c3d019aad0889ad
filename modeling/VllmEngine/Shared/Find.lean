import VllmEngine.Shared.Occurs

set_option autoImplicit false

namespace VllmEngine

open OccursAt

variable {α : Type} [DecidableEq α] {pattern text : List α} {i : Nat} {front back : List α}

def findIndex (pattern : List α) : List α → Option Nat
  | [] => if pattern = [] then some 0 else none
  | head :: rest =>
    if pattern <+: head :: rest then some 0 else (findIndex pattern rest).map (· + 1)

namespace OccursAt

variable {pattern text : List α} {head : α} {i : Nat}

omit [DecidableEq α] in
theorem zero : OccursAt pattern text 0 ↔ pattern <+: text := by
  simp [OccursAt]

omit [DecidableEq α] in
theorem succ : OccursAt pattern (head :: text) (i + 1) ↔ OccursAt pattern text i := by
  simp [OccursAt]

omit [DecidableEq α] in
theorem nil : OccursAt pattern [] i ↔ i = 0 ∧ pattern = [] := by
  simp [OccursAt]

end OccursAt

theorem findIndex_eq_none :
    findIndex pattern text = none ↔ ∀ i, ¬OccursAt pattern text i := by
  induction text with
  | nil => by_cases empty : pattern = [] <;> simp [findIndex, nil]
  | cons head rest ih =>
    by_cases here : pattern <+: head :: rest
    · simp only [findIndex, here, if_true, reduceCtorEq, false_iff, not_forall, not_not]
      exact ⟨0, zero.mpr here⟩
    · simp only [findIndex, here, if_false, Option.map_eq_none_iff, ih]
      constructor
      · intro absent i
        cases i with
        | zero => exact fun occurs => here (zero.mp occurs)
        | succ i => exact fun occurs => absent i (succ.mp occurs)
      · exact fun absent i occurs => absent (i + 1) (succ.mpr occurs)

theorem findIndex_eq_some :
    findIndex pattern text = some i ↔
      OccursAt pattern text i ∧ ∀ j < i, ¬OccursAt pattern text j := by
  induction text generalizing i with
  | nil =>
    by_cases empty : pattern = []
    · simp only [findIndex, empty, if_true, Option.some.injEq, nil, and_true]
      constructor
      · rintro rfl
        simp
      · rintro ⟨rfl, -⟩
        rfl
    · simp [findIndex, empty, nil]
  | cons head rest ih =>
    by_cases here : pattern <+: head :: rest
    · simp only [findIndex, here, if_true, Option.some.injEq]
      constructor
      · rintro rfl
        exact ⟨zero.mpr here, by simp⟩
      · rintro ⟨-, first⟩
        by_contra later
        exact first 0 (by omega) (zero.mpr here)
    · simp only [findIndex, here, if_false, Option.map_eq_some_iff, ih]
      constructor
      · rintro ⟨j, ⟨occurs, first⟩, rfl⟩
        refine ⟨succ.mpr occurs, fun k before found => ?_⟩
        cases k with
        | zero => exact here (zero.mp found)
        | succ k => exact first k (by omega) (succ.mp found)
      · rintro ⟨occurs, first⟩
        cases i with
        | zero => exact absurd (zero.mp occurs) here
        | succ i =>
          refine ⟨i, ⟨succ.mp occurs, fun k before found => ?_⟩, rfl⟩
          exact first (k + 1) (by omega) (succ.mpr found)

def pyIndex (length : Nat) (i : Int) : Nat :=
  if i < 0 then (length + i).toNat else min i.toNat length

def pySlice (text : List α) (start stop : Int) : List α :=
  (text.take (pyIndex text.length stop)).drop (pyIndex text.length start)

def pyFind (text pattern : List α) (start : Int) : Int :=
  match findIndex pattern (text.drop (pyIndex text.length start)) with
  | some i => pyIndex text.length start + i
  | none => -1

def pyPartition (text pattern : List α) : List α × List α × List α :=
  match findIndex pattern text with
  | some i => (text.take i, pattern, text.drop (i + pattern.length))
  | none => (text, [], [])

theorem pyIndex_natCast {length i : Nat} (within : i ≤ length) :
    pyIndex length (i : Int) = i := by
  have natural : ¬(i : Int) < 0 := by omega
  rw [pyIndex, if_neg natural, Int.toNat_natCast, min_eq_left within]

omit [DecidableEq α] in
theorem pySlice_natCast {text : List α} {i j : Nat} (start : i ≤ text.length)
    (stop : j ≤ text.length) : pySlice text i j = (text.take j).drop i := by
  rw [pySlice, pyIndex_natCast start, pyIndex_natCast stop]

omit [DecidableEq α] in
theorem pySlice_front :
    pySlice (front ++ back) 0 front.length = front := by
  have slice := pySlice_natCast (Nat.zero_le _) (show front.length ≤ (front ++ back).length by simp)
  simpa using slice

omit [DecidableEq α] in
theorem pySlice_middle {front middle back : List α} :
    pySlice (front ++ (middle ++ back)) front.length (front ++ middle).length = middle := by
  have slice := pySlice_natCast
    (show front.length ≤ (front ++ (middle ++ back)).length by simp)
    (show (front ++ middle).length ≤ (front ++ (middle ++ back)).length by
      simp only [List.length_append]
      omega)
  rw [slice, ← List.append_assoc, List.take_left, List.drop_left]

omit [DecidableEq α] in
theorem pySlice_back :
    pySlice (front ++ back) front.length (front ++ back).length = back := by
  rw [pySlice_natCast (by simp) le_rfl, List.take_length, List.drop_left]

theorem pyFind_zero {text pattern : List α}
    (found : findIndex pattern text = some i) : pyFind text pattern 0 = i := by
  have start : pyIndex text.length 0 = 0 := by simp [pyIndex]
  simp [pyFind, start, found]

end VllmEngine

import Mathlib.Algebra.BigOperators.Group.List.Lemmas
import Mathlib.Algebra.GroupWithZero.Nat

set_option autoImplicit false

namespace VllmEngine.Ragged

open List

def cumsumFrom (total : Nat) : List Nat → List Nat
  | [] => []
  | count :: counts => (total + count) :: cumsumFrom (total + count) counts

variable (counts : List Nat)

def cumsum : List Nat := cumsumFrom 0 counts

def repeatEach {α : Type} (values : List α) (counts : List Nat) : List α :=
  (values.zip counts).flatMap fun (value, count) => List.replicate count value

def aranges : List Int :=
  counts.flatMap fun count => (List.range count).map Int.ofNat

def pyGet (values : List Int) (index : Int) : Int :=
  if 0 ≤ index then values.getD index.toNat 0
  else values.getD (values.length + index).toNat 0

variable {α : Type} {i count : Nat} {value : Int} {values : List Int}

def offset (i : Nat) : Nat := (counts.take i).sum

theorem offset_succ {counts : List Nat} (here : counts[i]? = some count) :
    offset counts (i + 1) = offset counts i + count := by
  rw [offset, offset, take_add_one, here, sum_append]
  rfl

theorem cumsumFrom_getElem? {counts : List Nat} (total : Nat) (here : counts[i]? = some count) :
    (cumsumFrom total counts)[i]? = some (total + offset counts (i + 1)) := by
  induction counts generalizing total i with
  | nil => simp at here
  | cons first rest ih =>
    cases i with
    | zero => simp [cumsumFrom, offset]
    | succ i =>
      rw [cumsumFrom, getElem?_cons_succ, ih (total + first) here, offset, offset,
        take_succ_cons, sum_cons, Nat.add_assoc]

theorem cumsum_getElem? {counts : List Nat} (here : counts[i]? = some count) :
    (cumsum counts)[i]? = some (offset counts i + count) := by
  rw [cumsum, cumsumFrom_getElem? 0 here, offset_succ here, Nat.zero_add]

theorem cumsumFrom_length (total : Nat) (counts : List Nat) :
    (cumsumFrom total counts).length = counts.length := by
  induction counts generalizing total with
  | nil => rfl
  | cons count counts ih => simp [cumsumFrom, ih]

theorem cumsum_length : (cumsum counts).length = counts.length :=
  cumsumFrom_length 0 counts

theorem flatten_getElem? {rows : List (List α)} {row : List α} {i j : Nat}
    (here : rows[i]? = some row) (within : j < row.length) :
    rows.flatten[offset (rows.map List.length) i + j]? = row[j]? := by
  induction rows generalizing i with
  | nil => simp at here
  | cons first rest ih =>
    cases i with
    | zero =>
      obtain rfl : first = row := by simpa using here
      simp [offset, getElem?_append_left within]
    | succ i =>
      have start : offset ((first :: rest).map List.length) (i + 1) + j =
          first.length + (offset (rest.map List.length) i + j) := by
        rw [offset, offset, map_cons, take_succ_cons, sum_cons, Nat.add_assoc]
      rw [flatten_cons, start, getElem?_append_right (Nat.le_add_right _ _),
        Nat.add_sub_cancel_left, ih here]

theorem zipWith_repeatEach_aranges (values : List Int) (counts : List Nat) :
    List.zipWith (· + ·) (repeatEach values counts) (aranges counts) =
      (List.zipWith (fun value count => (List.range count).map fun i => value + Int.ofNat i)
        values counts).flatten := by
  induction values generalizing counts with
  | nil => simp [repeatEach]
  | cons value values ih =>
    cases counts with
    | nil => simp [repeatEach]
    | cons count counts =>
      have block : List.zipWith (· + ·) (List.replicate count value)
          ((List.range count).map Int.ofNat) =
          (List.range count).map fun i => value + Int.ofNat i := by
        apply ext_getElem
        · simp
        · intro i _ _
          simp
      have rest := ih counts
      simp only [repeatEach, aranges] at rest ⊢
      rw [zip_cons_cons, flatMap_cons, flatMap_cons, zipWith_append,
        zipWith_cons_cons, flatten_cons, block, rest]
      simp

theorem blocks_getElem? {counts : List Nat}
    (sameLength : values.length = counts.length) {i j count : Nat}
    (valueHere : values[i]? = some value) (countHere : counts[i]? = some count)
    (within : j < count) :
    (List.zipWith (· + ·) (repeatEach values counts) (aranges counts))[offset counts i + j]? =
      some (value + j) := by
  have lengths : (List.zipWith
      (fun value count => (List.range count).map fun i => value + Int.ofNat i)
      values counts).map List.length = counts := by
    rw [map_zipWith]
    apply ext_getElem
    · simp [sameLength]
    · intro k _ _
      simp
  have block : (List.zipWith
      (fun value count => (List.range count).map fun i => value + Int.ofNat i)
      values counts)[i]? = some ((List.range count).map fun i => value + Int.ofNat i) := by
    rw [getElem?_zipWith, valueHere, countHere]
  have found := flatten_getElem? (j := j) block (by simpa using within)
  rw [lengths] at found
  rw [zipWith_repeatEach_aranges, found]
  simp [within]

theorem pyGet_natCast (values : List Int) (index : Nat) :
    pyGet values index = values.getD index 0 := by
  rw [pyGet, if_pos (Int.natCast_nonneg index), Int.toNat_natCast]

theorem pyGet_of_getElem? {index : Int} {i : Nat}
    (same : index = i) (here : values[i]? = some value) : pyGet values index = value := by
  rw [same, pyGet_natCast, getD_eq_getElem?_getD, here]
  rfl

end VllmEngine.Ragged

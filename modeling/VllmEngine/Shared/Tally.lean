import Mathlib.Data.List.AList
import Mathlib.Algebra.BigOperators.Group.List.Basic
import Mathlib.Algebra.GroupWithZero.Nat

set_option autoImplicit false

namespace VllmEngine

open List

variable {Key Value : Type} [DecidableEq Key]

variable (weight : Value → Nat) {dict : AList fun _ : Key => Value}

def tally (dict : AList fun _ : Key => Value) : Nat :=
  (dict.entries.map fun entry => weight entry.2).sum

omit [DecidableEq Key] in
@[simp]
theorem tally_empty : tally weight (∅ : AList fun _ : Key => Value) = 0 := rfl

theorem tally_erase (dict : AList fun _ : Key => Value) (key : Key) :
    tally weight (dict.erase key) + ((dict.lookup key).elim 0 weight) = tally weight dict := by
  obtain ⟨entries, nodup⟩ := dict
  unfold tally AList.erase AList.lookup
  dsimp only
  induction entries with
  | nil => rfl
  | cons entry rest ih =>
    rw [nodupKeys_cons] at nodup
    by_cases same : key = entry.1
    · subst same
      rw [kerase_cons_eq rfl]
      have found : List.dlookup entry.1 (entry :: rest) = some entry.2 := by
        cases entry
        exact dlookup_cons_eq _ _ _
      simp [found, Nat.add_comm]
    · have others := ih nodup.2
      rw [kerase_cons_ne same]
      have found : List.dlookup key (entry :: rest) = List.dlookup key rest := by
        cases entry
        exact dlookup_cons_ne _ _ same
      simp only [map_cons, sum_cons, found]
      omega

theorem tally_insert (dict : AList fun _ : Key => Value) (key : Key) (value : Value) :
    tally weight (dict.insert key value) + ((dict.lookup key).elim 0 weight) =
      tally weight dict + weight value := by
  have erased := tally_erase weight dict key
  have inserted : tally weight (dict.insert key value) =
      weight value + tally weight (dict.erase key) := by
    unfold tally
    rw [AList.entries_insert]
    rfl
  omega

theorem weight_le_tally {key : Key}
    {value : Value} (found : dict.lookup key = some value) : weight value ≤ tally weight dict := by
  have erased := tally_erase weight dict key
  rw [found] at erased
  exact Nat.le.intro (Nat.add_comm _ _ ▸ erased)

theorem tally_eq_zero {weight : Value → Nat}
    (weightless : ∀ key value, dict.lookup key = some value → weight value = 0) :
    tally weight dict = 0 := by
  apply sum_eq_zero
  intro number member
  obtain ⟨entry, stored, rfl⟩ := List.mem_map.mp member
  exact weightless entry.1 entry.2 (AList.mem_lookup_iff.mpr stored)

theorem elim_lookup (dict : AList fun _ : Key => Value) (key : Key)
    {default : Value} (weightless : weight default = 0) :
    (dict.lookup key).elim 0 weight = weight ((dict.lookup key).getD default) := by
  cases dict.lookup key <;> simp [weightless]

theorem tally_indicator (holds : Value → Bool) (dict : AList fun _ : Key => Value) :
    tally (fun value => if holds value then 1 else 0) dict =
      (dict.keys.filter fun key => (dict.lookup key).any holds).length := by
  have entries : (dict.entries.map fun entry => if holds entry.2 then 1 else 0).sum =
      dict.entries.countP fun entry => holds entry.2 := by
    induction dict.entries with
    | nil => rfl
    | cons entry rest ih => rw [map_cons, sum_cons, countP_cons, ih, Nat.add_comm]
  unfold tally
  rw [entries, ← countP_eq_length_filter, AList.keys, List.keys, countP_map]
  apply countP_congr
  intro entry member
  have found : dict.lookup entry.1 = some entry.2 := by
    rw [← Option.mem_def, AList.mem_lookup_iff]
    exact member
  simp only [Function.comp_apply, found, Option.any_some]

end VllmEngine

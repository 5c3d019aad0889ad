import Mathlib.Data.List.Nodup
import Mathlib.Algebra.BigOperators.Group.List.Basic
import Mathlib.Algebra.GroupWithZero.Nat

set_option autoImplicit false

namespace VllmEngine

open List

-- A dictionary that remembers the order in which its keys were added.
structure OrderedDict (Key Value : Type) where
  entries : List (Key × Value)
  distinct : (entries.map Prod.fst).Nodup

namespace OrderedDict

variable {Key Value : Type}

@[ext]
theorem ext {first second : OrderedDict Key Value} (same : first.entries = second.entries) :
    first = second := by
  cases first
  cases second
  cases same
  rfl

def empty : OrderedDict Key Value := ⟨[], nodup_nil⟩

variable (dict : OrderedDict Key Value) {key : Key}

def keys : List Key := dict.entries.map Prod.fst

@[simp] theorem entries_empty : (empty : OrderedDict Key Value).entries = [] := rfl

@[simp] theorem keys_empty : (empty : OrderedDict Key Value).keys = [] := rfl

theorem keys_nodup : dict.keys.Nodup := dict.distinct

theorem entries_nodup : dict.entries.Nodup :=
  List.Nodup.of_map Prod.fst dict.distinct

theorem mem_keys {dict : OrderedDict Key Value} :
    key ∈ dict.keys ↔ ∃ value, (key, value) ∈ dict.entries := by
  simp [keys]

theorem value_unique {dict : OrderedDict Key Value} {first second : Value}
    (one : (key, first) ∈ dict.entries) (other : (key, second) ∈ dict.entries) :
    first = second := by
  have same := inj_on_of_nodup_map dict.distinct one other rfl
  exact (Prod.mk.inj same).2

def popFirst? : Option ((Key × Value) × OrderedDict Key Value) :=
  match dict with
  | ⟨[], _⟩ => none
  | ⟨first :: rest, distinct⟩ => some (first, ⟨rest, (List.nodup_cons.mp distinct).2⟩)

theorem popFirst?_eq_none_iff {dict : OrderedDict Key Value} :
    dict.popFirst? = none ↔ dict.entries = [] := by
  obtain ⟨entries, _⟩ := dict
  cases entries <;> simp [popFirst?]

theorem entries_of_popFirst? {dict rest : OrderedDict Key Value} {first : Key × Value}
    (popped : dict.popFirst? = some (first, rest)) :
    dict.entries = first :: rest.entries := by
  obtain ⟨entries, _⟩ := dict
  cases entries with
  | nil => simp [popFirst?] at popped
  | cons head tail =>
    obtain ⟨rfl, rfl⟩ := popped
    rfl

def dropFirst (count : Nat) : OrderedDict Key Value where
  entries := dict.entries.drop count
  distinct := dict.distinct.sublist ((drop_sublist count dict.entries).map Prod.fst)

section Lookup

variable [DecidableEq Key] {key : Key}

def get? (dict : OrderedDict Key Value) (key : Key) : Option Value :=
  (dict.entries.find? fun entry => entry.1 = key).map Prod.snd

theorem get?_eq_some_iff {dict : OrderedDict Key Value} {value : Value} :
    dict.get? key = some value ↔ (key, value) ∈ dict.entries := by
  constructor
  · intro found
    obtain ⟨entry, first, rfl⟩ := Option.map_eq_some_iff.mp found
    have named : entry.1 = key := by simpa using find?_some first
    subst named
    exact mem_of_find?_eq_some first
  · intro member
    cases found : dict.entries.find? fun entry => entry.1 = key with
    | none =>
      have absent := List.find?_eq_none.mp found (key, value) member
      simp at absent
    | some entry =>
      have named : entry.1 = key := by simpa using find?_some found
      subst named
      have same := value_unique (mem_of_find?_eq_some found) member
      simp [get?, found, same]

theorem get?_eq_none_iff {dict : OrderedDict Key Value} :
    dict.get? key = none ↔ key ∉ dict.keys := by
  rw [mem_keys, Option.eq_none_iff_forall_ne_some]
  simp [get?_eq_some_iff]

theorem mem_keys_of_get? {dict : OrderedDict Key Value} {value : Value}
    (found : dict.get? key = some value) : key ∈ dict.keys :=
  mem_keys.mpr ⟨value, get?_eq_some_iff.mp found⟩

@[simp] theorem get?_empty (key : Key) : (empty : OrderedDict Key Value).get? key = none := rfl

instance (dict : OrderedDict Key Value) (key : Key) : Decidable (key ∈ dict.keys) :=
  inferInstance

end Lookup

section Update

variable [DecidableEq Key]

def erase (dict : OrderedDict Key Value) (key : Key) : OrderedDict Key Value where
  entries := dict.entries.filter fun entry => entry.1 ≠ key
  distinct := dict.distinct.sublist (List.filter_sublist.map Prod.fst)

variable {dict : OrderedDict Key Value} {key : Key} {entry : Key × Value} {value : Value}
  {other : Key} {keys : List Key}

theorem mem_entries_erase :
    entry ∈ (dict.erase key).entries ↔ entry ∈ dict.entries ∧ entry.1 ≠ key := by
  simp [erase]

@[simp] theorem mem_keys_erase :
    other ∈ (dict.erase key).keys ↔ other ∈ dict.keys ∧ other ≠ key := by
  simp only [mem_keys, mem_entries_erase, exists_and_right]

theorem erase_of_absent (absent : key ∉ dict.keys) :
    dict.erase key = dict := by
  apply ext
  apply List.filter_eq_self.mpr
  intro entry member
  have different : entry.1 ≠ key := by
    rintro rfl
    exact absent (mem_map_of_mem member)
  simpa using different

theorem perm_erase (member : (key, value) ∈ dict.entries) :
    dict.entries.Perm ((key, value) :: (dict.erase key).entries) := by
  rw [perm_ext_iff_of_nodup dict.entries_nodup]
  · intro entry
    rw [mem_cons, mem_entries_erase]
    constructor
    · intro present
      by_cases named : entry.1 = key
      · left
        obtain ⟨_, _⟩ := entry
        subst named
        rw [value_unique present member]
      · exact .inr ⟨present, named⟩
    · rintro (rfl | ⟨present, _⟩)
      · exact member
      · exact present
  · rw [nodup_cons, mem_entries_erase]
    exact ⟨fun present => present.2 rfl, (dict.erase key).entries_nodup⟩

theorem get?_erase (dict : OrderedDict Key Value) (key other : Key) :
    (dict.erase key).get? other = if other = key then none else dict.get? other := by
  split
  · rename_i same
    rw [get?_eq_none_iff, mem_keys_erase]
    exact fun present => present.2 same
  · rename_i different
    apply Option.ext
    intro value
    rw [get?_eq_some_iff, get?_eq_some_iff, mem_entries_erase]
    exact and_iff_left different

theorem not_mem_keys_erase (dict : OrderedDict Key Value) (key : Key) :
    key ∉ (dict.erase key).keys := by
  simp

def append (dict : OrderedDict Key Value) (key : Key) (value : Value)
    (absent : key ∉ dict.keys) : OrderedDict Key Value where
  entries := dict.entries ++ [(key, value)]
  distinct := by
    rw [map_append]
    apply List.nodup_append.mpr
    refine ⟨dict.distinct, nodup_singleton key, ?_⟩
    intro first member second last same
    obtain rfl := List.mem_singleton.mp last
    exact absent (same ▸ member)

def moveToEnd (dict : OrderedDict Key Value) (key : Key) : OrderedDict Key Value :=
  match dict.get? key with
  | none => dict
  | some value => (dict.erase key).append key value (dict.not_mem_keys_erase key)

theorem perm_moveToEnd (dict : OrderedDict Key Value) (key : Key) :
    (dict.moveToEnd key).entries.Perm dict.entries := by
  unfold moveToEnd
  split
  · exact List.Perm.refl _
  · rename_i value found
    have whole := perm_erase (get?_eq_some_iff.mp found)
    exact (List.perm_append_comm.trans whole.symm)

def replace (dict : OrderedDict Key Value) (key : Key) (value : Value) :
    OrderedDict Key Value where
  entries := dict.entries.map fun entry => if entry.1 = key then (key, value) else entry
  distinct := by
    rw [map_map]
    convert dict.distinct using 2
    funext entry
    by_cases named : entry.1 = key <;> simp [named]

theorem mem_entries_replace (present : key ∈ dict.keys) :
    entry ∈ (dict.replace key value).entries ↔
      entry = (key, value) ∨ entry ∈ (dict.erase key).entries := by
  rw [mem_entries_erase]
  unfold replace
  simp only [mem_map]
  constructor
  · rintro ⟨old, member, rfl⟩
    by_cases named : old.1 = key
    · simp [named]
    · simp [named, member]
  · rintro (rfl | ⟨member, named⟩)
    · obtain ⟨old, member⟩ := mem_keys.mp present
      exact ⟨(key, old), member, by simp⟩
    · exact ⟨entry, member, by simp [named]⟩

def insert (dict : OrderedDict Key Value) (key : Key) (value : Value) : OrderedDict Key Value :=
  if present : key ∈ dict.keys then dict.replace key value else dict.append key value present

theorem perm_insert (dict : OrderedDict Key Value) (key : Key) (value : Value) :
    (dict.insert key value).entries.Perm ((key, value) :: (dict.erase key).entries) := by
  unfold insert
  split
  · rename_i present
    rw [perm_ext_iff_of_nodup (dict.replace key value).entries_nodup]
    · intro entry
      rw [mem_entries_replace present, mem_cons]
    · rw [nodup_cons, mem_entries_erase]
      exact ⟨fun inside => inside.2 rfl, (dict.erase key).entries_nodup⟩
  · rename_i absent
    rw [erase_of_absent absent]
    exact perm_append_comm

theorem perm_replace (present : key ∈ dict.keys) :
    (dict.replace key value).entries.Perm ((key, value) :: (dict.erase key).entries) := by
  have inserted := dict.perm_insert key value
  rwa [insert, dif_pos present] at inserted

theorem keys_replace (dict : OrderedDict Key Value) (key : Key) (value : Value) :
    (dict.replace key value).keys = dict.keys := by
  rw [keys, replace, map_map, keys]
  apply map_congr_left
  intro entry _
  by_cases named : entry.1 = key <;> simp [named]

theorem keys_insert_of_mem (present : key ∈ dict.keys) :
    (dict.insert key value).keys = dict.keys := by
  rw [insert, dif_pos present, keys_replace]

theorem keys_insert_of_absent (absent : key ∉ dict.keys) :
    (dict.insert key value).keys = dict.keys ++ [key] := by
  rw [insert, dif_neg absent, keys, append, map_append]
  rfl

theorem keys_perm_erase (present : key ∈ dict.keys) :
    dict.keys.Perm (key :: (dict.erase key).keys) := by
  obtain ⟨_, member⟩ := mem_keys.mp present
  exact (perm_erase member).map Prod.fst

theorem entries_insert_of_absent (absent : key ∉ dict.keys) :
    (dict.insert key value).entries = dict.entries ++ [(key, value)] := by
  simp [insert, absent, append]

theorem mem_entries_insert :
    entry ∈ (dict.insert key value).entries ↔
      entry = (key, value) ∨ (entry ∈ dict.entries ∧ entry.1 ≠ key) := by
  rw [(dict.perm_insert key value).mem_iff, mem_cons, mem_entries_erase]

@[simp] theorem mem_keys_insert :
    other ∈ (dict.insert key value).keys ↔ other = key ∨ other ∈ dict.keys := by
  simp only [mem_keys, mem_entries_insert]
  constructor
  · rintro ⟨found, same | ⟨member, _⟩⟩
    · exact .inl (Prod.mk.inj same).1
    · exact .inr ⟨found, member⟩
  · rintro (rfl | ⟨found, member⟩)
    · exact ⟨value, .inl rfl⟩
    · by_cases named : other = key
      · exact ⟨value, .inl (by rw [named])⟩
      · exact ⟨found, .inr ⟨member, named⟩⟩

theorem get?_insert (dict : OrderedDict Key Value) (key other : Key) (value : Value) :
    (dict.insert key value).get? other = if other = key then some value else dict.get? other := by
  split
  · rename_i same
    subst same
    rw [get?_eq_some_iff, mem_entries_insert]
    exact .inl rfl
  · rename_i different
    apply Option.ext
    intro found
    rw [get?_eq_some_iff, get?_eq_some_iff, mem_entries_insert]
    simp [different]

theorem get?_replace (present : key ∈ dict.keys) (other : Key) :
    (dict.replace key value).get? other =
      if other = key then some value else dict.get? other := by
  have inserted := dict.get?_insert key other value
  rwa [insert, dif_pos present] at inserted

def eraseAll (dict : OrderedDict Key Value) (keys : List Key) : OrderedDict Key Value :=
  keys.foldl erase dict

theorem mem_entries_eraseAll :
    entry ∈ (dict.eraseAll keys).entries ↔ entry ∈ dict.entries ∧ entry.1 ∉ keys := by
  induction keys generalizing dict with
  | nil => simp [eraseAll]
  | cons key rest ih =>
    change entry ∈ ((dict.erase key).eraseAll rest).entries ↔ _
    rw [ih, mem_entries_erase, mem_cons, not_or, and_assoc]

theorem mem_keys_eraseAll :
    key ∈ (dict.eraseAll keys).keys ↔ key ∈ dict.keys ∧ key ∉ keys := by
  simp only [mem_keys, mem_entries_eraseAll, exists_and_right]

theorem get?_eraseAll_eq_some :
    (dict.eraseAll keys).get? key = some value ↔ dict.get? key = some value ∧ key ∉ keys := by
  simp only [get?_eq_some_iff, mem_entries_eraseAll]

theorem perm_eraseAll {taken : List (Key × Value)} (inside : ∀ entry ∈ taken, entry ∈ dict.entries)
    (distinct : (taken.map Prod.fst).Nodup) :
    dict.entries.Perm (taken ++ (dict.eraseAll (taken.map Prod.fst)).entries) := by
  induction taken generalizing dict with
  | nil => exact List.Perm.refl _
  | cons entry rest ih =>
    obtain ⟨first, others⟩ := List.forall_mem_cons.mp inside
    obtain ⟨different, distinct⟩ := List.nodup_cons.mp distinct
    have left : ∀ other ∈ rest, other ∈ (dict.erase entry.1).entries := by
      intro other member
      refine mem_entries_erase.mpr ⟨others other member, fun same => different ?_⟩
      rw [← same]
      exact mem_map_of_mem member
    exact (perm_erase first).trans ((ih left distinct).cons entry)

end Update

section Weigh

def weigh (weight : Key → Nat) (dict : OrderedDict Key Value) : Nat :=
  (dict.keys.map weight).sum

variable {weight : Key → Nat}

@[simp] theorem weigh_empty : (empty : OrderedDict Key Value).weigh weight = 0 := rfl

theorem weigh_congr {dict : OrderedDict Key Value} {other : Key → Nat}
    (same : ∀ key ∈ dict.keys, weight key = other key) : dict.weigh weight = dict.weigh other :=
  congrArg List.sum (List.map_congr_left same)

theorem weigh_of_popFirst? {dict rest : OrderedDict Key Value} {first : Key × Value}
    (popped : dict.popFirst? = some (first, rest)) :
    dict.weigh weight = weight first.1 + rest.weigh weight := by
  simp [weigh, keys, entries_of_popFirst? popped]

variable [DecidableEq Key] {key : Key} {value : Value}

theorem weigh_erase {dict : OrderedDict Key Value} (present : key ∈ dict.keys) :
    dict.weigh weight = weight key + (dict.erase key).weigh weight := by
  have same := ((keys_perm_erase present).map weight).sum_eq
  simpa [weigh] using same

theorem weigh_insert_of_mem {dict : OrderedDict Key Value}
    (present : key ∈ dict.keys) : (dict.insert key value).weigh weight = dict.weigh weight := by
  rw [weigh, keys_insert_of_mem present, weigh]

theorem weigh_insert_of_absent {dict : OrderedDict Key Value} (absent : key ∉ dict.keys) :
    (dict.insert key value).weigh weight = dict.weigh weight + weight key := by
  simp [weigh, keys_insert_of_absent absent]

end Weigh

end OrderedDict

end VllmEngine

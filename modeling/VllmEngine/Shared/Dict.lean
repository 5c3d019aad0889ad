import Mathlib.Data.List.AList

set_option autoImplicit false

namespace VllmEngine.Dict

open Function AList

variable {Key Value : Type} [DecidableEq Key]

section

variable (dict : AList fun _ : Key => Value)

include dict

theorem lookup_insert (key : Key) (value : Value) :
    (fun other => (dict.insert key value).lookup other) =
      update (fun other => dict.lookup other) key (some value) := by
  funext other
  by_cases same : other = key
  · subst same
    rw [AList.lookup_insert, update_self]
  · rw [lookup_insert_ne same, update_of_ne same]

theorem lookup_erase (key : Key) :
    (fun other => (dict.erase key).lookup other) =
      update (fun other => dict.lookup other) key none := by
  funext other
  by_cases same : other = key
  · subst same
    rw [AList.lookup_erase, update_self]
  · rw [lookup_erase_ne same, update_of_ne same]

@[grind =]
theorem lookup_insert_ite (key other : Key) (value : Value) :
    (dict.insert key value).lookup other =
      if other = key then some value else dict.lookup other := by
  split_ifs with same
  · rw [same, AList.lookup_insert]
  · exact lookup_insert_ne same

@[grind =]
theorem lookup_erase_ite (key other : Key) :
    (dict.erase key).lookup other = if other = key then none else dict.lookup other := by
  split_ifs with same
  · rw [same, AList.lookup_erase]
  · exact lookup_erase_ne same

end

theorem lookup_insert_eq_some {dict : AList fun _ : Key => Value} {key other : Key}
    {value found : Value} : (dict.insert key value).lookup other = some found ↔
      other = key ∧ value = found ∨ other ≠ key ∧ dict.lookup other = some found := by
  grind

theorem of_lookup_insert {dict : AList fun _ : Key => Value} {key : Key} {value : Value}
    {p : Value → Prop} (new : p value)
    (old : ∀ {other found}, dict.lookup other = some found → p found) {other : Key}
    {found : Value} (here : (dict.insert key value).lookup other = some found) : p found := by
  rcases lookup_insert_eq_some.mp here with ⟨_, rfl⟩ | ⟨_, here⟩
  · exact new
  · exact old here

theorem lookup_erase_eq_some {dict : AList fun _ : Key => Value} {key other : Key}
    {found : Value} : (dict.erase key).lookup other = some found ↔
      other ≠ key ∧ dict.lookup other = some found := by
  grind

theorem erase_of_lookup_none {dict : AList fun _ : Key => Value} {key : Key}
    (absent : dict.lookup key = none) : dict.erase key = dict := by
  apply ext
  exact List.kerase_of_notMem_keys (lookup_eq_none.mp absent)

variable (change : Key → Value → Value)

omit [DecidableEq Key] in
theorem keys_map (entries : List (Sigma fun _ : Key => Value)) :
    (entries.map fun entry => (⟨entry.1, change entry.1 entry.2⟩ : Sigma fun _ : Key => Value)).keys =
      entries.keys := by
  simp [List.keys, Function.comp_def]

def mapValues (dict : AList fun _ : Key => Value) : AList fun _ : Key => Value where
  entries := dict.entries.map fun entry => ⟨entry.1, change entry.1 entry.2⟩
  nodupKeys := by
    have nodup := dict.nodupKeys
    unfold List.NodupKeys at nodup ⊢
    rwa [keys_map]

theorem lookup_mapValues (dict : AList fun _ : Key => Value)
    (key : Key) : (mapValues change dict).lookup key = (dict.lookup key).map (change key) := by
  obtain ⟨entries, nodup⟩ := dict
  unfold mapValues lookup
  dsimp only
  clear nodup
  induction entries with
  | nil => rfl
  | cons entry rest ih =>
    obtain ⟨first, _⟩ := entry
    rw [List.map_cons]
    by_cases same : key = first
    · subst same
      rw [List.dlookup_cons_eq, List.dlookup_cons_eq]
      rfl
    · rw [List.dlookup_cons_ne _ _ same, List.dlookup_cons_ne _ _ same, ih]

end VllmEngine.Dict

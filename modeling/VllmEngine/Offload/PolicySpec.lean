import VllmEngine.Offload.CachePolicy

set_option autoImplicit false

namespace VllmEngine

open List OrderedDict LRUCachePolicy ARCCachePolicy Option Prod

variable {Key : Type} [DecidableEq Key]

def Reassigned (before : List (Key × BlockStatus)) (key : Key) (old new : BlockStatus)
    (after : List (Key × BlockStatus)) : Prop :=
  ∃ rest, before.Perm ((key, old) :: rest) ∧ after.Perm ((key, new) :: rest)

namespace LRUCachePolicy

def WellFormed (policy : LRUCachePolicy Key) : Prop :=
  ∀ key, key ∈ policy.evictableBlocks.keys ↔
    ∃ block, policy.blocks.get? key = some block ∧ block.refCnt = 0

variable {policy : LRUCachePolicy Key} {key : Key} {block changed : BlockStatus}

section

variable (wellFormed : policy.WellFormed)

include wellFormed

theorem insert_wellFormed (absent : key ∉ policy.blocks.keys) :
    (policy.insert key block).WellFormed := by
  intro other
  dsimp only [LRUCachePolicy.insert]
  rw [get?_insert]
  by_cases same : other = key
  · subst same
    have unlisted : other ∉ policy.evictableBlocks.keys := by
      rw [wellFormed other, get?_eq_none_iff.mpr absent]
      simp
    rw [if_pos rfl]
    split_ifs with idle <;> simp [idle, unlisted]
  · rw [if_neg same, ← wellFormed other]
    split_ifs <;> simp [same]

theorem remove_spec (held : (key, block) ∈ policy.blocks.entries) :
    ∃ after, policy.remove key = .ok after ∧ after.WellFormed ∧
      policy.blocks.entries.Perm ((key, block) :: after.blocks.entries) := by
  have present : key ∈ policy.blocks.keys := mem_keys.mpr ⟨block, held⟩
  refine ⟨_, if_pos present, fun other => ?_, perm_erase held⟩
  rw [mem_keys_erase, wellFormed other, get?_erase]
  by_cases same : other = key
  · simp [same]
  · simp [same]

theorem touch_spec (keys : List Key) :
    (policy.touch keys).WellFormed ∧ (policy.touch keys).blocks = policy.blocks := by
  unfold touch
  refine foldlRecOn
    (motive := fun next : LRUCachePolicy Key => next.WellFormed ∧ next.blocks = policy.blocks) _ _
    ⟨wellFormed, rfl⟩ fun next kept key _ => ⟨fun other => ?_, kept.2⟩
  rw [← kept.1 other]
  exact ((next.evictableBlocks.perm_moveToEnd key).map fst).mem_iff

end

theorem collect_spec {protectedKeys : List Key} {keys : List Key} (n : Nat)
    (idle : ∀ key ∈ keys, ∃ block, policy.blocks.get? key = some block ∧ block.refCnt = 0) :
    ∃ found, policy.collect protectedKeys n keys = .ok found ∧
      (found.map fst).Sublist keys ∧ found.length ≤ n ∧
      ∀ entry ∈ found, entry ∈ policy.blocks.entries ∧ entry.2.refCnt = 0 ∧
        entry.1 ∉ protectedKeys := by
  induction keys generalizing n with
  | nil =>
    have nothing : policy.collect protectedKeys n [] = .ok [] := by cases n <;> rfl
    exact ⟨[], nothing, nil_sublist _, Nat.zero_le n, nofun⟩
  | cons key rest ih =>
    obtain ⟨⟨block, stored, zero⟩, others⟩ := List.forall_mem_cons.mp idle
    cases n with
    | zero => exact ⟨[], rfl, nil_sublist _, Nat.zero_le 0, nofun⟩
    | succ n =>
      rw [collect]
      by_cases spared : key ∈ protectedKeys
      · rw [if_pos spared]
        obtain ⟨found, done, listed, short, sound⟩ := ih (n + 1) others
        exact ⟨found, done, listed.cons key, short, sound⟩
      · obtain ⟨found, done, listed, short, sound⟩ := ih n others
        rw [if_neg spared, stored]
        refine ⟨(key, block) :: found, ?_, ?_, ?_, ?_⟩
        · simp [zero, done]
        · exact listed.cons_cons key
        · exact Nat.succ_le_succ short
        · exact List.forall_mem_cons.mpr
            ⟨⟨get?_eq_some_iff.mp stored, zero, spared⟩, sound⟩

theorem deleteAll_eq (policy : LRUCachePolicy Key) (keys : List Key) :
    policy.deleteAll keys =
      ⟨policy.evictableBlocks.eraseAll keys, policy.blocks.eraseAll keys⟩ := by
  induction keys generalizing policy with
  | nil => rfl
  | cons key rest ih =>
    unfold deleteAll at ih ⊢
    rw [foldl_cons, ih]
    rfl

theorem evict_spec (wellFormed : policy.WellFormed) (n : Nat) (protectedKeys : List Key) :
    ∃ result, policy.evict n protectedKeys = .ok result ∧
      ∀ found after, result = some (found, after) → after.WellFormed ∧ found.length = n ∧
        policy.blocks.entries.Perm (found ++ after.blocks.entries) ∧
        ∀ entry ∈ found, entry.2.refCnt = 0 ∧ entry.1 ∉ protectedKeys := by
  have idle := fun key member => (wellFormed key).mp member
  obtain ⟨found, done, listed, _, sound⟩ :=
    @collect_spec _ _ policy protectedKeys _ n idle
  unfold evict
  rw [done, Outcome.ok_bind]
  by_cases few : found.length < n
  · rw [if_pos few]
    exact ⟨none, rfl, nofun⟩
  rw [if_neg few]
  refine ⟨_, rfl, ?_⟩
  rintro _ after evicted
  obtain ⟨rfl, rfl⟩ := Prod.mk.inj (some.inj evicted)
  rw [deleteAll_eq]
  refine ⟨fun key => ?_, by omega, ?_, fun entry member => (sound entry member).2⟩
  · dsimp only
    rw [mem_keys_eraseAll, wellFormed key]
    simp only [get?_eraseAll_eq_some]
    constructor
    · rintro ⟨⟨block, stored, zero⟩, kept⟩
      exact ⟨block, ⟨stored, kept⟩, zero⟩
    · rintro ⟨block, ⟨stored, kept⟩, zero⟩
      exact ⟨⟨block, stored, zero⟩, kept⟩
  · have distinct := listed.nodup policy.evictableBlocks.keys_nodup
    exact perm_eraseAll (fun entry member => (sound entry member).1) distinct

theorem assign_reassigned (held : (key, block) ∈ policy.blocks.entries) :
    Reassigned policy.blocks.entries key block changed (policy.assign key changed).blocks.entries :=
  ⟨_, perm_erase held, perm_replace (mem_keys.mpr ⟨block, held⟩)⟩

theorem assign_wellFormed (wellFormed : policy.WellFormed)
    (held : (key, block) ∈ policy.blocks.entries) {evictable : OrderedDict Key Unit}
    (others : ∀ other, other ≠ key → (other ∈ evictable.keys ↔ other ∈ policy.evictableBlocks.keys))
    (self : key ∈ evictable.keys ↔ changed.refCnt = 0) :
    WellFormed ⟨evictable, (policy.assign key changed).blocks⟩ := by
  have present : key ∈ policy.blocks.keys := mem_keys.mpr ⟨block, held⟩
  intro other
  dsimp only [assign]
  rw [get?_replace present]
  by_cases same : other = key
  · subst same
    simp [self]
  · rw [if_neg same, others other same]
    exact wellFormed other

end LRUCachePolicy

namespace ARCCachePolicy

variable {Size : Type}

def WellFormed (policy : ARCCachePolicy Key Size) : Prop :=
  ∀ key ∈ policy.t1.keys, key ∉ policy.t2.keys

def held (policy : ARCCachePolicy Key Size) : List (Key × BlockStatus) :=
  policy.t1.entries ++ policy.t2.entries

variable {policy : ARCCachePolicy Key Size} {key : Key} {block changed : BlockStatus}
  {protectedKeys selected : List Key} {virtualT1Size : Nat}
  {found : List ((Key × BlockStatus) × Bool)} {n : Nat}

omit [DecidableEq Key] in
theorem mem_t2 (inside : (key, block) ∈ policy.held) (absent : key ∉ policy.t1.keys) :
    (key, block) ∈ policy.t2.entries := by
  rcases List.mem_append.mp inside with elsewhere | stored
  · exact absurd (mem_keys.mpr ⟨block, elsewhere⟩) absent
  · exact stored

section

variable (wellFormed : policy.WellFormed)

include wellFormed

omit [DecidableEq Key] in
theorem mem_t1 (inside : (key, block) ∈ policy.held) (first : key ∈ policy.t1.keys) :
    (key, block) ∈ policy.t1.entries := by
  rcases List.mem_append.mp inside with stored | elsewhere
  · exact stored
  · exact absurd (mem_keys.mpr ⟨block, elsewhere⟩) (wellFormed key first)

theorem get_eq_some_iff :
    policy.get key = some block ↔ (key, block) ∈ policy.held := by
  unfold get held
  rw [mem_append, ← get?_eq_some_iff, ← get?_eq_some_iff, or_eq_some_iff]
  constructor
  · rintro (first | ⟨_, second⟩)
    · exact .inl first
    · exact .inr second
  · rintro (first | second)
    · exact .inl first
    · refine .inr ⟨?_, second⟩
      rw [get?_eq_none_iff]
      exact fun inFirst => wellFormed key inFirst (mem_keys_of_get? second)

theorem insert_spec (absentFirst : key ∉ policy.t1.keys) (absentSecond : key ∉ policy.t2.keys) :
    (policy.insert key block).WellFormed ∧
      (policy.insert key block).held.Perm ((key, block) :: policy.held) := by
  constructor
  · intro other member
    rcases mem_keys_insert.mp member with rfl | before
    · exact absentSecond
    · exact wellFormed other before
  · unfold held
    dsimp only [insert]
    rw [entries_insert_of_absent absentFirst, append_assoc]
    exact perm_middle

theorem remove_spec (inside : (key, block) ∈ policy.held) :
    (policy.remove key).WellFormed ∧
      policy.held.Perm ((key, block) :: (policy.remove key).held) := by
  unfold remove held
  by_cases first : key ∈ policy.t1.keys
  · rw [if_pos first]
    have stored := mem_t1 wellFormed inside first
    refine ⟨fun other member => ?_, (perm_erase stored).append_right _⟩
    exact wellFormed other (mem_keys_erase.mp member).1
  · rw [if_neg first]
    have stored := mem_t2 inside first
    refine ⟨fun other member absent => ?_, ?_⟩
    · exact wellFormed other member (mem_keys_erase.mp absent).1
    · exact ((perm_erase stored).append_left _).trans perm_middle

variable [TargetSize Size]

theorem touchKey_spec (key : Key) :
    (policy.touchKey key).WellFormed ∧ (policy.touchKey key).held.Perm policy.held := by
  unfold touchKey
  cases found : policy.t1.get? key with
  | some block =>
    have stored := get?_eq_some_iff.mp found
    have first : key ∈ policy.t1.keys := mem_keys.mpr ⟨block, stored⟩
    have gone := policy.t1.not_mem_keys_erase key
    have removed := perm_erase stored
    dsimp only
    split
    · -- A block that is ready moves from T1 to T2.
      have absent := wellFormed key first
      constructor
      · intro other member
        rw [mem_keys_insert]
        obtain ⟨before, different⟩ := mem_keys_erase.mp member
        rintro (same | second)
        · exact different same
        · exact wellFormed other before second
      · unfold held
        rw [entries_insert_of_absent absent, ← append_assoc]
        exact List.perm_append_comm.trans (removed.append_right _).symm
    · constructor
      · intro other member
        rcases mem_keys_insert.mp member with rfl | before
        · exact wellFormed other first
        · exact wellFormed other (mem_keys_erase.mp before).1
      · unfold held
        rw [entries_insert_of_absent gone]
        exact (List.perm_append_comm.trans removed.symm).append_right _
  | none =>
    dsimp only
    split
    · have moved := policy.t2.perm_moveToEnd key
      refine ⟨fun other member second => ?_, moved.append_left _⟩
      exact wellFormed other member ((moved.map fst).mem_iff.mp second)
    · split
      · exact ⟨wellFormed, List.Perm.refl _⟩
      · split
        · exact ⟨wellFormed, List.Perm.refl _⟩
        · exact ⟨wellFormed, List.Perm.refl _⟩

theorem touch_spec (keys : List Key) :
    (policy.touch keys).WellFormed ∧ (policy.touch keys).held.Perm policy.held := by
  unfold touch
  refine foldlRecOn
    (motive := fun next : ARCCachePolicy Key Size => next.WellFormed ∧ next.held.Perm policy.held) _ _
    ⟨wellFormed, List.Perm.refl _⟩ fun next kept key _ => ?_
  obtain ⟨touched, same⟩ := touchKey_spec kept.1 key
  exact ⟨touched, same.trans kept.2⟩

end

def source (policy : ARCCachePolicy Key Size) (fromT1 : Bool) : OrderedDict Key BlockStatus :=
  if fromT1 then policy.t1 else policy.t2

theorem firstIdle_spec {blocks : OrderedDict Key BlockStatus}
    {entry : Key × BlockStatus} (found : firstIdle blocks protectedKeys selected = some entry) :
    entry ∈ blocks.entries ∧ entry.2.refCnt = 0 ∧ entry.1 ∉ protectedKeys ∧
      entry.1 ∉ selected := by
  refine ⟨mem_of_find?_eq_some found, ?_⟩
  simpa using find?_some found

variable [TargetSize Size]

theorem candidate_spec {found : (Key × BlockStatus) × Bool}
    (chosen : policy.candidate protectedKeys selected virtualT1Size = some found) :
    found.1 ∈ (policy.source found.2).entries ∧ found.1.2.refCnt = 0 ∧
      found.1.1 ∉ protectedKeys ∧ found.1.1 ∉ selected := by
  unfold candidate at chosen
  dsimp only at chosen
  split at chosen
  · rename_i entry first
    cases chosen
    split at first
    · exact firstIdle_spec first
    · cases first
  · obtain ⟨entry, second, rfl⟩ := map_eq_some_iff.mp chosen
    exact firstIdle_spec second

theorem candidates_spec {protectedKeys : List Key} {selected : List Key}
    (chosen : policy.candidates protectedKeys n selected virtualT1Size = some found) :
    found.length = n ∧ (found.map fun entry => entry.1.1).Nodup ∧
      ∀ entry ∈ found, entry.1 ∈ (policy.source entry.2).entries ∧ entry.1.2.refCnt = 0 ∧
        entry.1.1 ∉ protectedKeys ∧ entry.1.1 ∉ selected := by
  induction n generalizing selected virtualT1Size found with
  | zero =>
    cases chosen
    exact ⟨rfl, nodup_nil, nofun⟩
  | succ n ih =>
    rw [candidates] at chosen
    split at chosen
    · cases chosen
    · rename_i first picked
      obtain ⟨_, later, rfl⟩ := map_eq_some_iff.mp chosen
      obtain ⟨count, distinct, sound⟩ := ih later
      refine ⟨congrArg Nat.succ count, ?_, ?_⟩
      · rw [map_cons, nodup_cons]
        refine ⟨fun again => ?_, distinct⟩
        obtain ⟨other, member, same⟩ := List.mem_map.mp again
        apply (sound other member).2.2.2
        rw [same]
        exact mem_append_right selected (mem_singleton_self first.1.1)
      · refine List.forall_mem_cons.mpr ⟨candidate_spec picked, fun other member => ?_⟩
        obtain ⟨stored, idle, unprotected, unselected⟩ := sound other member
        exact ⟨stored, idle, unprotected, fun before => unselected (mem_append_left _ before)⟩

omit [TargetSize Size] in
theorem ghost_wellFormed (wellFormed : policy.WellFormed) (found : (Key × BlockStatus) × Bool) :
    (policy.ghost found).WellFormed := by
  unfold ghost
  split
  · exact fun other member => wellFormed other (mem_keys_erase.mp member).1
  · exact fun other member second => wellFormed other member (mem_keys_erase.mp second).1

omit [TargetSize Size] in
theorem ghost_spec {found : (Key × BlockStatus) × Bool}
    (stored : found.1 ∈ (policy.source found.2).entries) :
    policy.held.Perm (found.1 :: (policy.ghost found).held) ∧
      ∀ fromT1 entry, entry ∈ (policy.source fromT1).entries → entry.1 ≠ found.1.1 →
        entry ∈ ((policy.ghost found).source fromT1).entries := by
  obtain ⟨⟨_, _⟩, fromT1⟩ := found
  cases fromT1 with
  | true =>
    refine ⟨(perm_erase stored).append_right _, ?_⟩
    intro fromT1 entry member different
    cases fromT1 with
    | true => exact mem_entries_erase.mpr ⟨member, different⟩
    | false => exact member
  | false =>
    refine ⟨((perm_erase stored).append_left _).trans perm_middle, ?_⟩
    intro fromT1 entry member different
    cases fromT1 with
    | true => exact member
    | false => exact mem_entries_erase.mpr ⟨member, different⟩

omit [TargetSize Size] in
theorem ghosts_spec (invariant : ARCCachePolicy Key Size → Prop)
    (kept : ∀ policy found, invariant policy → found.1 ∈ (policy.source found.2).entries →
      invariant (policy.ghost found)) (initial : invariant policy)
    (stored : ∀ entry ∈ found, entry.1 ∈ (policy.source entry.2).entries)
    (distinct : (found.map fun entry => entry.1.1).Nodup) :
    invariant (found.foldl ghost policy) ∧
      policy.held.Perm (found.map Prod.fst ++ (found.foldl ghost policy).held) := by
  induction found generalizing policy with
  | nil => exact ⟨initial, List.Perm.refl _⟩
  | cons first rest ih =>
    obtain ⟨here, others⟩ := List.forall_mem_cons.mp stored
    obtain ⟨different, distinct⟩ := List.nodup_cons.mp distinct
    obtain ⟨removed, elsewhere⟩ := ghost_spec here
    have left : ∀ entry ∈ rest, entry.1 ∈ ((policy.ghost first).source entry.2).entries := by
      intro entry member
      refine elsewhere entry.2 entry.1 (others entry member) fun same => different ?_
      exact List.mem_map.mpr ⟨entry, member, same⟩
    obtain ⟨final, taken⟩ := ih (kept policy first initial here) left distinct
    exact ⟨final, removed.trans (taken.cons first.1)⟩

theorem evict_spec (wellFormed : policy.WellFormed) {protectedKeys : List Key}
    {found : List (Key × BlockStatus)} {after : ARCCachePolicy Key Size}
    (evicted : policy.evict n protectedKeys = some (found, after)) :
    after.WellFormed ∧ found.length = n ∧ policy.held.Perm (found ++ after.held) ∧
      ∀ entry ∈ found, entry.2.refCnt = 0 ∧ entry.1 ∉ protectedKeys := by
  unfold evict at evicted
  split at evicted
  · rename_i nothing
    obtain ⟨rfl, rfl⟩ := Prod.mk.inj (some.inj evicted)
    exact ⟨wellFormed, nothing.symm, List.Perm.refl _, nofun⟩
  · obtain ⟨_, picked, same⟩ := map_eq_some_iff.mp evicted
    obtain ⟨rfl, rfl⟩ := Prod.mk.inj same
    obtain ⟨count, distinct, sound⟩ := candidates_spec picked
    obtain ⟨kept, removed⟩ := ghosts_spec WellFormed
      (fun _ found wellFormed _ => ghost_wellFormed wellFormed found) wellFormed
      (fun entry member => (sound entry member).1) distinct
    refine ⟨kept, by rw [length_map, count], removed, fun entry member => ?_⟩
    obtain ⟨whole, inside, rfl⟩ := List.mem_map.mp member
    obtain ⟨_, idle, unprotected, _⟩ := sound whole inside
    exact ⟨idle, unprotected⟩

omit [TargetSize Size] in
theorem assign_spec (wellFormed : policy.WellFormed) (inside : (key, block) ∈ policy.held) :
    (policy.assign key changed).WellFormed ∧
      Reassigned policy.held key block changed (policy.assign key changed).held := by
  unfold assign held
  by_cases first : key ∈ policy.t1.keys
  · rw [if_pos first]
    have stored := mem_t1 wellFormed inside first
    refine ⟨fun other member => ?_, _, (perm_erase stored).append_right _,
      (perm_replace first).append_right _⟩
    rw [keys_replace] at member
    exact wellFormed other member
  · rw [if_neg first]
    have stored := mem_t2 inside first
    have second : key ∈ policy.t2.keys := mem_keys.mpr ⟨block, stored⟩
    refine ⟨fun other member => ?_, policy.t1.entries ++ (policy.t2.erase key).entries, ?_, ?_⟩
    · dsimp only
      rw [keys_replace]
      exact wellFormed other member
    · exact ((perm_erase stored).append_left _).trans perm_middle
    · exact ((perm_replace second).append_left _).trans perm_middle

end ARCCachePolicy

namespace CachePolicy

variable {Size : Type}

def held : CachePolicy Key Size → List (Key × BlockStatus)
  | .lru policy => policy.blocks.entries
  | .arc policy => policy.held

def WellFormed : CachePolicy Key Size → Prop
  | .lru policy => policy.WellFormed
  | .arc policy => policy.WellFormed

variable {policy : CachePolicy Key Size} {key : Key} {block : BlockStatus}

section

variable (wellFormed : policy.WellFormed)

include wellFormed

theorem get_eq_some_iff :
    policy.get key = some block ↔ (key, block) ∈ policy.held := by
  cases policy with
  | lru policy => exact get?_eq_some_iff
  | arc policy => exact get_eq_some_iff wellFormed

theorem held_keys_nodup :
    (policy.held.map fst).Nodup := by
  cases policy with
  | lru policy => exact policy.blocks.distinct
  | arc policy =>
    rw [held, ARCCachePolicy.held, map_append]
    refine List.nodup_append.mpr ⟨policy.t1.distinct, policy.t2.distinct, ?_⟩
    rintro first inFirst _ inSecond rfl
    exact wellFormed first inFirst inSecond

theorem get_eq_none_iff :
    policy.get key = none ↔ key ∉ policy.held.map fst := by
  rw [eq_none_iff_forall_ne_some]
  simp [get_eq_some_iff wellFormed]

theorem insert_spec (absent : key ∉ policy.held.map fst) :
    (policy.insert key block).WellFormed ∧
      (policy.insert key block).held.Perm ((key, block) :: policy.held) := by
  cases policy with
  | lru policy =>
    refine ⟨insert_wellFormed wellFormed absent, ?_⟩
    change (policy.blocks.insert key block).entries.Perm ((key, block) :: policy.blocks.entries)
    rw [entries_insert_of_absent absent]
    exact perm_append_comm
  | arc policy =>
    rw [held, ARCCachePolicy.held, map_append, mem_append, not_or] at absent
    exact insert_spec wellFormed absent.1 absent.2

theorem remove_spec (inside : (key, block) ∈ policy.held) :
    ∃ after, policy.remove key = .ok after ∧ after.WellFormed ∧
      policy.held.Perm ((key, block) :: after.held) := by
  cases policy with
  | lru policy =>
    obtain ⟨after, done, kept, removed⟩ := remove_spec wellFormed inside
    refine ⟨.lru after, ?_, kept, removed⟩
    rw [remove, done]
    rfl
  | arc policy =>
    exact ⟨_, rfl, remove_spec wellFormed inside⟩

variable [TargetSize Size]

theorem touch_spec (keys : List Key) :
    (policy.touch keys).WellFormed ∧ (policy.touch keys).held.Perm policy.held := by
  cases policy with
  | lru policy =>
    obtain ⟨kept, same⟩ := touch_spec wellFormed keys
    refine ⟨kept, ?_⟩
    rw [touch, held, same, held]
  | arc policy => exact touch_spec wellFormed keys

end

theorem clear_spec [TargetSize Size] (policy : CachePolicy Key Size) :
    policy.clear.WellFormed ∧ policy.clear.held = [] := by
  cases policy with
  | lru policy => exact ⟨fun key => by simp [LRUCachePolicy.clear, LRUCachePolicy.create], rfl⟩
  | arc policy => exact ⟨fun _ member => absurd member not_mem_nil, rfl⟩

theorem evict_spec [TargetSize Size] (wellFormed : policy.WellFormed) (n : Nat) (protectedKeys : List Key) :
    ∃ result, policy.evict n protectedKeys = .ok result ∧
      ∀ found after, result = some (found, after) → after.WellFormed ∧ found.length = n ∧
        policy.held.Perm (found ++ after.held) ∧
        ∀ entry ∈ found, entry.2.refCnt = 0 ∧ entry.1 ∉ protectedKeys := by
  cases policy with
  | lru policy =>
    obtain ⟨result, done, spec⟩ := evict_spec wellFormed n protectedKeys
    refine ⟨_, by rw [evict, done]; rfl, ?_⟩
    rintro found after same
    obtain ⟨⟨taken, rest⟩, evicted, pair⟩ := map_eq_some_iff.mp same
    obtain ⟨rfl, rfl⟩ := mk.inj pair
    exact spec taken rest evicted
  | arc policy =>
    refine ⟨_, rfl, ?_⟩
    rintro found after same
    obtain ⟨⟨taken, rest⟩, evicted, pair⟩ := map_eq_some_iff.mp same
    obtain ⟨rfl, rfl⟩ := mk.inj pair
    exact evict_spec wellFormed evicted

section

variable (wellFormed : policy.WellFormed)

include wellFormed

section

variable (inside : (key, block) ∈ policy.held)

include inside

theorem assign_busy
    (changed : BlockStatus) (before : block.refCnt ≠ 0) (now : changed.refCnt ≠ 0) :
    (policy.assign key changed).WellFormed ∧
      Reassigned policy.held key block changed (policy.assign key changed).held := by
  cases policy with
  | lru policy =>
    refine ⟨assign_wellFormed wellFormed inside (fun _ _ => Iff.rfl) ?_, assign_reassigned inside⟩
    rw [wellFormed key, get?_eq_some_iff.mpr inside]
    simp [before, now]
  | arc policy => exact assign_spec wellFormed inside

theorem assign_claimed
    (changed : BlockStatus) (before : block.refCnt = 0) (now : changed.refCnt ≠ 0) :
    ∃ marked, policy.markNonEvictable key = .ok marked ∧ (marked.assign key changed).WellFormed ∧
      Reassigned policy.held key block changed (marked.assign key changed).held := by
  cases policy with
  | lru policy =>
    have listed : key ∈ policy.evictableBlocks.keys :=
      (wellFormed key).mpr ⟨block, get?_eq_some_iff.mpr inside, before⟩
    have marked : policy.markNonEvictable key =
        .ok { policy with evictableBlocks := policy.evictableBlocks.erase key } := if_pos listed
    refine ⟨.lru { policy with evictableBlocks := policy.evictableBlocks.erase key },
      by rw [markNonEvictable, marked]; rfl, ?_, assign_reassigned inside⟩
    refine assign_wellFormed wellFormed inside (fun other different => ?_) ?_
    · simp [different]
    · simp [now]
  | arc policy => exact ⟨_, rfl, assign_spec wellFormed inside⟩

theorem assign_released
    (changed : BlockStatus) (now : changed.refCnt = 0) :
    ((policy.assign key changed).markEvictable key).WellFormed ∧
      Reassigned policy.held key block changed
        ((policy.assign key changed).markEvictable key).held := by
  cases policy with
  | lru policy =>
    refine ⟨?_, assign_reassigned inside⟩
    refine assign_wellFormed wellFormed inside (fun other different => ?_) ?_
    · change other ∈ (policy.evictableBlocks.insert key ()).keys ↔ _
      simp [different]
    · change key ∈ (policy.evictableBlocks.insert key ()).keys ↔ _
      simp [now]
  | arc policy => exact assign_spec wellFormed inside

end

end

end CachePolicy

end VllmEngine

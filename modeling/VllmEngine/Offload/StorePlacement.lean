import VllmEngine.Offload.TransferSpec

set_option autoImplicit false

namespace VllmEngine

open List Prod

def holdsBlock (table : List Nat) (index : Nat) : Bool := table.getD index 0 != 0

namespace GroupBlocks

variable {table indices : List Nat} {blocks : GroupBlocks} {index : Nat}

theorem add_of_null (within : index < table.length) (null : holdsBlock table index = false) :
    blocks.add table index = .ok blocks := by
  have value : table[index] = 0 := by simpa [holdsBlock, within] using null
  simp [add, within, value]

theorem add_of_holds (within : index < table.length) (holds : holdsBlock table index = true) :
    blocks.add table index = .ok {
      startGpuBlockIdx := blocks.startGpuBlockIdx.or (some index)
      blockIds := blocks.blockIds ++ [table.getD index 0] } := by
  have value : table[index] ≠ 0 := by simpa [holdsBlock, within] using holds
  simp [add, within, value]

theorem foldlM_add (inRange : ∀ index ∈ indices, index < table.length) :
    indices.foldlM (add table) blocks = .ok {
      startGpuBlockIdx := blocks.startGpuBlockIdx.or (indices.filter (holdsBlock table)).head?
      blockIds := blocks.blockIds ++ (indices.filter (holdsBlock table)).map (table.getD · 0) } := by
  induction indices generalizing blocks with
  | nil => simp [Except.pure]
  | cons index rest ih =>
    obtain ⟨within, others⟩ := List.forall_mem_cons.mp inRange
    rw [foldlM_cons]
    cases holds : holdsBlock table index with
    | false =>
      rw [add_of_null within holds, Outcome.ok_bind, ih others,
        filter_cons_of_neg (by simp [holds])]
    | true =>
      rw [add_of_holds within holds, Outcome.ok_bind, ih others, filter_cons_of_pos holds]
      simp

end GroupBlocks

structure GroupPlan where
  table : List Nat
  placed : List (Nat × Nat)

namespace GroupPlan

variable (b : Nat) (plan : GroupPlan)

def places : List (Nat × (Nat × Nat)) :=
  plan.placed.flatMap fun (chunk, block) =>
    (List.range b).map fun sub => (chunk * b + sub, (block, sub))

def kept : List (Nat × (Nat × Nat)) := (plan.places b).filter (holdsBlock plan.table ·.1)

def ids : List Nat := (plan.kept b).map fun place => plan.table.getD place.1 0

def run : List (Nat × Nat) :=
  ((slots b (plan.placed.map Prod.snd)).drop ((plan.places b).findIdx (holdsBlock plan.table ·.1))).take
    (plan.kept b).length

def Stores : Prop :=
  ∀ pair ∈ plan.placed, pair.1 * b + b ≤ plan.table.length ∧
    holdsBlock plan.table (pair.1 * b + (b - 1))

variable {b plan}

theorem places_fst : (plan.places b).map fst = subBlocks b (plan.placed.map fst) := by
  simp [places, subBlocks, map_flatMap, flatMap_map, Function.comp_def]

theorem places_snd : (plan.places b).map snd = slots b (plan.placed.map snd) := by
  simp [places, slots, SProd.sprod, List.product, map_flatMap, flatMap_map, Function.comp_def]

@[simp] theorem length_places : (plan.places b).length = plan.placed.length * b := by
  rw [← length_map snd, places_snd, length_slots, length_map]

section

variable (positive : 0 < b) (stores : plan.Stores b)

include positive stores

theorem last_kept : ∀ place ∈ (plan.places b).getLast?, holdsBlock plan.table place.1 := by
  obtain ⟨table, placed⟩ := plan
  rcases eq_nil_or_concat placed with rfl | ⟨_, pair, rfl⟩
  · simp [places]
  · intro place last
    have final := (stores pair (by simp)).2
    have ends : (List.range b).getLast? = some (b - 1) := by
      rw [getLast?_range, if_neg (Nat.ne_of_gt positive)]
    rw [places, concat_eq_append, flatMap_append, flatMap_singleton,
      getLast?_append, getLast?_map, ends] at last
    cases last
    exact final

theorem start_spec :
    (plan.places b).findIdx (holdsBlock plan.table ·.1) < b ∧ (plan.placed ≠ [] →
      (((plan.kept b).map fst).head?.getD 0) % b =
        (plan.places b).findIdx (holdsBlock plan.table ·.1)) := by
  obtain ⟨table, placed⟩ := plan
  cases placed with
  | nil =>
    refine ⟨?_, fun nonempty => absurd rfl nonempty⟩
    simpa [places] using positive
  | cons pair placed =>
    have final := (stores pair mem_cons_self).2
    generalize first : ((List.range b).map fun sub => (pair.1 * b + sub, (pair.2, sub))) = chunk
    have shape : places b ⟨table, pair :: placed⟩ = chunk ++ places b ⟨table, placed⟩ := by
      rw [← first]
      rfl
    have length : chunk.length = b := by rw [← first, length_map, length_range]
    have found : chunk.findIdx (holdsBlock table ·.1) < chunk.length := by
      rw [findIdx_lt_length]
      refine ⟨(pair.1 * b + (b - 1), (pair.2, b - 1)), ?_, final⟩
      rw [← first]
      exact List.mem_map.mpr ⟨b - 1, List.mem_range.mpr (by omega), rfl⟩
    have start : (places b ⟨table, pair :: placed⟩).findIdx (holdsBlock table ·.1) =
        chunk.findIdx (holdsBlock table ·.1) := by
      rw [shape, findIdx_append, if_pos found]
    rw [length] at found
    refine ⟨by rwa [start], fun _ => ?_⟩
    rw [kept, head?_map, Gapless.head?_filter_eq, start, shape,
      getElem?_append_left (by omega), ← first, getElem?_map, getElem?_range (by rwa [first])]
    rw [first]
    simp only [Option.map_some, Option.getD_some]
    rw [Nat.mul_comm, Nat.mul_add_mod, Nat.mod_eq_of_lt found]

theorem kept_eq_run_iff (distinct : (plan.placed.map snd).Nodup) :
    (plan.kept b).map snd = plan.run b ↔
      Gapless (holdsBlock plan.table) (subBlocks b (plan.placed.map fst)) := by
  rw [← places_fst, run, ← places_snd]
  apply Gapless.filter_eq_run_iff
  · rw [places_snd]
    exact nodup_slots b distinct
  · exact last_kept positive stores

end

variable (b plan) in
theorem start_add_length_le :
    (plan.places b).findIdx (holdsBlock plan.table ·.1) + (plan.kept b).length ≤
      plan.placed.length * b := by
  have bound := Gapless.findIdx_add_length_filter_le (holdsBlock plan.table ·.1) (plan.places b)
  rwa [length_places] at bound

theorem start_add_length_of_gapless
    (gapless : Gapless (holdsBlock plan.table) (subBlocks b (plan.placed.map fst))) :
    (plan.places b).findIdx (holdsBlock plan.table ·.1) + (plan.kept b).length =
      plan.placed.length * b := by
  have exact := gapless.findIdx_add_length_filter
  rw [← places_fst, findIdx_map, filter_map, length_map, length_map, length_places] at exact
  exact exact

@[simp] theorem length_run : (plan.run b).length = (plan.kept b).length := by
  have bound := start_add_length_le b plan
  rw [run, length_take, length_drop, length_slots, length_map]
  omega

theorem lt_of_mem_run {slot : Nat × Nat} (member : slot ∈ plan.run b) : slot.2 < b :=
  lt_of_mem_slots (mem_of_mem_drop (mem_of_mem_take member))

theorem lt_of_mem_kept {place : Nat × (Nat × Nat)} (member : place ∈ plan.kept b) :
    place.2.2 < b := by
  have slot : place.2 ∈ (plan.places b).map snd :=
    List.mem_map.mpr ⟨place, (List.mem_filter.mp member).1, rfl⟩
  rw [places_snd] at slot
  exact lt_of_mem_slots slot

theorem kept_ne_nil (positive : 0 < b) (stores : plan.Stores b) (nonempty : plan.placed ≠ []) :
    plan.kept b ≠ [] := by
  obtain ⟨pair, _, split⟩ := exists_cons_of_ne_nil nonempty
  have listed : pair ∈ plan.placed := by rw [split]; exact mem_cons_self
  have final := (stores pair listed).2
  apply ne_nil_of_mem (a := (pair.1 * b + (b - 1), (pair.2, b - 1)))
  refine List.mem_filter.mpr ⟨List.mem_flatMap.mpr ⟨pair, listed, ?_⟩, final⟩
  exact List.mem_map.mpr ⟨b - 1, List.mem_range.mpr (by omega), rfl⟩

end GroupPlan

end VllmEngine

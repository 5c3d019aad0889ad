import VllmEngine.Worker.InputBatch

set_option autoImplicit false

namespace VllmEngine

open Outcome Function List Option AList Rows

namespace BatchUpdateBuilder

def Ordered (builder : BatchUpdateBuilder) : Prop :=
  builder.isRemovedSorted = true → builder.removedRows.Pairwise (· ≥ ·)

theorem holes_perm (builder : BatchUpdateBuilder) :
    builder.holes.Perm builder.removedRows := by
  unfold holes ensureRemovedSorted
  split
  · exact reverse_perm _
  · exact (reverse_perm _).trans (perm_insertionSort _ _)

variable {builder : BatchUpdateBuilder}

theorem holes_congr {other : BatchUpdateBuilder} (rows : builder.removedRows = other.removedRows)
    (flag : builder.isRemovedSorted = other.isRemovedSorted) : builder.holes = other.holes := by
  unfold holes ensureRemovedSorted
  rw [rows, flag]
  split
  · exact congrArg List.reverse rows
  · rfl

theorem mem_holes {row : Nat} :
    row ∈ builder.holes ↔ row ∈ builder.removedRows :=
  builder.holes_perm.mem_iff

theorem Ordered.pairwise (ordered : builder.Ordered) :
    builder.ensureRemovedSorted.removedRows.Pairwise (· ≥ ·) := by
  unfold ensureRemovedSorted
  split
  · next sorted => exact ordered sorted
  · exact pairwise_insertionSort (· ≥ ·) _

theorem Ordered.holes_lt (ordered : builder.Ordered) (distinct : builder.removedRows.Nodup) :
    builder.holes.Pairwise (· < ·) := by
  have ascending : builder.holes.Pairwise (· ≤ ·) :=
    List.pairwise_reverse.mpr ordered.pairwise
  have apart : builder.holes.Pairwise (· ≠ ·) := builder.holes_perm.nodup_iff.mpr distinct
  exact (ascending.and apart).imp fun both => by omega

section

variable (builder : BatchUpdateBuilder)

theorem ensureRemovedSorted_flag : builder.ensureRemovedSorted.isRemovedSorted = true := by
  unfold ensureRemovedSorted
  split
  · assumption
  · rfl

@[simp] theorem ensureRemovedSorted_ensureRemovedSorted :
    builder.ensureRemovedSorted.ensureRemovedSorted = builder.ensureRemovedSorted :=
  if_pos builder.ensureRemovedSorted_flag

@[simp] theorem ensureRemovedSorted_added : builder.ensureRemovedSorted.added = builder.added := by
  unfold ensureRemovedSorted
  split <;> rfl

@[simp] theorem ensureRemovedSorted_moved : builder.ensureRemovedSorted.moved = builder.moved := by
  unfold ensureRemovedSorted
  split <;> rfl

@[simp] theorem holes_ensureRemovedSorted : builder.ensureRemovedSorted.holes = builder.holes := by
  unfold holes
  rw [ensureRemovedSorted_ensureRemovedSorted]

end

theorem holes_eq_reverse (sorted : builder.isRemovedSorted = true) :
    builder.holes = builder.removedRows.reverse := by
  unfold holes ensureRemovedSorted
  rw [if_pos sorted]

theorem popRemoved_spec (builder : BatchUpdateBuilder) :
    builder.popRemoved.1 = builder.holes.head? ∧ builder.popRemoved.2.holes = builder.holes.tail ∧
      builder.popRemoved.2.added = builder.added ∧
      builder.popRemoved.2.moved = builder.moved := by
  unfold popRemoved
  split
  · next none =>
    have empty : builder.removedRows = [] := by simpa using none
    have noHoles : builder.holes = [] := by
      have perm := builder.holes_perm
      rw [empty] at perm
      exact perm.eq_nil
    simp [noHoles]
  · dsimp only
    refine ⟨?_, ?_, builder.ensureRemovedSorted_added, builder.ensureRemovedSorted_moved⟩
    · unfold holes
      rw [head?_reverse]
    · refine (holes_eq_reverse ?_).trans ?_
      · exact builder.ensureRemovedSorted_flag
      · unfold holes
        rw [tail_reverse]

theorem Ordered.popRemoved (ordered : builder.Ordered) :
    builder.popRemoved.2.Ordered := by
  unfold BatchUpdateBuilder.popRemoved
  split
  · exact ordered
  · intro _
    exact ordered.pairwise.sublist (dropLast_sublist _)

theorem popRemoved_sorted (sorted : builder.isRemovedSorted = true) :
    builder.popRemoved.2.isRemovedSorted = true := by
  unfold BatchUpdateBuilder.popRemoved
  split
  · exact sorted
  · exact builder.ensureRemovedSorted_flag

end BatchUpdateBuilder

def Locates (dict : AList fun _ : RequestId => Nat) (rows : Nat → Option RequestId) : Prop :=
  ∀ reqId row, dict.lookup reqId = some row ↔ rows row = some reqId

namespace Locates

variable {dict : AList fun _ : RequestId => Nat} {rows : Nat → Option RequestId} {reqId : RequestId}
  {row : Nat}

section

variable (located : Locates dict rows)

include located

theorem row_unique {row other : Nat}
    (here : rows row = some reqId) (there : rows other = some reqId) : row = other := by
  rw [← located] at here there
  exact some.inj (here.symm.trans there)

theorem of_eq {others : Nat → Option RequestId}
    (same : others = rows) : Locates dict others :=
  same ▸ located

theorem erase (here : rows row = some reqId) :
    Locates (dict.erase reqId) (update rows row none) := by
  intro other place
  by_cases same : other = reqId
  · subst same
    rw [lookup_erase]
    by_cases atRow : place = row
    · simp [atRow]
    · rw [update_of_ne atRow]
      constructor
      · exact fun none => nomatch none
      · exact fun there => absurd (located.row_unique there here) atRow
  · rw [lookup_erase_ne same, located other place]
    by_cases atRow : place = row
    · subst atRow
      simp [here, Ne.symm same]
    · rw [update_of_ne atRow]

theorem insert
    (absent : dict.lookup reqId = none) (empty : rows row = none) :
    Locates (dict.insert reqId row) (update rows row (some reqId)) := by
  intro other place
  by_cases same : other = reqId
  · subst same
    rw [lookup_insert]
    by_cases atRow : place = row
    · simp [atRow]
    · rw [update_of_ne atRow, ← located other place, absent]
      simp [Ne.symm atRow]
  · rw [lookup_insert_ne same, located other place]
    by_cases atRow : place = row
    · subst atRow
      simp [empty, Ne.symm same]
    · rw [update_of_ne atRow]

theorem move {source target : Nat}
    (here : rows source = some reqId) (empty : rows target = none) :
    Locates (dict.insert reqId target) (move rows source target) := by
  have apart : target ≠ source := by
    intro same
    rw [same, here] at empty
    cases empty
  intro other place
  by_cases same : other = reqId
  · subst same
    rw [lookup_insert]
    by_cases atTarget : place = target
    · subst atTarget
      simp [move_target _ _ _ apart, here]
    · by_cases atSource : place = source
      · subst atSource
        simp [move_source, apart]
      · rw [move_other _ _ _ _ atSource atTarget]
        constructor
        · intro found
          exact absurd (some.inj found).symm atTarget
        · exact fun there => absurd (located.row_unique there here) atSource
  · rw [lookup_insert_ne same, located other place]
    by_cases atTarget : place = target
    · subst atTarget
      simp [move_target _ _ _ apart, here, empty, Ne.symm same]
    · by_cases atSource : place = source
      · subst atSource
        simp [move_source, here, Ne.symm same]
      · rw [move_other _ _ _ _ atSource atTarget]

theorem swap {id1 id2 : RequestId} {i1 i2 : Nat}
    (first : rows i1 = some id1) (second : rows i2 = some id2) :
    Locates ((dict.insert id1 i2).insert id2 i1) (swap rows i1 i2) := by
  intro other place
  rw [swap_apply]
  unfold exchanged
  by_cases isSecond : other = id2
  · subst isSecond
    rw [lookup_insert]
    split
    · next atFirst => simp [atFirst, second]
    · next notFirst =>
      split
      · next atSecond =>
        subst atSecond
        constructor
        · exact fun found => absurd (some.inj found).symm notFirst
        · intro there
          exact absurd (located.row_unique there second) (Ne.symm notFirst)
      · next notSecond =>
        constructor
        · exact fun found => absurd (some.inj found).symm notFirst
        · exact fun there => absurd (located.row_unique there second) notSecond
  · rw [lookup_insert_ne isSecond]
    by_cases isFirst : other = id1
    · subst isFirst
      rw [lookup_insert]
      split
      · next atFirst =>
        rw [second]
        constructor
        · intro found
          have same : i1 = i2 := atFirst.symm.trans (some.inj found).symm
          rw [same, second] at first
          exact first
        · intro same
          exact absurd (some.inj same).symm isSecond
      · next notFirst =>
        split
        · next atSecond => simp [atSecond, first]
        · next notSecond =>
          constructor
          · exact fun found => absurd (some.inj found).symm notSecond
          · exact fun there => absurd (located.row_unique there first) notFirst
    · rw [lookup_insert_ne isFirst, located other place]
      split
      · next atFirst => simp [atFirst, first, second, Ne.symm isFirst, Ne.symm isSecond]
      · split
        · next atSecond => simp [atSecond, first, second, Ne.symm isFirst, Ne.symm isSecond]
        · exact Iff.rfl

end

end Locates

namespace InputBatch

def occupant (batch : InputBatch) (row : Nat) : Option RequestId := (batch.reqIds[row]?).join

variable {batch : InputBatch} {row : Nat} {reqId : RequestId}

theorem occupant_eq_some :
    batch.occupant row = some reqId ↔ batch.reqIds[row]? = some (some reqId) := by
  simp [occupant, join_eq_some_iff]

theorem occupant_lt (live : batch.occupant row ≠ none) :
    row < batch.reqIds.length := by
  by_contra beyond
  apply live
  simp [occupant, getElem?_eq_none (by omega : batch.reqIds.length ≤ row)]

structure Indexed (batch : InputBatch) : Prop where
  index : Locates batch.reqIdToIndex batch.occupant
  outputs : batch.reqOutputTokenIds = batch.reqIds
  spec : batch.reqIds.length ≤ batch.specTokenIds.length
  fresh : ∀ row, batch.reqIds.length ≤ row → batch.specTokenIds.getD row [] = []

-- Between the removals of a step and its `condense`: the freed rows are the empty ones.
structure Open (batch : InputBatch) : Prop extends Indexed batch where
  ordered : batch.batchUpdateBuilder.Ordered
  distinct : batch.batchUpdateBuilder.removedRows.Nodup
  empty : ∀ row, row ∈ batch.batchUpdateBuilder.removedRows ↔ batch.reqIds[row]? = some none

structure Settled (batch : InputBatch) : Prop extends Indexed batch where
  full : ∀ row < batch.reqIds.length, batch.occupant row ≠ none

theorem Indexed.mem_keys (indexed : batch.Indexed) :
    reqId ∈ batch.reqIdToIndex.keys ↔ ∃ row, batch.occupant row = some reqId := by
  rw [← AList.mem_keys, ← AList.lookup_isSome, isSome_iff_exists]
  exact exists_congr fun row => indexed.index reqId row

theorem Indexed.numReqs_eq_countP (indexed : batch.Indexed) {bound : Nat}
    (beyond : ∀ row, bound ≤ row → batch.occupant row = none) :
    batch.numReqs = (List.range bound).countP fun row => (batch.occupant row).isSome := by
  have distinct : ((List.range bound).filterMap batch.occupant).Nodup :=
    List.Nodup.filterMap (fun _ _ _ here there => indexed.index.row_unique here there)
      nodup_range
  have perm : batch.reqIdToIndex.keys.Perm ((List.range bound).filterMap batch.occupant) := by
    rw [perm_ext_iff_of_nodup batch.reqIdToIndex.keys_nodup distinct]
    intro reqId
    rw [indexed.mem_keys, mem_filterMap]
    constructor
    · rintro ⟨row, here⟩
      refine ⟨row, List.mem_range.mpr ?_, here⟩
      by_contra above
      rw [beyond row (by omega)] at here
      cases here
    · rintro ⟨row, _, here⟩
      exact ⟨row, here⟩
  calc batch.numReqs = ((List.range bound).filterMap batch.occupant).length := perm.length_eq
    _ = _ := length_filterMap_eq_countP

theorem Indexed.numReqs_of_dense (indexed : batch.Indexed) {count : Nat}
    (dense : Rows.Dense batch.occupant count) : batch.numReqs = count := by
  rw [indexed.numReqs_eq_countP fun row beyond => (dense row).mpr beyond]
  have all : (List.range count).countP (fun row => (batch.occupant row).isSome) =
      (List.range count).length := by
    rw [countP_eq_length]
    intro row inside
    rw [isSome_iff_ne_none]
    intro none
    exact absurd ((dense row).mp none) (by have := List.mem_range.mp inside; omega)
  rw [all, length_range]

theorem occupant_beyond (beyond : batch.reqIds.length ≤ row) :
    batch.occupant row = none := by
  simp [occupant, getElem?_eq_none beyond]

theorem Open.mem_removed (isOpen : batch.Open) :
    row ∈ batch.batchUpdateBuilder.removedRows ↔
      row < batch.reqIds.length ∧ batch.occupant row = none := by
  rw [isOpen.empty]
  constructor
  · intro hole
    exact ⟨(List.getElem?_eq_some_iff.mp hole).1, by simp [occupant, hole]⟩
  · rintro ⟨within, none⟩
    unfold occupant at none
    rw [getElem?_eq_getElem within] at none ⊢
    exact congrArg some (by simpa using none)

theorem Open.length_eq (isOpen : batch.Open) :
    batch.reqIds.length = batch.numReqs + batch.batchUpdateBuilder.removedRows.length := by
  have live := isOpen.numReqs_eq_countP fun row => occupant_beyond
  have perm : batch.batchUpdateBuilder.removedRows.Perm
      ((List.range batch.reqIds.length).filter fun row => ¬(batch.occupant row).isSome) := by
    rw [perm_ext_iff_of_nodup isOpen.distinct (List.nodup_range.filter _)]
    intro row
    rw [isOpen.mem_removed, mem_filter, mem_range]
    simp
  rw [live, perm.length_eq, ← countP_eq_length_filter, ← length_eq_countP_add_countP, length_range]

theorem Settled.dense (settled : batch.Settled) :
    Rows.Dense batch.occupant batch.reqIds.length := by
  intro row
  constructor
  · intro none
    by_contra below
    exact settled.full row (by omega) none
  · exact occupant_beyond

theorem Settled.numReqs_eq (settled : batch.Settled) :
    batch.numReqs = batch.reqIds.length :=
  settled.toIndexed.numReqs_of_dense settled.dense

theorem Settled.bijection (settled : batch.Settled) :
    (∀ reqId row, batch.reqIdToIndex.lookup reqId = some row → row < batch.numReqs) ∧
      ∀ row < batch.numReqs, ∃! reqId, batch.reqIdToIndex.lookup reqId = some row := by
  rw [settled.numReqs_eq]
  constructor
  · intro reqId row found
    rw [settled.index reqId row] at found
    exact occupant_lt (by simp [found])
  · intro row below
    obtain ⟨reqId, here⟩ := ne_none_iff_exists'.mp (settled.full row below)
    refine ⟨reqId, (settled.index reqId row).mpr here, fun other found => ?_⟩
    have there := (settled.index other row).mp found
    exact some.inj (there.symm.trans here)

end InputBatch

end VllmEngine

import VllmEngine.Worker.BatchIndex

set_option autoImplicit false

namespace VllmEngine

open Outcome Function List BatchUpdateBuilder InputBatch Rows Except

namespace InputBatch

variable {batch after moved : InputBatch} {A : Type}

def drafts (batch : InputBatch) (row : Nat) : List Int := batch.specTokenIds.getD row []

theorem read_set {B : Type} (read : Option A → B) (items : List A) {row : Nat} (value : A)
    (within : row < items.length) :
    (fun other => read (items.set row value)[other]?) =
      update (fun other => read items[other]?) row (read (some value)) := by
  funext other
  rw [getElem?_set]
  by_cases same : row = other
  · subst same
    simp [within]
  · simp [same, Ne.symm same]

theorem read_set_set {B : Type} (read : Option A → B) (items : List A) {first second : Nat}
    (value other : A) (within : first < items.length) (inside : second < items.length) :
    (fun row => read ((items.set first value).set second other)[row]?) =
      update (update (fun row => read items[row]?) first (read (some value))) second
        (read (some other)) := by
  rw [read_set _ _ _ (by simpa using inside), read_set _ _ _ within]

variable {reqId : RequestId} {row : Nat} {specTokenIds : List Int} {result : Option Nat}
  {request : CachedRequestState} {kept : InputBatch → Prop}

theorem Indexed.row_lt (indexed : batch.Indexed)
    (found : batch.reqIdToIndex.lookup reqId = some row) : row < batch.reqIds.length :=
  occupant_lt (by simp [(indexed.index reqId row).mp found])

theorem removeRequest_absent (absent : batch.reqIdToIndex.lookup reqId = none)
    (run : batch.removeRequest reqId = .ok (result, after)) : after = batch := by
  unfold removeRequest at run
  rw [absent] at run
  exact (Prod.mk.inj (ok.inj run)).2.symm

structure Removed (batch : InputBatch) (reqId : RequestId) (row : Nat) (after : InputBatch) :
    Prop where
  config : after.config = batch.config
  lookup : after.reqIdToIndex = batch.reqIdToIndex.erase reqId
  occupant : after.occupant = update batch.occupant row none
  drafts : after.drafts = update batch.drafts row []
  rows : after.rows = batch.rows.clear row
  added : after.batchUpdateBuilder.added = batch.batchUpdateBuilder.added
  moved : after.batchUpdateBuilder.moved = batch.batchUpdateBuilder.moved
  unread : after.batchUpdateBuilder.isRemovedSorted = false
  stillOpen : after.Open

theorem Indexed.written (indexed : batch.Indexed)
    (index : Locates after.reqIdToIndex after.occupant)
    (outputs : after.reqOutputTokenIds = after.reqIds)
    (grown : batch.reqIds.length ≤ after.reqIds.length)
    (spec : after.reqIds.length ≤ after.specTokenIds.length)
    (drafts : ∀ place, after.reqIds.length ≤ place → after.drafts place = batch.drafts place) :
    after.Indexed :=
  ⟨index, outputs, spec, fun place beyond =>
    (drafts place beyond).trans (indexed.fresh place (grown.trans beyond))⟩

section

variable (isOpen : batch.Open)

include isOpen

theorem Open.removeRequest (found : batch.reqIdToIndex.lookup reqId = some row)
    (run : batch.removeRequest reqId = .ok (result, after)) : Removed batch reqId row after := by
  have within : row < batch.reqIds.length := isOpen.row_lt found
  have here : batch.occupant row = some reqId := (isOpen.index reqId row).mp found
  have fresh : row ∉ batch.batchUpdateBuilder.removedRows := by
    intro member
    rw [isOpen.empty] at member
    rw [occupant_eq_some, member] at here
    cases here
  unfold InputBatch.removeRequest removedAppend at run
  rw [found] at run
  obtain ⟨_, append, run⟩ := bind_eq_ok.mp run
  split at append
  · cases append
  next unsorted =>
  cases append
  obtain ⟨-, rfl⟩ := Prod.mk.inj (ok.inj run)
  have flag : batch.batchUpdateBuilder.isRemovedSorted = false := by simpa using unsorted
  have occupied := read_set Option.join batch.reqIds none within
  have drafted := read_set (·.getD []) batch.specTokenIds [] (lt_of_lt_of_le within isOpen.spec)
  refine ⟨rfl, rfl, occupied, drafted, rfl, rfl, rfl, flag, ?_, ?_, ?_, ?_⟩
  · apply isOpen.toIndexed.written
    · exact (isOpen.index.erase here).of_eq occupied
    · exact congrArg (·.set row none) isOpen.outputs
    · simp
    · simpa using isOpen.spec
    · intro place beyond
      rw [length_set] at beyond
      exact (congrFun drafted place).trans (update_of_ne (by omega) _ _)
  · exact fun sorted => absurd (sorted.symm.trans flag) Bool.true_eq_false.mp
  · simpa using isOpen.distinct.concat fresh
  · intro place
    rw [mem_append, mem_singleton, isOpen.empty, getElem?_set]
    by_cases atRow : row = place
    · simp [atRow.symm, within]
    · simp [atRow, Ne.symm atRow]

def nextRow (batch : InputBatch) : Nat := batch.batchUpdateBuilder.holes.head?.getD batch.numReqs

theorem Open.settled_of_no_holes (none : batch.batchUpdateBuilder.holes = []) : batch.Settled := by
  refine ⟨isOpen.toIndexed, fun row within empty => ?_⟩
  have hole : batch.reqIds[row]? = some .none := by
    rw [getElem?_eq_getElem within]
    unfold occupant at empty
    rw [getElem?_eq_getElem within] at empty
    exact congrArg some (by simpa using empty)
  rw [← isOpen.empty, ← mem_holes, none] at hole
  exact absurd hole not_mem_nil

theorem Open.nextRow_cases :
    (∃ rest, batch.batchUpdateBuilder.holes = batch.nextRow :: rest ∧
      batch.reqIds[batch.nextRow]? = some none) ∨
    (batch.batchUpdateBuilder.holes = [] ∧ batch.nextRow = batch.reqIds.length) := by
  cases holes : batch.batchUpdateBuilder.holes with
  | nil =>
    right
    refine ⟨rfl, ?_⟩
    unfold nextRow
    rw [holes]
    exact (isOpen.settled_of_no_holes holes).numReqs_eq
  | cons row rest =>
    left
    have next : batch.nextRow = row := by
      unfold nextRow
      rw [holes]
      rfl
    refine ⟨rest, by rw [next], ?_⟩
    rw [next, ← isOpen.empty, ← mem_holes, holes]
    exact mem_cons_self

theorem Open.occupant_nextRow : batch.occupant batch.nextRow = none := by
  rcases isOpen.nextRow_cases with ⟨_, _, hole⟩ | ⟨_, last⟩
  · simp [occupant, hole]
  · simp [occupant, last]

structure Added (batch : InputBatch) (request : CachedRequestState) (row : Nat)
    (after : InputBatch) : Prop where
  config : after.config = batch.config
  lookup : after.reqIdToIndex = batch.reqIdToIndex.insert request.reqId row
  occupant : after.occupant = update batch.occupant row (some request.reqId)
  drafts : after.drafts = update batch.drafts row []
  rows : ∃ written, batch.rows.writeTokens batch.config row request = .ok written ∧
    after.rows = written.writeSampling batch.config row request
  holes : after.batchUpdateBuilder.holes = batch.batchUpdateBuilder.holes.tail
  added : after.batchUpdateBuilder.added = batch.batchUpdateBuilder.added ++
    [⟨row, request.samplingParams, request.promptTokenIds, request.reqId⟩]
  moved : after.batchUpdateBuilder.moved = batch.batchUpdateBuilder.moved
  stillOpen : after.Open

theorem Open.placeRequest (reqId : RequestId) :
    (batch.placeRequest batch.nextRow reqId).occupant =
        update batch.occupant batch.nextRow (some reqId) ∧
      (batch.placeRequest batch.nextRow reqId).drafts = update batch.drafts batch.nextRow [] ∧
      (batch.placeRequest batch.nextRow reqId).reqOutputTokenIds =
        (batch.placeRequest batch.nextRow reqId).reqIds ∧
      (batch.placeRequest batch.nextRow reqId).reqIds.length ≤
        (batch.placeRequest batch.nextRow reqId).specTokenIds.length ∧
      batch.reqIds.length ≤ (batch.placeRequest batch.nextRow reqId).reqIds.length ∧
      batch.nextRow < (batch.placeRequest batch.nextRow reqId).reqIds.length ∧
      ∀ place, (batch.placeRequest batch.nextRow reqId).reqIds[place]? = some none ↔
        batch.reqIds[place]? = some none ∧ place ≠ batch.nextRow := by
  rcases isOpen.nextRow_cases with ⟨_, _, hole⟩ | ⟨_, last⟩
  · have within : batch.nextRow < batch.reqIds.length := (List.getElem?_eq_some_iff.mp hole).1
    have specWithin := lt_of_lt_of_le within isOpen.spec
    unfold InputBatch.placeRequest
    rw [if_neg (by omega)]
    refine ⟨read_set _ _ _ within, read_set (·.getD []) _ _ specWithin, ?_, ?_, ?_, ?_, ?_⟩
    · dsimp only
      rw [isOpen.outputs]
    · simpa using isOpen.spec
    · simp
    · simpa using within
    · intro place
      rw [getElem?_set]
      by_cases same : batch.nextRow = place
      · simp [same.symm]
      · simp [same, Ne.symm same]
  · unfold InputBatch.placeRequest
    rw [if_pos last, last]
    refine ⟨?_, ?_, ?_, ?_, ?_, ?_, ?_⟩
    · funext place
      unfold occupant
      by_cases same : place = batch.reqIds.length
      · simp [same]
      · rw [update_of_ne same, getElem?_append]
        split
        · rfl
        · next beyond =>
          rw [getElem?_eq_none (by simp; omega), getElem?_eq_none (by omega)]
    · -- the row behind the last one had no drafts, and the list grows by an empty entry
      have unchanged : ∀ place, (batch.specTokenIds ++ [[]]).getD place [] =
          batch.specTokenIds.getD place [] := by
        intro place
        simp only [getD_eq_getElem?_getD, getElem?_append]
        split
        · rfl
        · next beyond =>
          rw [getElem?_eq_none (by omega : batch.specTokenIds.length ≤ place)]
          cases gap : place - batch.specTokenIds.length <;> simp
      funext place
      unfold drafts
      rw [unchanged]
      by_cases same : place = batch.reqIds.length
      · subst same
        rw [update_self, isOpen.fresh _ (le_refl _)]
      · rw [update_of_ne same]
    · dsimp only
      rw [isOpen.outputs]
    · simpa using isOpen.spec
    · simp
    · simp
    · intro place
      rw [getElem?_append]
      split
      · next inside => simp [show place ≠ batch.reqIds.length by omega]
      · next beyond =>
        rw [getElem?_eq_none (by omega : batch.reqIds.length ≤ place)]
        cases gap : place - batch.reqIds.length <;> simp

end

theorem placeRequest_frame (batch : InputBatch) (row : Nat) (reqId : RequestId) :
    (batch.placeRequest row reqId).config = batch.config ∧
      (batch.placeRequest row reqId).rows = batch.rows ∧
      (batch.placeRequest row reqId).reqIdToIndex = batch.reqIdToIndex.insert reqId row := by
  unfold placeRequest
  split <;> exact ⟨rfl, rfl, rfl⟩

theorem placeRequest_builder (batch : InputBatch) (builder : BatchUpdateBuilder) (row : Nat)
    (reqId : RequestId) :
    placeRequest { batch with batchUpdateBuilder := builder } row reqId =
      { batch.placeRequest row reqId with batchUpdateBuilder := builder } := by
  unfold placeRequest
  split <;> rfl

theorem registerAddRequest_spec (run : batch.registerAddRequest request = .ok (row, after)) :
    row = batch.nextRow ∧ ∃ builder, after = { batch with batchUpdateBuilder := builder } ∧
      builder.holes = batch.batchUpdateBuilder.holes.tail ∧
      builder.added = batch.batchUpdateBuilder.added ++
        [⟨batch.nextRow, request.samplingParams, request.promptTokenIds, request.reqId⟩] ∧
      builder.moved = batch.batchUpdateBuilder.moved ∧
      (batch.batchUpdateBuilder.Ordered → builder.Ordered) := by
  obtain ⟨first, rest, sameAdded, sameMoved⟩ := batch.batchUpdateBuilder.popRemoved_spec
  have next : batch.batchUpdateBuilder.popRemoved.1.getD batch.numReqs = batch.nextRow := by
    rw [first]
    rfl
  unfold registerAddRequest at run
  simp only [bind_eq_ok, next] at run
  obtain ⟨_, _, rfl, rfl⟩ := run
  refine ⟨rfl, _, rfl, ?_, congrArg (· ++ _) sameAdded, sameMoved, fun ordered => ordered.popRemoved⟩
  rw [← rest]
  exact holes_congr rfl rfl

theorem Open.addRequest (isOpen : batch.Open)
    (absent : batch.reqIdToIndex.lookup request.reqId = none)
    (run : batch.addRequest request = .ok (row, after)) :
    row = batch.nextRow ∧ Added batch request batch.nextRow after := by
  unfold InputBatch.addRequest at run
  simp only [bind_eq_ok] at run
  obtain ⟨⟨_, _⟩, registered, written, wrote, rfl, rfl⟩ := run
  obtain ⟨rfl, builder, rfl, popped, added, moved, ordered⟩ := registerAddRequest_spec registered
  rw [placeRequest_builder] at wrote ⊢
  obtain ⟨config, rows, dict⟩ := batch.placeRequest_frame batch.nextRow request.reqId
  obtain ⟨occupied, drafted, outputs, spec, grown, within, holes⟩ :=
    isOpen.placeRequest request.reqId
  rw [config, rows] at wrote
  have ascending := isOpen.ordered.holes_lt isOpen.distinct
  refine ⟨rfl, config, dict, occupied, drafted, ⟨written, wrote, by rw [config]⟩, popped, added, moved,
    ?_, ordered isOpen.ordered, ?_, ?_⟩
  · refine isOpen.toIndexed.written ?_ outputs grown spec fun other beyond => ?_
    · dsimp only
      rw [dict]
      exact (isOpen.index.insert absent isOpen.occupant_nextRow).of_eq occupied
    · have apart : other ≠ batch.nextRow := Nat.ne_of_gt (lt_of_lt_of_le within beyond)
      exact (congrFun drafted other).trans (update_of_ne apart _ _)
  · apply builder.holes_perm.nodup_iff.mp
    rw [popped]
    exact (ascending.imp Nat.ne_of_lt).sublist (tail_sublist _)
  · intro other
    refine mem_holes.symm.trans (Iff.trans ?_ (holes other).symm)
    rw [popped, ← isOpen.empty, ← mem_holes]
    rcases isOpen.nextRow_cases with ⟨_, shape, _⟩ | ⟨none, _⟩
    · rw [shape] at ascending ⊢
      have above := (pairwise_cons.mp ascending).1 other
      rw [tail_cons, mem_cons]
      constructor
      · exact fun member => ⟨.inr member, Ne.symm (Nat.ne_of_lt (above member))⟩
      · rintro ⟨same | member, apart⟩
        · exact absurd same apart
        · exact member
    · simp [none]

structure Drafted (batch : InputBatch) (row : Nat) (specTokenIds : List Int)
    (after : InputBatch) : Prop where
  config : after.config = batch.config
  lookup : after.reqIdToIndex = batch.reqIdToIndex
  ids : after.reqIds = batch.reqIds
  outputs : after.reqOutputTokenIds = batch.reqOutputTokenIds
  builder : after.batchUpdateBuilder = batch.batchUpdateBuilder
  specLength : after.specTokenIds.length = batch.specTokenIds.length
  drafts : after.drafts = update batch.drafts row specTokenIds

theorem Indexed.updateReqSpecTokenIds (indexed : batch.Indexed)
    (found : batch.reqIdToIndex.lookup reqId = some row)
    (run : batch.updateReqSpecTokenIds reqId specTokenIds = .ok after) :
    Drafted batch row specTokenIds after := by
  have drafted := read_set (·.getD []) batch.specTokenIds specTokenIds
    (lt_of_lt_of_le (indexed.row_lt found) indexed.spec)
  unfold InputBatch.updateReqSpecTokenIds at run
  rw [found] at run
  dsimp only at run
  split at run
  · next none =>
    obtain rfl : specTokenIds = [] := by simpa using none
    cases run
    exact ⟨rfl, rfl, rfl, rfl, rfl, length_set, drafted⟩
  · obtain ⟨_, _, run⟩ := bind_eq_ok.mp run
    cases run
    exact ⟨rfl, rfl, rfl, rfl, rfl, length_set, drafted⟩

theorem Drafted.occupant (drafted : Drafted batch row specTokenIds after) :
    after.occupant = batch.occupant := by
  unfold InputBatch.occupant
  rw [drafted.ids]

theorem Drafted.indexed (indexed : batch.Indexed) (within : row < batch.reqIds.length)
    (drafted : Drafted batch row specTokenIds after) :
    after.Indexed := by
  apply indexed.written
  · rw [drafted.lookup, drafted.occupant]
    exact indexed.index
  · rw [drafted.outputs, drafted.ids, indexed.outputs]
  · rw [drafted.ids]
  · rw [drafted.ids, drafted.specLength]
    exact indexed.spec
  · intro place beyond
    rw [drafted.ids] at beyond
    rw [drafted.drafts, update_of_ne (by omega)]

theorem Drafted.stillOpen (isOpen : batch.Open) (within : row < batch.reqIds.length)
    (drafted : Drafted batch row specTokenIds after) :
    after.Open := by
  refine ⟨drafted.indexed isOpen.toIndexed within, ?_, ?_, ?_⟩ <;> rw [drafted.builder]
  · exact isOpen.ordered
  · exact isOpen.distinct
  · rw [drafted.ids]
    exact isOpen.empty

structure Swapped (batch : InputBatch) (i1 i2 : Nat) (after : InputBatch) : Prop where
  config : after.config = batch.config
  occupant : after.occupant = Rows.swap batch.occupant i1 i2
  drafts : after.drafts = Rows.swap batch.drafts i1 i2
  rows : after.rows = batch.rows.swapStates batch.config.useReplayssm
    (max (batch.getActiveTokenCount i1) (batch.getActiveTokenCount i2)) i1 i2
  removed : after.batchUpdateBuilder.removedRows = batch.batchUpdateBuilder.removedRows
  added : after.batchUpdateBuilder.added = batch.batchUpdateBuilder.added
  moved : after.batchUpdateBuilder.moved = batch.batchUpdateBuilder.moved ++ [⟨i1, i2, .swap⟩]
  first : batch.occupant i1 ≠ none
  second : batch.occupant i2 ≠ none
  settled : after.Settled

theorem Settled.swapStates (settled : batch.Settled) {i1 i2 : Nat}
    (run : batch.swapStates i1 i2 = .ok after) : Swapped batch i1 i2 after := by
  unfold InputBatch.swapStates at run
  simp only [bind_eq_ok, pyGet_eq_ok] at run
  obtain ⟨id1, found1, id2, found2, run⟩ := run
  have within1 : i1 < batch.reqIds.length := (List.getElem?_eq_some_iff.mp found1).1
  have within2 : i2 < batch.reqIds.length := (List.getElem?_eq_some_iff.mp found2).1
  split at run
  swap
  · cases run
  rename_i _ _ id1 id2
  have here1 : batch.occupant i1 = some id1 := occupant_eq_some.mpr found1
  have here2 : batch.occupant i2 = some id2 := occupant_eq_some.mpr found2
  have output {row : Nat} {id : RequestId} (found : batch.reqIds[row]? = some (some id)) :
      batch.reqOutputTokenIds.getD row none = some id := by
    rw [settled.outputs, getD_eq_getElem?_getD, found]
    rfl
  rw [(settled.index id1 i1).mpr here1, (settled.index id2 i2).mpr here2] at run
  cases run
  have occupied : (fun row => (((batch.reqIds.set i1 (some id2)).set i2 (some id1))[row]?).join) =
      Rows.swap batch.occupant i1 i2 := by
    unfold Rows.swap
    rw [here1, here2]
    exact read_set_set _ _ _ _ within1 within2
  have drafted := read_set_set (·.getD []) batch.specTokenIds (batch.drafts i2) (batch.drafts i1)
    (lt_of_lt_of_le within1 settled.spec) (lt_of_lt_of_le within2 settled.spec)
  refine ⟨rfl, occupied, drafted, rfl, rfl, rfl, rfl, by simp [here1], by simp [here2], ?_, ?_⟩
  · apply settled.toIndexed.written
    · exact (settled.index.swap here1 here2).of_eq occupied
    · dsimp only
      rw [output found1, output found2, settled.outputs]
    · simp
    · simpa using settled.spec
    · intro place beyond
      simp only [length_set] at beyond
      exact (congrFun drafted place).trans
        (Rows.swap_other batch.drafts _ _ _ (by omega) (by omega))
  · intro row within
    simp only [length_set] at within
    have moved := (congrFun occupied row).trans (Rows.swap_apply batch.occupant i1 i2 row)
    refine fun none => settled.full (Rows.exchanged i1 i2 row) ?_ (moved.symm.trans none)
    unfold Rows.exchanged
    split_ifs <;> assumption

structure Moved (batch : InputBatch) (source target : Nat) (after : InputBatch) : Prop where
  config : after.config = batch.config
  occupant : after.occupant = Rows.move batch.occupant source target
  drafts : after.drafts = update (update batch.drafts target (batch.drafts source)) source []
  rows : after.rows = batch.rows.moveDown batch.config.useReplayssm
    (batch.getActiveTokenCount source) source target
  length : after.reqIds.length = batch.reqIds.length
  numReqs : after.numReqs = batch.numReqs
  holes : after.batchUpdateBuilder.holes = batch.batchUpdateBuilder.holes.tail
  sorted : batch.batchUpdateBuilder.isRemovedSorted = true →
    after.batchUpdateBuilder.isRemovedSorted = true
  added : after.batchUpdateBuilder.added = batch.batchUpdateBuilder.added
  moved : after.batchUpdateBuilder.moved =
    batch.batchUpdateBuilder.moved ++ [⟨source, target, .unidirectional⟩]
  indexed : after.Indexed

theorem Indexed.moveDown (indexed : batch.Indexed) {source target : Nat}
    (live : batch.occupant source ≠ none) (empty : batch.occupant target = none)
    (below : target < source) (run : batch.moveDown source target = .ok after) :
    Moved batch source target after := by
  obtain ⟨_, rest, sameAdded, sameMoved⟩ := batch.batchUpdateBuilder.popRemoved_spec
  have within : source < batch.reqIds.length := occupant_lt live
  have specWithin := lt_of_lt_of_le within indexed.spec
  unfold InputBatch.moveDown at run
  simp only [bind_eq_ok, pyGet_eq_ok] at run
  obtain ⟨reqId, found, _, outputFound, run⟩ := run
  split at run
  · cases run
  next reqId =>
  have here : batch.occupant source = some reqId := occupant_eq_some.mpr found
  rw [indexed.outputs, found] at outputFound
  cases outputFound
  cases run
  have occupied :
      (fun row => (((batch.reqIds.set target (some reqId)).set source none)[row]?).join) =
        move batch.occupant source target := by
    unfold move copy
    rw [here]
    exact read_set_set _ _ _ _ (by omega) within
  have drafted := read_set_set (·.getD []) batch.specTokenIds (batch.drafts source) []
    (below.trans specWithin) specWithin
  refine ⟨rfl, occupied, drafted, rfl, by simp, ?_, ?_, popRemoved_sorted,
    sameAdded, congrArg (· ++ _) sameMoved, ?_⟩
  · have member : reqId ∈ batch.reqIdToIndex.keys := indexed.mem_keys.mpr ⟨source, here⟩
    have positive := length_pos_of_mem member
    unfold numReqs
    rw [AList.keys_insert, length_cons, length_erase_of_mem member]
    omega
  · rw [← rest]
    exact holes_congr rfl rfl
  · apply indexed.written
    · exact (indexed.index.move here empty).of_eq occupied
    · dsimp only
      rw [indexed.outputs]
    · simp
    · simpa using indexed.spec
    · intro place beyond
      simp only [length_set] at beyond
      refine (congrFun drafted place).trans ?_
      rw [update_of_ne (by omega), update_of_ne (by omega)]
      rfl

structure Pass (batch : InputBatch) (source target : Nat) (after : InputBatch) : Prop
    extends Moved batch source target after where
  before : batch.Indexed
  live : batch.occupant source ≠ none
  empty : batch.occupant target = none
  below : target < source
  inBatch : target < batch.numReqs
  lowest : target ∈ batch.batchUpdateBuilder.holes
  others : ∀ row ∈ after.batchUpdateBuilder.holes,
    row ∈ batch.batchUpdateBuilder.holes ∧ row ≠ target ∧ row ≠ source

theorem Indexed.hole_lt_numReqs (indexed : batch.Indexed) {source hole : Nat}
    (lower : ∀ row < hole, batch.occupant row ≠ none) (live : batch.occupant source ≠ none)
    (below : hole < source) : hole < batch.numReqs := by
  have within : source < batch.reqIds.length := occupant_lt live
  have distinct : (range hole ++ [source]).Nodup := by
    rw [nodup_append]
    refine ⟨nodup_range, nodup_singleton source, fun row member other single => ?_⟩
    rw [mem_singleton.mp single]
    have := mem_range.mp member
    omega
  have inside : range hole ++ [source] ⊆ range batch.reqIds.length := by
    intro row member
    rw [mem_append, mem_range, mem_singleton] at member
    exact mem_range.mpr (by omega)
  have counted := (subperm_of_subset distinct inside).countP_le
    fun row => (batch.occupant row).isSome
  have all : (range hole ++ [source]).countP (fun row => (batch.occupant row).isSome) =
      (range hole ++ [source]).length := by
    rw [countP_eq_length]
    intro row member
    rw [mem_append, mem_range, mem_singleton] at member
    rw [Option.isSome_iff_ne_none]
    rcases member with member | rfl
    · exact lower row member
    · exact live
  rw [all, length_append, length_range, length_singleton,
    ← indexed.numReqs_eq_countP fun row => occupant_beyond] at counted
  omega

def condenseMoves (batch : InputBatch) : List (Nat × Nat) :=
  let holes := batch.batchUpdateBuilder.holes
  if batch.numReqs = 0 then [] else Rows.compactionMoves holes (batch.numReqs + holes.length - 1)

def asMoved (moves : List (Nat × Nat)) : List MovedRequest :=
  moves.map fun way => ⟨way.1, way.2, .unidirectional⟩

structure Looped (batch : InputBatch) (freed : List Nat) (last : Nat) (after : InputBatch) :
    Prop where
  indexed : after.Indexed
  occupant : after.occupant = applyMoves batch.occupant (compactionMoves freed last)
  holes : after.batchUpdateBuilder.holes = freed.drop (compactionMoves freed last).length
  added : after.batchUpdateBuilder.added = batch.batchUpdateBuilder.added
  moved : after.batchUpdateBuilder.moved = batch.batchUpdateBuilder.moved ++
    asMoved (compactionMoves freed last)
  length : after.reqIds.length = batch.reqIds.length
  numReqs : after.numReqs = batch.numReqs
  config : after.config = batch.config

variable {hole last : Nat} {holes : List Nat}

theorem Looped.stop (indexed : batch.Indexed) (freed : batch.batchUpdateBuilder.holes = holes)
    (none : compactionMoves holes last = []) : Looped batch holes last batch := by
  refine ⟨indexed, ?_, ?_, rfl, ?_, rfl, rfl, rfl⟩ <;> rw [none]
  · rfl
  · exact freed
  · exact (append_nil _).symm

theorem peekRemoved_of_holes {builder : BatchUpdateBuilder} (freed : builder.holes = hole :: holes) :
    builder.removedRows.isEmpty = false ∧ builder.peekRemoved.1 = some hole := by
  have member : hole ∈ builder.removedRows := by
    rw [← mem_holes, freed]
    exact mem_cons_self
  have peeked : builder.peekRemoved.1 = builder.popRemoved.1 := by
    unfold peekRemoved BatchUpdateBuilder.popRemoved
    split <;> rfl
  refine ⟨isEmpty_eq_false_iff.mpr (ne_nil_of_mem member), ?_⟩
  rw [peeked, builder.popRemoved_spec.1, freed]
  rfl

-- One round of the loop moves the last request into the lowest hole.
theorem Indexed.pass (indexed : batch.Indexed)
    (freed : batch.batchUpdateBuilder.holes = hole :: holes)
    (gaps : Gaps batch.occupant (hole :: holes) last)
    (below : hole < lastLive (hole :: holes) last)
    (run : batch.moveDown (lastLive (hole :: holes) last) hole = .ok after) :
    Pass batch (lastLive (hole :: holes) last) hole after := by
  obtain ⟨top, live, empty, -⟩ := gaps.step rfl below
  have step := indexed.moveDown live empty below run
  have sorted := pairwise_cons.mp gaps.sorted
  have inBatch : hole < batch.numReqs := by
    apply indexed.hole_lt_numReqs _ live below
    intro row lower none
    rcases mem_cons.mp ((gaps.hole row (by omega)).mp none) with _ | later
    · omega
    · exact absurd (sorted.1 row later) (by omega)
  refine ⟨step, indexed, live, empty, below, inBatch, ?_, fun row inNext => ?_⟩
  · rw [freed]
    exact mem_cons_self
  · have later : row ∈ holes := by
      rw [step.holes, freed] at inNext
      exact inNext
    have above := sorted.1 row later
    refine ⟨by rw [freed]; exact mem_cons_of_mem hole later, by omega, ?_⟩
    rintro rfl
    exact live ((gaps.hole _ top).mpr (mem_cons_of_mem hole later))

theorem Indexed.condenseLoop
    (pass : ∀ (batch after : InputBatch) (source target : Nat), kept batch →
      Pass batch source target after → kept after)
    (holes : List Nat) (last : Nat) (indexed : batch.Indexed)
    (sorted : batch.batchUpdateBuilder.isRemovedSorted = true)
    (freed : batch.batchUpdateBuilder.holes = holes) (gaps : Gaps batch.occupant holes last)
    (initial : kept batch) (run : condenseLoop holes.length last batch = .ok after) :
    kept after ∧ Looped batch holes last after := by
  induction holes generalizing batch last with
  | nil =>
    cases run
    exact ⟨initial, .stop indexed freed rfl⟩
  | cons hole holes ih =>
    have members : ∀ row, row ∈ batch.batchUpdateBuilder.removedRows ↔ row ∈ hole :: holes := by
      intro row
      rw [← freed, mem_holes]
    obtain ⟨nonempty, lowest⟩ := peekRemoved_of_holes freed
    unfold condenseLoop at run
    dsimp only [length_cons] at run
    rw [nonempty, lowest, lastLive_congr members last] at run
    have round : (if hole ≥ lastLive (hole :: holes) last then ok batch
        else do
          let next ← batch.moveDown (lastLive (hole :: holes) last) hole
          condenseLoop holes.length (lastLive (hole :: holes) last - 1) next) = .ok after := run
    by_cases stop : lastLive (hole :: holes) last ≤ hole
    · rw [if_pos stop] at round
      cases round
      exact ⟨initial, .stop indexed freed (if_pos stop)⟩
    · rw [if_neg stop] at round
      have moves : compactionMoves (hole :: holes) last =
          (lastLive (hole :: holes) last, hole) ::
            compactionMoves holes (lastLive (hole :: holes) last - 1) := if_neg stop
      obtain ⟨next, moveRun, moving⟩ := bind_eq_ok.mp round
      obtain ⟨_, _, _, left⟩ := gaps.step rfl (by omega)
      have step := indexed.pass freed gaps (by omega) moveRun
      have freedNext : next.batchUpdateBuilder.holes = holes := by
        rw [step.holes, freed]
        rfl
      rw [← step.occupant] at left
      obtain ⟨keptAfter, later⟩ := ih _ step.indexed (step.sorted sorted) freedNext left
        (pass batch next _ hole initial step) moving
      refine ⟨keptAfter, later.indexed, ?_, ?_, later.added.trans step.added, ?_,
        later.length.trans step.length, later.numReqs.trans step.numReqs,
        later.config.trans step.config⟩
      · rw [later.occupant, step.occupant, moves]
        rfl
      · rw [later.holes, moves, length_cons, drop_succ_cons]
      · rw [later.moved, step.moved, append_assoc, moves]
        rfl

structure Condensed (batch moved after : InputBatch) : Prop where
  config : after.config = batch.config
  sameConfig : after.config = moved.config
  occupant : after.occupant = Rows.applyMoves batch.occupant batch.condenseMoves
  sameOccupant : after.occupant = moved.occupant
  drafts : ∀ row, after.occupant row ≠ none → after.drafts row = moved.drafts row
  rows : after.rows = moved.rows
  holes : after.batchUpdateBuilder.holes =
    batch.batchUpdateBuilder.holes.drop batch.condenseMoves.length
  added : after.batchUpdateBuilder.added = batch.batchUpdateBuilder.added
  movedRows : after.batchUpdateBuilder.moved =
    batch.batchUpdateBuilder.moved ++ asMoved batch.condenseMoves
  settled : after.Settled

theorem Open.gaps (isOpen : batch.Open) (nonempty : batch.numReqs ≠ 0) :
    Gaps batch.occupant batch.batchUpdateBuilder.holes
      (batch.numReqs + batch.batchUpdateBuilder.holes.length - 1) := by
  have length := isOpen.length_eq
  rw [← batch.batchUpdateBuilder.holes_perm.length_eq] at length
  refine ⟨isOpen.ordered.holes_lt isOpen.distinct, fun row inside => ?_, fun row above => ?_⟩
  · rw [mem_holes, isOpen.mem_removed]
    exact ⟨fun empty => ⟨by omega, empty⟩, fun hole => hole.2⟩
  · exact occupant_beyond (by omega)

theorem Indexed.occupant_of_numReqs_zero (indexed : batch.Indexed) (zero : batch.numReqs = 0)
    (row : Nat) : batch.occupant row = none := by
  by_contra live
  obtain ⟨_, here⟩ := Option.ne_none_iff_exists'.mp live
  have member := indexed.mem_keys.mpr ⟨row, here⟩
  rw [length_eq_zero_iff.mp zero] at member
  exact absurd member not_mem_nil

theorem drafts_take {count : Nat} (spec : List (List Int)) (below : row < count) :
    (spec.take count).getD row [] = spec.getD row [] := by
  simp only [getD_eq_getElem?_getD, getElem?_take, below, if_true]

-- When the loop is left, the requests are in the rows below `num_reqs`.
theorem Open.dense_of_looped (isOpen : batch.Open) (nonzero : batch.numReqs ≠ 0)
    (looped : Looped { batch with batchUpdateBuilder := batch.batchUpdateBuilder.removed }
      batch.batchUpdateBuilder.holes
      (batch.numReqs + batch.batchUpdateBuilder.holes.length - 1) moved) :
    Rows.Dense moved.occupant batch.numReqs := by
  have gaps := isOpen.gaps nonzero
  obtain ⟨live, here⟩ : ∃ row, batch.occupant row ≠ none := by
    by_contra noneLive
    push Not at noneLive
    apply nonzero
    rw [isOpen.numReqs_eq_countP fun row => occupant_beyond, countP_eq_zero]
    intro row _
    simp [noneLive row]
  have bound : live ≤ batch.numReqs + batch.batchUpdateBuilder.holes.length - 1 := by
    by_contra above
    exact here (gaps.above live (by omega))
  obtain ⟨total, dense⟩ := gaps.dense bound here
  have dense : Rows.Dense moved.occupant total := by
    rw [looped.occupant]
    exact dense
  have exact : total = batch.numReqs :=
    (looped.indexed.numReqs_of_dense dense).symm.trans looped.numReqs
  rw [← exact]
  exact dense

theorem occupant_take {count : Nat} (dense : Rows.Dense batch.occupant count) :
    (fun row => ((batch.reqIds.take count)[row]?).join) = batch.occupant := by
  funext row
  rw [getElem?_take]
  by_cases below : row < count
  · rw [if_pos below]
    rfl
  · rw [(dense row).mpr (by omega), if_neg below]
    rfl

theorem Indexed.settled_take (indexed : batch.Indexed) {count : Nat}
    (dense : Rows.Dense batch.occupant count) (enough : count ≤ batch.reqIds.length) :
    { batch with
      reqIds := batch.reqIds.take count
      reqOutputTokenIds := batch.reqOutputTokenIds.take count
      specTokenIds := batch.specTokenIds.take count }.Settled := by
  have sameOccupant := occupant_take dense
  refine ⟨⟨indexed.index.of_eq sameOccupant, ?_, ?_, ?_⟩, fun row below empty => ?_⟩
  · exact congrArg (take count) indexed.outputs
  · simp only [length_take]
    have spec := indexed.spec
    omega
  · intro row beyond
    rw [length_take, Nat.min_eq_left enough] at beyond
    rw [getD_eq_getElem?_getD, getElem?_take, if_neg (by omega)]
    rfl
  · rw [length_take] at below
    have vacant := (congrFun sameOccupant row).symm.trans empty
    exact absurd ((dense row).mp vacant) (by omega)

-- Nothing is moved: there are no holes, or there is no request.
theorem Condensed.still (moves : batch.condenseMoves = []) (config : after.config = batch.config)
    (occupant : after.occupant = batch.occupant)
    (drafts : ∀ row, after.occupant row ≠ none → after.drafts row = batch.drafts row)
    (rows : after.rows = batch.rows)
    (builder : after.batchUpdateBuilder = batch.batchUpdateBuilder.removed)
    (settled : after.Settled) :
    Condensed batch { batch with batchUpdateBuilder := batch.batchUpdateBuilder.removed } after := by
  refine ⟨config, config, ?_, occupant, drafts, rows, ?_, ?_, ?_, settled⟩
  · rw [moves]
    exact occupant
  · rw [builder, moves]
    exact batch.batchUpdateBuilder.holes_ensureRemovedSorted
  · rw [builder]
    exact batch.batchUpdateBuilder.ensureRemovedSorted_added
  · rw [builder, moves]
    exact batch.batchUpdateBuilder.ensureRemovedSorted_moved.trans (append_nil _).symm

theorem Open.condensed_of_looped (isOpen : batch.Open) (nonzero : batch.numReqs ≠ 0)
    (looped : Looped { batch with batchUpdateBuilder := batch.batchUpdateBuilder.removed }
      batch.batchUpdateBuilder.holes
      (batch.numReqs + batch.batchUpdateBuilder.holes.length - 1) moved) :
    Condensed batch moved { moved with
      reqIds := moved.reqIds.take batch.numReqs
      reqOutputTokenIds := moved.reqOutputTokenIds.take batch.numReqs
      specTokenIds := moved.specTokenIds.take batch.numReqs } := by
  have dense := isOpen.dense_of_looped nonzero looped
  have sameOccupant := occupant_take dense
  have moves : compactionMoves batch.batchUpdateBuilder.holes
      (batch.numReqs + batch.batchUpdateBuilder.holes.length - 1) = batch.condenseMoves :=
    (if_neg nonzero).symm
  have enough : batch.numReqs ≤ moved.reqIds.length := by
    have total := isOpen.length_eq
    have sameLength : moved.reqIds.length = batch.reqIds.length := looped.length
    omega
  refine ⟨looped.config, rfl, ?_, sameOccupant, fun row live => ?_, rfl, ?_,
    looped.added.trans batch.batchUpdateBuilder.ensureRemovedSorted_added, ?_,
    looped.indexed.settled_take dense enough⟩
  · rw [← moves]
    exact sameOccupant.trans looped.occupant
  · apply drafts_take
    by_contra above
    exact live ((congrFun sameOccupant row).trans ((dense row).mpr (by omega)))
  · rw [← moves]
    exact looped.holes
  · rw [← moves]
    exact looped.moved.trans
      (congrArg (· ++ _) batch.batchUpdateBuilder.ensureRemovedSorted_moved)

theorem Open.condense (pass : ∀ (batch after : InputBatch) (source target : Nat), kept batch →
      Pass batch source target after → kept after)
    (isOpen : batch.Open)
    (initial : kept { batch with batchUpdateBuilder := batch.batchUpdateBuilder.removed })
    (run : batch.condense = .ok after) :
    ∃ moved, kept moved ∧ Condensed batch moved after := by
  unfold InputBatch.condense at run
  dsimp only at run
  have read : batch.batchUpdateBuilder.removed.removedRows =
      batch.batchUpdateBuilder.holes.reverse := by
    unfold holes
    rw [reverse_reverse]
    rfl
  split at run
  · next none =>
    have noHoles : batch.batchUpdateBuilder.holes = [] := by
      rw [read] at none
      simpa using none
    have settled := isOpen.settled_of_no_holes noHoles
    cases run
    refine ⟨_, initial, .still ?_ rfl rfl (fun _ _ => rfl) rfl rfl
      ⟨⟨settled.index, settled.outputs, settled.spec, settled.fresh⟩, settled.full⟩⟩
    unfold condenseMoves
    rw [noHoles]
    split <;> rfl
  · split at run
    · next zero =>
      have noneLive := isOpen.occupant_of_numReqs_zero zero
      cases run
      refine ⟨_, initial, .still (if_pos zero) rfl ?_ (fun row live => absurd rfl live) rfl rfl ?_⟩
      · funext row
        rw [noneLive row]
        rfl
      · refine ⟨⟨fun reqId row => ?_, rfl, le_refl 0, fun _ _ => rfl⟩, fun row below => ?_⟩
        · exact (isOpen.index reqId row).trans (by rw [noneLive row]; rfl)
        · exact absurd below (Nat.not_lt_zero row)
    · next nonzero =>
      obtain ⟨moved, loop, run⟩ := bind_eq_ok.mp run
      rw [read, length_reverse] at loop
      have startIndexed :
          { batch with batchUpdateBuilder := batch.batchUpdateBuilder.removed }.Indexed :=
        ⟨isOpen.index, isOpen.outputs, isOpen.spec, isOpen.fresh⟩
      obtain ⟨keptMoved, looped⟩ := startIndexed.condenseLoop pass batch.batchUpdateBuilder.holes _
        batch.batchUpdateBuilder.ensureRemovedSorted_flag
        batch.batchUpdateBuilder.holes_ensureRemovedSorted (isOpen.gaps nonzero) initial loop
      cases run
      exact ⟨moved, keptMoved, isOpen.condensed_of_looped nonzero looped⟩

structure Refreshed (batch : InputBatch) : Prop where
  isOpen : batch.Open
  removed : batch.batchUpdateBuilder.removedRows = []
  added : batch.batchUpdateBuilder.added = []
  moved : batch.batchUpdateBuilder.moved = []

theorem refreshed_create (config : InputBatchConfig) (blockTables : List BlockTable) :
    (create config blockTables).Refreshed := by
  refine ⟨⟨⟨?_, rfl, Nat.zero_le _, ?_⟩, ?_, nodup_nil, ?_⟩, rfl, rfl, rfl⟩
  · intro reqId row
    constructor <;> exact fun found => nomatch found
  · intro row _
    have entry : (replicate config.maxNumReqs ([] : List Int)).getD row [] = [] := by
      rw [getD_eq_getElem?_getD, getElem?_replicate]
      split <;> rfl
    exact entry
  · exact fun sorted => nomatch sorted
  · intro row
    exact ⟨fun member => absurd member not_mem_nil, fun hole => nomatch hole⟩

theorem Settled.refreshMetadata (settled : batch.Settled) : batch.refreshMetadata.2.Refreshed := by
  have reset : batch.refreshMetadata.2.batchUpdateBuilder = .empty := by
    unfold InputBatch.refreshMetadata getAndReset
    dsimp only
    split
    · next none =>
      simp only [Bool.and_eq_true, List.isEmpty_iff] at none
      rw [none.1.1, none.1.2, none.2]
      rfl
    · rfl
  refine ⟨⟨⟨settled.index, settled.outputs, settled.spec, settled.fresh⟩, ?_, ?_, fun row => ?_⟩,
    ?_, ?_, ?_⟩ <;> rw [reset]
  · exact fun sorted => nomatch sorted
  · exact nodup_nil
  · refine ⟨fun member => absurd member not_mem_nil, fun hole => ?_⟩
    have ids : batch.reqIds[row]? = some none := hole
    apply absurd _ (settled.full row (List.getElem?_eq_some_iff.mp ids).1)
    simp [occupant, ids]
  all_goals rfl

theorem refreshMetadata_update (batch : InputBatch) :
    (batch.refreshMetadata.1 = none ∧ batch.batchUpdateBuilder.removedRows = [] ∧
      batch.batchUpdateBuilder.added = [] ∧ batch.batchUpdateBuilder.moved = []) ∨
    batch.refreshMetadata.1 = some {
      batchSize := batch.numReqs
      removed := batch.batchUpdateBuilder.removedRows
      added := batch.batchUpdateBuilder.added
      moved := batch.batchUpdateBuilder.moved } := by
  unfold refreshMetadata getAndReset
  dsimp only
  split
  · next none =>
    simp only [Bool.and_eq_true, List.isEmpty_iff] at none
    exact .inl ⟨rfl, none.1.1, none.2, none.1.2⟩
  · exact .inr rfl

end InputBatch

end VllmEngine

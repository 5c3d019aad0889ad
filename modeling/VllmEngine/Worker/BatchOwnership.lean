import VllmEngine.Worker.BatchCalls
import VllmEngine.Worker.BatchRun
import VllmEngine.Worker.RowData

set_option autoImplicit false

namespace VllmEngine

open Outcome Function BatchRows

theorem CachedRequestState.length_extendBlockIds (ids news : List (List Nat)) :
    (extendBlockIds ids news).length = ids.length := by
  induction ids generalizing news with
  | nil => rfl
  | cons first rest ih =>
    cases news with
    | nil => rfl
    | cons new news => simp [extendBlockIds, ih]

theorem CachedRequestState.getElem?_extendBlockIds (ids news : List (List Nat)) (group : Nat) :
    (extendBlockIds ids news)[group]? = ids[group]?.map (· ++ (news[group]?).getD []) := by
  induction ids generalizing news group with
  | nil => rfl
  | cons first rest ih =>
    cases news with
    | nil =>
      unfold extendBlockIds
      simp
    | cons new news =>
      unfold extendBlockIds
      cases group with
      | zero => rfl
      | succ group => simpa using ih news group

namespace BatchRows

variable {config : InputBatchConfig} {rows rows' : BatchRows} {row : Nat} {drafts : List Int}
  {request : CachedRequestState} {tokens : Nat → Int}

theorem appendNewBlocks_spec {tables tables' : List BlockTable}
    {newBlockIds : Option (List (List Nat))}
    (run : appendNewBlocks row tables newBlockIds = .ok tables') :
    tables'.length = tables.length ∧
      ∀ (group : Nat) (table' : BlockTable), tables'[group]? = some table' →
        ∃ table : BlockTable, tables[group]? = some table ∧
          (∀ other, other ≠ row → table.SameRow other table' other) ∧
          ∀ blockIds, table.Holds row blockIds →
            table'.Holds row (blockIds ++ ((newBlockIds.getD [])[group]?).getD []) := by
  cases newBlockIds with
  | none =>
    cases run
    refine ⟨rfl, fun group table' found => ⟨table', found, ?_, ?_⟩⟩
    · exact fun other _ => ⟨rfl, rfl, rfl, fun _ _ => rfl⟩
    · intro blockIds holds
      simpa using holds
  | some news =>
    obtain ⟨length, _, each⟩ := eachTable_spec run
    refine ⟨length, fun group table' found => ?_⟩
    obtain ⟨table, _, atGroup, given, appended⟩ := each group table' found
    refine ⟨table, atGroup, ?_, ?_⟩
    · exact fun other apart => BlockTable.appendRow_sameRow apart appended
    · intro blockIds holds
      rw [Option.getD_some, given]
      exact BlockTable.appendRow_holds holds appended

section

variable (holds : rows.Holds config row drafts request)

include holds

theorem Holds.forget : rows.Holds config row [] request := by
  refine ⟨holds.attributes, holds.prompt, holds.output, ?_, ?_, holds.groups, holds.blocks⟩
  · intro offset token found
    simp at found
  · intro position value inside within found
    exact holds.flag position value (by simp at inside; omega) within found

theorem Holds.numTokensNoSpec : rows.numTokensNoSpec row = request.numTokens :=
  congrArg RowAttributes.numTokensNoSpec holds.attributes

theorem Holds.writeDrafts {specTokenIds : List Int}
    (assigned : assignSlice config.maxModelLen (rows.tokenIds row) (rows.numTokensNoSpec row)
      (rows.numTokensNoSpec row + specTokenIds.length) specTokenIds = .ok tokens) :
    BatchRows.Holds config
      { rows with
        tokenIds := update rows.tokenIds row tokens
        isTokenIds := update rows.isTokenIds row
          (fillSlice config.maxModelLen (rows.isTokenIds row) (rows.numTokensNoSpec row)
            (rows.numTokensNoSpec row + specTokenIds.length) true) }
      row specTokenIds request := by
  have start := holds.numTokensNoSpec
  rw [start] at assigned
  rw [start]
  have size : request.numTokens = request.numPromptTokens + request.outputTokenIds.length := rfl
  refine ⟨holds.attributes, ?_, ?_, ?_, ?_, holds.groups, holds.blocks⟩
  · intro ids given position token found within
    have inside := CachedRequestState.lt_numPromptTokens given found
    dsimp only
    rw [update_self, assignSlice_outside assigned (.inl (by omega))]
    exact holds.prompt ids given position token found within
  · intro offset token found within
    have inside : offset < request.outputTokenIds.length := (List.getElem?_eq_some_iff.mp found).1
    dsimp only
    rw [update_self, assignSlice_outside assigned (.inl (by omega))]
    exact holds.output offset token found within
  · intro offset token found within
    dsimp only
    rw [update_self]
    exact assignSlice_inside assigned within found
  · intro position value inside within found
    dsimp only
    rw [update_self]
    unfold fillSlice
    split
    · next draft =>
      unfold CachedRequestState.flagAt at found
      rw [if_neg (by omega)] at found
      exact Option.some.inj found
    · exact holds.flag position value (by omega) within found

end

theorem Holds.writeSampled {sampled : List Int} (holds : rows.Holds config row [] request)
    (assigned : assignSlice config.maxModelLen (rows.tokenIds row) (rows.numTokensNoSpec row)
      (rows.numTokensNoSpec row + sampled.length) sampled = .ok tokens) :
    BatchRows.Holds config
      { rows with
        tokenIds := update rows.tokenIds row tokens
        isTokenIds := update rows.isTokenIds row
          (fillSlice config.maxModelLen (rows.isTokenIds row) (rows.numTokensNoSpec row)
            (rows.numTokensNoSpec row + sampled.length) true)
        numTokensNoSpec := update rows.numTokensNoSpec row
          (rows.numTokensNoSpec row + sampled.length) }
      row [] { request with outputTokenIds := request.outputTokenIds ++ sampled } := by
  have written := holds.writeDrafts assigned
  have start := holds.numTokensNoSpec
  have samePrompt : CachedRequestState.numPromptTokens
      { request with outputTokenIds := request.outputTokenIds ++ sampled } =
        request.numPromptTokens := rfl
  have size : CachedRequestState.numTokens
      { request with outputTokenIds := request.outputTokenIds ++ sampled } =
        request.numTokens + sampled.length := by
    unfold CachedRequestState.numTokens
    rw [samePrompt, List.length_append]
    omega
  refine ⟨?_, written.prompt, ?_, ?_, ?_, holds.groups, holds.blocks⟩
  · have attributes := holds.attributes
    unfold BatchRows.attributes CachedRequestState.attributes at attributes ⊢
    simp only [RowAttributes.mk.injEq] at attributes ⊢
    rw [update_self, size, start]
    exact ⟨rfl, attributes.2⟩
  · intro offset token found within
    rw [samePrompt] at within ⊢
    by_cases old : offset < request.outputTokenIds.length
    · rw [List.getElem?_append_left old] at found
      exact written.output offset token found within
    · rw [List.getElem?_append_right (by omega)] at found
      have place : request.numPromptTokens + offset =
          request.numTokens + (offset - request.outputTokenIds.length) := by
        unfold CachedRequestState.numTokens
        omega
      rw [place] at within ⊢
      exact written.draft _ token found within
  · intro offset token found
    simp at found
  · intro position value inside within found
    rw [size, List.length_nil] at inside
    exact written.flag position value (by omega) within found

theorem Holds.updateRunning {change : RunningUpdate} {tables : List BlockTable}
    (holds : rows.Holds config row drafts request)
    (appended : appendNewBlocks row rows.blockTables change.newBlockIds = .ok tables) :
    BatchRows.Holds config
      { rows with
        numComputedTokens := update rows.numComputedTokens row change.numComputedTokens
        blockTables := tables }
      row drafts (request.update change) := by
  obtain ⟨length, each⟩ := appendNewBlocks_spec appended
  refine ⟨?_, holds.prompt, holds.output, holds.draft, holds.flag, ?_, ?_⟩
  · have attributes := holds.attributes
    unfold BatchRows.attributes CachedRequestState.attributes at attributes ⊢
    simp only [RowAttributes.mk.injEq] at attributes ⊢
    rw [update_self]
    exact ⟨attributes.1, attributes.2.1, rfl, attributes.2.2.2⟩
  · unfold CachedRequestState.update
    rw [CachedRequestState.length_extendBlockIds, length]
    exact holds.groups
  · intro group table' blockIds atGroup given
    obtain ⟨table, found, _, appendedTo⟩ := each group table' atGroup
    unfold CachedRequestState.update at given
    rw [CachedRequestState.getElem?_extendBlockIds, Option.map_eq_some_iff] at given
    obtain ⟨oldIds, old, rfl⟩ := given
    exact appendedTo oldIds (holds.blocks group table oldIds found old)

end BatchRows

namespace InputBatch

variable {batch after : InputBatch} {reqId : RequestId} {row : Nat}

structure TouchedRow (batch : InputBatch) (row : Nat) (after : InputBatch) : Prop where
  other : ∀ other, other ≠ row → ∀ front, BatchRows.SameRow front batch.rows other after.rows other
  generators : after.rows.generators = batch.rows.generators
  badWords : after.rows.badWordsTokenIds = batch.rows.badWordsTokenIds

theorem sameRow_rfl (rows : BatchRows) (front row : Nat) :
    BatchRows.SameRow front rows row rows row :=
  ⟨rfl, fun _ _ => rfl, fun _ _ => rfl, rfl, fun _ table found =>
    ⟨table, found, rfl, rfl, rfl, fun _ _ => rfl⟩⟩

theorem updateReqSpecTokenIds_rows {specTokenIds : List Int}
    (found : batch.reqIdToIndex.lookup reqId = some row)
    (run : batch.updateReqSpecTokenIds reqId specTokenIds = .ok after) :
    TouchedRow batch row after ∧ ∀ {drafts : List Int} {request : CachedRequestState},
        batch.rows.Holds batch.config row drafts request →
          after.rows.Holds batch.config row specTokenIds request := by
  unfold updateReqSpecTokenIds at run
  rw [found] at run
  dsimp only at run
  split at run
  · next none =>
    cases run
    obtain rfl : specTokenIds = [] := by simpa using none
    refine ⟨⟨fun other _ front => sameRow_rfl _ front other, rfl, rfl⟩, ?_⟩
    exact fun holds => holds.forget
  · obtain ⟨_, assigned, run⟩ := bind_eq_ok.mp run
    cases run
    refine ⟨⟨fun other apart front => ?_, rfl, rfl⟩, fun holds => holds.writeDrafts assigned⟩
    refine ⟨rfl, ?_, ?_, rfl, fun _ table atGroup =>
      ⟨table, atGroup, rfl, rfl, rfl, fun _ _ => rfl⟩⟩
    · exact fun position _ => congrFun (update_of_ne apart _ _) position
    · exact fun position _ => congrFun (update_of_ne apart _ _) position

structure SameIndex (batch after : InputBatch) : Prop where
  config : after.config = batch.config
  lookup : after.reqIdToIndex = batch.reqIdToIndex
  ids : after.reqIds = batch.reqIds
  outputs : after.reqOutputTokenIds = batch.reqOutputTokenIds
  spec : after.specTokenIds = batch.specTokenIds
  builder : after.batchUpdateBuilder = batch.batchUpdateBuilder

section

variable (same : SameIndex batch after)

include same

theorem SameIndex.occupant : after.occupant = batch.occupant := by
  unfold InputBatch.occupant
  rw [same.ids]

theorem SameIndex.drafts : after.drafts = batch.drafts := by
  unfold InputBatch.drafts
  rw [same.spec]

theorem SameIndex.indexed (indexed : batch.Indexed) :
    after.Indexed := by
  refine ⟨?_, ?_, ?_, ?_⟩
  · rw [same.lookup, same.occupant]
    exact indexed.index
  · rw [same.outputs, same.ids, indexed.outputs]
  · rw [same.ids, same.spec]
    exact indexed.spec
  · rw [same.ids, same.spec]
    exact indexed.fresh

theorem SameIndex.isOpen (isOpen : batch.Open) : after.Open := by
  refine ⟨same.indexed isOpen.toIndexed, ?_, ?_, ?_⟩
  · rw [same.builder]
    exact isOpen.ordered
  · rw [same.builder]
    exact isOpen.distinct
  · rw [same.builder, same.ids]
    exact isOpen.empty

end

theorem cacheSampled_rows {sampled : List Int} (run : batch.cacheSampled row sampled = .ok after) :
    SameIndex batch after ∧ TouchedRow batch row after ∧
      ∀ {request : CachedRequestState}, batch.rows.Holds batch.config row [] request →
        after.rows.Holds batch.config row []
          { request with outputTokenIds := request.outputTokenIds ++ sampled } := by
  unfold cacheSampled at run
  split at run
  · next none =>
    cases run
    obtain rfl : sampled = [] := by simpa using none
    refine ⟨⟨rfl, rfl, rfl, rfl, rfl, rfl⟩,
      ⟨fun other _ front => sameRow_rfl _ front other, rfl, rfl⟩, ?_⟩
    intro request holds
    rw [List.append_nil]
    exact holds
  · simp only [bind_eq_ok] at run
    obtain ⟨_, _, _, assigned, run⟩ := run
    cases run
    refine ⟨⟨rfl, rfl, rfl, rfl, rfl, rfl⟩, ⟨fun other apart front => ?_, rfl, rfl⟩,
      fun holds => holds.writeSampled assigned⟩
    refine ⟨?_, ?_, ?_, rfl, fun _ table atGroup =>
      ⟨table, atGroup, rfl, rfl, rfl, fun _ _ => rfl⟩⟩
    · unfold attributes maskRow
      simp [apart]
    · exact fun position _ => congrFun (update_of_ne apart _ _) position
    · exact fun position _ => congrFun (update_of_ne apart _ _) position

theorem updateRunning_rows {change : RunningUpdate}
    (found : batch.reqIdToIndex.lookup change.reqId = some row)
    (run : batch.updateRunning row change = .ok after) :
    (batch.Indexed → Drafted batch row change.specTokenIds after) ∧ TouchedRow batch row after ∧
      ∀ {drafts : List Int} {request : CachedRequestState},
        batch.rows.Holds batch.config row drafts request →
          after.rows.Holds batch.config row change.specTokenIds (request.update change) := by
  unfold updateRunning at run
  obtain ⟨_, appended, run⟩ := bind_eq_ok.mp run
  obtain ⟨touched, drafted⟩ := updateReqSpecTokenIds_rows (by exact found) run
  obtain ⟨length, each⟩ := appendNewBlocks_spec appended
  refine ⟨?_, ⟨?_, touched.generators, touched.badWords⟩,
    fun holds => drafted (holds.updateRunning appended)⟩
  · intro indexed
    obtain ⟨middle, run, same⟩ : ∃ middle : InputBatch,
        middle.updateReqSpecTokenIds change.reqId change.specTokenIds = .ok after ∧
          SameIndex batch middle :=
      ⟨_, run, rfl, rfl, rfl, rfl, rfl, rfl⟩
    rw [← same.lookup] at found
    have drafts := (same.indexed indexed).updateReqSpecTokenIds found run
    refine ⟨drafts.config.trans same.config, drafts.lookup.trans same.lookup,
      drafts.ids.trans same.ids, drafts.outputs.trans same.outputs,
      drafts.builder.trans same.builder, drafts.specLength.trans ?_, drafts.drafts.trans ?_⟩
    · rw [same.spec]
    · rw [same.drafts]
  · intro other apart front
    have same := touched.other other apart front
    refine ⟨same.attributes.trans ?_, same.token, same.flag, same.groups.trans length, ?_⟩
    · unfold attributes maskRow
      simp [apart]
    · intro group table' atGroup
      obtain ⟨middle, atMiddle, sameMiddle⟩ := same.blocks group table' atGroup
      obtain ⟨table, atFirst, others, _⟩ := each group middle atMiddle
      exact ⟨table, atFirst, (others other apart).trans sameMiddle⟩

end InputBatch

namespace BatchState

variable {state next : BatchState} {reqId : RequestId}

theorem call_cacheSampled {tokens : List Int}
    (run : state.call (.cacheSampled reqId tokens) = .ok next) :
    ∃ row request, state.batch.reqIdToIndex.lookup reqId = some row ∧
      state.requests reqId = some request ∧
      state.batch.cacheSampled row tokens = .ok next.batch ∧
      next.requests = update state.requests reqId
        (some { request with outputTokenIds := request.outputTokenIds ++ tokens }) ∧
      next.specTokens = state.specTokens := by
  dsimp only [call] at run
  split at run
  · next row found =>
    split at run
    · next request known =>
      simp only [bind_eq_ok, pure_eq_ok] at run
      obtain ⟨batch, cached, rfl⟩ := run
      exact ⟨row, request, found, known, cached, rfl, rfl⟩
    · cases run
  · cases run

theorem call_updateRunning {change : RunningUpdate}
    (run : state.call (.updateRunning change) = .ok next) :
    ∃ row request, state.batch.reqIdToIndex.lookup change.reqId = some row ∧
      state.requests change.reqId = some request ∧
      state.batch.updateRunning row change = .ok next.batch ∧
      next.requests = update state.requests change.reqId (some (request.update change)) ∧
      next.specTokens =
        update state.specTokens change.reqId change.specTokenIds := by
  dsimp only [call] at run
  split at run
  · next row found =>
    split at run
    · next request known =>
      simp only [bind_eq_ok, pure_eq_ok] at run
      obtain ⟨batch, updated, rfl⟩ := run
      exact ⟨row, request, found, known, updated, rfl, rfl⟩
    · cases run
  · cases run

theorem call_removeRequest (run : state.call (.removeRequest reqId) = .ok next) :
    ∃ result, state.batch.removeRequest reqId = .ok (result, next.batch) ∧
      next.requests = state.requests ∧ next.specTokens = state.specTokens := by
  dsimp only [call] at run
  simp only [bind_eq_ok, pure_eq_ok] at run
  obtain ⟨⟨result, batch⟩, removed, rfl⟩ := run
  exact ⟨result, removed, rfl, rfl⟩

theorem call_addRequest {request : CachedRequestState} {specTokenIds : List Int}
    (isOpen : state.batch.Open) (absent : state.batch.reqIdToIndex.lookup request.reqId = none)
    (run : state.call (.addRequest request specTokenIds) = .ok next) :
    ∃ batch, InputBatch.Added state.batch request state.batch.nextRow batch ∧
      batch.reqIdToIndex.lookup request.reqId = some state.batch.nextRow ∧
      batch.updateReqSpecTokenIds request.reqId specTokenIds = .ok next.batch ∧
      next.requests = update state.requests request.reqId (some request) ∧
      next.specTokens = update state.specTokens request.reqId specTokenIds := by
  simp only [call, bind_eq_ok, pure_eq_ok] at run
  obtain ⟨⟨_, batch⟩, addRun, _, draftRun, rfl⟩ := run
  obtain ⟨rfl, added⟩ := isOpen.addRequest absent addRun
  exact ⟨batch, added, by rw [added.lookup, AList.lookup_insert], draftRun, rfl, rfl⟩

end BatchState

end VllmEngine

import VllmEngine.Worker.InputBatch

set_option autoImplicit false

namespace VllmEngine

open Outcome Function CachedRequestState Except BlockTable Rows List Option

structure RowAttributes where
  numTokensNoSpec : Nat
  numPromptTokens : Nat
  numComputedTokens : Nat
  promptEmbeds : Option (List Bytes)
  temperature : ℚ
  topP : ℚ
  topK : Int
  frequencyPenalty : ℚ
  presencePenalty : ℚ
  repetitionPenalty : ℚ
  loraId : Nat
  generator : Option Nat
  badWordsTokenIds : Option (List (List Nat))
  disallowed : Nat → Bool

def BatchRows.maskRow (rows : BatchRows) (row : Nat) : Nat → Bool :=
  rows.allowedTokenIdsMask.elim (fun _ => false) fun mask => mask row

def BatchRows.attributes (rows : BatchRows) (row : Nat) : RowAttributes where
  numTokensNoSpec := rows.numTokensNoSpec row
  numPromptTokens := rows.numPromptTokens row
  numComputedTokens := rows.numComputedTokens row
  promptEmbeds := rows.reqPromptEmbeds row
  temperature := rows.temperature row
  topP := rows.topP row
  topK := rows.topK row
  frequencyPenalty := rows.frequencyPenalties row
  presencePenalty := rows.presencePenalties row
  repetitionPenalty := rows.repetitionPenalties row
  loraId := rows.requestLoraMapping row
  generator := rows.generators row
  badWordsTokenIds := rows.badWordsTokenIds row
  disallowed := rows.maskRow row

namespace CachedRequestState

def attributes (config : InputBatchConfig) (request : CachedRequestState) : RowAttributes :=
  let params := request.samplingParams
  { numTokensNoSpec := request.numTokens
    numPromptTokens := request.numPromptTokens
    numComputedTokens := request.numComputedTokens
    promptEmbeds := request.promptEmbeds
    temperature := params.batchTemperature config.toFloat32
    topP := config.toFloat32 params.topP
    topK := params.batchTopK config.vocabSize
    frequencyPenalty := config.toFloat32 params.frequencyPenalty
    presencePenalty := config.toFloat32 params.presencePenalty
    repetitionPenalty := config.toFloat32 params.repetitionPenalty
    loraId := request.loraRequest.elim 0 LoRARequest.loraIntId
    generator := request.generator
    badWordsTokenIds := params.batchBadWords
    disallowed := params.disallowed }

-- A list of flags that does not fit the prompt says nothing.
def flagAt (request : CachedRequestState) (position : Nat) : Option Bool :=
  if position < request.numPromptTokens then
    match request.promptTokenIds, request.promptIsTokenIds with
    | none, _ => some false
    | some _, none => some true
    | some _, some flags => if flags.length = request.numPromptTokens then flags[position]? else none
  else some true

end CachedRequestState

theorem CachedRequestState.lt_numPromptTokens {request : CachedRequestState} {ids : List TokenId}
    {position : Nat} {token : TokenId} (given : request.promptTokenIds = some ids)
    (found : ids[position]? = some token) : position < request.numPromptTokens := by
  unfold CachedRequestState.numPromptTokens
  rw [given]
  exact (List.getElem?_eq_some_iff.mp found).1

structure BlockTable.Holds (table : BlockTable) (row : Nat) (blockIds : List Nat) : Prop where
  count : table.numBlocksPerRow row = (table.kernelRow blockIds).length
  block : ∀ (index block : Nat), (table.kernelRow blockIds)[index]? = some block →
    index < table.maxNumBlocksPerReq → table.blockTable row index = block

-- Positions behind the width of a row do not exist.
structure BatchRows.Holds (config : InputBatchConfig) (rows : BatchRows) (row : Nat)
    (drafts : List Int) (request : CachedRequestState) : Prop where
  attributes : rows.attributes row = request.attributes config
  prompt : ∀ ids, request.promptTokenIds = some ids → ∀ position (token : TokenId),
    ids[position]? = some token → position < config.maxModelLen → rows.tokenIds row position = token
  output : ∀ (offset : Nat) (token : Int), request.outputTokenIds[offset]? = some token →
    request.numPromptTokens + offset < config.maxModelLen →
      rows.tokenIds row (request.numPromptTokens + offset) = token
  draft : ∀ (offset : Nat) (token : Int), drafts[offset]? = some token →
    request.numTokens + offset < config.maxModelLen →
      rows.tokenIds row (request.numTokens + offset) = token
  flag : ∀ position value, position < request.numTokens + drafts.length →
    position < config.maxModelLen → request.flagAt position = some value →
      rows.isTokenIds row position = value
  groups : rows.blockTables.length ≤ request.blockIds.length
  blocks : ∀ (group : Nat) (table : BlockTable) (blockIds : List Nat), rows.blockTables[group]? = some table →
    request.blockIds[group]? = some blockIds → table.Holds row blockIds

structure BlockTable.SameRow (table : BlockTable) (row : Nat) (table' : BlockTable) (row' : Nat) :
    Prop where
  ratio : table'.blocksPerKvBlock = table.blocksPerKvBlock
  width : table'.maxNumBlocksPerReq = table.maxNumBlocksPerReq
  count : table'.numBlocksPerRow row' = table.numBlocksPerRow row
  block : ∀ index < table.numBlocksPerRow row,
    table'.blockTable row' index = table.blockTable row index

structure BatchRows.SameRow (count : Nat) (rows : BatchRows) (row : Nat) (rows' : BatchRows)
    (row' : Nat) : Prop where
  attributes : rows'.attributes row' = rows.attributes row
  token : ∀ position < count, rows'.tokenIds row' position = rows.tokenIds row position
  flag : ∀ position < count, rows'.isTokenIds row' position = rows.isTokenIds row position
  groups : rows'.blockTables.length = rows.blockTables.length
  blocks : ∀ (group : Nat) (table' : BlockTable), rows'.blockTables[group]? = some table' →
    ∃ table : BlockTable, rows.blockTables[group]? = some table ∧ table.SameRow row table' row'

theorem BlockTable.SameRow.trans {table table' table'' : BlockTable} {row row' row'' : Nat}
    (first : table.SameRow row table' row') (second : table'.SameRow row' table'' row'') :
    table.SameRow row table'' row'' where
  ratio := second.ratio.trans first.ratio
  width := second.width.trans first.width
  count := second.count.trans first.count
  block index inside :=
    (second.block index (first.count ▸ inside)).trans (first.block index inside)

theorem BlockTable.Holds.transfer {table table' : BlockTable} {row row' : Nat}
    {blockIds : List Nat} (holds : table.Holds row blockIds)
    (same : table.SameRow row table' row') : table'.Holds row' blockIds := by
  have kernel : table'.kernelRow blockIds = table.kernelRow blockIds := by
    unfold kernelRow
    rw [same.ratio]
  constructor
  · rw [kernel, same.count, holds.count]
  · intro index block found within
    rw [kernel] at found
    rw [same.width] at within
    have inside : index < table.numBlocksPerRow row := by
      rw [holds.count]
      exact (List.getElem?_eq_some_iff.mp found).1
    rw [same.block index inside]
    exact holds.block index block found within

namespace BatchRows

variable {config : InputBatchConfig} {rows rows' : BatchRows} {row row' : Nat} {drafts : List Int}
  {request : CachedRequestState} {count : Nat} {A : Type}

theorem SameRow.trans {count middle : Nat} {between : BatchRows}
    (first : SameRow count rows row between middle)
    (second : SameRow count between middle rows' row') : SameRow count rows row rows' row' where
  attributes := second.attributes.trans first.attributes
  token position inside := (second.token position inside).trans (first.token position inside)
  flag position inside := (second.flag position inside).trans (first.flag position inside)
  groups := second.groups.trans first.groups
  blocks group table' found := by
    obtain ⟨table, atMiddle, later⟩ := second.blocks group table' found
    obtain ⟨origin, atRow, earlier⟩ := first.blocks group table atMiddle
    exact ⟨origin, atRow, earlier.trans later⟩

theorem Holds.transfer (holds : rows.Holds config row drafts request)
    (enough : request.numTokens + drafts.length ≤ count)
    (same : SameRow count rows row rows' row') : rows'.Holds config row' drafts request := by
  have size : request.numTokens = request.numPromptTokens + request.outputTokenIds.length := rfl
  constructor
  · rw [same.attributes, holds.attributes]
  · intro ids given position token found within
    have inside := lt_numPromptTokens given found
    rw [same.token position (by omega)]
    exact holds.prompt ids given position token found within
  · intro offset token found within
    have inside : offset < request.outputTokenIds.length := (List.getElem?_eq_some_iff.mp found).1
    rw [same.token _ (by omega)]
    exact holds.output offset token found within
  · intro offset token found within
    have inside : offset < drafts.length := (List.getElem?_eq_some_iff.mp found).1
    rw [same.token _ (by omega)]
    exact holds.draft offset token found within
  · intro position value inside within found
    rw [same.flag position (by omega)]
    exact holds.flag position value inside within found
  · rw [same.groups]
    exact holds.groups
  · intro group table' blockIds atGroup given
    obtain ⟨table, found, sameRow⟩ := same.blocks group table' atGroup
    exact (holds.blocks group table blockIds found given).transfer sameRow

theorem sameBlocks_map {change : BlockTable → BlockTable}
    (kept : ∀ table ∈ rows.blockTables, table.SameRow row (change table) row') (group : Nat)
    (table' : BlockTable) (atGroup : (rows.blockTables.map change)[group]? = some table') :
    ∃ table, rows.blockTables[group]? = some table ∧ table.SameRow row table' row' := by
  rw [getElem?_map, map_eq_some_iff] at atGroup
  obtain ⟨table, found, rfl⟩ := atGroup
  exact ⟨table, found, kept table (mem_of_getElem? found)⟩

theorem swapDictValues_eq (dict : Nat → Option A) (key1 key2 : Nat) :
    swapDictValues dict key1 key2 = swap dict key1 key2 := by
  funext key
  unfold swapDictValues Rows.swap
  by_cases first : key = key1
  · subst first
    by_cases second : key = key2 <;> simp [second]
  · rw [update_of_ne first]
    by_cases second : key = key2 <;> simp [first, second]

theorem swapViews_apply (mask : Nat → Nat → Bool) (i1 i2 row : Nat) :
    swapViews mask i1 i2 row = if row = i1 then mask i2 else mask row := by
  unfold swapViews
  by_cases first : row = i1
  · subst first
    by_cases second : row = i2 <;> simp [second]
  · by_cases second : row = i2 <;> simp [first, second]

variable (table : BlockTable) {source target : Nat} {dict : Nat → Option A}

theorem swapRow_sameRow (i1 i2 row : Nat) :
    table.SameRow (exchanged i1 i2 row) (table.swapRow i1 i2) row where
  ratio := rfl
  width := rfl
  count := swap_apply _ _ _ _
  block _ _ := congrFun (swap_apply _ _ _ _) _

theorem copyFront_swap (values : Nat → Nat → A) (behind1 behind2 : Nat → A)
    (count i1 i2 row position : Nat) (front : row = i1 ∨ row = i2 → position < count) :
    update (update values i1 (copyFront count (values i2) behind1)) i2
        (copyFront count (values i1) behind2) row position =
      values (exchanged i1 i2 row) position := by
  unfold exchanged
  by_cases second : row = i2
  · subst second
    by_cases first : row = i1
    · subst first
      simp [front]
    · simp [front, first]
  · rw [update_of_ne second]
    by_cases first : row = i1
    · subst first
      simp [front]
    · simp [first, second]

theorem swapStates_sameRow (rows : BatchRows) (useReplayssm : Bool) {count front i1 i2 row : Nat}
    (masks : rows.maskRow i1 = rows.maskRow i2) (enough : row = i1 ∨ row = i2 → front ≤ count) :
    SameRow front rows (exchanged i1 i2 row) (rows.swapStates useReplayssm count i1 i2)
      row := by
  have mask : (rows.swapStates useReplayssm count i1 i2).maskRow row =
      rows.maskRow (exchanged i1 i2 row) := by
    unfold maskRow swapStates exchanged at *
    cases present : rows.allowedTokenIdsMask with
    | none => rfl
    | some mask =>
      rw [present] at masks
      simp only [elim_some, map_some] at masks ⊢
      rw [swapViews_apply]
      split
      · rfl
      · split
        · next second => rw [second, masks]
        · rfl
  constructor
  · unfold attributes
    rw [mask]
    simp only [swapStates, swapDictValues_eq, swap_apply]
  · intro position inFront
    exact copyFront_swap rows.tokenIds _ _ count i1 i2 row position
      fun swapped => lt_of_lt_of_le inFront (enough swapped)
  · intro position inFront
    exact copyFront_swap rows.isTokenIds _ _ count i1 i2 row position
      fun swapped => lt_of_lt_of_le inFront (enough swapped)
  · simp [swapStates]
  · exact sameBlocks_map fun table _ => swapRow_sameRow table i1 i2 row

theorem moveEntry_target
    (empty : dict target = none) : moveEntry dict source target target = dict source := by
  unfold moveEntry
  cases dict source with
  | none => exact empty
  | some value => simp

theorem moveEntry_source
    (apart : target ≠ source) : moveEntry dict source target source = none := by
  unfold moveEntry
  cases found : dict source with
  | none => exact found
  | some value => simp [Ne.symm apart]

theorem moveEntry_other {source target row : Nat}
    (notSource : row ≠ source) (notTarget : row ≠ target) :
    moveEntry dict source target row = dict row := by
  unfold moveEntry
  cases dict source with
  | none => rfl
  | some value => simp [notSource, notTarget]

theorem moveRow_sameRow_target
    (apart : target ≠ source) : table.SameRow source (table.moveRow source target) target where
  ratio := rfl
  width := rfl
  count := by simp [moveRow, apart]
  block index inside := by simp [moveRow, apart, inside]

theorem moveRow_sameRow_other {source target row : Nat}
    (notSource : row ≠ source) (notTarget : row ≠ target) :
    table.SameRow row (table.moveRow source target) row where
  ratio := rfl
  width := rfl
  count := by simp [moveRow, notSource, notTarget]
  block index inside := by simp [moveRow, notSource, notTarget]

structure Vacant (rows : BatchRows) (row : Nat) : Prop where
  generator : rows.generators row = none
  badWords : rows.badWordsTokenIds row = none

theorem maskRow_copy (rows : BatchRows) (useReplayssm : Bool) (count source target row : Nat) :
    (rows.moveDown useReplayssm count source target).maskRow row =
      copy rows.maskRow source target row := by
  unfold maskRow moveDown copy
  cases rows.allowedTokenIdsMask with
  | none => simp [update_apply]
  | some mask =>
    simp only [elim_some, map_some]

theorem Vacant.transfer (vacant : rows.Vacant row)
    (same : SameRow count rows row rows' row') : rows'.Vacant row' :=
  ⟨(congrArg RowAttributes.generator same.attributes).trans vacant.generator,
    (congrArg RowAttributes.badWordsTokenIds same.attributes).trans vacant.badWords⟩

theorem moveDown_sameRow_target (rows : BatchRows) (useReplayssm : Bool) (count : Nat)
    (apart : target ≠ source) (vacant : rows.Vacant target)
    (embeds : rows.reqPromptEmbeds target = none) :
    SameRow count rows source (rows.moveDown useReplayssm count source target) target := by
  constructor
  · unfold attributes
    rw [maskRow_copy]
    simp only [moveDown, copy_target, moveEntry_target embeds,
      moveEntry_target vacant.generator, moveEntry_target vacant.badWords]
  · intro position front
    simp [moveDown, front]
  · intro position front
    simp [moveDown, front]
  · simp [moveDown]
  · exact sameBlocks_map fun table _ => moveRow_sameRow_target table apart

theorem moveDown_sameRow_other (rows : BatchRows) (useReplayssm : Bool) (count front : Nat)
    {source target row : Nat} (notSource : row ≠ source) (notTarget : row ≠ target) :
    SameRow front rows row (rows.moveDown useReplayssm count source target) row := by
  constructor
  · unfold attributes
    rw [maskRow_copy]
    simp only [moveDown, copy_other _ source target row notTarget,
      moveEntry_other notSource notTarget]
  · intro position _
    simp [moveDown, notTarget]
  · intro position _
    simp [moveDown, notTarget]
  · simp [moveDown]
  · exact sameBlocks_map fun table _ => moveRow_sameRow_other table notSource notTarget

theorem clearRow_sameRow {cleared row : Nat} (other : row ≠ cleared) :
    table.SameRow row (table.clearRow cleared) row where
  ratio := rfl
  width := rfl
  count := by simp [clearRow, other]
  block index inside := by simp [clearRow, other]

theorem clear_sameRow (rows : BatchRows) (front : Nat) {cleared row : Nat}
    (other : row ≠ cleared) : SameRow front rows row (rows.clear cleared) row := by
  have mask : (rows.clear cleared).maskRow row = rows.maskRow row := by
    unfold maskRow clear
    cases rows.allowedTokenIdsMask with
    | none => rfl
    | some mask => simp [other]
  constructor
  · unfold attributes
    rw [mask]
    simp [clear, other]
  · exact fun _ _ => rfl
  · exact fun _ _ => rfl
  · simp [clear]
  · exact sameBlocks_map fun table _ => clearRow_sameRow table other

end BatchRows

namespace BlockTable

theorem mapToKernelBlocks_append (first second : List Nat) (ratio : Nat) :
    mapToKernelBlocks (first ++ second) ratio =
      mapToKernelBlocks first ratio ++ mapToKernelBlocks second ratio := by
  unfold mapToKernelBlocks
  split
  · rfl
  · rw [flatMap_append]

theorem mapToKernelBlocks_nil (ratio : Nat) : mapToKernelBlocks [] ratio = [] := by
  unfold mapToKernelBlocks
  split <;> rfl

variable {table table' : BlockTable} {row : Nat} {blockIds : List Nat} {other : Nat}

theorem appendRow_holds {blockIds newIds : List Nat} (holds : table.Holds row blockIds)
    (run : table.appendRow newIds row = .ok table') : table'.Holds row (blockIds ++ newIds) := by
  unfold appendRow at run
  split at run
  · next none =>
    cases run
    obtain rfl : newIds = [] := by simpa using none
    rw [append_nil]
    exact holds
  · obtain ⟨_, assigned, run⟩ := bind_eq_ok.mp run
    cases run
    have start := holds.count
    unfold kernelRow at start
    constructor
    · unfold kernelRow
      dsimp only
      rw [update_self, mapToKernelBlocks_append, length_append, start]
    · intro index block found within
      unfold kernelRow at found
      dsimp only at found within ⊢
      rw [mapToKernelBlocks_append] at found
      rw [update_self]
      by_cases old : index < table.numBlocksPerRow row
      · rw [getElem?_append_left (by omega)] at found
        rw [assignSlice_outside assigned (.inl old)]
        exact holds.block index block found within
      · rw [getElem?_append_right (by omega), ← start] at found
        have place : index = table.numBlocksPerRow row + (index - table.numBlocksPerRow row) := by
          omega
        rw [place]
        exact assignSlice_inside assigned (by omega) found

theorem addRow_holds (run : table.addRow blockIds row = .ok table') :
    table'.Holds row blockIds := by
  have empty : BlockTable.Holds
      { table with numBlocksPerRow := update table.numBlocksPerRow row 0 } row [] := by
    constructor
    · simp [kernelRow, mapToKernelBlocks_nil]
    · intro index block found
      simp [kernelRow, mapToKernelBlocks_nil] at found
  exact appendRow_holds empty run

theorem appendRow_sameRow (apart : other ≠ row)
    (run : table.appendRow blockIds row = .ok table') : table.SameRow other table' other := by
  unfold appendRow at run
  split at run
  · cases run
    exact ⟨rfl, rfl, rfl, fun _ _ => rfl⟩
  · obtain ⟨_, _, run⟩ := bind_eq_ok.mp run
    cases run
    exact ⟨rfl, rfl, update_of_ne apart _ _, fun index _ => congrFun (update_of_ne apart _ _) index⟩

theorem addRow_sameRow (apart : other ≠ row)
    (run : table.addRow blockIds row = .ok table') : table.SameRow other table' other := by
  have same := appendRow_sameRow apart run
  refine ⟨same.ratio, same.width, ?_, ?_⟩
  · exact same.count.trans (update_of_ne apart _ _)
  · intro index inside
    refine same.block index ?_
    exact lt_of_lt_of_eq inside (update_of_ne apart _ _).symm

end BlockTable

namespace BatchRows

variable {config : InputBatchConfig} {rows written : BatchRows} {row : Nat} {drafts : List Int}
  {request : CachedRequestState} {other : Nat}

theorem eachTable_spec {change : BlockTable → List Nat → Except PyError BlockTable}
    {tables tables' : List BlockTable} {ids : List (List Nat)}
    (run : eachTable change tables ids = .ok tables') :
    tables'.length = tables.length ∧ tables.length ≤ ids.length ∧
      ∀ (group : Nat) (table' : BlockTable), tables'[group]? = some table' →
        ∃ table blockIds, tables[group]? = some table ∧ ids[group]? = some blockIds ∧
          change table blockIds = .ok table' := by
  induction tables generalizing ids tables' with
  | nil =>
    cases run
    exact ⟨rfl, Nat.zero_le _, fun group table' found => by simp at found⟩
  | cons table tables ih =>
    cases ids with
    | nil => cases run
    | cons blockIds rest =>
      unfold eachTable at run
      simp only [bind_eq_ok] at run
      obtain ⟨_, first, _, others, run⟩ := run
      cases run
      obtain ⟨length, enough, each⟩ := ih others
      refine ⟨by simp [length], by simpa using enough, fun group table' found => ?_⟩
      cases group with
      | zero =>
        cases found
        exact ⟨table, blockIds, rfl, rfl, first⟩
      | succ group => exact each group table' found

theorem writeTokens_sameRow (front : Nat) (apart : other ≠ row)
    (run : rows.writeTokens config row request = .ok written) :
    SameRow front rows other written other := by
  unfold writeTokens at run
  simp only [bind_eq_ok] at run
  obtain ⟨_, _, _, _, _, _, _, _, _, tableRun, run⟩ := run
  cases run
  obtain ⟨length, _, each⟩ := eachTable_spec tableRun
  constructor
  · unfold attributes maskRow
    cases request.promptEmbeds <;> simp [apart]
  · intro position _
    simp [apart]
  · intro position _
    simp [apart]
  · exact length
  · intro group table' found
    obtain ⟨table, _, atGroup, _, added⟩ := each group table' found
    exact ⟨table, atGroup, addRow_sameRow apart added⟩

theorem maskRow_writeSampling (rows : BatchRows) (other : Nat) :
    (rows.writeSampling config row request).maskRow other =
      if other = row ∧ request.samplingParams.restrictsTokens then
        request.samplingParams.disallowed
      else rows.maskRow other := by
  unfold maskRow writeSampling writeMask
  dsimp only
  by_cases restricts : request.samplingParams.restrictsTokens = true
  · rw [if_pos restricts]
    by_cases same : other = row
    · simp [same, restricts]
    · cases rows.allowedTokenIdsMask <;> simp [same]
  · simp [restricts]

theorem writeSampling_sameRow (rows : BatchRows) (front : Nat) (apart : other ≠ row) :
    SameRow front rows other (rows.writeSampling config row request) other := by
  constructor
  · unfold attributes
    rw [maskRow_writeSampling]
    simp only [apart]
    unfold writeSampling
    dsimp only
    cases request.generator <;> cases request.samplingParams.batchBadWords <;> simp [apart]
  · exact fun _ _ => rfl
  · exact fun _ _ => rfl
  · rfl
  · intro group table' found
    exact ⟨table', found, rfl, rfl, rfl, fun _ _ => rfl⟩

section

variable (run : rows.writeTokens config row request = .ok written)

include run

theorem writeTokens_tokens :
    (∀ ids, request.promptTokenIds = some ids → ∀ position (token : TokenId),
      ids[position]? = some token → position < config.maxModelLen →
        written.tokenIds row position = token) ∧
    ∀ (offset : Nat) (token : Int), request.outputTokenIds[offset]? = some token →
      request.numPromptTokens + offset < config.maxModelLen →
        written.tokenIds row (request.numPromptTokens + offset) = token := by
  unfold writeTokens at run
  simp only [bind_eq_ok] at run
  obtain ⟨_, measured, prompt, promptRun, _, _, _, tokensRun, _, _, run⟩ := run
  cases run
  obtain rfl := numPromptTokens_of_length measured
  dsimp only
  rw [update_self]
  constructor
  · intro ids given position token found within
    rw [assignSlice_outside tokensRun (.inl (lt_numPromptTokens given found))]
    unfold promptRow at promptRun
    rw [given] at promptRun
    have mapped : (ids.map Int.ofNat)[position]? = some (token : Int) := by
      rw [getElem?_map, found]
      rfl
    have assigned : assignSlice config.maxModelLen (rows.tokenIds row) 0
        (0 + (ids.map Int.ofNat).length) (ids.map Int.ofNat) = .ok prompt := by
      rw [Nat.zero_add, length_map]
      exact promptRun
    have value := assignSlice_inside assigned (by omega) mapped
    rwa [Nat.zero_add] at value
  · intro offset token found within
    exact assignSlice_inside tokensRun within found

theorem writeTokens_flags {position : Nat} {value : Bool} (inside : position < request.numTokens)
    (within : position < config.maxModelLen) (found : request.flagAt position = some value) :
    written.isTokenIds row position = value := by
  unfold writeTokens at run
  simp only [bind_eq_ok] at run
  obtain ⟨_, measured, _, _, flags, flagsRun, _, _, _, _, run⟩ := run
  cases run
  obtain rfl := numPromptTokens_of_length measured
  have size : request.numTokens = request.numPromptTokens + request.outputTokenIds.length := rfl
  dsimp only
  rw [update_self]
  unfold fillSlice
  unfold flagAt at found
  by_cases prompt : position < request.numPromptTokens
  · rw [if_neg (by omega)]
    rw [if_pos prompt] at found
    unfold promptFlags at flagsRun
    cases tokens : request.promptTokenIds with
    | none =>
      rw [tokens] at found flagsRun
      cases found
      cases flagsRun
      unfold fillSlice
      rw [if_pos (by omega)]
    | some ids =>
      cases given : request.promptIsTokenIds with
      | none =>
        rw [tokens, given] at found flagsRun
        cases found
        cases flagsRun
        unfold fillSlice
        rw [if_pos (by omega)]
      | some given' =>
        rw [tokens, given] at found flagsRun
        dsimp only at found flagsRun
        split at found
        · next fits =>
          have assigned : assignSlice config.maxModelLen (rows.isTokenIds row) 0
              (0 + given'.length) given' = .ok flags := by
            rw [Nat.zero_add, fits]
            exact flagsRun
          have value := assignSlice_inside assigned (by omega) found
          rwa [Nat.zero_add] at value
        · cases found
  · rw [if_neg prompt] at found
    rw [if_pos (by omega)]
    exact some.inj found

theorem holds_written (vacant : rows.Vacant row)
    (embeds : request.promptEmbeds = none → rows.reqPromptEmbeds row = none)
    (mask : request.samplingParams.restrictsTokens = false → rows.maskRow row = fun _ => false) :
    (written.writeSampling config row request).Holds config row [] request := by
  have tokens := writeTokens_tokens run
  have flags := @writeTokens_flags _ _ _ _ _ run
  have maskAfter (between : BatchRows) (same : between.maskRow row = rows.maskRow row) :
      (between.writeSampling config row request).maskRow row =
        request.samplingParams.disallowed := by
    rw [maskRow_writeSampling, same]
    by_cases restricts : request.samplingParams.restrictsTokens = true
    · rw [if_pos ⟨rfl, restricts⟩]
    · rw [if_neg fun both => restricts both.2, mask (by simpa using restricts)]
      unfold SamplingParams.disallowed
      rw [if_neg restricts]
  unfold writeTokens at run
  simp only [bind_eq_ok] at run
  obtain ⟨_, measured, _, _, _, _, _, _, _, tableRun, run⟩ := run
  cases run
  obtain rfl := numPromptTokens_of_length measured
  obtain ⟨length, enough, each⟩ := eachTable_spec tableRun
  refine ⟨?_, tokens.1, tokens.2, fun _ _ drafted => by simp at drafted,
    fun position value inside => flags inside, length ▸ enough, fun group table' blockIds atGroup given => ?_⟩
  · unfold attributes
    rw [maskAfter]
    swap
    · rfl
    simp only [writeSampling, CachedRequestState.attributes, update_self]
    congr 1
    · cases given : request.promptEmbeds with
      | none => exact embeds given
      | some value => simp
    · cases request.generator with
      | none => exact vacant.generator
      | some value => simp
    · cases request.samplingParams.batchBadWords with
      | none => exact vacant.badWords
      | some value => simp
  · obtain ⟨_, _, _, sameIds, added⟩ := each group table' atGroup
    rw [given] at sameIds
    cases sameIds
    exact addRow_holds added

end

end BatchRows

end VllmEngine

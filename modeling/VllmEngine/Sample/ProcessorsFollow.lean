import VllmEngine.Sample.SamplingRun
import VllmEngine.Sample.MinPReplay
import VllmEngine.Worker.RowsOwned

set_option autoImplicit false

namespace VllmEngine

open Outcome BatchState MinTokensLogitsProcessor Option Function

namespace SamplingState

section OneStep

variable {start middle grown condensed final : BatchState} {step : BatchStep}
  {allowed : BatchState → BatchCall → Prop}

variable {A : Type} {runner : BatchState} {own : RequestId → Option ThinkState} {row : Nat}
  {added : List (CachedRequestState × List Int)} {markers : ThinkMarkers}

theorem follows_requestAt {blank : A} {value : CachedRequestState → A} {rows : Nat → A} :
    (∀ row, rows row = (runner.requestAt row).elim blank value) ↔
      Rows.Follows blank (fun reqId => (runner.requests reqId).elim blank value)
        runner.batch.occupant (fun _ => False) rows := by
  have same : ∀ row, (runner.requestAt row).elim blank value =
      (runner.batch.occupant row).elim blank
        fun reqId => (runner.requests reqId).elim blank value := by
    intro row
    unfold requestAt
    cases runner.batch.occupant row <;> rfl
  constructor
  · intro each row _
    rw [each row, same]
  · intro follows row
    rw [follows row id, same]

theorem bind_eq_elim {B : Type} (option : Option A) (next : A → Option B) :
    option.bind next = option.elim none next := by
  cases option <;> rfl

theorem minPCount_eq {processor : MinPLogitsProcessor} (counted : processor.Counted)
    (settled : runner.batch.Settled)
    (cpu : ∀ row, processor.minPCpu row = (runner.requestAt row).elim 0 fun request =>
      processor.toFloat32 request.samplingParams.minP) :
    processor.minPCount = ((Finset.range runner.batch.numReqs).filter fun row =>
      (runner.requestAt row).any fun request =>
        processor.toFloat32 request.samplingParams.minP ≠ 0).card := by
  rw [counted.count]
  unfold nonzeroRows
  congr 1
  rw [← Set.ncard_coe_finset]
  congr 1
  ext row
  simp only [mem_support, Finset.coe_filter, Set.mem_ofPred_eq]
  rw [cpu row]
  cases here : runner.batch.occupant row with
  | none =>
    have empty : runner.requestAt row = none := by
      unfold requestAt
      rw [here]
      rfl
    rw [empty]
    simp
  | some reqId =>
    have within : row < runner.batch.numReqs := by
      rw [settled.numReqs_eq]
      exact InputBatch.occupant_lt (by simp [here])
    have request : runner.requestAt row = runner.requests reqId := by
      unfold requestAt
      rw [here]
      rfl
    rw [request]
    cases runner.requests reqId with
    | none => simp
    | some request => simp [within]

theorem mem_attained {outputs : RequestId → List Int}
    {minToks : AList fun _ : Nat => MinTokensEntry} :
    row ∈ attained outputs minToks ↔ ∃ entry, minToks.lookup row = some entry ∧
        entry.minTokens ≤ (outputs entry.outputTokIdsOf).length := by
  unfold attained
  rw [List.mem_map]
  constructor
  · rintro ⟨⟨_, entry⟩, member, rfl⟩
    rw [List.mem_filter] at member
    exact ⟨entry, AList.mem_lookup_iff.mpr member.1, by simpa using member.2⟩
  · rintro ⟨entry, found, attained⟩
    refine ⟨⟨row, entry⟩, ?_, rfl⟩
    rw [List.mem_filter]
    exact ⟨AList.mem_lookup_iff.mp found, by simpa using attained⟩

theorem lookup_dropAttained (outputs : RequestId → List Int)
    (minToks : AList fun _ : Nat => MinTokensEntry) (row : Nat) :
    ((attained outputs minToks).foldl
        (fun minToks index => minToks.erase index) minToks).lookup row =
      (minToks.lookup row).filter fun entry =>
        ¬entry.minTokens ≤ (outputs entry.outputTokIdsOf).length := by
  have erased := congrFun (asTable_foldl_erase minToks (attained outputs minToks)) row
  refine Eq.trans erased ?_
  unfold replayRemoved
  rw [Rows.foldl_update_blank]
  unfold asTable
  split
  · next isAttained =>
    obtain ⟨entry, found, attained⟩ := mem_attained.mp isAttained
    rw [found]
    simp [Option.filter, attained]
  · next notAttained =>
    cases found : minToks.lookup row with
    | none => rfl
    | some entry =>
      have short : ¬entry.minTokens ≤ (outputs entry.outputTokIdsOf).length :=
        fun attained => notAttained (mem_attained.mpr ⟨entry, found, attained⟩)
      simp [Option.filter, short]

def minToksOf (request : CachedRequestState) : Option MinTokensEntry :=
  MinTokensLogitsProcessor.addRequest request.samplingParams request.reqId
    request.outputTokenIds.length

theorem minToksOf_grown {request later : CachedRequestState}
    (grown : BatchState.Grown request later) :
    minToksOf later = (minToksOf request).filter fun entry =>
      ¬entry.minTokens ≤ later.outputTokenIds.length := by
  have longer := grown.outputs.length_le
  unfold minToksOf addRequest
  rw [grown.params, grown.reqId]
  by_cases none : request.samplingParams.minTokens = 0 ∨
      request.samplingParams.minTokens ≤ request.outputTokenIds.length
  · have later : request.samplingParams.minTokens = 0 ∨
        request.samplingParams.minTokens ≤ later.outputTokenIds.length := by omega
    rw [if_pos none, if_pos later]
    rfl
  · rw [if_neg none]
    by_cases attained : request.samplingParams.minTokens ≤ later.outputTokenIds.length
    · rw [if_pos (.inr attained)]
      simp [Option.filter, attained]
    · have later : ¬(request.samplingParams.minTokens = 0 ∨
          request.samplingParams.minTokens ≤ later.outputTokenIds.length) := by omega
      rw [if_neg later]
      simp [Option.filter, attained]

theorem minToks_slice {processor : MinTokensLogitsProcessor}
    (slice : processor.logitsSlice =
      MinTokensLogitsProcessor.slice processor.minToks)
    (outputs : RequestId → List Int) (update : Option BatchUpdate) :
    (processor.updateState outputs update).logitsSlice =
      MinTokensLogitsProcessor.slice (processor.updateState outputs update).minToks := by
  have still := processDictUpdates_unchanged (fun _ => true)
    (fun added => addRequest added.params added.outputTokIdsOf
      (outputs added.outputTokIdsOf).length)
    (fun row entry (_ : processor.minToks.lookup row = some entry) => rfl) update
  unfold updateState
  dsimp only
  split
  · rfl
  · next unchanged =>
    simp only [Bool.or_eq_true, Bool.not_eq_eq_eq_not, Bool.not_true, not_or, Bool.not_eq_true,
      Bool.not_eq_false, List.isEmpty_iff] at unchanged
    rw [unchanged.2, List.foldl_nil, still unchanged.1, slice]

theorem addOwn_other {reqId : RequestId} (other : reqId ∉ added.map (·.1.reqId)) :
    addOwn markers runner own added reqId = own reqId := by
  induction added generalizing own with
  | nil => rfl
  | cons entry added ih =>
    rw [List.map_cons, List.mem_cons, not_or] at other
    exact (ih other.2).trans (update_of_ne other.1 _ _)

theorem addOwn_mem (once : (added.map (·.1.reqId)).Nodup) {entry : CachedRequestState × List Int}
    (member : entry ∈ added) :
    addOwn markers runner own added entry.1.reqId =
      ThinkingBudgetStateHolder.newEntry markers runner.outputs
        (entryOf 0 entry.1) := by
  induction added generalizing own with
  | nil => exact absurd member List.not_mem_nil
  | cons first added ih =>
    rw [List.map_cons, List.nodup_cons] at once
    rcases List.mem_cons.mp member with rfl | later
    · exact (addOwn_other once.1).trans (update_self _ _ _)
    · exact ih once.2 later

def Asked (own : RequestId → Option ThinkState) (runner : BatchState) : Prop :=
  ∀ reqId, (own reqId).isSome = (runner.requests reqId).any fun request =>
    request.samplingParams.thinkingTokenBudget.isSome

theorem isSome_of_follows {table : Nat → Option ThinkState} (asked : Asked own runner)
    (here : table row = (runner.batch.occupant row).elim none own) :
    (table row).isSome = budgeted runner row := by
  rw [here]
  unfold budgeted requestAt
  cases runner.batch.occupant row with
  | none => rfl
  | some reqId => exact asked reqId

theorem lookup_useThinking (holder : ThinkingBudgetStateHolder) (runner : BatchState)
    (passes : List (Nat × Bool)) (row : Nat) :
    (useThinking holder runner passes).state.lookup row =
      ((holder.updateState (runner.batch.reqOutputTokenIds.map fun reqId =>
        reqId.elim [] runner.outputs) runner.batch.specTokenIds).state.lookup row).map fun state =>
          passes.foldl (fun state pass => holder.markers.afterForcing pass.2 state) state := by
  have each : ∀ current : ThinkingBudgetStateHolder, current.markers = holder.markers →
      (passes.foldl (fun current pass =>
        (current.applyToLogits pass.1 pass.2 runner.batch.specTokenIds).2) current).state.lookup
          row = (current.state.lookup row).map fun state =>
            passes.foldl (fun state pass => holder.markers.afterForcing pass.2 state) state := by
    intro current same
    induction passes generalizing current with
    | nil => simp
    | cons pass passes ih =>
      refine (ih (current.applyToLogits pass.1 pass.2 runner.batch.specTokenIds).2 same).trans ?_
      unfold ThinkingBudgetStateHolder.applyToLogits
      rw [Dict.lookup_mapValues, map_map, same]
      rfl
  exact each _ rfl

theorem useThinking_follow {holder : ThinkingBudgetStateHolder} (indexed : runner.batch.Indexed)
    (passes : List (Nat × Bool))
    (follows : Rows.Follows none own runner.batch.occupant (fun _ => False)
      (asTable holder.state)) :
    ∀ row, (useThinking holder runner passes).state.lookup row =
      (runner.batch.occupant row).bind (advanceOwn holder runner passes own) := by
  intro row
  rw [lookup_useThinking]
  unfold ThinkingBudgetStateHolder.updateState
  rw [Dict.lookup_mapValues, map_map]
  have entry := follows row id
  unfold asTable at entry
  rw [entry]
  cases here : runner.batch.occupant row with
  | none => rfl
  | some reqId =>
    have found := (indexed.index reqId row).mpr here
    have output : (runner.batch.reqOutputTokenIds.map fun reqId =>
        reqId.elim [] runner.outputs)[row]? = some (runner.outputs reqId) := by
      rw [List.getElem?_map, indexed.outputs, InputBatch.occupant_eq_some.mp here]
      rfl
    rw [output]
    refine Eq.trans ?_ (show _ = advanceOwn holder runner passes own reqId from rfl)
    unfold advanceOwn
    rw [found]
    rfl

section

variable (phases : start.Phases step middle grown condensed final)

include phases

theorem params_kept (blank : A) (value : SamplingParams → A) {reqId : RequestId}
    (notAdded : reqId ∉ step.added.map (·.1.reqId)) :
    ((final.requests reqId).elim blank fun request => value request.samplingParams) =
      (start.requests reqId).elim blank fun request => value request.samplingParams := by
  have same := phases.requests.2.1 reqId notAdded
  generalize start.requests reqId = before, final.requests reqId = after at same ⊢
  cases same with
  | none => rfl
  | some grown =>
    dsimp only [Option.elim]
    rw [grown.params]

theorem asked_addOwn (markers : ThinkMarkers) (asked : Asked own start) :
    Asked (addOwn markers final own step.added) final := by
  have once := (List.nodup_append.mp step.scheduledOnce).2.1
  intro reqId
  by_cases isNew : reqId ∈ step.added.map (·.1.reqId)
  · obtain ⟨entry, member, rfl⟩ := List.mem_map.mp isNew
    rw [addOwn_mem once member, phases.requests.2.2 entry member]
    unfold ThinkingBudgetStateHolder.newEntry
    rw [isSome_map]
    rfl
  · rw [addOwn_other isNew, asked reqId]
    have same := params_kept phases false (fun params => params.thinkingTokenBudget.isSome) isNew
    cases before : start.requests reqId <;> cases after : final.requests reqId <;>
      simp_all

theorem known_step (isOpen : start.batch.Open)
    (known : ∀ row reqId, start.batch.occupant row = some reqId →
      ∃ request, start.requests reqId = some request ∧ request.reqId = reqId) :
    ∀ row reqId, final.batch.occupant row = some reqId →
      ∃ request, final.requests reqId = some request ∧ request.reqId = reqId := by
  intro row reqId here
  obtain ⟨_, kept, news⟩ := phases.requests
  by_cases isNew : reqId ∈ step.added.map (·.1.reqId)
  · obtain ⟨entry, member, rfl⟩ := List.mem_map.mp isNew
    exact ⟨entry.1, news entry member, rfl⟩
  · have live : reqId ∈ final.batch.reqIdToIndex := by
      rw [AList.mem_keys, phases.settled.mem_keys]
      exact ⟨row, here⟩
    have old := (phases.members live).resolve_right isNew
    rw [AList.mem_keys, isOpen.mem_keys] at old
    obtain ⟨place, there⟩ := old
    obtain ⟨request, found, sameId⟩ := known place reqId there
    have later := kept reqId isNew
    rw [found] at later
    generalize final.requests reqId = after at later ⊢
    cases later with
    | some grown => exact ⟨_, rfl, grown.reqId.trans sameId⟩

theorem sync_follow {holder : ThinkingBudgetStateHolder} {toFloat32 : ℚ → ℚ}
    (resting : start.batch.Refreshed) (meets : Run.Meets call
      (CallFollowed toFloat32 fun row => (holder.state.lookup row).isSome) start
      (step.changes start.batch)) (asked : Asked own start)
    (follows : Rows.Follows none own start.batch.occupant (fun _ => False) (asTable holder.state)) :
    Rows.Follows none (addOwn holder.markers final own step.added) final.batch.occupant
      (fun _ => False)
      (asTable (holder.syncBatch final.outputs final.batch.refreshMetadata.1).state) := by
  have once := (List.nodup_append.mp step.scheduledOnce).2.1
  have sameRequests := phases.requests.1
  have askedFinal := asked_addOwn phases holder.markers asked
  have askedWith : ∀ current : BatchState, current.requests = grown.requests →
      Asked (addOwn holder.markers final own step.added) current := by
    intro current same reqId
    rw [same, ← sameRequests]
    exact askedFinal reqId
  have told : ∀ entry ∈ step.added, ∀ row,
      ThinkingBudgetStateHolder.newEntry holder.markers final.outputs
        (entryOf row entry.1) = addOwn holder.markers final own step.added entry.1.reqId :=
    fun entry member row => (addOwn_mem once member).symm
  have moved := phases.follow resting meets ThinkingBudgetStateHolder.TrackedMove follows
    (fun reqId notAdded => addOwn_other notAdded) told
    (fun allowed way member table apart source target => ?_)
    (fun current i1 i2 table same allowed followsTable => ?_)
  · obtain ⟨followsNext, along⟩ := moved
    rcases final.batch.refreshMetadata_update with ⟨update, noRemoved, noAdded, noMoved⟩ | update
    · rw [noRemoved, noAdded, noMoved] at followsNext
      rw [update]
      exact followsNext
    · rw [update, ThinkingBudgetStateHolder.syncBatch_table
        (fun entry isAdded => phases.added_not_removed resting isAdded) along]
      exact followsNext
  · refine ⟨apart, fun none => ?_⟩
    have state := isSome_of_follows (askedWith grown rfl) source
    rw [show table way.1 = Option.none from none] at state
    have free := (allowed way member).resolve_left (by simp [← state])
    rw [show table way.2 = asTable holder.state way.2 from target]
    exact isNone_iff_eq_none.mp (by simpa [asTable] using free)
  · have first := isSome_of_follows (askedWith current same) (followsTable i1 id)
    have second := isSome_of_follows (askedWith current same) (followsTable i2 id)
    exact first.trans (Eq.trans allowed second.symm)

variable (resting : start.batch.Refreshed)
  (meets : Run.Meets BatchState.call allowed start (step.changes start.batch))

include resting meets

theorem proper_follow {blank : A} {ownBefore : RequestId → A} {rows : Nat → A} (own : RequestId → A)
    (fresh : AddedRequest → A)
    (follows : Rows.Follows blank ownBefore start.batch.occupant (fun _ => False) rows)
    (kept : ∀ reqId, reqId ∉ step.added.map (·.1.reqId) → own reqId = ownBefore reqId)
    (added : ∀ entry ∈ step.added, ∀ row, fresh (entryOf row entry.1) = own entry.1.reqId) :
    let builder := final.batch.batchUpdateBuilder
    let table := replayRemoved blank (replayAdded fresh rows builder.added)
      builder.removedRows
    Rows.Follows blank own final.batch.occupant (fun _ => False)
        (builder.moved.foldl (replayMove blank) table) ∧
      Along blank ProperMove table builder.moved :=
  phases.follow resting meets ProperMove follows kept added (fun _ _ _ _ apart _ _ _ => apart)
    fun _ _ _ _ _ _ _ direction => nomatch direction

theorem dict_follow {T : Type} (truthy : T → Bool) (newState : AddedRequest → Option T)
    (own : RequestId → Option T) {entries : AList fun _ : Nat => T}
    {ownBefore : RequestId → Option T}
    (follows : Rows.Follows none ownBefore start.batch.occupant (fun _ => False) (asTable entries))
    (kept : ∀ reqId, reqId ∉ step.added.map (·.1.reqId) → own reqId = ownBefore reqId)
    (added : ∀ entry ∈ step.added, ∀ row, newState (entryOf row entry.1) = own entry.1.reqId) :
    Rows.Follows none own final.batch.occupant (fun _ => False)
      (asTable (processDictUpdates truthy newState entries final.batch.refreshMetadata.1).2) := by
  obtain ⟨followsNext, along⟩ :=
    proper_follow phases resting meets own newState follows kept added
  rcases final.batch.refreshMetadata_update with ⟨update, noRemoved, noAdded, noMoved⟩ | update
  · rw [noRemoved, noAdded, noMoved] at followsNext
    rw [update]
    exact followsNext
  · rw [update, processDictUpdates_table truthy newState along]
    exact followsNext

theorem numReqs_same (noRemoved : final.batch.batchUpdateBuilder.removedRows = [])
    (noAdded : final.batch.batchUpdateBuilder.added = [])
    (noMoved : final.batch.batchUpdateBuilder.moved = []) :
    final.batch.numReqs = start.batch.numReqs := by
  have follows : Rows.Follows none some start.batch.occupant (fun _ => False)
      start.batch.occupant := by
    intro row _
    cases start.batch.occupant row <;> rfl
  have same := (proper_follow phases resting meets some (fun entry => some entry.outputTokIdsOf)
    follows (fun _ _ => rfl) fun _ _ _ => rfl).1
  rw [noRemoved, noAdded, noMoved] at same
  have occupant : final.batch.occupant = start.batch.occupant := by
    funext row
    have here := same row id
    unfold replayRemoved replayAdded at here
    simp only [List.foldl_nil] at here
    rw [here]
    cases final.batch.occupant row <;> rfl
  have settled : start.batch.Settled := by
    apply resting.isOpen.settled_of_no_holes
    have perm := start.batch.batchUpdateBuilder.holes_perm
    rw [resting.removed] at perm
    exact perm.eq_nil
  rw [settled.numReqs_eq]
  apply phases.settled.numReqs_of_dense
  rw [occupant]
  exact settled.dense

theorem minP_follow {processor : MinPLogitsProcessor} (counted : processor.Counted)
    (exact : ∀ new ∈ step.added, processor.toFloat32 new.1.samplingParams.minP = 0 ↔
      new.1.samplingParams.minP = 0)
    (before : ∀ row, processor.minPCpu row = (start.requestAt row).elim 0 fun request =>
      processor.toFloat32 request.samplingParams.minP)
    (tensor : processor.minPCount ≠ 0 → processor.minPSize = start.batch.numReqs ∧
      ∀ row < start.batch.numReqs, processor.minP row = processor.minPCpu row) :
    let next := processor.updateState final.batch.refreshMetadata.1
    next.Counted ∧ next.toFloat32 = processor.toFloat32 ∧
      (∀ row, next.minPCpu row = (final.requestAt row).elim 0 fun request =>
        processor.toFloat32 request.samplingParams.minP) ∧
      (next.minPCount ≠ 0 → next.minPSize = final.batch.numReqs ∧
        ∀ row < final.batch.numReqs, next.minP row = next.minPCpu row) := by
  have news := phases.requests.2.2
  obtain ⟨follows, along⟩ := proper_follow phases resting meets
    (fun reqId => (final.requests reqId).elim 0 fun request =>
      processor.toFloat32 request.samplingParams.minP)
    (fun entry => processor.toFloat32 entry.params.minP)
    (follows_requestAt.mp before)
    (fun reqId notAdded =>
      params_kept phases 0 (fun params => processor.toFloat32 params.minP) notAdded)
    (fun entry member row => by rw [news entry member]; rfl)
  rcases final.batch.refreshMetadata_update with ⟨update, noRemoved, noAdded, noMoved⟩ | update
  · have count := numReqs_same phases resting meets noRemoved noAdded noMoved
    rw [noRemoved, noAdded, noMoved] at follows
    rw [update]
    refine ⟨counted, rfl, follows_requestAt.mpr follows, fun some => ?_⟩
    rw [count]
    exact tensor some
  · rw [update]
    have added : ∀ entry ∈ final.batch.batchUpdateBuilder.added,
        processor.toFloat32 entry.params.minP = 0 ↔ entry.params.minP = 0 := by
      intro entry isAdded
      obtain ⟨_, new, member, told⟩ := phases.added_spec resting isAdded
      rw [told]
      exact exact new member
    obtain ⟨countedNext, float, cpu, shown⟩ := MinPLogitsProcessor.updateState_spec
      ⟨_, _, _, _⟩ counted added along
    refine ⟨countedNext, float, ?_, fun some => ?_⟩
    · rw [cpu]
      exact follows_requestAt.mpr follows
    · obtain ⟨size, rows⟩ := shown (fun some row within => by
        obtain ⟨sizeBefore, rowsBefore⟩ := tensor some
        exact rowsBefore row (sizeBefore ▸ within)) some
      refine ⟨size, fun row within => rows row within ?_⟩
      rintro ⟨entry, isMoved, direction, rfl⟩
      have empty := phases.source_empty resting isMoved direction
      rw [phases.settled.numReqs_eq] at within
      exact phases.settled.full _ within empty

theorem bias_follow {processor : LogitBiasLogitsProcessor}
    (before : ∀ row, processor.biases.lookup row = (start.requestAt row).bind fun request =>
      LogitBiasLogitsProcessor.newBias request.samplingParams)
    (tensors : processor.biasTensors = LogitBiasLogitsProcessor.tensors processor.biases) :
    let next := processor.updateState final.batch.refreshMetadata.1
    (∀ row, next.biases.lookup row = (final.requestAt row).bind fun request =>
      LogitBiasLogitsProcessor.newBias request.samplingParams) ∧
      next.biasTensors = LogitBiasLogitsProcessor.tensors next.biases := by
  have follows := dict_follow phases resting meets (fun bias => !bias.isEmpty)
    (fun added => LogitBiasLogitsProcessor.newBias added.params)
    (fun reqId => (final.requests reqId).elim none fun request =>
      LogitBiasLogitsProcessor.newBias request.samplingParams)
    (follows_requestAt.mp fun row => (before row).trans (bind_eq_elim _ _))
    (fun reqId notAdded => params_kept phases none LogitBiasLogitsProcessor.newBias notAdded)
    (fun entry member row => by rw [phases.requests.2.2 entry member]; rfl)
  have still := processDictUpdates_unchanged (fun bias => !bias.isEmpty)
    (fun added => LogitBiasLogitsProcessor.newBias added.params)
    (fun row bias found => by
      rw [before row, bind_eq_some_iff] at found
      obtain ⟨request, _, made⟩ := found
      exact (filter_eq_some_iff.mp made).2) final.batch.refreshMetadata.1
  refine ⟨fun row => (follows_requestAt.mpr follows row).trans (bind_eq_elim _ _).symm, ?_⟩
  unfold LogitBiasLogitsProcessor.updateState
  dsimp only
  split
  · rfl
  · next unchanged => rw [still (by simpa using unchanged), tensors]

theorem minToks_follow {processor : MinTokensLogitsProcessor}
    (known : ∀ row reqId, final.batch.occupant row = some reqId →
      ∃ request, final.requests reqId = some request ∧ request.reqId = reqId)
    (before : ∀ row, processor.minToks.lookup row = (start.requestAt row).bind minToksOf) :
    ∀ row, (processor.updateState final.outputs final.batch.refreshMetadata.1).minToks.lookup row =
      (final.requestAt row).bind minToksOf := by
  obtain ⟨_, keptRequests, news⟩ := phases.requests
  have follows := dict_follow phases resting meets (fun _ => true)
    (fun added => addRequest added.params added.outputTokIdsOf
      (final.outputs added.outputTokIdsOf).length)
    (fun reqId => if reqId ∈ step.added.map (·.1.reqId)
      then (final.requests reqId).elim none minToksOf
      else (start.requests reqId).elim none minToksOf)
    (follows_requestAt.mp fun row => (before row).trans (bind_eq_elim _ _))
    (fun reqId notAdded => if_neg notAdded)
    (fun entry member row => by
      rw [if_pos (List.mem_map_of_mem member), news entry member]
      unfold entryOf outputs
      rw [news entry member]
      rfl)
  intro row
  unfold updateState
  rw [lookup_dropAttained]
  have entry := follows row id
  unfold asTable at entry
  rw [entry]
  unfold requestAt
  cases here : final.batch.occupant row with
  | none => rfl
  | some reqId =>
    obtain ⟨later, now, sameId⟩ := known row reqId here
    have outputs : final.outputs reqId = later.outputTokenIds := by
      unfold outputs
      rw [now]
      rfl
    -- whenever the entry was made, it refers to the output tokens of this request
    have dropped : ∀ request : CachedRequestState, request.reqId = reqId →
        BatchState.Grown request later →
        ((minToksOf request).filter fun entry =>
          ¬entry.minTokens ≤ (final.outputs entry.outputTokIdsOf).length) = minToksOf later := by
      intro request same grownHere
      rw [minToksOf_grown grownHere]
      cases made : minToksOf request with
      | none => rfl
      | some entry =>
        unfold minToksOf addRequest at made
        split at made
        · cases made
        · cases made
          simp only [Option.filter, same, outputs]
    dsimp only [Option.elim, Option.bind]
    rw [now]
    by_cases isNew : reqId ∈ step.added.map (·.1.reqId)
    · simp only [if_pos isNew]
      exact dropped later sameId (.refl later)
    · simp only [if_neg isNew]
      have grownHere := keptRequests reqId isNew
      rw [now] at grownHere
      generalize start.requests reqId = first at grownHere ⊢
      cases grownHere with
      | some grownHere => exact dropped _ (grownHere.reqId.symm.trans sameId) grownHere

end

end OneStep

structure Following (state : SamplingState) : Prop where
  resting : state.runner.batch.Refreshed
  known : ∀ row reqId, state.runner.batch.occupant row = some reqId →
    ∃ request, state.runner.requests reqId = some request ∧ request.reqId = reqId
  counted : state.minP.Counted
  asked : Asked state.ownThinking state.runner
  follow : state.ProcessorsFollow

theorem Following.step {state next : SamplingState} {op : SamplingStep}
    (following : state.Following) (allowed : state.StepFollowed op)
    (run : state.step op = .ok next) : next.Following := by
  unfold SamplingState.step at run
  obtain ⟨final, changes, run⟩ := bind_eq_ok.mp run
  cases run
  obtain ⟨_, _, _, phases⟩ := phases following.resting changes
  have resting := following.resting
  have follow := following.follow
  have refreshed := phases.settled.refreshMetadata
  have known := known_step phases resting.isOpen following.known
  have news : ∀ new ∈ op.batch.added,
      state.minP.toFloat32 new.1.samplingParams.minP = 0 ↔ new.1.samplingParams.minP = 0 := by
    intro new member
    have isCall : BatchCall.addRequest new.1 new.2 ∈ op.batch.changes state.runner.batch := by
      unfold BatchStep.changes BatchStep.growth
      simp only [List.mem_append, List.mem_map]
      exact .inl (.inl (.inr ⟨new, member, rfl⟩))
    obtain ⟨_, holds⟩ := allowed.exists_allowed changes isCall
    exact holds
  obtain ⟨counted, float, cpu, tensor⟩ := minP_follow phases resting allowed following.counted
    news follow.minP follow.minPTensor
  rw [← float] at cpu
  obtain ⟨biases, biasTensors⟩ := bias_follow phases resting allowed follow.biases
    follow.biasTensors
  let runner : BatchState := { final with batch := final.batch.refreshMetadata.2 }
  have settled : runner.batch.Settled := ⟨refreshed.isOpen.toIndexed, phases.settled.full⟩
  have synced := sync_follow phases resting allowed following.asked
    fun row _ => (follow.thinking row).trans (bind_eq_elim _ _)
  have sameHolder : ∀ update : Option BatchUpdate,
      advanceOwn (state.thinking.syncBatch final.outputs update) = advanceOwn state.thinking := by
    intro update
    cases update <;> rfl
  have thinking := @useThinking_follow runner _ _ settled.toIndexed op.passes synced
  rw [sameHolder] at thinking
  have asked : Asked (advanceOwn state.thinking runner op.passes
      (addOwn state.thinking.markers final state.ownThinking op.batch.added)) runner := by
    intro reqId
    refine Eq.trans ?_ (asked_addOwn phases state.thinking.markers following.asked reqId)
    unfold advanceOwn
    split
    · rfl
    · exact isSome_map
  refine ⟨refreshed, known, counted, asked, cpu, minPCount_eq counted settled cpu, tensor, biases,
    biasTensors, minToks_follow phases resting allowed known follow.minToks,
    minToks_slice follow.logitsSlice _ _, thinking, fun row => ?_⟩
  change (asTable _ row).isSome = _
  exact isSome_of_follows asked ((thinking row).trans (bind_eq_elim _ _))

theorem following_create (config : InputBatchConfig) (blockTables : List BlockTable)
    (markers : ThinkMarkers) (numSpecTokens : Nat) (useDoubleTensor : Bool) :
    (create config blockTables markers numSpecTokens useDoubleTensor).Following := by
  have support : support (create config blockTables markers numSpecTokens
      useDoubleTensor).minP.minPCpu = ∅ := support_eq_empty_iff.mpr rfl
  refine ⟨InputBatch.refreshed_create config blockTables, fun _ _ here => (nomatch here), ⟨?_, ?_⟩,
    fun _ => rfl, ?_⟩
  · rw [support]
    exact Set.finite_empty
  · unfold nonzeroRows
    rw [support, Set.ncard_empty]
    rfl
  · exact ⟨fun _ => rfl, rfl, fun some => absurd rfl some, fun _ => rfl, rfl, fun _ => rfl, rfl,
      fun _ => rfl, fun _ => rfl⟩

theorem processors_follow (config : InputBatchConfig) (blockTables : List BlockTable)
    (markers : ThinkMarkers) (numSpecTokens : Nat) (useDoubleTensor : Bool)
    (steps : List SamplingStep) (meets : Run.Meets step StepFollowed
      (create config blockTables markers numSpecTokens useDoubleTensor) steps) :
    Run.Always step ProcessorsFollow
      (create config blockTables markers numSpecTokens useDoubleTensor) steps := by
  have kept := Run.always_of_meets
    (fun _ _ _ taken allowed following => Following.step following allowed taken) meets
    (following_create config blockTables markers numSpecTokens useDoubleTensor)
  exact kept.imp fun _ following => following.follow

def smallMarkers : ThinkMarkers := ⟨[100], [101]⟩

def askingRequest (reqId : RequestId) : CachedRequestState :=
  { BatchState.plainRequest reqId with
    samplingParams := { BatchState.plainParams with
      minP := 1 / 2
      minTokens := 3
      logitBias := some [(4, 1)]
      thinkingTokenBudget := some 5 } }

theorem processors_follow_swap :
    Run.Always step ProcessorsFollow (create BatchState.smallConfig [] smallMarkers 0 true)
      [⟨BatchState.addStep [askingRequest 0, askingRequest 1] [(0, 1)] (by decide),
        [(2, false)]⟩] := by
  apply processors_follow
  refine ⟨fun next taken => ?_, fun _ _ => trivial⟩
  refine ⟨fun _ _ => Iff.rfl, fun _ first => ?_⟩
  cases first
  refine ⟨fun _ _ => Iff.rfl, fun _ second => ?_⟩
  cases second
  refine ⟨fun _ _ way member => absurd member List.not_mem_nil, fun _ third => ?_⟩
  cases third
  exact ⟨fun _ _ => rfl, fun _ _ => trivial⟩

def view (row : Nat) (state : SamplingState) : Bool × Bool × Int × Nat :=
  ((state.thinking.state.lookup row).isSome, budgeted state.runner row, state.minP.minPCount,
    ((Finset.range state.runner.batch.numReqs).filter fun row =>
      (state.runner.requestAt row).any fun request =>
        state.minP.toFloat32 request.samplingParams.minP ≠ 0).card)

theorem ProcessorsFollow.of_view {state : SamplingState} {row rows : Nat} {held asked : Bool}
    {count : Int} (follow : state.ProcessorsFollow) (seen : view row state = (held, asked, count, rows)) :
    held = asked ∧ count = rows := by
  obtain ⟨rfl, rfl, rfl, rfl⟩ := seen
  exact ⟨follow.thinkingAsked row, follow.minPCount⟩

def thinkingRequest (reqId : RequestId) : CachedRequestState :=
  { BatchState.plainRequest reqId with
    samplingParams := { BatchState.plainParams with thinkingTokenBudget := some 5 } }

def minPRequest (reqId : RequestId) (minP : ℚ) : CachedRequestState :=
  { BatchState.plainRequest reqId with
    samplingParams := { BatchState.plainParams with minP := minP } }

def roundingConfig : InputBatchConfig :=
  { BatchState.smallConfig with toFloat32 := fun value => if value ≤ 1 / 2 ^ 150 then 0 else value }

theorem processors_do_not_follow :
    ¬Run.Always step ProcessorsFollow (create BatchState.smallConfig [] smallMarkers 0 true)
        [⟨BatchState.addStep [thinkingRequest 0, BatchState.plainRequest 1] [(0, 1)] (by decide),
          []⟩] ∧
      ¬Run.Always step ProcessorsFollow (create BatchState.smallConfig [] smallMarkers 0 true)
        [⟨BatchState.addStep [thinkingRequest 0, BatchState.plainRequest 1] [] (by decide), []⟩,
          ⟨BatchState.runStep 1 [0] [] (by decide), []⟩] ∧
      ¬Run.Always step ProcessorsFollow (create roundingConfig [] smallMarkers 0 true)
        [⟨BatchState.addStep [minPRequest 0 (1 / 2)] [] (by decide), []⟩,
          ⟨BatchState.addStep [minPRequest 1 (1 / 2 ^ 160)] [] (by decide), []⟩] := by
  refine ⟨?_, ?_, ?_⟩
  · intro always
    obtain ⟨_, follow, seen⟩ := always.exists_view (view 0) (true, false, 0, 0) rfl
    exact absurd (follow.of_view seen).1 (by decide)
  · intro always
    obtain ⟨_, follow, seen⟩ := always.exists_view (view 0) (true, false, 0, 0) rfl
    exact absurd (follow.of_view seen).1 (by decide)
  · intro always
    obtain ⟨_, follow, seen⟩ := always.exists_view (view 0) (false, false, 1, 0)
      (by with_unfolding_all rfl)
    exact absurd (follow.of_view seen).2 (by decide)

end SamplingState

end VllmEngine

import VllmEngine.Worker.BatchPhases

set_option autoImplicit false

namespace VllmEngine

open Outcome List BatchUpdateBuilder Rows InputBatch

section Replay

variable {A : Type} {blank : A} {good : (Nat → A) → MovedRequest → Prop} {rows : Nat → A}

def replayMove (blank : A) (rows : Nat → A) (moved : MovedRequest) : Nat → A :=
  match moved.direction with
  | .swap => Rows.swap rows moved.first moved.second
  | .unidirectional => Rows.shift blank rows moved.first moved.second

def replayRemoved (blank : A) (rows : Nat → A) (removed : List Nat) : Nat → A :=
  removed.foldl (fun rows row => Function.update rows row blank) rows

def BatchUpdate.replay (blank : A) (fresh : AddedRequest → A) (rows : Nat → A)
    (update : BatchUpdate) : Nat → A :=
  update.moved.foldl (replayMove blank)
    (replayRemoved blank (BatchState.replayAdded fresh rows update.added) update.removed)

def Along (blank : A) (good : (Nat → A) → MovedRequest → Prop) :
    (Nat → A) → List MovedRequest → Prop
  | _, [] => True
  | rows, moved :: rest => good rows moved ∧ Along blank good (replayMove blank rows moved) rest

theorem Along.append {first second : List MovedRequest} (begins : Along blank good rows first)
    (ends : Along blank good (first.foldl (replayMove blank) rows) second) :
    Along blank good rows (first ++ second) := by
  induction first generalizing rows with
  | nil => exact ends
  | cons moved first ih => exact ⟨begins.1, ih begins.2 ends⟩

theorem foldl_asMoved (blank : A) (moves : List (Nat × Nat)) (rows : Nat → A) :
    (asMoved moves).foldl (replayMove blank) rows =
      moves.foldl (fun rows way => shift blank rows way.1 way.2) rows := by
  unfold asMoved
  rw [foldl_map]
  rfl

theorem along_asMoved
    {moves : List (Nat × Nat)} (distinct : (moves.flatMap fun way => [way.1, way.2]).Nodup)
    (each : ∀ way ∈ moves, ∀ table : Nat → A, table way.1 = rows way.1 →
      table way.2 = rows way.2 → good table ⟨way.1, way.2, .unidirectional⟩) :
    Along blank good rows (asMoved moves) := by
  induction moves generalizing rows with
  | nil => trivial
  | cons way moves ih =>
    rw [flatMap_cons, nodup_append] at distinct
    obtain ⟨_, rest, apart⟩ := distinct
    refine ⟨each way mem_cons_self rows rfl rfl, ih rest fun other member table => ?_⟩
    have differ : ∀ row ∈ [other.1, other.2], row ≠ way.1 ∧ row ≠ way.2 := by
      intro row isRow
      have later : row ∈ moves.flatMap fun way => [way.1, way.2] :=
        mem_flatMap.mpr ⟨other, member, isRow⟩
      exact ⟨fun same => apart way.1 (by simp) row later same.symm,
        fun same => apart way.2 (by simp) row later same.symm⟩
    have source := differ other.1 (by simp)
    have target := differ other.2 (by simp)
    unfold replayMove
    dsimp only
    rw [shift_other blank rows source.1 source.2, shift_other blank rows target.1 target.2]
    exact each other (mem_cons_of_mem way member) table

end Replay

theorem InputBatch.Open.condenseMoves_spec {batch : InputBatch} (isOpen : batch.Open) :
    (batch.condenseMoves.flatMap fun way => [way.1, way.2]).Nodup ∧ batch.condenseMoves.map (·.2) =
        batch.batchUpdateBuilder.holes.take batch.condenseMoves.length := by
  unfold condenseMoves
  split
  · simp
  · exact (compactionMoves_spec (isOpen.ordered.holes_lt isOpen.distinct) _).2

namespace BatchState

variable {start middle grown condensed state next final : BatchState} {step : BatchStep}
  {swaps : List (Nat × Nat)}

structure Phases (start : BatchState) (step : BatchStep)
    (middle grown condensed final : BatchState) : Prop where
  thinned : start.Thinned (step.finished ++ step.unscheduled start.batch) middle
  running : ∀ reqId ∈ middle.batch.reqIdToIndex, reqId ∈ step.running.map (·.reqId)
  filled : middle.Filled step.added grown
  grownRun : (step.growth start.batch).foldlM call start = .ok grown
  condenseRun : grown.call .condense = .ok condensed
  swapRun : (step.swaps.map fun entry => BatchCall.swapStates entry.1 entry.2).foldlM call
    condensed = .ok final

theorem phases (resting : start.batch.Refreshed)
    (run : (step.changes start.batch).foldlM call start = .ok final) :
    ∃ middle grown condensed, start.Phases step middle grown condensed final := by
  obtain ⟨condensed, run, swapRun⟩ := Run.foldlM_append_ok run
  obtain ⟨grown, grownRun, condenseRun⟩ := Run.foldlM_append_ok run
  have run := grownRun
  obtain ⟨updated, run, addRun⟩ := Run.foldlM_append_ok run
  obtain ⟨removed, run, updateRun⟩ := Run.foldlM_append_ok run
  obtain ⟨_, sampleRun, removeRun⟩ := Run.foldlM_append_ok run
  rw [foldlM_map] at sampleRun updateRun
  have sampled := Run.foldlM_kept (start.Thinned [])
    (fun _ _ _ _ taken thinned => thinned.cacheSampled taken) (.refl resting.isOpen) sampleRun
  have thinned := Run.foldlM_kept (start.Thinned _)
    (fun _ _ _ _ taken thinned => thinned.updateRunning taken) (sampled.removals removeRun) updateRun
  rw [nil_append] at thinned
  have running : ∀ reqId ∈ updated.batch.reqIdToIndex, reqId ∈ step.running.map (·.reqId) := by
    intro reqId member
    obtain ⟨inStart, notRemoved⟩ := thinned.left reqId member
    exact step.runs_of_kept inStart notRemoved
  have scheduled := nodup_append.mp step.scheduledOnce
  have filled := (Filled.refl thinned.isOpen).additions (by simpa using scheduled.2.1)
    (fun entry member old => scheduled.2.2 _ (running _ old) _ (mem_map_of_mem member) rfl)
    addRun
  obtain ⟨_, condenseTaken, ended⟩ := Run.foldlM_cons_ok condenseRun
  cases ended
  exact ⟨updated, grown, _, thinned, running, filled, grownRun, condenseTaken, swapRun⟩

def asSwaps (swaps : List (Nat × Nat)) : List MovedRequest :=
  swaps.map fun entry => ⟨entry.1, entry.2, .swap⟩

structure Swaps (state : BatchState) (swaps : List (Nat × Nat)) (next : BatchState) : Prop where
  settled : next.batch.Settled
  requests : next.requests = state.requests
  removed : next.batch.batchUpdateBuilder.removedRows = state.batch.batchUpdateBuilder.removedRows
  added : next.batch.batchUpdateBuilder.added = state.batch.batchUpdateBuilder.added
  moved : next.batch.batchUpdateBuilder.moved =
    state.batch.batchUpdateBuilder.moved ++ asSwaps swaps
  members : ∀ row reqId, next.batch.occupant row = some reqId →
    ∃ place, state.batch.occupant place = some reqId
  empty : ∀ row, state.batch.occupant row = none → next.batch.occupant row = none

theorem call_swapStates (settled : state.batch.Settled) {i1 i2 : Nat}
    (run : state.call (.swapStates i1 i2) = .ok next) :
    next.requests = state.requests ∧ InputBatch.Swapped state.batch i1 i2 next.batch := by
  simp only [call, bind_eq_ok, pure_eq_ok] at run
  obtain ⟨batch, swapped, rfl⟩ := run
  exact ⟨rfl, settled.swapStates swapped⟩

theorem swaps_spec (settled : state.batch.Settled)
    (run : (swaps.map fun entry => BatchCall.swapStates entry.1 entry.2).foldlM call state =
      .ok next) : state.Swaps swaps next := by
  induction swaps generalizing state with
  | nil =>
    cases run
    exact ⟨settled, rfl, rfl, rfl, (append_nil _).symm, fun row _ here => ⟨row, here⟩,
      fun _ none => none⟩
  | cons entry swaps ih =>
    obtain ⟨_, taken, run⟩ := Run.foldlM_cons_ok run
    obtain ⟨requests, swapped⟩ := call_swapStates settled taken
    have later := ih swapped.settled run
    refine ⟨later.settled, later.requests.trans requests, later.removed.trans swapped.removed,
      later.added.trans swapped.added, ?_, fun row reqId here => ?_, fun row none => ?_⟩
    · rw [later.moved, swapped.moved, append_assoc]
      rfl
    · obtain ⟨_, found⟩ := later.members row reqId here
      rw [swapped.occupant, swap_apply] at found
      exact ⟨_, found⟩
    · apply later.empty
      rw [swapped.occupant, swap_other _ _ _ _ _ _]
      · exact none
      · exact fun same => swapped.first (same ▸ none)
      · exact fun same => swapped.second (same ▸ none)

theorem Phases.condense_spec (phases : start.Phases step middle grown condensed final) :
    condensed.requests = grown.requests ∧ ∃ moved,
      InputBatch.Condensed grown.batch moved condensed.batch ∧ condensed.Swaps step.swaps final := by
  have run := phases.condenseRun
  simp only [call, bind_eq_ok, pure_eq_ok] at run
  obtain ⟨batch, taken, rfl⟩ := run
  obtain ⟨moved, _, spec⟩ :=
    phases.filled.isOpen.condense (fun _ _ _ _ _ _ => trivial) trivial taken
  exact ⟨rfl, moved, spec, swaps_spec spec.settled phases.swapRun⟩

variable {A : Type} {blank : A} {own : RequestId → A} {rows : Nat → A}

theorem swaps_follow {allowed : BatchState → BatchCall → Prop}
    {good : (Nat → A) → MovedRequest → Prop} (settled : state.batch.Settled)
    (run : (swaps.map fun entry => BatchCall.swapStates entry.1 entry.2).foldlM call state =
      .ok next)
    (meets : Run.Meets call allowed state
      (swaps.map fun entry => BatchCall.swapStates entry.1 entry.2))
    (follows : Rows.Follows blank own state.batch.occupant (fun _ => False) rows)
    (swapGood : ∀ (current : BatchState) (i1 i2 : Nat) (table : Nat → A),
      current.requests = state.requests → allowed current (.swapStates i1 i2) →
      Rows.Follows blank own current.batch.occupant (fun _ => False) table →
      good table ⟨i1, i2, .swap⟩) :
    Rows.Follows blank own next.batch.occupant (fun _ => False)
        ((asSwaps swaps).foldl (replayMove blank) rows) ∧
      Along blank good rows (asSwaps swaps) := by
  induction swaps generalizing state rows with
  | nil =>
    cases run
    exact ⟨follows, trivial⟩
  | cons entry swaps ih =>
    obtain ⟨middle, taken, run⟩ := Run.foldlM_cons_ok run
    obtain ⟨requests, swapped⟩ := call_swapStates settled taken
    have followsMiddle : Rows.Follows blank own middle.batch.occupant (fun _ => False)
        (swap rows entry.1 entry.2) := by
      rw [swapped.occupant]
      exact follows.swap entry.1 entry.2
    obtain ⟨followsNext, along⟩ := ih swapped.settled run (meets.2 middle taken) followsMiddle
      fun current i1 i2 table same => swapGood current i1 i2 table (same.trans requests)
    exact ⟨followsNext, swapGood state entry.1 entry.2 rows rfl (meets.1 middle taken) follows,
      along⟩

section

variable (phases : start.Phases step middle grown condensed final) {reqId : RequestId}
  {entry : AddedRequest}

include phases

theorem Phases.not_added (live : reqId ∈ middle.batch.reqIdToIndex) :
    reqId ∉ step.added.map (·.1.reqId) := fun isNew =>
  (nodup_append.mp step.scheduledOnce).2.2 _ (phases.running reqId live) _ isNew rfl

section

variable (resting : start.batch.Refreshed)

include resting

theorem Phases.added_spec
    (isAdded : entry ∈ final.batch.batchUpdateBuilder.added) :
    grown.batch.occupant entry.index ≠ none ∧
      ∃ new ∈ step.added, entry = entryOf entry.index new.1 := by
  obtain ⟨_, _, condense, swaps⟩ := phases.condense_spec
  rw [swaps.added, condense.added] at isAdded
  refine (phases.filled.placed entry isAdded).resolve_left fun old => ?_
  rw [phases.thinned.added, resting.added] at old
  exact absurd old not_mem_nil

theorem Phases.added_not_removed
    (isAdded : entry ∈ final.batch.batchUpdateBuilder.added) :
    entry.index ∉ final.batch.batchUpdateBuilder.removedRows := by
  obtain ⟨_, _, condense, swaps⟩ := phases.condense_spec
  rw [swaps.removed, ← mem_holes, condense.holes]
  intro left
  have hole := mem_of_mem_drop left
  rw [mem_holes, phases.filled.isOpen.mem_removed] at hole
  exact (phases.added_spec resting isAdded).1 hole.2

theorem Phases.moved_eq :
    final.batch.batchUpdateBuilder.moved =
      asMoved grown.batch.condenseMoves ++ asSwaps step.swaps := by
  obtain ⟨_, moved, condense, swaps⟩ := phases.condense_spec
  rw [swaps.moved, condense.movedRows, phases.filled.moved, phases.thinned.moved, resting.moved,
    nil_append]

-- After the removals only freed rows are stale.
theorem Phases.follow_middle {fresh : AddedRequest → A} {ownBefore : RequestId → A}
    (follows : Rows.Follows blank ownBefore start.batch.occupant (fun _ => False) rows)
    (kept : ∀ reqId, reqId ∉ step.added.map (·.1.reqId) → own reqId = ownBefore reqId) :
    Rows.Follows blank own middle.batch.occupant (· ∈ middle.batch.batchUpdateBuilder.holes)
      (replayAdded fresh rows middle.batch.batchUpdateBuilder.added) := by
  have thinned := phases.thinned
  rw [thinned.added, resting.added]
  intro row notHole
  dsimp only at notHole
  rw [mem_holes, thinned.isOpen.mem_removed, not_and] at notHole
  have before := follows row id
  unfold replayAdded
  rw [foldl_nil, before]
  cases here : middle.batch.occupant row with
  | none =>
    have beyond : middle.batch.reqIds.length ≤ row := by
      by_contra within
      exact notHole (by omega) here
    rw [thinned.length] at beyond
    rw [occupant_beyond beyond]
    rfl
  | some reqId =>
    rw [← thinned.occupant row (by simp [here]), here]
    have live : reqId ∈ middle.batch.reqIdToIndex := by
      rw [AList.mem_keys, thinned.isOpen.mem_keys]
      exact ⟨row, here⟩
    exact (kept reqId (phases.not_added live)).symm

omit resting in
-- The rows that stay free are the holes that no request was moved into.
theorem Phases.left_over (row : Nat) : row ∈ final.batch.batchUpdateBuilder.removedRows ↔
    row ∈ grown.batch.batchUpdateBuilder.holes.drop grown.batch.condenseMoves.length := by
  obtain ⟨_, _, condense, swaps⟩ := phases.condense_spec
  rw [swaps.removed, ← mem_holes, condense.holes]

omit resting in
theorem Phases.follow_cleared {fresh : AddedRequest → A}
    (follows : Rows.Follows blank own grown.batch.occupant
      (· ∈ grown.batch.batchUpdateBuilder.holes)
      (replayAdded fresh rows grown.batch.batchUpdateBuilder.added)) :
    Rows.Follows blank own grown.batch.occupant (· ∈ grown.batch.condenseMoves.map (·.2))
      (replayRemoved blank (replayAdded fresh rows final.batch.batchUpdateBuilder.added)
        final.batch.batchUpdateBuilder.removedRows) := by
  obtain ⟨_, _, condense, swaps⟩ := phases.condense_spec
  have isOpen := phases.filled.isOpen
  have empty : ∀ row ∈ final.batch.batchUpdateBuilder.removedRows,
      grown.batch.occupant row = none := by
    intro row member
    have hole := mem_of_mem_drop ((phases.left_over row).mp member)
    rw [mem_holes, isOpen.mem_removed] at hole
    exact hole.2
  rw [swaps.added.trans condense.added]
  apply (follows.clear _ empty).mono
  rintro row ⟨hole, notLeft⟩
  rw [phases.left_over] at notLeft
  rw [isOpen.condenseMoves_spec.2]
  rw [← take_append_drop grown.batch.condenseMoves.length
    grown.batch.batchUpdateBuilder.holes] at hole
  exact (mem_append.mp hole).resolve_right notLeft

-- The target of a move still has what it had before the step.
theorem Phases.target_untouched (fresh : AddedRequest → A) {way : Nat × Nat}
    (member : way ∈ grown.batch.condenseMoves) :
    replayRemoved blank (replayAdded fresh rows final.batch.batchUpdateBuilder.added)
      final.batch.batchUpdateBuilder.removedRows way.2 = rows way.2 := by
  have isOpen := phases.filled.isOpen
  have isTarget : way.2 ∈ grown.batch.condenseMoves.map (·.2) := mem_map_of_mem member
  rw [isOpen.condenseMoves_spec.2] at isTarget
  have isHole := mem_of_mem_take isTarget
  have notLeft : way.2 ∉ final.batch.batchUpdateBuilder.removedRows := by
    rw [phases.left_over]
    intro later
    have nodup : grown.batch.batchUpdateBuilder.holes.Nodup :=
      grown.batch.batchUpdateBuilder.holes_perm.nodup_iff.mpr isOpen.distinct
    rw [← take_append_drop grown.batch.condenseMoves.length
      grown.batch.batchUpdateBuilder.holes, nodup_append] at nodup
    exact nodup.2.2 _ isTarget _ later rfl
  have notAdded : ∀ entry ∈ final.batch.batchUpdateBuilder.added, entry.index ≠ way.2 := by
    intro entry isAdded same
    rw [mem_holes, isOpen.mem_removed] at isHole
    exact (phases.added_spec resting isAdded).1 (same ▸ isHole.2)
  unfold replayRemoved
  rw [foldl_update_blank, if_neg notLeft, replayAdded_other fresh rows notAdded]

theorem Phases.follow {allowed : BatchState → BatchCall → Prop}
    (meets : Run.Meets call allowed start (step.changes start.batch)) {fresh : AddedRequest → A}
    {ownBefore : RequestId → A} (good : (Nat → A) → MovedRequest → Prop)
    (follows : Rows.Follows blank ownBefore start.batch.occupant (fun _ => False) rows)
    (kept : ∀ reqId, reqId ∉ step.added.map (·.1.reqId) → own reqId = ownBefore reqId)
    (added : ∀ entry ∈ step.added, ∀ row, fresh (entryOf row entry.1) = own entry.1.reqId)
    (moveGood : allowed grown .condense → ∀ way ∈ grown.batch.condenseMoves,
      ∀ table : Nat → A, way.1 ≠ way.2 → table way.1 = (grown.batch.occupant way.1).elim blank own →
      table way.2 = rows way.2 → good table ⟨way.1, way.2, .unidirectional⟩)
    (swapGood : ∀ (current : BatchState) (i1 i2 : Nat) (table : Nat → A),
      current.requests = grown.requests → allowed current (.swapStates i1 i2) →
      Rows.Follows blank own current.batch.occupant (fun _ => False) table →
      good table ⟨i1, i2, .swap⟩) :
    let builder := final.batch.batchUpdateBuilder
    let table := replayRemoved blank (replayAdded fresh rows builder.added) builder.removedRows
    Rows.Follows blank own final.batch.occupant (fun _ => False)
        (builder.moved.foldl (replayMove blank) table) ∧
      Along blank good table builder.moved := by
  obtain ⟨sameRequests, _, condense, _⟩ := phases.condense_spec
  have distinct := phases.filled.isOpen.condenseMoves_spec.1
  have condenseMeets := meets.append.1.append.2 grown phases.grownRun
  have swapMeets := meets.append.2 _ (by
    rw [foldlM_append, phases.grownRun]
    simp only [foldlM_cons, ok_bind, phases.condenseRun]
    rfl)
  have followsCleared := phases.follow_cleared
    (phases.filled.follows A blank fresh own rows added (phases.follow_middle resting follows kept))
  have followsCondensed := followsCleared.shifts distinct
  rw [← condense.occupant, ← foldl_asMoved] at followsCondensed
  obtain ⟨followsFinal, alongSwaps⟩ := swaps_follow condense.settled phases.swapRun swapMeets
    followsCondensed fun current i1 i2 table same => swapGood current i1 i2 table
      (same.trans sameRequests)
  dsimp only
  rw [phases.moved_eq resting, foldl_append]
  refine ⟨followsFinal, Along.append (along_asMoved distinct fun way member table source target => ?_)
    alongSwaps⟩
  have notTarget := source_not_target distinct member
  apply moveGood (condenseMeets.1 _ phases.condenseRun) way member table
  · exact fun same => notTarget (same ▸ mem_map_of_mem member)
  · rw [source]
    exact followsCleared way.1 notTarget
  · rw [target, phases.target_untouched resting fresh member]

theorem Phases.source_empty {entry : MovedRequest}
    (isMoved : entry ∈ final.batch.batchUpdateBuilder.moved)
    (direction : entry.direction = .unidirectional) :
    final.batch.occupant entry.first = none := by
  obtain ⟨_, moved, condense, swaps⟩ := phases.condense_spec
  rw [phases.moved_eq resting, mem_append] at isMoved
  apply swaps.empty
  rcases isMoved with isMove | isSwap
  · obtain ⟨way, member, rfl⟩ := mem_map.mp isMove
    rw [condense.occupant]
    exact applyMoves_source _ phases.filled.isOpen.condenseMoves_spec.1 member
  · obtain ⟨way, _, rfl⟩ := mem_map.mp isSwap
    cases direction

end

theorem Phases.requests :
    final.requests = grown.requests ∧ (∀ reqId, reqId ∉ step.added.map (·.1.reqId) →
        Option.Rel Grown (start.requests reqId) (final.requests reqId)) ∧
      ∀ entry ∈ step.added, final.requests entry.1.reqId = some entry.1 := by
  obtain ⟨sameRequests, _, _, swaps⟩ := phases.condense_spec
  have requests : final.requests = grown.requests := swaps.requests.trans sameRequests
  refine ⟨requests, fun reqId notAdded => ?_, fun entry member => ?_⟩
  · rw [requests, phases.filled.requests reqId notAdded]
    exact phases.thinned.requests reqId
  · rw [requests]
    exact phases.filled.news entry member

theorem Phases.settled :
    final.batch.Settled := by
  obtain ⟨_, _, _, swaps⟩ := phases.condense_spec
  exact swaps.settled

theorem Phases.members (live : reqId ∈ final.batch.reqIdToIndex) :
    reqId ∈ start.batch.reqIdToIndex ∨ reqId ∈ step.added.map (·.1.reqId) := by
  obtain ⟨_, _, condense, swaps⟩ := phases.condense_spec
  rw [AList.mem_keys, swaps.settled.mem_keys] at live
  obtain ⟨row, here⟩ := live
  obtain ⟨_, there⟩ := swaps.members row reqId here
  rw [condense.occupant] at there
  have inGrown : reqId ∈ grown.batch.reqIdToIndex := by
    rw [AList.mem_keys, phases.filled.isOpen.mem_keys]
    exact exists_of_applyMoves there
  exact (phases.filled.members reqId inGrown).imp_left fun old => (phases.thinned.left reqId old).1

end

end BatchState

end VllmEngine

import VllmEngine.Worker.BatchOwnership

set_option autoImplicit false

namespace VllmEngine

open Outcome Function List

namespace BatchStep

def growth (step : BatchStep) (batch : InputBatch) : List BatchCall :=
  step.sampled.map (fun entry => .cacheSampled entry.1 entry.2)
    ++ (step.finished ++ step.unscheduled batch).map .removeRequest
    ++ step.running.map .updateRunning
    ++ step.added.map (fun entry => .addRequest entry.1 entry.2)

def changes (step : BatchStep) (batch : InputBatch) : List BatchCall :=
  step.growth batch ++ [.condense]
    ++ step.swaps.map (fun entry => .swapStates entry.1 entry.2)

end BatchStep

namespace BatchState

variable {start state next : BatchState} {gone : List RequestId} {reqId : RequestId} {A : Type}
  {added : List AddedRequest} {row : Nat}

structure Grown (request later : CachedRequestState) : Prop where
  reqId : later.reqId = request.reqId
  params : later.samplingParams = request.samplingParams
  outputs : request.outputTokenIds <+: later.outputTokenIds

theorem Grown.refl (request : CachedRequestState) : Grown request request :=
  ⟨rfl, rfl, prefix_rfl⟩

theorem Grown.trans {request later last : CachedRequestState} (first : Grown request later)
    (second : Grown later last) : Grown request last :=
  ⟨second.reqId.trans first.reqId, second.params.trans first.params,
    first.outputs.trans second.outputs⟩

structure Thinned (start : BatchState) (gone : List RequestId) (now : BatchState) : Prop where
  isOpen : now.batch.Open
  added : now.batch.batchUpdateBuilder.added = start.batch.batchUpdateBuilder.added
  moved : now.batch.batchUpdateBuilder.moved = start.batch.batchUpdateBuilder.moved
  length : now.batch.reqIds.length = start.batch.reqIds.length
  occupant : ∀ row, now.batch.occupant row ≠ none →
    now.batch.occupant row = start.batch.occupant row
  left : ∀ reqId ∈ now.batch.reqIdToIndex, reqId ∈ start.batch.reqIdToIndex ∧ reqId ∉ gone
  requests : ∀ reqId, Option.Rel Grown (start.requests reqId) (now.requests reqId)

theorem Thinned.refl (isOpen : start.batch.Open) : start.Thinned [] start where
  isOpen := isOpen
  added := rfl
  moved := rfl
  length := rfl
  occupant := fun _ _ => rfl
  left := fun _ member => ⟨member, not_mem_nil⟩
  requests := fun reqId => by
    cases start.requests reqId with
    | none => exact .none
    | some request => exact .some (.refl request)

theorem Thinned.change {request later : CachedRequestState} (thinned : start.Thinned gone state)
    (isOpen : next.batch.Open) (ids : next.batch.reqIds = state.batch.reqIds)
    (lookup : next.batch.reqIdToIndex = state.batch.reqIdToIndex)
    (builder : next.batch.batchUpdateBuilder = state.batch.batchUpdateBuilder)
    (known : state.requests reqId = some request)
    (requests : next.requests = update state.requests reqId (some later))
    (grown : Grown request later) : start.Thinned gone next := by
  have occupant : next.batch.occupant = state.batch.occupant := by
    unfold InputBatch.occupant
    rw [ids]
  refine ⟨isOpen, ?_, ?_, ?_, ?_, ?_, ?_⟩
  · rw [builder, thinned.added]
  · rw [builder, thinned.moved]
  · rw [ids, thinned.length]
  · rw [occupant]
    exact thinned.occupant
  · rw [lookup]
    exact thinned.left
  · intro other
    have before := thinned.requests other
    rw [requests]
    by_cases same : other = reqId
    · subst same
      rw [update_self]
      rw [known] at before
      cases first : start.requests other with
      | none =>
        rw [first] at before
        cases before
      | some request =>
        rw [first] at before
        cases before with
        | some grownBefore => exact .some (grownBefore.trans grown)
    · rw [update_of_ne same]
      exact before

section

variable (thinned : start.Thinned gone state)

include thinned

theorem Thinned.cacheSampled {tokens : List Int}
    (run : state.call (.cacheSampled reqId tokens) = .ok next) : start.Thinned gone next := by
  obtain ⟨_, _, _, known, cached, requests, -⟩ := call_cacheSampled run
  have same := (InputBatch.cacheSampled_rows cached).1
  exact thinned.change (same.isOpen thinned.isOpen) same.ids same.lookup same.builder known
    requests ⟨rfl, rfl, prefix_append _ _⟩

theorem Thinned.updateRunning
    {change : RunningUpdate} (run : state.call (.updateRunning change) = .ok next) :
    start.Thinned gone next := by
  obtain ⟨_, _, found, known, updated, requests, -⟩ := call_updateRunning run
  have drafted := (InputBatch.updateRunning_rows found updated).1 thinned.isOpen.toIndexed
  exact thinned.change (drafted.stillOpen thinned.isOpen (thinned.isOpen.row_lt found))
    drafted.ids drafted.lookup drafted.builder known requests ⟨rfl, rfl, prefix_rfl⟩

theorem Thinned.removeRequest
    (run : state.call (.removeRequest reqId) = .ok next) :
    start.Thinned (gone ++ [reqId]) next := by
  obtain ⟨_, removed, requests, -⟩ := call_removeRequest run
  cases found : state.batch.reqIdToIndex.lookup reqId with
  | none =>
    have same := InputBatch.removeRequest_absent found removed
    refine ⟨same ▸ thinned.isOpen, same ▸ thinned.added, same ▸ thinned.moved,
      same ▸ thinned.length, same ▸ thinned.occupant, fun other member => ?_,
      requests ▸ thinned.requests⟩
    rw [same] at member
    have old := thinned.left other member
    refine ⟨old.1, ?_⟩
    rw [mem_append, mem_singleton]
    rintro (before | rfl)
    · exact old.2 before
    · exact AList.lookup_eq_none.mp found member
  | some row =>
    have step := thinned.isOpen.removeRequest found removed
    have length : next.batch.reqIds.length = state.batch.reqIds.length := by
      have ids : next.batch.reqIds = state.batch.reqIds.set row none := by
        unfold InputBatch.removeRequest at removed
        rw [found] at removed
        obtain ⟨_, _, removed⟩ := bind_eq_ok.mp removed
        rw [← (Prod.mk.inj (Except.ok.inj removed)).2]
      rw [ids, length_set]
    refine ⟨step.stillOpen, step.added.trans thinned.added, step.moved.trans thinned.moved,
      length.trans thinned.length, fun place live => ?_, fun other member => ?_,
      requests ▸ thinned.requests⟩
    · rw [step.occupant] at live ⊢
      have apart : place ≠ row := by
        rintro rfl
        exact live (update_self _ _ _)
      rw [update_of_ne apart] at live ⊢
      exact thinned.occupant place live
    · rw [step.lookup, AList.mem_erase] at member
      have old := thinned.left other member.2
      refine ⟨old.1, ?_⟩
      rw [mem_append, mem_singleton]
      rintro (before | same)
      · exact old.2 before
      · exact member.1 same

end

theorem Thinned.removals {gone ids : List RequestId} (thinned : start.Thinned gone state)
    (run : (ids.map BatchCall.removeRequest).foldlM call state = .ok next) :
    start.Thinned (gone ++ ids) next := by
  induction ids generalizing state gone with
  | nil =>
    cases run
    rwa [append_nil]
  | cons reqId ids ih =>
    obtain ⟨_, taken, run⟩ := Run.foldlM_cons_ok run
    have step := ih (thinned.removeRequest taken) run
    rwa [append_assoc, singleton_append] at step

def replayAdded (fresh : AddedRequest → A) (rows : Nat → A) (added : List AddedRequest) : Nat → A :=
  added.foldl (fun rows entry => update rows entry.index (fresh entry)) rows

theorem replayAdded_other (fresh : AddedRequest → A) (rows : Nat → A)
    (other : ∀ entry ∈ added, entry.index ≠ row) :
    replayAdded fresh rows added row = rows row := by
  unfold replayAdded
  induction added generalizing rows with
  | nil => rfl
  | cons entry added ih =>
    rw [foldl_cons, ih _ fun later member => other later (mem_cons_of_mem entry member)]
    exact update_of_ne (Ne.symm (other entry mem_cons_self)) _ _

theorem replayAdded_congr {fresh : AddedRequest → A} {rows rows' : Nat → A}
    (same : rows row = rows' row) :
    replayAdded fresh rows added row = replayAdded fresh rows' added row := by
  induction added generalizing rows rows' with
  | nil => exact same
  | cons entry added ih =>
    apply ih
    dsimp only
    by_cases isRow : row = entry.index
    · rw [isRow, update_self, update_self]
    · rw [update_of_ne isRow, update_of_ne isRow, same]

def entryOf (row : Nat) (request : CachedRequestState) : AddedRequest :=
  ⟨row, request.samplingParams, request.promptTokenIds, request.reqId⟩

structure Filled (start : BatchState) (added : List (CachedRequestState × List Int))
    (now : BatchState) : Prop where
  isOpen : now.batch.Open
  moved : now.batch.batchUpdateBuilder.moved = start.batch.batchUpdateBuilder.moved
  placed : ∀ entry ∈ now.batch.batchUpdateBuilder.added,
    entry ∈ start.batch.batchUpdateBuilder.added ∨ now.batch.occupant entry.index ≠ none ∧
        ∃ new ∈ added, entry = entryOf entry.index new.1
  kept : ∀ row, start.batch.occupant row ≠ none → now.batch.occupant row = start.batch.occupant row
  members : ∀ reqId ∈ now.batch.reqIdToIndex,
    reqId ∈ start.batch.reqIdToIndex ∨ reqId ∈ added.map (·.1.reqId)
  requests : ∀ reqId, reqId ∉ added.map (·.1.reqId) → now.requests reqId = start.requests reqId
  news : ∀ entry ∈ added, now.requests entry.1.reqId = some entry.1
  follows : ∀ (A : Type) (blank : A) (fresh : AddedRequest → A) (own : RequestId → A)
    (rows : Nat → A),
    (∀ entry ∈ added, ∀ row, fresh (entryOf row entry.1) = own entry.1.reqId) →
    Rows.Follows blank own start.batch.occupant (· ∈ start.batch.batchUpdateBuilder.holes)
      (replayAdded fresh rows start.batch.batchUpdateBuilder.added) →
    Rows.Follows blank own now.batch.occupant (· ∈ now.batch.batchUpdateBuilder.holes)
      (replayAdded fresh rows now.batch.batchUpdateBuilder.added)

theorem Filled.refl (isOpen : start.batch.Open) : start.Filled [] start where
  isOpen := isOpen
  moved := rfl
  placed := fun _ member => .inl member
  kept := fun _ _ => rfl
  members := fun _ member => .inl member
  requests := fun _ _ => rfl
  news := fun _ member => absurd member not_mem_nil
  follows := fun _ _ _ _ _ _ follows => follows

theorem Filled.addRequest {added : List (CachedRequestState × List Int)}
    (filled : start.Filled added state) {request : CachedRequestState} {specTokenIds : List Int}
    (absent : state.batch.reqIdToIndex.lookup request.reqId = none)
    (once : request.reqId ∉ added.map (·.1.reqId))
    (run : state.call (.addRequest request specTokenIds) = .ok next) :
    start.Filled (added ++ [(request, specTokenIds)]) next := by
  obtain ⟨batch, step, found, draftRun, requests, _⟩ := call_addRequest filled.isOpen absent run
  have drafts := step.stillOpen.updateReqSpecTokenIds found draftRun
  have occupant : next.batch.occupant =
      update state.batch.occupant state.batch.nextRow (some request.reqId) :=
    drafts.occupant.trans step.occupant
  have builder : next.batch.batchUpdateBuilder.added =
      state.batch.batchUpdateBuilder.added ++ [entryOf state.batch.nextRow request] := by
    rw [drafts.builder, step.added]
    rfl
  have empty := filled.isOpen.occupant_nextRow
  refine ⟨drafts.stillOpen step.stillOpen (step.stillOpen.row_lt found), ?_, ?_, ?_, ?_, ?_, ?_, ?_⟩
  · rw [drafts.builder, step.moved, filled.moved]
  · intro entry member
    rw [builder, mem_append, mem_singleton] at member
    rw [occupant]
    rcases member with member | rfl
    · refine (filled.placed entry member).imp_right fun placed => ?_
      obtain ⟨live, new, isNew, told⟩ := placed
      refine ⟨?_, new, mem_append_left _ isNew, told⟩
      by_cases same : entry.index = state.batch.nextRow
      · rw [same, update_self]
        exact Option.some_ne_none _
      · rwa [update_of_ne same]
    · refine .inr ⟨?_, (request, specTokenIds), by simp, rfl⟩
      rw [show (entryOf state.batch.nextRow request).index = state.batch.nextRow from rfl,
        update_self]
      exact Option.some_ne_none _
  · intro place live
    have same := filled.kept place live
    rw [occupant]
    have apart : place ≠ state.batch.nextRow := by
      rintro rfl
      exact live (same.symm.trans empty)
    rw [update_of_ne apart]
    exact same
  · intro reqId member
    rw [drafts.lookup, step.lookup, AList.mem_insert] at member
    rw [map_append, mem_append]
    rcases member with rfl | member
    · exact .inr (.inr (by simp))
    · exact (filled.members reqId member).imp_right .inl
  · intro reqId other
    rw [map_append, mem_append, not_or] at other
    have apart : reqId ≠ request.reqId := by
      rintro rfl
      exact other.2 (by simp)
    rw [requests, update_of_ne apart]
    exact filled.requests reqId other.1
  · intro entry member
    rw [requests]
    rw [mem_append, mem_singleton] at member
    rcases member with member | rfl
    · have apart : entry.1.reqId ≠ request.reqId := by
        intro same
        exact once (same ▸ mem_map_of_mem member)
      rw [update_of_ne apart]
      exact filled.news entry member
    · exact update_self _ _ _
  · intro A blank fresh own rows told follows
    have before := filled.follows A blank fresh own rows
      (fun entry member => told entry (mem_append_left _ member)) follows
    have new := told (request, specTokenIds) (by simp) state.batch.nextRow
    unfold replayAdded at before ⊢
    rw [builder, foldl_append, foldl_cons, foldl_nil, new, occupant]
    apply before.put
    intro other apart stale
    rw [drafts.builder, step.holes]
    rcases filled.isOpen.nextRow_cases with ⟨_, shape, _⟩ | ⟨none, _⟩
    · rw [shape] at stale ⊢
      exact (List.mem_cons.mp stale).resolve_left apart
    · rw [none] at stale
      exact absurd stale not_mem_nil

theorem Filled.additions {before added : List (CachedRequestState × List Int)}
    (filled : start.Filled before state)
    (once : (before.map (·.1.reqId) ++ added.map (·.1.reqId)).Nodup)
    (fresh : ∀ entry ∈ added, entry.1.reqId ∉ start.batch.reqIdToIndex)
    (run : (added.map fun entry => BatchCall.addRequest entry.1 entry.2).foldlM call state =
      .ok next) : start.Filled (before ++ added) next := by
  induction added generalizing state before with
  | nil =>
    cases run
    rwa [append_nil]
  | cons entry added ih =>
    obtain ⟨_, taken, run⟩ := Run.foldlM_cons_ok run
    have notBefore : entry.1.reqId ∉ before.map (·.1.reqId) := by
      intro member
      exact (List.nodup_append.mp once).2.2 _ member _ (by simp) rfl
    have absent : state.batch.reqIdToIndex.lookup entry.1.reqId = none := by
      rw [AList.lookup_eq_none]
      intro member
      rcases filled.members _ member with old | earlier
      · exact fresh entry mem_cons_self old
      · exact notBefore earlier
    have step := ih (filled.addRequest absent notBefore taken) (by simpa using once)
      (fun other member => fresh other (mem_cons_of_mem entry member)) run
    rwa [append_assoc, singleton_append] at step

end BatchState

end VllmEngine

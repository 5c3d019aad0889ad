import VllmEngine.Worker.BatchOwnership

set_option autoImplicit false

namespace VllmEngine

open Outcome Function BatchRows InputBatch Rows

namespace BatchState

variable {state next : BatchState} {done : RequestId → Bool} {reqId : RequestId}
  {request : CachedRequestState} {specTokenIds : List Int} {seen : List RequestId}

def shown (state : BatchState) (done : RequestId → Bool) (row : Nat) (reqId : RequestId) :
    List Int :=
  if done reqId then state.batch.drafts row else []

-- `done` are the requests whose draft tokens the step has already written.
structure Kept (state : BatchState) (done : RequestId → Bool) : Prop where
  live : ∀ row reqId, state.batch.occupant row = some reqId →
    ∃ request, state.requests reqId = some request ∧ request.reqId = reqId ∧
      state.batch.rows.Holds state.batch.config row (state.shown done row reqId) request
  drafts : ∀ row reqId, state.batch.occupant row = some reqId → done reqId = true →
    state.batch.drafts row = state.specTokens reqId
  vacant : ∀ row, state.batch.occupant row = none → state.batch.rows.Vacant row

def Owns (state : BatchState) (done : RequestId → Bool) (row : Nat) (reqId : RequestId) : Prop :=
  (∃ request, state.requests reqId = some request ∧ request.reqId = reqId ∧
    state.batch.rows.Holds state.batch.config row (state.shown done row reqId) request) ∧
  (done reqId = true → state.batch.drafts row = state.specTokens reqId)

theorem Kept.of_owns
    (owns : ∀ row reqId, state.batch.occupant row = some reqId → state.Owns done row reqId)
    (vacant : ∀ row, state.batch.occupant row = none → state.batch.rows.Vacant row) :
    state.Kept done :=
  ⟨fun row reqId here => (owns row reqId here).1, fun row reqId here => (owns row reqId here).2,
    vacant⟩

theorem Kept.transfer {done' : RequestId → Bool} {row row' : Nat}
    (kept : state.Kept done) (here : state.batch.occupant row = some reqId)
    (requests : next.requests reqId = state.requests reqId)
    (spec : next.specTokens reqId = state.specTokens reqId) (marked : done' reqId = done reqId)
    (config : next.batch.config = state.batch.config)
    (drafts : next.batch.drafts row' = state.batch.drafts row)
    (same : BatchRows.SameRow (state.batch.getActiveTokenCount row) state.batch.rows row
      next.batch.rows row') :
    next.Owns done' row' reqId := by
  obtain ⟨request, known, sameId, holds⟩ := kept.live row reqId here
  have sameShown : next.shown done' row' reqId = state.shown done row reqId := by
    unfold shown
    rw [marked, drafts]
  have active : request.numTokens + (state.shown done row reqId).length ≤
      state.batch.getActiveTokenCount row := by
    unfold getActiveTokenCount shown
    rw [holds.numTokensNoSpec]
    split
    · exact le_refl _
    · simp
  refine ⟨⟨request, requests.trans known, sameId, ?_⟩, fun isDone => ?_⟩
  · rw [sameShown, config]
    exact holds.transfer active same
  · rw [drafts, spec]
    exact kept.drafts row reqId here (marked.symm.trans isDone)

theorem Kept.forget (kept : state.Kept done) : state.Kept fun _ => false := by
  refine ⟨fun row reqId here => ?_, fun _ _ _ marked => (nomatch marked), kept.vacant⟩
  obtain ⟨request, known, same, holds⟩ := kept.live row reqId here
  exact ⟨request, known, same, holds.forget⟩

theorem Kept.touch {row : Nat}
    (next : BatchState) (marked : Bool) (kept : state.Kept done) (indexed : state.batch.Indexed)
    (here : state.batch.occupant row = some reqId)
    (occupant : next.batch.occupant = state.batch.occupant)
    (config : next.batch.config = state.batch.config)
    (touched : state.batch.TouchedRow row next.batch)
    (draftsElsewhere : ∀ other, other ≠ row → next.batch.drafts other = state.batch.drafts other)
    (requests : next.requests = update state.requests reqId (some request))
    (specElsewhere : ∀ other, other ≠ reqId → next.specTokens other = state.specTokens other)
    (sameId : request.reqId = reqId) (holds : next.batch.rows.Holds state.batch.config row
      (if marked then next.batch.drafts row else []) request)
    (spec : marked = true → next.batch.drafts row = next.specTokens reqId) :
    next.Kept (update done reqId marked) := by
  refine Kept.of_owns (fun place other there => ?_) fun place empty => ?_
  · rw [occupant] at there
    by_cases same : place = row
    · subst same
      obtain rfl := Option.some.inj (here.symm.trans there)
      unfold Owns shown
      rw [config, requests, update_self, update_self]
      exact ⟨⟨request, rfl, sameId, holds⟩, spec⟩
    · have apart : other ≠ reqId := by
        rintro rfl
        exact same (indexed.index.row_unique there here)
      exact kept.transfer there (by rw [requests, update_of_ne apart]) (specElsewhere other apart)
        (update_of_ne apart _ _) config (draftsElsewhere place same) (touched.other place same _)
  · rw [occupant] at empty
    have apart : place ≠ row := by
      rintro rfl
      rw [empty] at here
      cases here
    exact (kept.vacant place empty).transfer (touched.other place apart 0)

theorem Kept.cacheSampled (kept : state.Kept fun _ => false) (isOpen : state.batch.Open)
    {tokens : List Int} (run : state.call (.cacheSampled reqId tokens) = .ok next) :
    (next.Kept fun _ => false) ∧ next.batch.Open ∧
      next.batch.reqIdToIndex = state.batch.reqIdToIndex := by
  obtain ⟨row, request, found, known, cached, requests, spec⟩ := call_cacheSampled run
  obtain ⟨same, touched, written⟩ := cacheSampled_rows cached
  have here := (isOpen.index reqId row).mp found
  obtain ⟨request', known', sameId, holds⟩ := kept.live row reqId here
  obtain rfl : request = request' := Option.some.inj (known.symm.trans known')
  refine ⟨?_, same.isOpen isOpen, same.lookup⟩
  have touch : next.Kept (update (fun _ => false) reqId false) := by
    apply Kept.touch next false kept isOpen.toIndexed here same.occupant same.config touched
    · intro other _
      rw [same.drafts]
    · exact requests
    · intro other _
      rw [spec]
    · exact sameId
    · exact written holds
    · exact fun isTrue => nomatch isTrue
  rwa [update_eq_self_iff.mpr rfl] at touch

theorem Kept.updateRunning (kept : state.Kept done) (isOpen : state.batch.Open)
    {change : RunningUpdate} (run : state.call (.updateRunning change) = .ok next) :
    next.Kept (update done change.reqId true) ∧ next.batch.Open ∧
      next.batch.reqIdToIndex = state.batch.reqIdToIndex := by
  obtain ⟨row, request, found, known, updated, requests, spec⟩ := call_updateRunning run
  obtain ⟨drafted, touched, written⟩ := updateRunning_rows found updated
  have drafted := drafted isOpen.toIndexed
  have here := (isOpen.index change.reqId row).mp found
  obtain ⟨request', known', sameId, holds⟩ := kept.live row change.reqId here
  obtain rfl : request = request' := Option.some.inj (known.symm.trans known')
  have draftsHere : next.batch.drafts row = change.specTokenIds := by
    rw [drafted.drafts, update_self]
  refine ⟨?_, drafted.stillOpen isOpen (isOpen.row_lt found), drafted.lookup⟩
  apply Kept.touch next true kept isOpen.toIndexed here drafted.occupant drafted.config touched
  · intro other apart
    rw [drafted.drafts, update_of_ne apart]
  · exact requests
  · intro other apart
    rw [spec, update_of_ne apart]
  · exact sameId
  · rw [draftsHere]
    exact written holds
  · intro _
    rw [draftsHere, spec, update_self]

theorem Kept.removeRequest (kept : state.Kept done) (isOpen : state.batch.Open)
    (run : state.call (.removeRequest reqId) = .ok next) :
    next.Kept done ∧ next.batch.Open ∧
      ∀ other ∈ next.batch.reqIdToIndex, other ∈ state.batch.reqIdToIndex ∧ other ≠ reqId := by
  obtain ⟨_, removed, requests, spec⟩ := call_removeRequest run
  cases found : state.batch.reqIdToIndex.lookup reqId with
  | none =>
    have same := removeRequest_absent found removed
    obtain rfl : next = state := by
      cases next
      cases state
      simp_all
    refine ⟨kept, isOpen, fun other member => ⟨member, ?_⟩⟩
    rintro rfl
    exact AList.lookup_eq_none.mp found member
  | some row =>
    have step := isOpen.removeRequest found removed
    refine ⟨Kept.of_owns (fun place other there => ?_) fun place empty => ?_, step.stillOpen, ?_⟩
    · rw [step.occupant] at there
      have apart : place ≠ row := by
        rintro rfl
        rw [update_self] at there
        cases there
      rw [update_of_ne apart] at there
      apply kept.transfer there (by rw [requests]) (by rw [spec]) rfl step.config
      · rw [step.drafts, update_of_ne apart]
      · rw [step.rows]
        exact clear_sameRow _ _ apart
    · rw [step.rows]
      by_cases same : place = row
      · subst same
        exact ⟨update_self _ _ _, update_self _ _ _⟩
      · rw [step.occupant, update_of_ne same] at empty
        exact (kept.vacant place empty).transfer (clear_sameRow _ 0 same)
    · intro other member
      rw [step.lookup, AList.mem_erase] at member
      exact ⟨member.2, member.1⟩

def CallAllowed (state : BatchState) : BatchCall → Prop
  | .addRequest request _ =>
    let row := state.batch.nextRow
    (request.promptEmbeds = none → state.batch.rows.reqPromptEmbeds row = none) ∧
      (request.samplingParams.restrictsTokens = false →
        state.batch.rows.maskRow row = fun _ => false)
  | .condense =>
    ∀ row ∈ state.batch.batchUpdateBuilder.removedRows, row < state.batch.numReqs →
      state.batch.rows.reqPromptEmbeds row = none
  | .swapStates i1 i2 => state.batch.rows.maskRow i1 = state.batch.rows.maskRow i2
  | _ => True

section

variable (kept : state.Kept done) (isOpen : state.batch.Open)
  (absent : state.batch.reqIdToIndex.lookup request.reqId = none)
  (allowed : state.CallAllowed (.addRequest request specTokenIds))

include kept isOpen absent allowed

theorem Kept.added {batch : InputBatch}
    (added : InputBatch.Added state.batch request state.batch.nextRow batch) :
    BatchState.Kept
      { requests := update state.requests request.reqId (some request)
        specTokens := state.specTokens
        batch } (update done request.reqId false) := by
  obtain ⟨written, wrote, rows⟩ := added.rows
  have emptyRow := isOpen.occupant_nextRow
  have elsewhere : ∀ place ≠ state.batch.nextRow, ∀ front,
      BatchRows.SameRow front state.batch.rows place batch.rows place := by
    intro place same front
    rw [rows]
    exact (writeTokens_sameRow front same wrote).trans
      (writeSampling_sameRow written front same)
  refine Kept.of_owns (fun place other there => ?_) fun place empty => ?_
  · dsimp only at there
    rw [added.occupant] at there
    by_cases same : place = state.batch.nextRow
    · rw [same, update_self] at there
      cases there
      unfold Owns shown
      dsimp only
      rw [added.config, rows, update_self, update_self, same]
      refine ⟨⟨request, rfl, rfl, ?_⟩, fun isDone => nomatch isDone⟩
      exact holds_written wrote (kept.vacant _ emptyRow) allowed.1 allowed.2
    · rw [update_of_ne same] at there
      have apart : other ≠ request.reqId := by
        rintro rfl
        rw [(isOpen.index _ place).mpr there] at absent
        cases absent
      refine kept.transfer there (update_of_ne apart _ _) rfl (update_of_ne apart _ _) added.config
        ?_ (elsewhere place same _)
      dsimp only
      rw [added.drafts, update_of_ne same]
  · dsimp only at empty
    rw [added.occupant] at empty
    have same : place ≠ state.batch.nextRow := by
      rintro rfl
      rw [update_self] at empty
      cases empty
    rw [update_of_ne same] at empty
    exact (kept.vacant place empty).transfer (elsewhere place same 0)

theorem Kept.addRequest (run : state.call (.addRequest request specTokenIds) = .ok next) :
    next.Kept (update done request.reqId true) ∧ next.batch.Open ∧ next.batch.reqIdToIndex =
        state.batch.reqIdToIndex.insert request.reqId state.batch.nextRow := by
  obtain ⟨batch, added, found, draftRun, requests, spec⟩ := call_addRequest isOpen absent run
  have keptAdded := kept.added isOpen absent allowed added
  have here : batch.occupant state.batch.nextRow = some request.reqId :=
    (added.stillOpen.index _ _).mp found
  have drafts := added.stillOpen.updateReqSpecTokenIds found draftRun
  obtain ⟨touched, written⟩ := updateReqSpecTokenIds_rows found draftRun
  obtain ⟨request', known, _, holds⟩ := keptAdded.live _ _ here
  obtain rfl : request = request' := by
    dsimp only at known
    rw [update_self] at known
    exact Option.some.inj known
  have draftsHere : next.batch.drafts state.batch.nextRow = specTokenIds := by
    rw [drafts.drafts, update_self]
  refine ⟨?_, drafts.stillOpen added.stillOpen (added.stillOpen.row_lt found),
    drafts.lookup.trans added.lookup⟩
  have touch : next.Kept
      (update (update done request.reqId false) request.reqId true) := by
    apply Kept.touch next true keptAdded added.stillOpen.toIndexed here drafts.occupant
      drafts.config touched
    · intro other apart
      rw [drafts.drafts, update_of_ne apart]
    · dsimp only
      rw [requests, update_idem]
    · intro other apart
      rw [spec, update_of_ne apart]
    · rfl
    · rw [draftsHere]
      exact written holds
    · intro _
      rw [draftsHere, spec, update_self]
  rwa [update_idem] at touch

end

structure Condensing (requests : RequestId → Option CachedRequestState)
    (specTokens : RequestId → List Int) (batch : InputBatch) : Prop where
  kept : BatchState.Kept ⟨requests, specTokens, batch⟩ fun _ => true
  embeds : ∀ row ∈ batch.batchUpdateBuilder.holes, row < batch.numReqs →
    batch.rows.reqPromptEmbeds row = none

theorem Condensing.pass {requests : RequestId → Option CachedRequestState}
    {specTokens : RequestId → List Int} {batch after : InputBatch} {source target : Nat}
    (condensing : Condensing requests specTokens batch)
    (pass : InputBatch.Pass batch source target after) :
    Condensing requests specTokens after := by
  have kept := condensing.kept
  have apart : target ≠ source := Nat.ne_of_lt pass.below
  refine ⟨Kept.of_owns (fun place other there => ?_) fun place empty => ?_,
    fun row member inBatch => ?_⟩
  · dsimp only at there
    rw [pass.occupant] at there
    have notSource : place ≠ source := by
      rintro rfl
      rw [move_source] at there
      cases there
    by_cases same : place = target
    · subst same
      rw [move_target _ _ _ apart] at there
      refine kept.transfer there rfl rfl rfl pass.config ?_ ?_
      · dsimp only
        rw [pass.drafts, update_of_ne notSource, update_self]
      · dsimp only
        rw [pass.rows]
        exact moveDown_sameRow_target _ _ _ apart (kept.vacant place pass.empty)
          (condensing.embeds place pass.lowest pass.inBatch)
    · rw [move_other _ _ _ _ notSource same] at there
      refine kept.transfer there rfl rfl rfl pass.config ?_ ?_
      · dsimp only
        rw [pass.drafts, update_of_ne notSource, update_of_ne same]
      · dsimp only
        rw [pass.rows]
        exact moveDown_sameRow_other _ _ _ _ notSource same
  · dsimp only at empty ⊢
    rw [pass.occupant] at empty
    rw [pass.rows]
    by_cases moved : place = source
    · subst moved
      exact ⟨moveEntry_source apart, moveEntry_source apart⟩
    · have notTarget : place ≠ target := by
        rintro rfl
        rw [move_target _ _ _ apart] at empty
        exact pass.live empty
      rw [move_other _ _ _ _ moved notTarget] at empty
      exact (kept.vacant place empty).transfer
        (moveDown_sameRow_other _ _ _ 0 moved notTarget)
  · obtain ⟨wasHole, notTarget, notSource⟩ := pass.others row member
    rw [pass.numReqs] at inBatch
    rw [pass.rows]
    exact (moveEntry_other notSource notTarget).trans
      (condensing.embeds row wasHole inBatch)

section

variable (kept : state.Kept fun _ => true)

include kept

theorem Kept.condense (isOpen : state.batch.Open)
    (allowed : state.CallAllowed .condense) (run : state.call .condense = .ok next) :
    (next.Kept fun _ => true) ∧ next.batch.Settled := by
  simp only [call, bind_eq_ok, pure_eq_ok] at run
  obtain ⟨batch, condensed, rfl⟩ := run
  have initial : Condensing state.requests state.specTokens
      { state.batch with
        batchUpdateBuilder := state.batch.batchUpdateBuilder.removed } := by
    refine ⟨⟨kept.live, kept.drafts, kept.vacant⟩, fun row member inBatch => ?_⟩
    apply allowed row _ inBatch
    rw [← BatchUpdateBuilder.mem_holes, ← BatchUpdateBuilder.holes_ensureRemovedSorted]
    exact member
  obtain ⟨_, condensing, step⟩ :=
    isOpen.condense (fun _ _ _ _ holds pass => Condensing.pass holds pass) initial condensed
  refine ⟨Kept.of_owns (fun place other there => ?_) fun place empty => ?_, step.settled⟩
  · have drafts := step.drafts place (by simp [there])
    rw [step.sameOccupant] at there
    refine condensing.kept.transfer there rfl rfl rfl step.sameConfig drafts ?_
    rw [step.rows]
    exact sameRow_rfl _ _ _
  · rw [step.sameOccupant] at empty
    rw [step.rows]
    exact condensing.kept.vacant place empty

theorem Kept.swapStates (settled : state.batch.Settled)
    {i1 i2 : Nat} (allowed : state.CallAllowed (.swapStates i1 i2))
    (run : state.call (.swapStates i1 i2) = .ok next) :
    (next.Kept fun _ => true) ∧ next.batch.Settled := by
  simp only [call, bind_eq_ok, pure_eq_ok] at run
  obtain ⟨batch, swapped, rfl⟩ := run
  have step := settled.swapStates swapped
  refine ⟨Kept.of_owns (fun place other there => ?_) fun place empty => ?_, step.settled⟩
  · rw [step.occupant, swap_apply] at there
    refine kept.transfer there rfl rfl rfl step.config ?_ ?_
    · rw [step.drafts, swap_apply]
    · rw [step.rows]
      apply swapStates_sameRow _ _ allowed
      intro isSwapped
      unfold exchanged
      split
      · exact Nat.le_max_right _ _
      · split
        · exact Nat.le_max_left _ _
        · omega
  · rw [step.occupant, swap_apply] at empty
    rw [step.rows]
    exact (kept.vacant _ empty).transfer
      (swapStates_sameRow _ _ allowed fun _ => Nat.zero_le _)

theorem Kept.refreshMetadata (settled : state.batch.Settled)
    (run : state.call .refreshMetadata = .ok next) :
    (next.Kept fun _ => true) ∧ next.batch.Open ∧
      next.batch.batchUpdateBuilder.removedRows = [] := by
  cases run
  have refreshed := settled.refreshMetadata
  exact ⟨⟨kept.live, kept.drafts, kept.vacant⟩, refreshed.isOpen, refreshed.removed⟩

end

section

variable (kept : state.Kept done) (isOpen : state.batch.Open)

include kept isOpen

theorem Kept.removals {ids : List RequestId}
    (run : (ids.map BatchCall.removeRequest).foldlM call state = .ok next) :
    next.Kept done ∧ next.batch.Open ∧
      ∀ other ∈ next.batch.reqIdToIndex, other ∈ state.batch.reqIdToIndex ∧ other ∉ ids := by
  induction ids generalizing state with
  | nil =>
    cases run
    exact ⟨kept, isOpen, fun other member => ⟨member, List.not_mem_nil⟩⟩
  | cons reqId ids ih =>
    obtain ⟨_, taken, run⟩ := Run.foldlM_cons_ok run
    obtain ⟨keptMiddle, openMiddle, left⟩ := kept.removeRequest isOpen taken
    obtain ⟨keptNext, openNext, later⟩ := ih keptMiddle openMiddle run
    refine ⟨keptNext, openNext, fun other member => ?_⟩
    obtain ⟨inMiddle, notLater⟩ := later other member
    obtain ⟨inState, notFirst⟩ := left other inMiddle
    exact ⟨inState, by simp [notFirst, notLater]⟩

theorem Kept.updates {changes : List RunningUpdate}
    (run : (changes.map BatchCall.updateRunning).foldlM call state = .ok next) :
    ∃ done', next.Kept done' ∧ next.batch.Open ∧
      next.batch.reqIdToIndex = state.batch.reqIdToIndex ∧
      (∀ reqId, done reqId = true → done' reqId = true) ∧
      ∀ reqId ∈ changes.map (·.reqId), done' reqId = true := by
  induction changes generalizing state done with
  | nil =>
    cases run
    exact ⟨done, kept, isOpen, rfl, fun _ marked => marked, fun _ member => by simp at member⟩
  | cons change changes ih =>
    obtain ⟨_, taken, run⟩ := Run.foldlM_cons_ok run
    obtain ⟨keptMiddle, openMiddle, same⟩ := kept.updateRunning isOpen taken
    obtain ⟨done', keptNext, openNext, sameLater, grown, marked⟩ := ih keptMiddle openMiddle run
    refine ⟨done', keptNext, openNext, sameLater.trans same, fun reqId old => ?_,
      fun reqId member => ?_⟩
    · apply grown
      by_cases first : reqId = change.reqId
      · rw [first, update_self]
      · rw [update_of_ne first]
        exact old
    · rw [List.map_cons, List.mem_cons] at member
      rcases member with first | later
      · apply grown
        rw [first, update_self]
      · exact marked reqId later

def Reached (state : BatchState) (done : RequestId → Bool) (seen : List RequestId) : Prop :=
  ∀ reqId ∈ state.batch.reqIdToIndex, reqId ∈ seen ∧ done reqId = true

theorem Kept.additions {added : List (CachedRequestState × List Int)}
    (reached : state.Reached done seen) (once : (seen ++ added.map (·.1.reqId)).Nodup)
    (meets : Run.Meets call CallAllowed state
      (added.map fun entry => BatchCall.addRequest entry.1 entry.2))
    (run : (added.map fun entry => BatchCall.addRequest entry.1 entry.2).foldlM call state =
      .ok next) : ∃ done' seen', next.Kept done' ∧ next.batch.Open ∧ next.Reached done' seen' := by
  induction added generalizing state done seen with
  | nil =>
    cases run
    exact ⟨done, seen, kept, isOpen, reached⟩
  | cons entry added ih =>
    obtain ⟨middle, taken, run⟩ := Run.foldlM_cons_ok run
    have fresh : entry.1.reqId ∉ seen := by
      intro member
      exact (List.nodup_append.mp once).2.2 _ member _ (by simp) rfl
    have absent : state.batch.reqIdToIndex.lookup entry.1.reqId = none := by
      rw [AList.lookup_eq_none]
      exact fun member => fresh (reached _ member).1
    obtain ⟨keptMiddle, openMiddle, inserted⟩ :=
      kept.addRequest isOpen absent (meets.1 middle taken) taken
    have reachedMiddle : middle.Reached (update done entry.1.reqId true)
        (seen ++ [entry.1.reqId]) := by
      intro reqId member
      rw [inserted, AList.mem_insert] at member
      by_cases first : reqId = entry.1.reqId
      · simp [first]
      · have old := reached reqId (member.resolve_left first)
        rw [update_of_ne first]
        exact ⟨List.mem_append_left _ old.1, old.2⟩
    exact ih keptMiddle openMiddle reachedMiddle (by simpa using once) (meets.2 middle taken) run

end

theorem Kept.swaps {swaps : List (Nat × Nat)} (kept : state.Kept fun _ => true)
    (settled : state.batch.Settled) (meets : Run.Meets call CallAllowed state
      (swaps.map fun entry => BatchCall.swapStates entry.1 entry.2))
    (run : (swaps.map fun entry => BatchCall.swapStates entry.1 entry.2).foldlM call state =
      .ok next) :
    (next.Kept fun _ => true) ∧ next.batch.Settled := by
  induction swaps generalizing state with
  | nil =>
    cases run
    exact ⟨kept, settled⟩
  | cons entry swaps ih =>
    obtain ⟨middle, taken, run⟩ := Run.foldlM_cons_ok run
    obtain ⟨keptMiddle, settledMiddle⟩ :=
      kept.swapStates settled (meets.1 middle taken) taken
    exact ih keptMiddle settledMiddle (meets.2 middle taken) run

theorem Kept.all_done (kept : state.Kept done)
    (indexed : state.batch.Indexed) (reached : state.Reached done seen) :
    state.Kept fun _ => true := by
  have marked : ∀ row reqId, state.batch.occupant row = some reqId → done reqId = true := by
    intro row reqId here
    apply (reached reqId _).2
    rw [AList.mem_keys, indexed.mem_keys]
    exact ⟨row, here⟩
  refine ⟨fun row reqId here => ?_, fun row reqId here _ => ?_, kept.vacant⟩
  · obtain ⟨request, known, sameId, holds⟩ := kept.live row reqId here
    unfold shown at holds
    rw [if_pos (marked row reqId here)] at holds
    exact ⟨request, known, sameId, holds⟩
  · exact kept.drafts row reqId here (marked row reqId here)

end BatchState

end VllmEngine

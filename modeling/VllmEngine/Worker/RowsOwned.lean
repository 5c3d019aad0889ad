import VllmEngine.Worker.BatchInvariant

set_option autoImplicit false

namespace VllmEngine

namespace BatchState

structure RowsOwned (state : BatchState) : Prop where
  bounded : ∀ reqId row, state.batch.reqIdToIndex.lookup reqId = some row →
    row < state.batch.numReqs
  covered : ∀ row < state.batch.numReqs, ∃! reqId, state.batch.reqIdToIndex.lookup reqId = some row
  own : ∀ reqId row, state.batch.reqIdToIndex.lookup reqId = some row →
    ∃ request, state.requests reqId = some request ∧ request.reqId = reqId ∧
      state.batch.rows.Holds state.batch.config row (state.specTokens reqId) request

def StepAllowed (state : BatchState) (step : BatchStep) : Prop :=
  Run.Meets call CallAllowed state (step.calls state.batch)

structure AtRest (state : BatchState) : Prop where
  kept : state.Kept fun _ => true
  isOpen : state.batch.Open
  full : state.batch.batchUpdateBuilder.removedRows = []

variable {state next : BatchState}

theorem AtRest.rowsOwned (atRest : state.AtRest) : state.RowsOwned := by
  have noHoles : state.batch.batchUpdateBuilder.holes = [] := by
    have perm := state.batch.batchUpdateBuilder.holes_perm
    rw [atRest.full] at perm
    exact perm.eq_nil
  have settled := atRest.isOpen.settled_of_no_holes noHoles
  refine ⟨settled.bijection.1, settled.bijection.2, fun reqId row found => ?_⟩
  have here := (atRest.isOpen.index reqId row).mp found
  obtain ⟨request, known, sameId, holds⟩ := atRest.kept.live row reqId here
  refine ⟨request, known, sameId, ?_⟩
  rw [← atRest.kept.drafts row reqId here rfl]
  exact holds

theorem atRest_create (config : InputBatchConfig) (blockTables : List BlockTable) :
    (create config blockTables).AtRest := by
  have refreshed := InputBatch.refreshed_create config blockTables
  refine ⟨⟨?_, ?_, fun _ _ => ⟨rfl, rfl⟩⟩, refreshed.isOpen, refreshed.removed⟩
  · exact fun _ _ here => nomatch here
  · exact fun _ _ here => nomatch here

theorem AtRest.step (atRest : state.AtRest) {step : BatchStep}
    (allowed : state.StepAllowed step) (run : state.step step = .ok next) : next.AtRest := by
  obtain ⟨_, run, refreshRun⟩ := Run.foldlM_append_ok run
  obtain ⟨condensed, run, swapRun⟩ := Run.foldlM_append_ok run
  obtain ⟨grown, run, condenseRun⟩ := Run.foldlM_append_ok run
  obtain ⟨updated, run, addRun⟩ := Run.foldlM_append_ok run
  obtain ⟨removed, run, updateRun⟩ := Run.foldlM_append_ok run
  obtain ⟨_, sampleRun, removeRun⟩ := Run.foldlM_append_ok run
  have untilSwaps := allowed.append.1
  have swapsAllowed := untilSwaps.append.2 condensed (by
    simp only [List.foldlM_append, sampleRun, removeRun, updateRun, addRun, condenseRun, bind,
      Except.bind])
  have untilCondense := untilSwaps.append.1
  have condenseAllowed := untilCondense.append.2 grown (by
    simp only [List.foldlM_append, sampleRun, removeRun, updateRun, addRun, bind, Except.bind])
  have addsAllowed := untilCondense.append.1.append.2 updated (by
    simp only [List.foldlM_append, sampleRun, removeRun, updateRun, bind, Except.bind])
  rw [List.foldlM_map] at sampleRun
  obtain ⟨keptSampled, openSampled, sameSampled⟩ := Run.foldlM_kept (fun now =>
      now.Kept (fun _ => false) ∧ now.batch.Open ∧
        now.batch.reqIdToIndex = state.batch.reqIdToIndex)
    (fun _ _ _ _ taken ⟨kept, isOpen, same⟩ =>
      (kept.cacheSampled isOpen taken).imp_right (And.imp_right (Eq.trans · same)))
    ⟨atRest.kept.forget, atRest.isOpen, rfl⟩ sampleRun
  obtain ⟨keptRemoved, openRemoved, left⟩ := keptSampled.removals openSampled removeRun
  obtain ⟨done, keptUpdated, openUpdated, sameUpdated, _, marked⟩ :=
    keptRemoved.updates openRemoved updateRun
  have reached : updated.Reached done (step.running.map (·.reqId)) := by
    intro reqId member
    rw [sameUpdated] at member
    obtain ⟨inSampled, notRemoved⟩ := left reqId member
    rw [sameSampled] at inSampled
    have running := step.runs_of_kept inSampled notRemoved
    exact ⟨running, marked reqId running⟩
  obtain ⟨_, _, keptGrown, openGrown, reachedGrown⟩ :=
    keptUpdated.additions openUpdated reached step.scheduledOnce addsAllowed addRun
  have keptAll := keptGrown.all_done openGrown.toIndexed reachedGrown
  obtain ⟨_, condenseTaken, condenseRun⟩ := Run.foldlM_cons_ok condenseRun
  cases condenseRun
  obtain ⟨keptCondensed, settledCondensed⟩ :=
    keptAll.condense openGrown (condenseAllowed.1 _ condenseTaken) condenseTaken
  obtain ⟨keptSwapped, settledSwapped⟩ :=
    keptCondensed.swaps settledCondensed swapsAllowed swapRun
  obtain ⟨_, refreshTaken, refreshRun⟩ := Run.foldlM_cons_ok refreshRun
  cases refreshRun
  obtain ⟨keptNext, openNext, fullNext⟩ :=
    keptSwapped.refreshMetadata settledSwapped refreshTaken
  exact ⟨keptNext, openNext, fullNext⟩

theorem rows_owned (config : InputBatchConfig) (blockTables : List BlockTable)
    (steps : List BatchStep)
    (meets : Run.Meets step StepAllowed (create config blockTables) steps) :
    Run.Always step RowsOwned (create config blockTables) steps := by
  have kept : Run.Always step AtRest (create config blockTables) steps :=
    Run.always_of_meets (fun _ _ _ taken allowed atRest => atRest.step allowed taken) meets
      (atRest_create config blockTables)
  exact kept.imp fun _ atRest => atRest.rowsOwned

def smallConfig : InputBatchConfig where
  maxNumReqs := 4
  maxModelLen := 8
  vocabSize := 10
  useReplayssm := false
  toFloat32 := id

def plainParams : SamplingParams where
  temperature := 1
  seed := none
  topP := 1
  topK := 0
  minP := 0
  frequencyPenalty := 0
  presencePenalty := 0
  repetitionPenalty := 1
  minTokens := 0
  allStopTokenIds := []
  logitBias := none
  allowedTokenIds := none
  badWordsTokenIds := none
  thinkingTokenBudget := none

variable (reqId : RequestId)

def plainRequest : CachedRequestState where
  reqId := reqId
  promptTokenIds := some [7]
  promptEmbeds := none
  promptIsTokenIds := none
  samplingParams := plainParams
  generator := none
  blockIds := []
  numComputedTokens := 0
  outputTokenIds := []
  loraRequest := none
  prevNumDraftLen := 0

def addStep (requests : List CachedRequestState) (swaps : List (Nat × Nat))
    (once : (requests.map (·.reqId)).Nodup) : BatchStep where
  sampled := []
  finished := []
  running := []
  added := requests.map fun request => (request, [])
  swaps := swaps
  scheduledOnce := by simpa [Function.comp_def] using once

theorem rows_owned_swap :
    Run.Always step RowsOwned (create smallConfig [])
      [addStep [plainRequest 0, plainRequest 1] [(0, 1)] (by decide)] := by
  apply rows_owned
  refine ⟨fun next taken => ?_, fun _ _ => trivial⟩
  refine ⟨fun _ _ => ⟨fun _ => rfl, fun _ => rfl⟩, fun _ first => ?_⟩
  cases first
  refine ⟨fun _ _ => ⟨fun _ => rfl, fun _ => rfl⟩, fun _ second => ?_⟩
  cases second
  refine ⟨fun _ _ row member => absurd member List.not_mem_nil, fun _ third => ?_⟩
  cases third
  refine ⟨fun _ _ => rfl, fun _ fourth => ?_⟩
  cases fourth
  exact ⟨fun _ _ => trivial, fun _ _ => trivial⟩

def restrictedRequest : CachedRequestState :=
  { plainRequest reqId with samplingParams := { plainParams with allowedTokenIds := some [3] } }

def embeddedRequest : CachedRequestState :=
  { plainRequest reqId with
    promptTokenIds := none
    promptEmbeds := some [[1]] }

def runStep (finished : List RequestId) (added : List CachedRequestState)
    (once : (reqId :: added.map (·.reqId)).Nodup) : BatchStep where
  sampled := []
  finished := finished
  running := [⟨reqId, 1, none, []⟩]
  added := added.map fun request => (request, [])
  swaps := []
  scheduledOnce := by simpa [Function.comp_def] using once

def view (row : Nat) (state : BatchState) :
    Option Nat × Option CachedRequestState × Option (List Bytes) × Bool :=
  (state.batch.reqIdToIndex.lookup reqId, state.requests reqId,
    state.batch.rows.reqPromptEmbeds row, state.batch.rows.maskRow row 4)

theorem RowsOwned.of_view {state : BatchState} {reqId : RequestId} {row : Nat}
    {request : CachedRequestState} {embeds : Option (List Bytes)} {masked : Bool}
    (owned : state.RowsOwned)
    (seen : view reqId row state = (some row, some request, embeds, masked)) :
    embeds = request.promptEmbeds ∧ masked = request.samplingParams.disallowed 4 := by
  simp only [view, Prod.mk.injEq] at seen
  obtain ⟨found, known, embedsSeen, maskSeen⟩ := seen
  obtain ⟨own, known', _, holds⟩ := owned.own reqId row found
  obtain rfl : request = own := Option.some.inj (known.symm.trans known')
  rw [← embedsSeen, ← maskSeen]
  exact ⟨congrArg RowAttributes.promptEmbeds holds.attributes,
    congrArg (fun attributes => attributes.disallowed 4) holds.attributes⟩

theorem rows_not_owned :
    ¬Run.Always step RowsOwned (create smallConfig [])
        [addStep [restrictedRequest 0, plainRequest 1] [(0, 1)] (by decide)] ∧
      ¬Run.Always step RowsOwned (create smallConfig [])
        [addStep [embeddedRequest 0] [] (by decide), addStep [plainRequest 1] [] (by decide)] ∧
      ¬Run.Always step RowsOwned (create smallConfig [])
        [addStep [plainRequest 0, restrictedRequest 1] [] (by decide),
          runStep 1 [0] [] (by decide), runStep 1 [] [plainRequest 2] (by decide)] := by
  refine ⟨?_, ?_, ?_⟩
  · intro always
    obtain ⟨_, owned, seen⟩ := always.exists_view (view 0 1)
      (some 1, some (restrictedRequest 0), none, false) rfl
    exact absurd (owned.of_view seen).2 (by decide)
  · intro always
    obtain ⟨_, owned, seen⟩ := always.exists_view (view 1 0)
      (some 0, some (plainRequest 1), some [[1]], false) rfl
    exact absurd (owned.of_view seen).1 (by decide)
  · intro always
    obtain ⟨_, owned, seen⟩ := always.exists_view (view 2 1)
      (some 1, some (plainRequest 2), none, true) rfl
    exact absurd (owned.of_view seen).2 (by decide)

end BatchState

end VllmEngine

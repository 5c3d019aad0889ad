import VllmEngine.Sched.FenceOutput
import VllmEngine.Sched.Queues

set_option autoImplicit false

namespace VllmEngine.Sched

open List Scheduler AList Nat Option

namespace Pass

variable {pass next : Pass} {answers : ScheduleAnswers} {deferPrefills bounded : Bool}
  {sent done : Nat} {preempted : RequestId}

structure Fenced (pass : Pass) (sent done : Nat) : Prop where
  placed : pass.Placed False
  fenced : pass.scheduler.Fenced sent done
  idle : ∀ reqId request, pass.scheduler.requests.lookup reqId = some request →
    waits (some request.status) = 1 → request.numComputedTokens = 0 →
    pass.scheduler.log.newest reqId ≤ pass.scheduler.log.numProcessed
  running : ∀ reqId ∈ pass.numScheduledTokens, reqId ∈ pass.scheduler.running

def Listed (pass : Pass) : Prop :=
  ∀ reqId, reqId ∈ pass.numScheduledTokens ↔ reqId ∈ pass.scheduledRunningReqs

theorem Listed.removeVictim (listed : pass.Listed) (found : pass.victim = some preempted)
    (unscheduled : preempted ∉ (pass.removeVictim preempted).scheduledRunningReqs) :
    (pass.removeVictim preempted).Listed ∧
      ∀ reqId ∈ (pass.removeVictim preempted).numScheduledTokens,
        reqId ∈ pass.numScheduledTokens := by
  rcases removeVictim_cases found with ⟨-, -, removed⟩ | ⟨-, -, ⟨-, removed⟩ | ⟨-, removed⟩⟩
  · rw [removed]
    exact ⟨listed, fun _ member => member⟩
  · rw [removed] at unscheduled ⊢
    refine ⟨fun reqId => ?_, fun reqId member => ?_⟩
    · change reqId ∈ pass.numScheduledTokens.erase preempted ↔
        reqId ∈ pass.scheduledRunningReqs.erase preempted
      rw [mem_erase]
      by_cases same : reqId = preempted
      · subst same
        exact iff_of_false (fun both => both.1 rfl) unscheduled
      · rw [mem_erase_of_ne same]
        exact (and_iff_right same).trans (listed reqId)
    · exact (mem_erase.mp member).2
  · rw [removed]
    exact ⟨listed, fun _ member => member⟩

variable {reqId : RequestId} {request : SchedRequest} {after : Scheduler} {numNewTokens : Int}
  {cached : CachedTokens}

section

variable (ready : pass.Fenced sent done)

include ready

theorem Fenced.withRequest (set : after = pass.scheduler.setRequest reqId request)
    (computed : waits (some request.status) = 1 → request.numComputedTokens = 0 →
      pass.scheduler.log.newest reqId ≤ pass.scheduler.log.numProcessed) :
    ∀ other record, after.requests.lookup other = some record →
      waits (some record.status) = 1 → record.numComputedTokens = 0 →
      after.log.newest other ≤ after.log.numProcessed := by
  subst set
  intro other record known waiting zero
  rw [setRequest, Dict.lookup_insert_ite] at known
  split_ifs at known with here
  · cases known
    exact here ▸ computed waiting zero
  · exact ready.idle other record known waiting zero

theorem Fenced.preempt (listed : pass.Listed) (found : pass.victim = some preempted)
    (taken : pass.preempt answers preempted = .ok next)
    (unscheduled : preempted ∉ next.scheduledRunningReqs) :
    next.Fenced sent done ∧ next.Listed := by
  obtain ⟨held, rest, left, preempts⟩ := preempt_scheduler found taken
  have placed : next.Placed False := by
    unfold Placed
    rw [held]
    exact Scheduler.Placed.preemptRequest ready.placed left preempts
  have popped : (pass.scheduler.withRunning rest).Fenced sent done :=
    ready.fenced.of_same ⟨rfl, rfl, rfl, rfl, rfl⟩ rfl
  have fenced := popped.preemptRequest preempts
  obtain ⟨_, _, log, _, -, after⟩ := preemptRequest_frame preempts
  obtain ⟨scheduler, rfl, running⟩ := preempt_locals taken
  obtain ⟨listedAfter, kept⟩ := listed.removeVictim found unscheduled
  refine ⟨⟨placed, fenced, ?_, fun reqId member => ?_⟩, listedAfter⟩
  · obtain ⟨record, _, -, rfl⟩ := preemptRequest_eq_ok.mp preempts
    have emptied := freeRequestBlocks_empties (pass.scheduler.withRunning rest) preempted
      record (answers.blocks preempted)
    intro other entry lookedUp waiting zero
    by_cases same : other = preempted
    · subst same
      exact emptied.emptied.trans_le (zero_le _)
    · unfold setRequest at lookedUp
      rw [lookup_insert_ne same, emptied.requests] at lookedUp
      exact (emptied.eases.newest other).trans
        ((ready.idle other entry lookedUp waiting zero).trans emptied.eases.processed)
  · have scheduled := (listedAfter reqId).mp member
    have ran := ready.running reqId (kept reqId member)
    rw [after]
    refine (mem_cons.mp (left.mem_iff.mp ran)).resolve_left ?_
    rintro rfl
    exact unscheduled scheduled

theorem Fenced.scheduleRunning (listed : pass.Listed) (member : reqId ∈ pass.scheduler.running)
    (found : pass.scheduler.requests.lookup reqId = some request) :
    (pass.scheduleRunning reqId request numNewTokens).Fenced sent done ∧
      (pass.scheduleRunning reqId request numNewTokens).Listed := by
  refine ⟨⟨?_, ?_, ?_, fun other scheduled => ?_⟩, fun other => ?_⟩
  · exact Scheduler.Placed.setRequest ready.placed found rfl
  · exact ready.fenced.record found (.of_same rfl rfl rfl)
  · exact ready.withRequest rfl fun waiting zero => ready.idle reqId request found waiting zero
  · rcases (mem_insert _).mp scheduled with rfl | earlier
    · exact member
    · exact ready.running other earlier
  · change other ∈ pass.numScheduledTokens.insert reqId numNewTokens ↔
      other ∈ pass.scheduledRunningReqs ++ [reqId]
    rw [mem_insert, mem_append, mem_singleton, listed other, or_comm]

end

theorem RunningStep.fenced {bounded : Prop} (step : RunningStep answers bounded pass next)
    (ready : pass.Fenced sent done ∧ pass.Listed) : next.Fenced sent done ∧ next.Listed := by
  obtain ⟨ready, listed⟩ := ready
  cases step with
  | skip | countAllocation =>
    exact ⟨⟨ready.placed, ready.fenced, ready.idle, ready.running⟩, listed⟩
  | preempt found taken unscheduled => exact ready.preempt listed found taken unscheduled
  | schedule member fresh found => exact ready.scheduleRunning listed member found

section

variable (ready : pass.Fenced sent done)
  (found : pass.scheduler.requests.lookup reqId = some request)

include ready found

theorem Fenced.free (loads : request.status = .waitingForRemoteKvs) (blocks : List GpuBlockId) :
    (pass.withScheduler (pass.scheduler.free reqId blocks)).Fenced sent done := by
  have tracks := ready.fenced.known reqId request found
  have emptied := free_empties pass.scheduler reqId blocks
  refine ⟨Scheduler.Placed.of_same ready.placed ⟨rfl, rfl, rfl, rfl, rfl⟩, ?_,
    fun other record known waiting zero => ?_, ready.running⟩
  · exact ready.fenced.mono emptied.eases rfl (ready.fenced.ledger.free (tracks.loading loads))
  · exact (emptied.eases.newest other).trans (ready.idle other record known waiting zero)

theorem Fenced.promote (promotion : Promotion answers reqId request pass.scheduler after) :
    (pass.withScheduler after).Fenced sent done := by
  have placed := Placed.promote ready.placed found promotion
  have waited : waits (some request.status) = 1 := by
    rcases promotion.blocked with status | status <;> rw [status] <;> rfl
  obtain ⟨_, failed, log, computed, status, rfl, unblocked, changed, freed⟩ :=
    promotion.result
  have recorded : Scheduler.Recorded request
      { request with numComputedTokens := computed, status := status } := by
    refine ⟨rfl, fun plain _ => ⟨plain, waited⟩, fun loads => ?_⟩
    rcases unblocked with rfl | rfl <;> cases loads
  obtain ⟨released, idle⟩ :
      (pass.withScheduler { pass.scheduler with log := log }).Fenced sent done ∧
      (computed = 0 → log.newest reqId ≤ log.numProcessed) := by
    rcases freed with rfl | ⟨loads, -, rfl⟩
    · refine ⟨ready, fun zero => ?_⟩
      rcases changed with same | ⟨loads, -, -⟩
      · exact ready.idle reqId request found waited (same ▸ zero)
      · exact (ready.fenced.known reqId request found).loading loads
    · refine ⟨ready.free found loads _, fun _ => ?_⟩
      rw [(free_empties pass.scheduler reqId _).emptied]
      exact zero_le _
  have set := released.fenced.record found recorded
  have idles := released.withRequest (rfl : _ = Scheduler.setRequest _ reqId
    { request with numComputedTokens := computed, status := status }) fun _ zero => idle zero
  exact ⟨placed, set.of_same ⟨rfl, rfl, rfl, rfl, rfl⟩ rfl, idles, ready.running⟩

end

theorem computed_of_loads {config : SchedulerConfig} {before : SchedRequest}
    (lookedUp : cachedTokens config answers reqId before = .ok (some cached, request))
    (loads : cached.loadKvAsync = true) : request.numComputedTokens = 0 := by
  have same : request.numComputedTokens = before.numComputedTokens := by
    obtain ⟨_, rfl⟩ := cachedTokens_record lookedUp
    rfl
  rw [same]
  by_contra computed
  unfold cachedTokens at lookedUp
  rw [if_pos computed] at lookedUp
  cases lookedUp
  cases loads

theorem Fenced.startLoad {fromSkipped : Bool}
    (ready : pass.Fenced sent done) (admissible : pass.Admissible fromSkipped reqId request)
    (zero : request.numComputedTokens = 0) :
    (pass.countAllocation.startLoad fromSkipped reqId request cached).Fenced sent done := by
  have found := admissible.found
  have placed : (pass.countAllocation.startLoad fromSkipped reqId request cached).Placed False :=
    Placed.startLoad ready.placed admissible.member found admissible.unblocked
  have waiting := waits_queueOf ready.placed admissible.member
  rw [statusOf_of_lookup found] at waiting
  have tracks := ready.fenced.known reqId request found
  have idle := ready.idle reqId request found waiting zero
  have after : Scheduler.Tracks pass.scheduler.log reqId
      { request with
        status := .waitingForRemoteKvs
        numComputedTokens := cached.numComputedTokens } :=
    ⟨tracks.recorded, tracks.bounded, fun plain _ => tracks.waiting plain waiting, fun _ => idle⟩
  have set := ready.fenced.setRequest after
  have idles := ready.withRequest (rfl : _ = pass.scheduler.setRequest reqId
    { request with
      status := .waitingForRemoteKvs
      numComputedTokens := cached.numComputedTokens }) fun _ _ => idle
  cases fromSkipped <;>
    exact ⟨placed, set.of_same ⟨rfl, rfl, rfl, rfl, rfl⟩ rfl, idles, ready.running⟩

theorem Fenced.admitWaiting {fromSkipped padSpecDecode : Bool} (ready : pass.Fenced sent done)
    (admissible : pass.Admissible fromSkipped reqId request)
    (taken : pass.countAllocation.admitWaiting fromSkipped reqId request cached numNewTokens
      padSpecDecode = .ok next) : next.Fenced sent done := by
  have found := admissible.found
  obtain ⟨after, held⟩ := admit_scheduler taken
  have placed : next.Placed False := by
    unfold Placed
    rw [after, held]
    exact Placed.run ready.placed admissible.member found admissible.unblocked rfl
  have scheduled : next.numScheduledTokens =
      pass.numScheduledTokens.insert reqId numNewTokens := by
    unfold Pass.admitWaiting at taken
    dsimp only at taken
    split at taken <;> cases taken <;> rfl
  have tracks := ready.fenced.known reqId request found
  have runs : Scheduler.Tracks pass.scheduler.log reqId
      { request with status := .running, numComputedTokens := cached.numComputedTokens } :=
    ⟨tracks.recorded, tracks.bounded, fun _ never => (by cases never),
      fun never => (by cases never)⟩
  have set := ready.fenced.setRequest runs
  have idles := ready.withRequest (rfl : _ = pass.scheduler.setRequest reqId
    { request with
      status := .running
      numComputedTokens := cached.numComputedTokens }) fun never => by cases never
  have running (other : RequestId) (member : other ∈ next.numScheduledTokens) :
      other ∈ pass.scheduler.running ++ [reqId] := by
    rw [scheduled] at member
    rcases (mem_insert _).mp member with rfl | earlier
    · exact mem_append_right _ mem_cons_self
    · exact mem_append_left _ (ready.running other earlier)
  refine ⟨placed, ?_, ?_, ?_⟩ <;> rw [after]
  · cases fromSkipped <;> exact set.of_same ⟨rfl, rfl, rfl, rfl, rfl⟩ rfl
  · cases fromSkipped <;> exact idles
  · cases fromSkipped <;> exact running

theorem WaitingStep.fenced (step : WaitingStep answers deferPrefills pass next)
    (ready : pass.Fenced sent done) : next.Fenced sent done := by
  have placed := step.placed ready.placed
  cases step with
  | countAllocation => exact ⟨placed, ready.fenced, ready.idle, ready.running⟩
  | skip member =>
    rename_i fromSkipped reqId
    cases fromSkipped <;>
      exact ⟨placed, ready.fenced.of_same ⟨rfl, rfl, rfl, rfl, rfl⟩ rfl, ready.idle, ready.running⟩
  | promote found taken =>
    rcases tryPromote_ok taken with ⟨-, _, rfl⟩ | ⟨-, promotion⟩
    · exact ⟨placed, ready.fenced.of_same ⟨rfl, rfl, rfl, rfl, rfl⟩ rfl, ready.idle, ready.running⟩
    · exact ready.promote found promotion
  | setBoundary boundary found =>
    refine ⟨placed, ready.fenced.record found (.of_same rfl rfl rfl), ?_,
      ready.running⟩
    exact ready.withRequest rfl fun waiting zero => ready.idle _ _ found waiting zero
  | startLoad admissible lookedUp loads =>
    exact ready.startLoad admissible (computed_of_loads lookedUp loads)
  | admitWaiting admissible lookedUp computes tokens taken => exact ready.admitWaiting admissible taken

end Pass

namespace Scheduler

variable {scheduler next : Scheduler} {answers : ScheduleAnswers} {output : SchedulerOutput}
  {sent done : Nat}

def SessionsIdle (scheduler : Scheduler) : Prop :=
  ∀ reqId ∈ scheduler.requests.keys, ∀ request ∈ scheduler.requests.lookup reqId,
    request.resumable = true → waits (some request.status) = 1 → request.numComputedTokens = 0 →
    scheduler.log.newest reqId ≤ scheduler.log.numProcessed

instance (scheduler : Scheduler) : Decidable scheduler.SessionsIdle :=
  inferInstanceAs (Decidable (∀ _ ∈ _, _))

theorem Fenced.beginPass (fenced : scheduler.Fenced sent done) (placed : scheduler.Placed False [])
    (sessions : scheduler.SessionsIdle) :
    scheduler.beginPass.Fenced sent done ∧ scheduler.beginPass.Listed := by
  refine ⟨⟨⟨placed.running, placed.waiting, placed.streaming⟩,
    fenced.of_same ⟨rfl, rfl, rfl, rfl, rfl⟩ rfl, ?_, ?_⟩, ?_⟩
  · intro reqId request found waiting zero
    change scheduler.requests.lookup reqId = some request at found
    cases resumable : request.resumable with
    | false =>
      have none := (fenced.known reqId request found).waiting resumable waiting
      change scheduler.log.newest reqId ≤ _
      rw [none]
      exact zero_le _
    | true =>
      have member : reqId ∈ scheduler.requests.keys := by
        rw [← AList.mem_keys, ← AList.lookup_isSome, found]
        rfl
      exact sessions reqId member request found resumable waiting zero
  · intro reqId member
    exact absurd member (notMem_empty reqId)
  · intro reqId
    exact iff_of_false (notMem_empty reqId) not_mem_nil

theorem Fenced.retain (fenced : scheduler.Fenced sent done) (blocks : List GpuBlockId) :
    (scheduler.freeCowRetainedBlocks blocks (scheduler.schedStepSeq + 1)).Fenced sent done := by
  refine fenced.mono ?_ (freeCowRetainedBlocks_same _ _ _).requests
    fenced.ledger.freeCowRetainedBlocks
  unfold freeCowRetainedBlocks
  split_ifs <;> exact ⟨fun _ => le_refl _, le_refl _, le_refl _⟩

def appendStep (scheduler : Scheduler) (keys : List RequestId) : Scheduler :=
  { scheduler with
    schedStepSeq := scheduler.schedStepSeq + 1
    log := { scheduler.log with steps := scheduler.log.steps ++ [keys] } }

theorem Ledger.appendStep (ledger : scheduler.Ledger sent done) (keys : List RequestId) :
    (scheduler.appendStep keys).Ledger (sent + 1) done := by
  have scheduled := ledger.scheduled
  have behind := ledger.behind
  have sentSteps := ledger.sentSteps
  have length : (scheduler.log.steps ++ [keys]).length = scheduler.log.steps.length + 1 := by
    rw [length_append, length_singleton]
  refine ⟨ledger.defers, ?_, ledger.processed, ?_, fun reqId => ?_, fun entry member => ?_,
    ledger.front, ledger.safe, ledger.once, ?_, ledger.doneSteps⟩ <;>
    dsimp only [Scheduler.appendStep] <;> rw [length]
  · omega
  · omega
  · have before := ledger.emptied reqId
    omega
  · obtain ⟨fenced, bound⟩ := ledger.fences entry member
    refine ⟨fenced, .inl ?_⟩
    rcases bound with bound | ⟨bound, -⟩ <;> omega
  · omega

theorem newest_appendStep (ledger : scheduler.Ledger sent done) (keys : List RequestId)
    (reqId : RequestId) :
    (scheduler.appendStep keys).log.newest reqId =
      if reqId ∈ keys then scheduler.log.steps.length + 1 else scheduler.log.newest reqId := by
  have bound := ledger.newest_le reqId
  change FreeLog.newestStep reqId (scheduler.log.emptiedAt reqId) (scheduler.log.steps ++ [keys]) =
    _
  rw [FreeLog.newestStep_append (ledger.emptied reqId) keys]
  change max (scheduler.log.newest reqId) _ = _
  split_ifs <;> omega

theorem closeStep_cases (answers : ScheduleAnswers) (output : SchedulerOutput)
    (defers : scheduler.config.deferBlockFree = true) :
    ∃ retained : Scheduler, (retained = scheduler ∨
        retained = scheduler.freeCowRetainedBlocks answers.cowRetainedBlocks
          (scheduler.schedStepSeq + 1)) ∧
      scheduler.closeStep answers output =
        if 0 < output.totalNumScheduledTokens then
          retained.appendStep output.numScheduledTokens.keys
        else retained := by
  have kept : (scheduler.freeCowRetainedBlocks answers.cowRetainedBlocks
      (scheduler.schedStepSeq + 1)).config = scheduler.config := by
    unfold freeCowRetainedBlocks
    split_ifs <;> rfl
  unfold closeStep appendStep
  dsimp only
  by_cases empty : answers.cowRetainedBlocks.isEmpty = true
  · refine ⟨scheduler, .inl rfl, ?_⟩
    rw [if_pos empty, if_pos defers]
  · refine ⟨_, .inr rfl, ?_⟩
    rw [if_neg empty, kept, if_pos defers]

theorem Fenced.updateAfterSchedule {keys : List RequestId} {before : Scheduler}
    (fenced : before.Fenced sent done) (same : keys = output.numScheduledTokens.keys)
    (taken : scheduler.updateAfterSchedule output = .ok next)
    (requests : scheduler.requests = before.requests)
    (ledger : scheduler.Ledger (sent + if 0 < output.totalNumScheduledTokens then 1 else 0) done)
    (newest : ∀ reqId, scheduler.log.newest reqId =
      if reqId ∈ keys ∧ 0 < output.totalNumScheduledTokens then scheduler.log.steps.length
      else before.log.newest reqId)
    (numProcessed : scheduler.log.numProcessed = before.log.numProcessed)
    (running : ∀ reqId ∈ keys, before.statusOf reqId = some .running) :
    next.Fenced (sent + if 0 < output.totalNumScheduledTokens then 1 else 0) done := by
  have defers := ledger.defers
  have scheduled := ledger.scheduled
  have sentBefore := fenced.ledger.sentSteps
  have sentAfter := ledger.sentSteps
  obtain ⟨_, rfl, known, lookups⟩ := updateAfterSchedule_ok taken
  rw [← same] at known lookups
  refine ⟨ledger.of_same ⟨rfl, rfl, rfl, rfl, rfl⟩, fun reqId request found => ?_,
    fun reqId absent => ?_⟩
  · dsimp only at found
    rw [lookups, requests] at found
    by_cases member : reqId ∈ keys
    · rw [if_pos member, map_eq_some_iff] at found
      obtain ⟨record, was, rfl⟩ := found
      generalize after : settled _ _ _ output reqId record = request
      obtain ⟨seq, status⟩ : request.lastSchedSeq = scheduler.schedStepSeq ∧
          request.status = record.status := by
        rw [← after]
        unfold settled SchedRequest.afterScheduleAsync SchedRequest.afterSchedule
        dsimp only
        split_ifs <;> exact ⟨rfl, rfl⟩
      have runs := running reqId member
      rw [statusOf_of_lookup was] at runs
      have bound := ledger.newest_le reqId
      refine ⟨?_, ?_, fun _ waits => ?_, fun loads => ?_⟩
      · rw [seq, scheduled]
        exact bound
      · rw [seq, scheduled]
      · rw [status, runs] at waits
        cases waits
      · rw [status, Option.some.inj runs] at loads
        cases loads
    · rw [if_neg member] at found
      refine (fenced.known reqId request found).mono ?_ ?_ numProcessed.ge
      · dsimp only
        rw [newest, if_neg (fun both => member both.1)]
      · dsimp only
        omega
  · dsimp only at absent ⊢
    rw [lookups] at absent
    by_cases member : reqId ∈ keys
    · rw [if_pos member, map_eq_none_iff] at absent
      have found := known reqId member
      rw [absent] at found
      cases found
    · rw [if_neg member, requests] at absent
      rw [newest, if_neg (fun both => member both.1)]
      exact fenced.unknown reqId absent

theorem Fenced.closeStep (fenced : scheduler.Fenced sent done)
    (running : ∀ reqId ∈ output.numScheduledTokens.keys, scheduler.statusOf reqId = some .running)
    (taken : (scheduler.closeStep answers output).updateAfterSchedule output = .ok next) :
    next.Fenced (sent + if 0 < output.totalNumScheduledTokens then 1 else 0) done := by
  obtain ⟨retained, cases, closed⟩ := closeStep_cases answers output fenced.ledger.defers
  obtain ⟨kept, requests⟩ : retained.Fenced sent done ∧
      retained.requests = scheduler.requests := by
    rcases cases with rfl | rfl
    · exact ⟨fenced, rfl⟩
    · exact ⟨fenced.retain _, (freeCowRetainedBlocks_same _ _ _).requests⟩
  have runs (reqId : RequestId) (member : reqId ∈ output.numScheduledTokens.keys) :
      retained.statusOf reqId = some .running := by
    unfold statusOf
    rw [requests]
    exact running reqId member
  rw [closed] at taken
  by_cases tokens : 0 < output.totalNumScheduledTokens
  · rw [if_pos tokens] at taken
    refine kept.updateAfterSchedule rfl taken rfl ?_ (fun reqId => ?_) rfl runs
    · rw [if_pos tokens]
      exact kept.ledger.appendStep _
    · rw [newest_appendStep kept.ledger]
      simp only [tokens, and_true]
      change _ = if _ then (retained.log.steps ++ [_]).length else _
      rw [length_append, length_singleton]
  · rw [if_neg tokens] at taken
    refine kept.updateAfterSchedule rfl taken rfl ?_ (fun reqId => ?_) rfl runs
    · rw [if_neg tokens]
      exact kept.ledger
    · rw [if_neg (fun both => tokens both.2)]

theorem Fenced.schedule (fenced : scheduler.Fenced sent done) (placed : scheduler.Placed False [])
    (sessions : scheduler.SessionsIdle) (taken : scheduler.schedule answers = .ok (output, next)) :
    next.Fenced (sent + if 0 < output.totalNumScheduledTokens then 1 else 0) done := by
  obtain ⟨pass, scheduled, -, tokens, -, -, -, closed⟩ :=
    schedule_ok placed.running_nodup (fun never : False => never.elim) taken
  have ended : pass.Fenced sent done := by
    obtain ⟨first, loras, runningSteps, -, phases⟩ := scheduled.phases
    have ran := Pass.keeps_of_steps (fun pass => pass.Fenced sent done ∧ pass.Listed)
      (fun _ _ step ready => step.fenced ready) runningSteps
      (fenced.beginPass placed sessions)
    have recorded : ({ first with scheduledLoras := loras } : Pass).Fenced sent done :=
      ⟨ran.1.placed, ran.1.fenced, ran.1.idle, ran.1.running⟩
    rcases phases with rfl | ⟨_, waitingSteps, -, rfl⟩
    · exact recorded
    · have waited := Pass.keeps_of_steps (fun pass => pass.Fenced sent done)
        (fun _ _ step ready => step.fenced ready) waitingSteps recorded
      exact ⟨Pass.Placed.requeueSkipped waited.placed _,
        waited.fenced.of_same ⟨rfl, rfl, rfl, rfl, rfl⟩ rfl, waited.idle, waited.running⟩
  refine ended.fenced.closeStep ?_ closed
  intro reqId member
  rw [tokens] at member
  exact ended.placed.of_mem_running (ended.running reqId member)

theorem fenced_create (config : SchedulerConfig) (defers : config.deferBlockFree = true) :
    (create config).Fenced 0 0 := by
  refine ⟨⟨defers, rfl, rfl, le_refl _, fun _ => le_refl _, ?_, ?_, ?_, List.Perm.refl _,
    rfl, rfl⟩, ?_, fun _ _ => rfl⟩
  · exact fun _ member => absurd member not_mem_nil
  · intro entry member
    cases member
  · exact fun _ member => absurd member not_mem_nil
  · intro reqId request found
    cases found

end Scheduler

namespace EngineCore

variable {engine next : EngineCore} {call : EngineCall}

def hasTokens (output : SchedulerOutput) : Bool := 0 < output.totalNumScheduledTokens

-- A list of blocks goes back to the pool when the newest step that uses it has been processed.
structure FreesFenced (engine : EngineCore) : Prop where
  safe : ∀ entry ∈ engine.scheduler.log.returned, entry.1.newestStep ≤ entry.2
  once : engine.scheduler.log.popped.Perm
    (engine.scheduler.log.returned.map Prod.fst ++ engine.scheduler.deferredFrees.map Prod.snd)
  drained : (∀ output ∈ engine.inFlight, hasTokens output = false) →
    ∀ entry ∈ engine.scheduler.deferredFrees.head?,
      entry.2.newestStep = engine.scheduler.log.steps.length + 1

def Fenced (engine : EngineCore) : Prop :=
  engine.scheduler.Placed False [] ∧
    ∃ done, engine.scheduler.Fenced (done + engine.inFlight.countP hasTokens) done

theorem Fenced.frees (fenced : engine.Fenced) : engine.FreesFenced := by
  obtain ⟨-, _, fenced⟩ := fenced
  refine ⟨fenced.ledger.safe, fenced.ledger.once, fun processed entry front => ?_⟩
  have none : engine.inFlight.countP hasTokens = 0 := by
    rw [countP_eq_zero]
    intro output member
    rw [processed output member]
    exact Bool.false_ne_true
  have late := fenced.ledger.front entry front
  have sentSteps := fenced.ledger.sentSteps
  have doneSteps := fenced.ledger.doneSteps
  obtain ⟨-, _ | ⟨fence, same⟩⟩ :=
    fenced.ledger.fences entry (mem_of_mem_head? front)
  · omega
  · rw [same, fence]

def SessionsIdle (engine : EngineCore) : EngineCall → Prop
  | .schedule _ => engine.scheduler.SessionsIdle
  | _ => True

instance (engine : EngineCore) (call : EngineCall) : Decidable (engine.SessionsIdle call) :=
  match call with
  | .schedule _ => inferInstanceAs (Decidable engine.scheduler.SessionsIdle)
  | .updateFromOutput _ | .addRequest .. | .updateDraftTokenIds _ | .finishRequests ..
  | .resetPrefixCache .. | .setPauseState _ => isTrue trivial

theorem step_fenced (taken : engine.step call = .ok next) (allowed : engine.SessionsIdle call)
    (fenced : engine.Fenced) : next.Fenced := by
  obtain ⟨placed, done, fenced⟩ := fenced
  refine ⟨step_placed taken False.elim placed, ?_⟩
  cases steps_of_step taken with
  | addRequest added => exact ⟨done, fenced.addRequest added⟩
  | schedule scheduled =>
    refine ⟨done, ?_⟩
    have after := fenced.schedule placed allowed scheduled
    rw [countP_append, countP_singleton, ← add_assoc]
    unfold hasTokens
    simp only [decide_eq_true_eq]
    exact after
  | updateFromOutput inFlight updated =>
    rename_i result output later scheduler
    rw [inFlight, countP_cons] at fenced
    unfold hasTokens at fenced
    simp only [decide_eq_true_eq] at fenced
    refine ⟨done + if 0 < output.totalNumScheduledTokens then 1 else 0, ?_⟩
    have after := fenced.updateFromOutput (fun tokens => by rw [if_pos tokens]; omega) updated
    have total : done + (later.countP hasTokens +
          if 0 < output.totalNumScheduledTokens then 1 else 0) =
        (done + if 0 < output.totalNumScheduledTokens then 1 else 0) +
          later.countP hasTokens := by omega
    unfold hasTokens at total
    rw [total] at after
    exact after
  | updateDraftTokenIds drafts => exact ⟨done, fenced.updateDraftTokenIds drafts⟩
  | finishRequests finished => exact ⟨done, fenced.finishRequests finished⟩
  | resetRunning reset => exact ⟨done, fenced.resetRunningRequests reset⟩
  | resetCache blocks => exact ⟨done, fenced⟩
  | setPauseState pauseState =>
    exact ⟨done, fenced.of_same ⟨rfl, rfl, rfl, rfl, rfl⟩ rfl⟩

theorem frees_fenced (config : SchedulerConfig) (defers : config.deferBlockFree = true)
    (calls : List EngineCall) (sessions : Run.Meets step SessionsIdle (create config) calls) :
    Run.Always step FreesFenced (create config) calls := by
  have initial : (create config).Fenced :=
    ⟨placed_create False config, 0, fenced_create config defers⟩
  have fenced := Run.always_of_meets (fun _ _ _ => step_fenced) sessions initial
  exact fenced.imp fun _ fenced => fenced.frees

def deferringConfig : SchedulerConfig :=
  { asyncConfig with hasConnector := true, deferBlockFree := true }

def holding : FreeAnswers where
  delayFreeBlocks := fun _ => false
  blocks := fun _ => [5]

def abortInFlight : List EngineCall :=
  [.addRequest freed { session with resumable := false }, .schedule roomy, .schedule roomy,
    .finishRequests holding [0] .finishedAborted, .updateFromOutput (sampled 3),
    .updateFromOutput (sampled 3)]

theorem frees_fenced_abort :
    Run.Always step FreesFenced (create deferringConfig) abortInFlight :=
  frees_fenced deferringConfig rfl abortInFlight (by decide +kernel)

-- Without a connector that loads, the blocks go back at once.
theorem frees_not_fenced :
    ¬ Run.Always step FreesFenced (create asyncConfig) (abortInFlight.take 4) := by
  intro always
  obtain ⟨engine, fenced, returned⟩ := always.exists_view
    (fun engine => engine.scheduler.log.returned) [(⟨[5], 2⟩, 0)] (by decide +kernel)
  have safe := fenced.safe (⟨[5], 2⟩, 0) (by
    rw [returned]
    exact mem_cons_self)
  exact absurd safe (by decide)

end EngineCore

end VllmEngine.Sched

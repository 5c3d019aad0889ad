import VllmEngine.Sched.FreeLedger
import VllmEngine.Sched.QueueOutput

set_option autoImplicit false

namespace VllmEngine.Sched

open Outcome AList Nat

namespace Scheduler

variable {scheduler next : Scheduler} {reqId : RequestId} {request : SchedRequest}
  {blocks : List GpuBlockId} {answers : FreeAnswers} {sent done : Nat} {before after : SchedRequest}
  {log : FreeLog}

structure Tracks (log : FreeLog) (reqId : RequestId) (request : SchedRequest) : Prop where
  recorded : log.newest reqId ≤ request.lastSchedSeq
  bounded : request.lastSchedSeq ≤ log.steps.length
  -- Only a session keeps its blocks while it waits.
  waiting : request.resumable = false → waits (some request.status) = 1 → log.newest reqId = 0
  loading : request.status = .waitingForRemoteKvs → log.newest reqId ≤ log.numProcessed

structure Fenced (scheduler : Scheduler) (sent done : Nat) : Prop where
  ledger : scheduler.Ledger sent done
  known : ∀ reqId request, scheduler.requests.lookup reqId = some request →
    Tracks scheduler.log reqId request
  unknown : ∀ reqId, scheduler.requests.lookup reqId = none → scheduler.log.newest reqId = 0

structure Eases (log next : FreeLog) : Prop where
  newest : ∀ reqId, next.newest reqId ≤ log.newest reqId
  steps : log.steps.length ≤ next.steps.length
  processed : log.numProcessed ≤ next.numProcessed

theorem Eases.refl : Eases log log :=
  ⟨fun _ => le_refl _, le_refl _, le_refl _⟩

theorem Tracks.mono {next : FreeLog} (tracks : Tracks log reqId request)
    (newest : next.newest reqId ≤ log.newest reqId) (steps : log.steps.length ≤ next.steps.length)
    (processed : log.numProcessed ≤ next.numProcessed) : Tracks next reqId request := by
  refine ⟨newest.trans tracks.recorded, tracks.bounded.trans steps, fun plain waits => ?_,
    fun loads => newest.trans ((tracks.loading loads).trans processed)⟩
  rw [tracks.waiting plain waits] at newest
  exact le_zero.mp newest

section

variable (fenced : scheduler.Fenced sent done)

include fenced

theorem Fenced.mono {nextDone : Nat} (eases : Eases scheduler.log next.log)
    (requests : next.requests = scheduler.requests) (ledger : next.Ledger sent nextDone) :
    next.Fenced sent nextDone := by
  refine ⟨ledger, ?_, ?_⟩ <;> rw [requests]
  · intro reqId request found
    exact (fenced.known reqId request found).mono (eases.newest reqId) eases.steps eases.processed
  · intro reqId absent
    have newest := eases.newest reqId
    rw [fenced.unknown reqId absent] at newest
    exact le_zero.mp newest

theorem Fenced.of_same (same : SameLedger scheduler next)
    (requests : next.requests = scheduler.requests) : next.Fenced sent done := by
  refine fenced.mono ?_ requests (fenced.ledger.of_same same)
  rw [same.log]
  exact Eases.refl

theorem Fenced.setRequest (tracks : Tracks scheduler.log reqId request) :
    (scheduler.setRequest reqId request).Fenced sent done := by
  refine ⟨fenced.ledger.of_same ⟨rfl, rfl, rfl, rfl, rfl⟩, fun other record found => ?_,
    fun other absent => ?_⟩
  · rw [Scheduler.setRequest, Dict.lookup_insert_ite] at found
    split_ifs at found with same
    · cases found
      exact same ▸ tracks
    · exact fenced.known other record found
  · rw [Scheduler.setRequest, Dict.lookup_insert_ite] at absent
    split_ifs at absent
    exact fenced.unknown other absent

end

structure Recorded (before after : SchedRequest) : Prop where
  lastSchedSeq : after.lastSchedSeq = before.lastSchedSeq
  waiting : after.resumable = false → waits (some after.status) = 1 →
    before.resumable = false ∧ waits (some before.status) = 1
  loading : after.status = .waitingForRemoteKvs → before.status = .waitingForRemoteKvs

theorem Tracks.recorded' (tracks : Tracks log reqId before) (recorded : Recorded before after) :
    Tracks log reqId after := by
  refine ⟨?_, ?_, fun plain waits => ?_, fun loads => ?_⟩
  · rw [recorded.lastSchedSeq]
    exact tracks.recorded
  · rw [recorded.lastSchedSeq]
    exact tracks.bounded
  · obtain ⟨plain, waits⟩ := recorded.waiting plain waits
    exact tracks.waiting plain waits
  · exact tracks.loading (recorded.loading loads)

theorem Fenced.record (fenced : scheduler.Fenced sent done) {before : SchedRequest}
    (found : scheduler.requests.lookup reqId = some before) (recorded : Recorded before request) :
    (scheduler.setRequest reqId request).Fenced sent done :=
  fenced.setRequest ((fenced.known reqId before found).recorded' recorded)

theorem Recorded.of_same (lastSchedSeq : after.lastSchedSeq = before.lastSchedSeq)
    (resumable : after.resumable = before.resumable) (status : after.status = before.status) :
    Recorded before after := by
  refine ⟨lastSchedSeq, fun plain waits => ?_, fun loads => ?_⟩
  · rw [resumable] at plain
    rw [status] at waits
    exact ⟨plain, waits⟩
  · rw [← status]
    exact loads

theorem Recorded.of_isFinished (lastSchedSeq : after.lastSchedSeq = before.lastSchedSeq)
    (finished : after.isFinished = true) : Recorded before after := by
  refine ⟨lastSchedSeq, fun _ waits => ?_, fun loads => ?_⟩
  · rw [waits_of_isFinished finished] at waits
    cases waits
  · unfold SchedRequest.isFinished at finished
    rw [loads] at finished
    cases finished

theorem Tracks.of_emptied (emptied : log.newest reqId = 0)
    (bounded : request.lastSchedSeq ≤ log.steps.length) : Tracks log reqId request := by
  refine ⟨?_, bounded, fun _ _ => emptied, fun _ => ?_⟩
  · rw [emptied]
    exact zero_le _
  · rw [emptied]
    exact zero_le _

structure Empties (scheduler : Scheduler) (reqId : RequestId) (next : Scheduler) : Prop where
  requests : next.requests = scheduler.requests
  steps : next.log.steps = scheduler.log.steps
  numProcessed : next.log.numProcessed = scheduler.log.numProcessed
  emptied : next.log.newest reqId = 0
  others : ∀ other, other ≠ reqId → next.log.newest other = scheduler.log.newest other

theorem empties_of_log
    (emptiedAt : next.log.emptiedAt = (scheduler.log.emptied reqId).emptiedAt)
    (steps : next.log.steps = scheduler.log.steps)
    (numProcessed : next.log.numProcessed = scheduler.log.numProcessed)
    (requests : next.requests = scheduler.requests) : Empties scheduler reqId next := by
  have newest (other : RequestId) :
      next.log.newest other = if other = reqId then 0 else scheduler.log.newest other := by
    rw [← FreeLog.newest_emptied]
    unfold FreeLog.newest
    rw [emptiedAt, steps]
    rfl
  refine ⟨requests, steps, numProcessed, ?_, fun other different => ?_⟩
  · rw [newest, if_pos rfl]
  · rw [newest, if_neg different]

theorem free_empties (scheduler : Scheduler) (reqId : RequestId) (blocks : List GpuBlockId) :
    Empties scheduler reqId (scheduler.free reqId blocks) :=
  empties_of_log rfl rfl rfl rfl

theorem freeRequestBlocks_empties (scheduler : Scheduler) (reqId : RequestId)
    (request : SchedRequest) (blocks : List GpuBlockId) :
    Empties scheduler reqId (scheduler.freeRequestBlocks reqId request blocks) := by
  unfold Scheduler.freeRequestBlocks
  split_ifs
  · exact free_empties scheduler reqId blocks
  · exact empties_of_log rfl rfl rfl rfl
  · exact empties_of_log rfl rfl rfl rfl

theorem Empties.eases (empties : Empties scheduler reqId next) : Eases scheduler.log next.log := by
  refine ⟨fun other => ?_, by rw [empties.steps], by rw [empties.numProcessed]⟩
  by_cases same : other = reqId
  · rw [same, empties.emptied]
    exact zero_le _
  · rw [empties.others other same]

section

variable (fenced : scheduler.Fenced sent done) {finishedStatus : RequestStatus}

include fenced

theorem Fenced.freeRequestBlocks (tracks : Tracks scheduler.log reqId request) :
    (scheduler.freeRequestBlocks reqId request blocks).Fenced sent done :=
  have empties := freeRequestBlocks_empties scheduler reqId request blocks
  fenced.mono empties.eases empties.requests
    (fenced.ledger.freeRequestBlocks tracks.recorded tracks.bounded)

theorem Fenced.eraseRequest (emptied : scheduler.log.newest reqId = 0) :
    (scheduler.eraseRequest reqId).Fenced sent done := by
  refine ⟨fenced.ledger.of_same ⟨rfl, rfl, rfl, rfl, rfl⟩, fun other record found => ?_,
    fun other absent => ?_⟩
  · exact fenced.known other record (Dict.lookup_erase_eq_some.mp found).2
  · rw [Scheduler.eraseRequest, Dict.lookup_erase_ite] at absent
    split_ifs at absent with same
    · exact same ▸ emptied
    · exact fenced.unknown other absent

theorem Fenced.freeBlocks (found : scheduler.requests.lookup reqId = some request)
    (taken : scheduler.freeBlocks reqId request blocks = .ok next) : next.Fenced sent done := by
  unfold Scheduler.freeBlocks at taken
  simp only [bind_eq_ok, pure_eq_ok] at taken
  obtain ⟨-, -, rfl⟩ := taken
  have freed := freeRequestBlocks_empties scheduler reqId request blocks
  exact (fenced.freeRequestBlocks (fenced.known reqId request found)).eraseRequest freed.emptied

theorem Fenced.freeRequest {before : SchedRequest} {delayFreeBlocks : Bool}
    (found : scheduler.requests.lookup reqId = some before)
    (same : request.lastSchedSeq = before.lastSchedSeq)
    (taken : scheduler.freeRequest answers reqId request delayFreeBlocks = .ok next) :
    next.Fenced sent done := by
  unfold Scheduler.freeRequest at taken
  simp only [bind_eq_ok, pyAssert_eq_ok] at taken
  obtain ⟨-, finished, taken⟩ := taken
  have marked := fenced.record found (Recorded.of_isFinished same finished)
  split_ifs at taken
  · cases taken
    exact marked
  · exact marked.freeBlocks (lookup_insert _) taken

theorem Fenced.finishRequest
    (taken : finishRequest answers finishedStatus scheduler reqId = .ok next) :
    next.Fenced sent done := by
  unfold Scheduler.finishRequest at taken
  simp only [bind_eq_ok] at taken
  obtain ⟨request, found, taken⟩ := taken
  have found := request_eq_ok.mp found
  have same : (request.withStatus finishedStatus).lastSchedSeq = request.lastSchedSeq := rfl
  split_ifs at taken
  · have received : ({ scheduler with
        finishedRecvingKvReqIds := scheduler.finishedRecvingKvReqIds.erase reqId
        failedRecvingKvReqIds := scheduler.failedRecvingKvReqIds.erase reqId } :
          Scheduler).Fenced sent done := fenced.of_same ⟨rfl, rfl, rfl, rfl, rfl⟩ rfl
    exact received.freeRequest found same taken
  · exact fenced.freeRequest found same taken

theorem Fenced.finishRequests {ids : List RequestId}
    (taken : scheduler.finishRequests answers ids finishedStatus = .ok next) :
    next.Fenced sent done := by
  unfold Scheduler.finishRequests at taken
  obtain ⟨-, -, taken⟩ := bind_eq_ok.mp taken
  have removed : (scheduler.removeFromQueues ids.dedup).Fenced sent done :=
    fenced.of_same ⟨rfl, rfl, rfl, rfl, rfl⟩ rfl
  have kept (state : Scheduler) (reqId : RequestId) (_ : reqId ∈ scheduler.liveIds ids.dedup)
      (after : Scheduler) (taken : Scheduler.finishRequest answers finishedStatus state reqId =
        .ok after) (fenced : state.Fenced sent done) : after.Fenced sent done := fenced.finishRequest taken
  exact (Run.always_of_kept kept removed).final taken

end

section

variable (fenced : scheduler.Fenced sent done)

include fenced

theorem Fenced.updateRequestAsSession {before : SchedRequest} {update : SessionUpdate}
    (found : scheduler.requests.lookup reqId = some before)
    (lastSchedSeq : request.lastSchedSeq = before.lastSchedSeq)
    (session : request.resumable = true ∨
      request.resumable = before.resumable ∧ waits (some before.status) = 1)
    (taken : scheduler.updateRequestAsSession reqId request update = .ok next) :
    next.Fenced sent done := by
  unfold Scheduler.updateRequestAsSession at taken
  simp only [bind_eq_ok, pure_eq_ok] at taken
  obtain ⟨updated, updates, rfl⟩ := taken
  obtain ⟨sameSeq, sameResumable, status⟩ : updated.lastSchedSeq = request.lastSchedSeq ∧
      updated.resumable = request.resumable ∧ updated.status = .waiting := by
    unfold SchedRequest.updateAsSession at updates
    split at updates
    · cases updates
    · cases updates
      exact ⟨rfl, rfl, rfl⟩
  have recorded : Recorded before updated := by
    refine ⟨sameSeq.trans lastSchedSeq, fun plain _ => ?_, fun loads => ?_⟩
    · rw [sameResumable] at plain
      rcases session with resumable | ⟨same, waits⟩
      · rw [resumable] at plain
        cases plain
      · exact ⟨same ▸ plain, waits⟩
    · rw [status] at loads
      cases loads
  split_ifs
  · have counted : ({ scheduler with
        numWaitingForStreamingInput := scheduler.numWaitingForStreamingInput - 1 } :
          Scheduler).Fenced sent done := fenced.of_same ⟨rfl, rfl, rfl, rfl, rfl⟩ rfl
    exact counted.record found recorded
  · exact fenced.record found recorded

theorem Fenced.enqueueWaitingRequest (reqId : RequestId) (status : RequestStatus) :
    (scheduler.enqueueWaitingRequest reqId status).Fenced sent done := by
  unfold Scheduler.enqueueWaitingRequest
  split_ifs <;> exact fenced.of_same ⟨rfl, rfl, rfl, rfl, rfl⟩ rfl

theorem Fenced.addRequest {new : NewRequest}
    (taken : scheduler.addRequest answers (.create new) = .ok next) : next.Fenced sent done := by
  unfold Scheduler.addRequest at taken
  split at taken
  · rename_i absent
    cases taken
    unfold Scheduler.addNewRequest
    have tracks (request : SchedRequest) (unscheduled : request.lastSchedSeq = 0)
        (status : RequestStatus) :
        Tracks (scheduler.enqueueWaitingRequest new.requestId status).log new.requestId
          request := by
      have same : (scheduler.enqueueWaitingRequest new.requestId status).log =
          scheduler.log := by
        unfold Scheduler.enqueueWaitingRequest
        split_ifs <;> rfl
      rw [same]
      apply Tracks.of_emptied (fenced.unknown new.requestId absent)
      rw [unscheduled]
      exact zero_le _
    split_ifs
    · exact (fenced.enqueueWaitingRequest _ _).setRequest (tracks _ rfl _)
    · exact (fenced.enqueueWaitingRequest _ _).setRequest (tracks _ rfl _)
  · rename_i existing found
    split_ifs at taken with waits
    · split at taken
      · cases taken
      · cases taken
        exact fenced.record found (.of_same rfl rfl rfl)
    · split at taken
      · refine fenced.updateRequestAsSession found rfl (.inr ⟨rfl, ?_⟩) taken
        have status : existing.status = .waitingForStreamingReq := by simpa using waits
        rw [status]
        rfl
      · exact fenced.finishRequests taken

theorem Fenced.preemptRequest {dropStaleOutput : Bool}
    (taken : scheduler.preemptRequest reqId dropStaleOutput blocks = .ok next) :
    next.Fenced sent done := by
  obtain ⟨request, found, -, rfl⟩ := preemptRequest_eq_ok.mp taken
  have tracks := fenced.known reqId request found
  have freed := freeRequestBlocks_empties scheduler reqId request blocks
  have after : ((scheduler.freeRequestBlocks reqId request blocks).setRequest reqId
      (request.preempt dropStaleOutput)).Fenced sent done := by
    apply (fenced.freeRequestBlocks tracks).setRequest
    apply Tracks.of_emptied freed.emptied
    rw [freed.steps]
    exact tracks.bounded
  exact after.of_same ⟨rfl, rfl, rfl, rfl, rfl⟩ rfl

theorem Fenced.resetRunningRequests {blocksOf : RequestId → List GpuBlockId}
    (taken : scheduler.resetRunningRequests blocksOf = .ok next) : next.Fenced sent done := by
  have kept (state : Scheduler) (reqId : RequestId) (_ : reqId ∈ scheduler.running.reverse)
      (after : Scheduler) (taken : resetRunningRequests.resetRunningRequest blocksOf state reqId =
        .ok after) (fenced : state.Fenced sent done) : after.Fenced sent done := by
    have popped : (state.withRunning state.running.dropLast).Fenced sent done :=
      fenced.of_same ⟨rfl, rfl, rfl, rfl, rfl⟩ rfl
    exact popped.preemptRequest taken
  exact (Run.always_of_kept kept fenced).final taken

theorem Fenced.updateDraftTokenIds (drafts : List (RequestId × List Int)) :
    (scheduler.updateDraftTokenIds drafts).Fenced sent done := by
  unfold Scheduler.updateDraftTokenIds
  refine List.foldlRecOn (motive := fun next : Scheduler => next.Fenced sent done) _ _ fenced
    fun scheduler fenced draft _ => ?_
  unfold updateDraftTokenIds.update
  split
  · exact fenced
  · rename_i found
    split_ifs
    · exact fenced
    · exact fenced.record found (.of_same rfl rfl rfl)
    · exact fenced.record found (.of_same rfl rfl rfl)

end

end Scheduler

end VllmEngine.Sched

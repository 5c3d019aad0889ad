import VllmEngine.Sched.EngineCore
import VllmEngine.Sched.ScheduleSteps
import VllmEngine.Shared.Dict
import VllmEngine.Shared.Tally

set_option autoImplicit false

namespace VllmEngine.Sched

open Function List

open Outcome (Ensures)

def runs (status : Option RequestStatus) : Nat := if status = some .running then 1 else 0

def waits : Option RequestStatus → Nat
  | some .waiting | some .waitingForStructuredOutputGrammar | some .waitingForRemoteKvs
  | some .waitingForStreamingReq | some .preempted => 1
  | _ => 0

def streams (status : Option RequestStatus) : Nat :=
  if status = some .waitingForStreamingReq then 1 else 0

variable {status : RequestStatus}

section

variable (finished : status.isFinished = true)

include finished

theorem runs_of_isFinished : runs (some status) = 0 := by
  cases status <;> first | rfl | cases finished

theorem waits_of_isFinished : waits (some status) = 0 := by
  cases status <;> first | rfl | cases finished

theorem streams_of_isFinished : streams (some status) = 0 := by
  cases status <;> first | rfl | cases finished

end

theorem runs_add_waits (status : RequestStatus) :
    runs (some status) + waits (some status) = if status.isFinished then 0 else 1 := by
  cases status <;> rfl

namespace Scheduler

variable {scheduler next : Scheduler} {reqId : RequestId} {request : SchedRequest}

def statusOf (scheduler : Scheduler) (reqId : RequestId) : Option RequestStatus :=
  (scheduler.requests.lookup reqId).map (·.status)

theorem statusOf_of_lookup (found : scheduler.requests.lookup reqId = some request) :
    scheduler.statusOf reqId = some request.status := by
  rw [statusOf, found]
  rfl

section

variable (scheduler : Scheduler) (reqId : RequestId)

@[simp]
theorem statusOf_setRequest (request : SchedRequest) :
    (scheduler.setRequest reqId request).statusOf =
      update scheduler.statusOf reqId (some request.status) := by
  funext other
  unfold statusOf setRequest
  rw [Dict.lookup_insert_ite, update_apply]
  split_ifs <;> rfl

def streaming (scheduler : Scheduler) : Nat :=
  tally (fun request => streams (some request.status)) scheduler.requests

theorem streams_statusOf :
    streams (scheduler.statusOf reqId) =
      (scheduler.requests.lookup reqId).elim 0 fun request => streams (some request.status) := by
  unfold statusOf
  cases scheduler.requests.lookup reqId <;> rfl

theorem streaming_setRequest (request : SchedRequest) :
    (scheduler.setRequest reqId request).streaming + streams (scheduler.statusOf reqId) =
      scheduler.streaming + streams (some request.status) := by
  rw [streams_statusOf]
  exact tally_insert _ _ _ _

def eraseRequest (scheduler : Scheduler) (reqId : RequestId) : Scheduler :=
  { scheduler with requests := scheduler.requests.erase reqId }

theorem statusOf_eraseRequest :
    (scheduler.eraseRequest reqId).statusOf = update scheduler.statusOf reqId none := by
  funext other
  unfold statusOf eraseRequest
  rw [Dict.lookup_erase_ite, update_apply]
  split_ifs <;> rfl

theorem streaming_eraseRequest :
    (scheduler.eraseRequest reqId).streaming + streams (scheduler.statusOf reqId) =
      scheduler.streaming := by
  rw [streams_statusOf]
  exact tally_erase _ _ _

end

-- `whole`: no session is lost from the queues.
def Fits (whole : Prop) (count total : Nat) : Prop := count ≤ total ∧ (whole → count = total)

section

variable {whole : Prop} {count total before : Nat}

theorem Fits.of_eq (same : count = total) : Fits whole count total := ⟨same.le, fun _ => same⟩

theorem Fits.of_count (fits : Fits whole before total) (same : count = before) :
    Fits whole count total := by
  rw [same]
  exact fits

end

structure Placed (scheduler : Scheduler) (whole : Prop) (held : List RequestId) : Prop where
  running : ∀ reqId, scheduler.running.count reqId = runs (scheduler.statusOf reqId)
  waiting : ∀ reqId, Fits whole (scheduler.waiting.count reqId +
    scheduler.skippedWaiting.count reqId + held.count reqId) (waits (scheduler.statusOf reqId))
  streaming : whole → scheduler.numWaitingForStreamingInput = scheduler.streaming

structure SameQueues (scheduler next : Scheduler) : Prop where
  requests : next.requests = scheduler.requests
  running : next.running = scheduler.running
  waiting : next.waiting = scheduler.waiting
  skippedWaiting : next.skippedWaiting = scheduler.skippedWaiting
  counter : next.numWaitingForStreamingInput = scheduler.numWaitingForStreamingInput

variable {whole : Prop} {held : List RequestId}

theorem SameQueues.statusOf (same : SameQueues scheduler next) :
    next.statusOf = scheduler.statusOf := by
  unfold Scheduler.statusOf
  rw [same.requests]

theorem Placed.of_same (placed : scheduler.Placed whole held) (same : SameQueues scheduler next) :
    next.Placed whole held := by
  refine ⟨?_, ?_, ?_⟩
  · rw [same.running, same.statusOf]
    exact placed.running
  · rw [same.waiting, same.skippedWaiting, same.statusOf]
    exact placed.waiting
  · rw [same.counter]
    unfold Scheduler.streaming
    rw [same.requests]
    exact placed.streaming

theorem freeRequestBlocks_same (scheduler : Scheduler) (reqId : RequestId)
    (request : SchedRequest) (blocks : List GpuBlockId) :
    SameQueues scheduler (scheduler.freeRequestBlocks reqId request blocks) := by
  unfold freeRequestBlocks
  split_ifs <;> exact ⟨rfl, rfl, rfl, rfl, rfl⟩

theorem freeCowRetainedBlocks_same (scheduler : Scheduler) (blocks : List GpuBlockId)
    (fenceSeq : Nat) : SameQueues scheduler (scheduler.freeCowRetainedBlocks blocks fenceSeq) := by
  unfold freeCowRetainedBlocks
  split_ifs <;> exact ⟨rfl, rfl, rfl, rfl, rfl⟩

theorem countProcessed_same (scheduler : Scheduler) (output : SchedulerOutput) :
    SameQueues scheduler (scheduler.countProcessed output) := by
  unfold countProcessed
  dsimp only
  split_ifs <;> exact ⟨rfl, rfl, rfl, rfl, rfl⟩

def queued (scheduler : Scheduler) (held : List RequestId) (reqId : RequestId) : Nat :=
  scheduler.waiting.count reqId + scheduler.skippedWaiting.count reqId + held.count reqId

namespace Placed

variable {after : List RequestId} {status : Option RequestStatus}

section

variable (placed : scheduler.Placed whole held)

include placed

theorem move (statuses : next.statusOf = update scheduler.statusOf reqId status)
    (tallied : next.streaming + streams (scheduler.statusOf reqId) =
      scheduler.streaming + streams status)
    (counted : next.numWaitingForStreamingInput + streams (scheduler.statusOf reqId) =
      scheduler.numWaitingForStreamingInput + streams status)
    (here : next.running.count reqId = runs status ∧
      Fits whole (next.queued after reqId) (waits status))
    (elsewhere : ∀ other, other ≠ reqId → next.running.count other = scheduler.running.count other ∧
        next.queued after other = scheduler.queued held other) : next.Placed whole after := by
  refine ⟨?_, ?_, ?_⟩
  · rw [statuses]
    exact (forall_update_iff _ fun other status => next.running.count other = runs status).mpr
      ⟨here.1, fun other different => (elsewhere other different).1.trans (placed.running other)⟩
  · rw [statuses]
    refine (forall_update_iff _ fun other status =>
      Fits whole (next.queued after other) (waits status)).mpr ⟨here.2, fun other different => ?_⟩
    exact (placed.waiting other).of_count (elsewhere other different).2
  · intro whole
    have before := placed.streaming whole
    omega

theorem restatus {before : RequestStatus} (was : scheduler.statusOf reqId = some before)
    (waited : waits (some before) = waits (some request.status))
    (ran : runs (some before) = runs (some request.status))
    (streamed : streams (some before) = streams (some request.status)) :
    (scheduler.setRequest reqId request).Placed whole held := by
  apply placed.move (statusOf_setRequest scheduler reqId request)
    (streaming_setRequest scheduler reqId request)
  · rw [was, streamed]
    rfl
  · rw [← waited, ← ran, ← was]
    exact ⟨placed.running reqId, placed.waiting reqId⟩
  · intro other _
    exact ⟨rfl, rfl⟩

theorem setRequest {before : SchedRequest} (found : scheduler.requests.lookup reqId = some before)
    (kept : request.status = before.status) : (scheduler.setRequest reqId request).Placed whole held := by
  have was := statusOf_of_lookup found
  rw [← kept] at was
  exact placed.restatus was rfl rfl rfl

theorem of_mem_running (member : reqId ∈ scheduler.running) :
    scheduler.statusOf reqId = some .running := by
  have count := placed.running reqId
  have positive := count_pos_iff.mpr member
  unfold runs at count
  split_ifs at count with same
  · exact same
  · omega

theorem of_mem_waiting (member : reqId ∈ scheduler.waiting ∨ reqId ∈ scheduler.skippedWaiting) :
    waits (scheduler.statusOf reqId) = 1 := by
  have count := (placed.waiting reqId).1
  have bound : waits (scheduler.statusOf reqId) ≤ 1 := by
    unfold waits
    split <;> omega
  rcases member with member | member <;> have positive := count_pos_iff.mpr member <;> omega

theorem preemptRequest {rest : List RequestId} {dropStaleOutput : Bool} {blocks : List GpuBlockId}
    (left : scheduler.running.Perm (reqId :: rest))
    (taken : (scheduler.withRunning rest).preemptRequest reqId dropStaleOutput blocks = .ok next) :
    next.Placed whole held := by
  obtain ⟨_, _, _, found, wasRunning, rfl⟩ := preemptRequest_frame taken
  have was : scheduler.statusOf reqId = some .running := by
    rw [← wasRunning]
    exact statusOf_of_lookup found
  have running : rest.count reqId + 1 = 1 := by
    rw [← count_cons_self, ← left.count_eq, placed.running, was]
    rfl
  have waiting : scheduler.queued held reqId = 0 := by
    have fits := (placed.waiting reqId).1
    rw [was] at fits
    exact Nat.le_zero.mp fits
  refine placed.move
    (?_ : _ = update scheduler.statusOf reqId (some RequestStatus.preempted)) ?_ ?_ ?_ ?_
  · exact statusOf_setRequest (scheduler.withRunning rest) reqId _
  · exact streaming_setRequest (scheduler.withRunning rest) reqId _
  · rw [was]
    rfl
  · unfold queued at waiting ⊢
    dsimp only [withRunning]
    rw [count_cons_self]
    exact ⟨(by omega : _ = 0), .of_eq (by omega : _ = 1)⟩
  · intro other different
    unfold queued
    rw [count_cons_of_ne different.symm, left.count_eq, count_cons_of_ne different.symm]
    exact ⟨rfl, rfl⟩

end

end Placed

end Scheduler

end VllmEngine.Sched

import VllmEngine.Sched.Placement
import Mathlib.Data.List.TakeWhile
import Mathlib.Data.List.Induction

set_option autoImplicit false

namespace VllmEngine.Sched

open List Function

namespace FreeLog

variable {log : FreeLog} {reqId : RequestId} {since : Nat} {steps : List (List RequestId)}

theorem foldl_max (items : List (List RequestId × Nat)) (start : Nat) :
    items.foldl (fun newest step => max newest step.2) start =
      max start (items.foldl (fun newest step => max newest step.2) 0) := by
  induction items generalizing start with
  | nil => exact (Nat.max_zero start).symm
  | cons item rest ih =>
    rw [foldl_cons, foldl_cons, ih (max start item.2), ih (max 0 item.2)]
    omega

theorem newestStep_append (within : since ≤ steps.length) (keys : List RequestId) :
    newestStep reqId since (steps ++ [keys]) =
      max (newestStep reqId since steps) (if reqId ∈ keys then steps.length + 1 else 0) := by
  unfold newestStep
  rw [drop_append_of_le_length within, zipIdx_append, filter_append,
    foldl_append, foldl_max, length_drop]
  have position : since + 1 + (steps.length - since) = steps.length + 1 := by omega
  rw [position]
  by_cases member : reqId ∈ keys <;> simp [member]

theorem newestStep_self : newestStep reqId steps.length steps = 0 := by
  unfold newestStep
  rw [drop_length]
  rfl

theorem newestStep_le (within : since ≤ steps.length) : newestStep reqId since steps ≤ steps.length := by
  induction steps using List.reverseRecOn with
  | nil =>
    unfold newestStep
    rw [drop_nil]
    exact Nat.le_refl _
  | append_singleton steps keys ih =>
    rw [length_append, length_singleton] at within ⊢
    rcases Nat.lt_or_ge steps.length since with _ | early
    · have all : since = (steps ++ [keys]).length := by
        rw [length_append, length_singleton]
        omega
      rw [all, newestStep_self]
      exact Nat.zero_le _
    · rw [newestStep_append early]
      split_ifs <;> omega

def newest (log : FreeLog) (reqId : RequestId) : Nat :=
  newestStep reqId (log.emptiedAt reqId) log.steps

theorem newest_emptied (log : FreeLog) (reqId other : RequestId) :
    (log.emptied reqId).newest other = if other = reqId then 0 else log.newest other := by
  unfold newest emptied
  dsimp only
  split_ifs with same
  · subst same
    rw [update_self, newestStep_self]
  · rw [update_of_ne same]

end FreeLog

namespace Scheduler

variable {scheduler next : Scheduler} {reqId : RequestId} {request : SchedRequest}
  {blocks : List GpuBlockId} {sent done : Nat}

structure Ledger (scheduler : Scheduler) (sent done : Nat) : Prop where
  defers : scheduler.config.deferBlockFree = true
  scheduled : scheduler.schedStepSeq = scheduler.log.steps.length
  processed : scheduler.processedStepSeq = scheduler.log.numProcessed
  behind : scheduler.log.numProcessed ≤ scheduler.log.steps.length
  emptied : ∀ reqId, scheduler.log.emptiedAt reqId ≤ scheduler.log.steps.length
  fences : ∀ entry ∈ scheduler.deferredFrees, entry.2.newestStep ≤ entry.1 ∧
    (entry.1 ≤ scheduler.log.steps.length ∨
      entry.1 = scheduler.log.steps.length + 1 ∧ entry.2.newestStep = entry.1)
  front : ∀ entry ∈ scheduler.deferredFrees.head?, scheduler.log.numProcessed < entry.1
  safe : ∀ entry ∈ scheduler.log.returned, entry.1.newestStep ≤ entry.2
  once : scheduler.log.popped.Perm
    (scheduler.log.returned.map Prod.fst ++ scheduler.deferredFrees.map Prod.snd)
  sentSteps : scheduler.log.steps.length = sent
  doneSteps : scheduler.log.numProcessed = done

structure SameLedger (scheduler next : Scheduler) : Prop where
  config : next.config = scheduler.config
  schedStepSeq : next.schedStepSeq = scheduler.schedStepSeq
  processedStepSeq : next.processedStepSeq = scheduler.processedStepSeq
  deferredFrees : next.deferredFrees = scheduler.deferredFrees
  log : next.log = scheduler.log

section

variable (ledger : scheduler.Ledger sent done)

include ledger

theorem Ledger.of_same (same : SameLedger scheduler next) :
    next.Ledger sent done := by
  obtain ⟨config, schedStepSeq, processedStepSeq, deferredFrees, log⟩ := same
  cases next
  dsimp only at config schedStepSeq processedStepSeq deferredFrees log
  subst config schedStepSeq processedStepSeq deferredFrees log
  exact ⟨ledger.defers, ledger.scheduled, ledger.processed, ledger.behind, ledger.emptied,
    ledger.fences, ledger.front, ledger.safe, ledger.once, ledger.sentSteps, ledger.doneSteps⟩

theorem Ledger.emptied_update (reqId other : RequestId) :
    (scheduler.log.emptied reqId).emptiedAt other ≤ scheduler.log.steps.length := by
  unfold FreeLog.emptied
  dsimp only
  by_cases same : other = reqId
  · subst same
    rw [update_self]
  · rw [update_of_ne same]
    exact ledger.emptied other

theorem Ledger.newest_le (reqId : RequestId) :
    scheduler.log.newest reqId ≤ scheduler.log.steps.length :=
  FreeLog.newestStep_le (ledger.emptied reqId)

theorem Ledger.free (idle : scheduler.log.newest reqId ≤ scheduler.log.numProcessed) :
    (scheduler.free reqId blocks).Ledger sent done := by
  refine ⟨ledger.defers, ledger.scheduled, ledger.processed, ledger.behind,
    ledger.emptied_update reqId, ledger.fences, ledger.front, ?_, ?_, ledger.sentSteps,
    ledger.doneSteps⟩
  · exact forall_mem_append.mpr ⟨ledger.safe, forall_mem_singleton.mpr idle⟩
  · change (scheduler.log.popped ++ [scheduler.log.blocksOf reqId blocks]).Perm
      ((scheduler.log.returned ++
          [(scheduler.log.blocksOf reqId blocks, scheduler.log.numProcessed)]).map Prod.fst ++
        scheduler.deferredFrees.map Prod.snd)
    rw [map_append, append_assoc]
    refine ((ledger.once.append_right _).trans ?_)
    rw [append_assoc]
    exact List.Perm.append_left _ perm_append_comm

theorem Ledger.defer {emptiedAt : RequestId → Nat} {popped : PoppedBlocks} {fence : Nat}
    (emptied : ∀ reqId, emptiedAt reqId ≤ scheduler.log.steps.length)
    (fenced : popped.newestStep ≤ fence ∧ (fence ≤ scheduler.log.steps.length ∨
      fence = scheduler.log.steps.length + 1 ∧ popped.newestStep = fence))
    (pending : scheduler.log.numProcessed < fence) :
    ({ scheduler with
      deferredFrees := scheduler.deferredFrees ++ [(fence, popped)]
      log := { scheduler.log.pop popped with emptiedAt := emptiedAt } } : Scheduler).Ledger
        sent done := by
  refine ⟨ledger.defers, ledger.scheduled, ledger.processed, ledger.behind, emptied, ?_, ?_,
    ledger.safe, ?_, ledger.sentSteps, ledger.doneSteps⟩ <;> dsimp only
  · exact forall_mem_append.mpr ⟨ledger.fences, forall_mem_singleton.mpr fenced⟩
  · have front := ledger.front
    cases frees : scheduler.deferredFrees with
    | nil =>
      rintro entry head
      cases head
      exact pending
    | cons first rest =>
      rw [frees] at front
      exact front
  · rw [map_append, ← append_assoc]
    exact ledger.once.append_right _

theorem Ledger.freeRequestBlocks (known : scheduler.log.newest reqId ≤ request.lastSchedSeq)
    (recorded : request.lastSchedSeq ≤ scheduler.log.steps.length) :
    (scheduler.freeRequestBlocks reqId request blocks).Ledger sent done := by
  unfold Scheduler.freeRequestBlocks
  split_ifs with settled empty
  · apply ledger.free
    have processed := ledger.processed
    rcases settled with never | settled
    · rw [ledger.defers] at never
      cases never
    · omega
  · exact ⟨ledger.defers, ledger.scheduled, ledger.processed, ledger.behind,
      ledger.emptied_update reqId, ledger.fences, ledger.front, ledger.safe, ledger.once,
      ledger.sentSteps, ledger.doneSteps⟩
  · have processed := ledger.processed
    have scheduled := ledger.scheduled
    refine ledger.defer (ledger.emptied_update reqId) ⟨?_, .inl ?_⟩ ?_
    · change scheduler.log.newest reqId ≤ scheduler.schedStepSeq
      omega
    · omega
    · simp only [not_or] at settled
      omega

theorem Ledger.freeCowRetainedBlocks :
    (scheduler.freeCowRetainedBlocks blocks (scheduler.schedStepSeq + 1)).Ledger sent done := by
  have scheduled := ledger.scheduled
  have processed := ledger.processed
  have behind := ledger.behind
  unfold Scheduler.freeCowRetainedBlocks
  rw [if_neg (by
    rw [ledger.defers]
    simp only [Bool.not_true, Bool.false_eq_true, false_or]
    omega)]
  refine ledger.defer ledger.emptied ⟨?_, .inr ⟨?_, ?_⟩⟩ ?_
  · change scheduler.log.steps.length + 1 ≤ scheduler.schedStepSeq + 1
    omega
  · omega
  · change scheduler.log.steps.length + 1 = scheduler.schedStepSeq + 1
    omega
  · omega

end

theorem foldl_giveBack (due : List (Nat × PoppedBlocks)) (log : FreeLog) :
    due.foldl (fun log entry => log.giveBack entry.2) log =
      { log with returned := log.returned ++ due.map fun entry => (entry.2, log.numProcessed) } := by
  induction due generalizing log with
  | nil => simp
  | cons first rest ih =>
    rw [foldl_cons, ih]
    simp [FreeLog.giveBack]

theorem head_drop_takeWhile {A : Type} (holds : A → Bool) (items : List A) :
    ∀ item ∈ (items.drop (items.takeWhile holds).length).head?, holds item = false := by
  induction items with
  | nil => simp
  | cons first rest ih =>
    by_cases passes : holds first = true
    · rw [takeWhile_cons_of_pos passes, length_cons, drop_succ_cons]
      exact ih
    · rw [takeWhile_cons_of_neg passes]
      simpa using passes

theorem Ledger.countProcessed {output : SchedulerOutput} (ledger : scheduler.Ledger sent done)
    (pending : 0 < output.totalNumScheduledTokens → done < sent) :
    (scheduler.countProcessed output).Ledger sent
      (done + if 0 < output.totalNumScheduledTokens then 1 else 0) := by
  have sentSteps := ledger.sentSteps
  have doneSteps := ledger.doneSteps
  unfold Scheduler.countProcessed
  dsimp only
  split_ifs with counted defers
  · have behind := pending counted
    have processed := ledger.processed
    unfold drainDeferredFrees
    dsimp only
    rw [foldl_giveBack]
    set due := scheduler.deferredFrees.takeWhile
      fun entry => decide (entry.1 ≤ scheduler.processedStepSeq + 1) with dueList
    have split : scheduler.deferredFrees = due ++ scheduler.deferredFrees.drop due.length := by
      obtain ⟨_, parts⟩ := takeWhile_prefix (l := scheduler.deferredFrees)
        fun entry => decide (entry.1 ≤ scheduler.processedStepSeq + 1)
      rw [← parts, drop_left]
    refine ⟨ledger.defers, ledger.scheduled, ?_, ?_, ledger.emptied, ?_, ?_, ?_, ?_, sentSteps, ?_⟩ <;>
      dsimp only
    · omega
    · omega
    · intro entry member
      exact ledger.fences entry (mem_of_mem_drop member)
    · intro entry head
      have late := head_drop_takeWhile _ _ entry head
      simp only [decide_eq_false_iff_not] at late
      omega
    · intro entry member
      rcases mem_append.mp member with earlier | now
      · exact ledger.safe entry earlier
      · obtain ⟨popped, taken, rfl⟩ := mem_map.mp now
        have fenced := (ledger.fences popped (by
          rw [split]
          exact mem_append_left _ taken)).1
        have passed : popped.1 ≤ scheduler.processedStepSeq + 1 := by
          simpa using mem_takeWhile_imp taken
        dsimp only
        omega
    · have once := ledger.once
      rw [split] at once
      rw [map_append] at once
      rw [map_append, map_map, append_assoc]
      exact once
    · omega
  · exact absurd ledger.defers defers
  · exact ledger

end Scheduler

end VllmEngine.Sched

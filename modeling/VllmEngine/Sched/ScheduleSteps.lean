import VllmEngine.Sched.Schedule

set_option autoImplicit false

namespace VllmEngine.Sched

open Outcome List Scheduler RequestQueue

namespace Scheduler

variable {scheduler next : Scheduler} {reqId : RequestId} {request : SchedRequest}
  {dropStaleOutput : Bool} {blocks : List GpuBlockId}

theorem request_eq_ok :
    scheduler.request reqId = .ok request ↔ scheduler.requests.lookup reqId = some request := by
  unfold Scheduler.request
  cases scheduler.requests.lookup reqId <;> simp

theorem freeRequestBlocks_eq (scheduler : Scheduler) (reqId : RequestId) (request : SchedRequest)
    (blocks : List GpuBlockId) :
    ∃ deferredFrees log, scheduler.freeRequestBlocks reqId request blocks =
      { scheduler with deferredFrees := deferredFrees, log := log } := by
  unfold freeRequestBlocks
  split_ifs <;> exact ⟨_, _, rfl⟩

theorem preemptRequest_eq_ok :
    scheduler.preemptRequest reqId dropStaleOutput blocks = .ok next ↔
      ∃ request, scheduler.requests.lookup reqId = some request ∧ request.status = .running ∧ next =
          { (scheduler.freeRequestBlocks reqId request blocks).setRequest reqId
              (request.preempt dropStaleOutput) with
            waiting := reqId :: scheduler.waiting } := by
  unfold preemptRequest
  simp only [bind_eq_ok, pure_eq_ok, pyAssert_eq_ok, decide_eq_true_eq,
    request_eq_ok, prependRequest, setRequest]
  constructor
  · rintro ⟨request, found, -, running, rfl⟩
    refine ⟨request, found, running, ?_⟩
    obtain ⟨deferredFrees, log, freed⟩ := freeRequestBlocks_eq scheduler reqId request blocks
    rw [freed]
  · rintro ⟨request, found, running, rfl⟩
    refine ⟨request, found, (), running, ?_⟩
    obtain ⟨deferredFrees, log, freed⟩ := freeRequestBlocks_eq scheduler reqId request blocks
    rw [freed]

theorem preemptRequest_frame
    (taken : scheduler.preemptRequest reqId dropStaleOutput blocks = .ok next) :
    ∃ request deferredFrees log, scheduler.requests.lookup reqId = some request ∧
      request.status = .running ∧
      next =
        { scheduler with
          requests := scheduler.requests.insert reqId (request.preempt dropStaleOutput)
          waiting := reqId :: scheduler.waiting
          deferredFrees := deferredFrees
          log := log } := by
  obtain ⟨request, found, running, rfl⟩ := preemptRequest_eq_ok.mp taken
  obtain ⟨deferredFrees, log, freed⟩ := freeRequestBlocks_eq scheduler reqId request blocks
  refine ⟨request, deferredFrees, log, found, running, ?_⟩
  rw [freed]
  rfl

end Scheduler

theorem greatest_mem {requests : Requests} {ids : List RequestId} {reqId : RequestId}
    (found : greatest requests ids = some reqId) : reqId ∈ ids := by
  induction ids generalizing reqId with
  | nil => cases found
  | cons first rest ih =>
    unfold greatest at found
    cases later : greatest requests rest with
    | none =>
      rw [later] at found
      cases found
      exact mem_cons_self
    | some other =>
      rw [later] at found
      dsimp only at found
      split at found
      · cases found
        exact mem_cons_of_mem _ (ih later)
      · cases found
        exact mem_cons_self

section Front

variable {A : Type} [DecidableEq A] {item other : A} {items : List A} {n : Nat}

theorem mem_take_erase (member : item ∈ items.take n) (different : item ≠ other) :
    item ∈ (items.erase other).take n := by
  induction items generalizing n with
  | nil => simp at member
  | cons first rest ih =>
    cases n with
    | zero => simp at member
    | succ n =>
      rw [take_succ_cons, mem_cons] at member
      by_cases same : first = other
      · subst same
        rw [erase_cons_head]
        have later := member.resolve_left different
        exact take_subset_take_left rest (Nat.le_succ n) later
      · rw [erase_cons_tail (by simpa using same), take_succ_cons, mem_cons]
        exact member.imp_right fun later => ih later

theorem take_erase (within : other ∈ items.take (n + 1)) :
    (items.erase other).take n = (items.take (n + 1)).erase other := by
  induction items generalizing n with
  | nil => simp at within
  | cons first rest ih =>
    rw [take_succ_cons] at within ⊢
    by_cases same : first = other
    · subst same
      rw [erase_cons_head, erase_cons_head]
    · rw [erase_cons_tail (by simpa using same), erase_cons_tail (by simpa using same)]
      have later := (List.mem_cons.mp within).resolve_left (Ne.symm same)
      cases n with
      | zero => simp at later
      | succ n => rw [take_succ_cons, ih later]

end Front

namespace Pass

structure Ordered (pass : Pass) : Prop where
  once : pass.scheduler.running.Nodup
  front : ∀ reqId ∈ pass.scheduledRunningReqs, reqId ∈ pass.scheduler.running.take pass.reqIndex
  scheduledOnce : pass.scheduledRunningReqs.Nodup

def Granted (pass : Pass) : Prop :=
  ∀ reqId, 0 ≤ (pass.numScheduledTokens.lookup reqId).getD 0

inductive RunningStep (answers : ScheduleAnswers) (bounded : Prop) : Pass → Pass → Prop
  | skip (pass : Pass) : RunningStep answers bounded pass pass.skipRunning
  | countAllocation (pass : Pass) : RunningStep answers bounded pass pass.countAllocation
  | preempt {pass next : Pass} {preempted : RequestId} (found : pass.victim = some preempted)
      (taken : pass.preempt answers preempted = .ok next)
      (unscheduled : preempted ∉ next.scheduledRunningReqs) :
      RunningStep answers bounded pass next
  | schedule {pass : Pass} {reqId : RequestId} {request : SchedRequest}
      {tokenBudget numNewTokens : Int} (member : reqId ∈ pass.scheduler.running)
      (fresh : reqId ∉ pass.scheduledRunningReqs)
      (found : pass.scheduler.requests.lookup reqId = some request)
      (positive : 0 < tokenBudget) (within : bounded → tokenBudget ≤ pass.tokenBudget)
      (tokens : numNewTokens = runningTokens pass.scheduler.config answers request tokenBudget)
      (nonzero : numNewTokens ≠ 0) :
      RunningStep answers bounded pass (pass.scheduleRunning reqId request numNewTokens)

structure Admissible (pass : Pass) (fromSkipped : Bool) (reqId : RequestId)
    (request : SchedRequest) : Prop where
  member : reqId ∈ queueOf pass.scheduler fromSkipped
  room : (pass.scheduler.running.length : Int) + pass.scheduler.numWaitingForStreamingInput <
    pass.scheduler.config.maxNumRunningReqs
  found : pass.scheduler.requests.lookup reqId = some request
  unblocked : Scheduler.isBlockedWaitingStatus request.status = false
  fresh : request.numStaleOutputTokens ≤ 0 ∨ request.dropStaleOutput = true

inductive WaitingStep (answers : ScheduleAnswers) (deferPrefills : Bool) : Pass → Pass → Prop
  | countAllocation (pass : Pass) : WaitingStep answers deferPrefills pass pass.countAllocation
  | skip {pass : Pass} {fromSkipped : Bool} {reqId : RequestId}
      (member : reqId ∈ queueOf pass.scheduler fromSkipped) :
      WaitingStep answers deferPrefills pass (pass.skipWaiting fromSkipped reqId)
  | promote {pass : Pass} {reqId : RequestId} {request : SchedRequest} {promoted : Bool}
      {next : Scheduler} (found : pass.scheduler.requests.lookup reqId = some request)
      (taken : tryPromote pass.scheduler answers reqId request = .ok (promoted, next)) :
      WaitingStep answers deferPrefills pass (pass.withScheduler next)
  | setBoundary {pass : Pass} {reqId : RequestId} {request : SchedRequest} (boundary : Nat)
      (found : pass.scheduler.requests.lookup reqId = some request) :
      WaitingStep answers deferPrefills pass (pass.withScheduler
        (pass.scheduler.setRequest reqId { request with sharedPrefixBoundary := boundary }))
  | startLoad {pass : Pass} {fromSkipped : Bool} {reqId : RequestId}
      {request before : SchedRequest} {cached : CachedTokens}
      (admissible : pass.Admissible fromSkipped reqId request)
      (lookedUp : cachedTokens pass.scheduler.config answers reqId before =
        .ok (some cached, request))
      (loads : cached.loadKvAsync = true) :
      WaitingStep answers deferPrefills pass
        (pass.countAllocation.startLoad fromSkipped reqId request cached)
  | admitWaiting {pass next : Pass} {fromSkipped padSpecDecode : Bool} {reqId : RequestId}
      {request before : SchedRequest} {cached : CachedTokens} {numNewTokens : Int}
      (admissible : pass.Admissible fromSkipped reqId request)
      (lookedUp : cachedTokens pass.scheduler.config answers reqId before =
        .ok (some cached, request))
      (computes : cached.loadKvAsync = false)
      (tokens : pass.waitingTokens answers deferPrefills reqId request cached =
        .ok (some (numNewTokens, padSpecDecode)))
      (taken : pass.countAllocation.admitWaiting fromSkipped reqId request cached numNewTokens
        padSpecDecode = .ok next) : WaitingStep answers deferPrefills pass next

abbrev RunningSteps (answers : ScheduleAnswers) (bounded : Prop) : Pass → Pass → Prop :=
  Relation.ReflTransGen (RunningStep answers bounded)

abbrev WaitingSteps (answers : ScheduleAnswers) (deferPrefills : Bool) : Pass → Pass → Prop :=
  Relation.ReflTransGen (WaitingStep answers deferPrefills)

variable {answers : ScheduleAnswers} {bounded : Prop} {deferPrefills : Bool} {pass next : Pass}

theorem keeps_of_steps {Step : Pass → Pass → Prop} (invariant : Pass → Prop)
    (kept : ∀ pass next, Step pass next → invariant pass → invariant next)
    (steps : Relation.ReflTransGen Step pass next) (initial : invariant pass) :
    invariant next := by
  induction steps with
  | refl => exact initial
  | tail _ step ih => exact kept _ _ step ih

variable {preempted reqId : RequestId} {request : SchedRequest} {scheduler after : Scheduler}
  {outcome : Round Pass Pass} {fromSkipped : Bool} {updated : SchedRequest}

section

variable (found : pass.victim = some preempted)

include found

theorem removeVictim_cases :
    (pass.scheduler.config.policy = .fcfs ∧
      pass.scheduler.running = pass.scheduler.running.dropLast ++ [preempted] ∧
      pass.removeVictim preempted =
        pass.withScheduler (pass.scheduler.withRunning pass.scheduler.running.dropLast)) ∨
    (pass.scheduler.config.policy = .priority ∧ preempted ∈ pass.scheduler.running ∧
      (preempted ∈ pass.scheduledRunningReqs ∧ pass.removeVictim preempted =
            (pass.withScheduler (pass.scheduler.withRunning
              (pass.scheduler.running.erase preempted))).unschedule preempted ∨
        preempted ∉ pass.scheduledRunningReqs ∧ pass.removeVictim preempted =
            pass.withScheduler (pass.scheduler.withRunning
              (pass.scheduler.running.erase preempted)))) := by
  unfold victim at found
  unfold removeVictim
  cases policy : pass.scheduler.config.policy with
  | fcfs =>
    rw [policy] at found
    exact .inl ⟨rfl, (dropLast_append_getLast? preempted found).symm, rfl⟩
  | priority =>
    rw [policy] at found
    refine .inr ⟨rfl, greatest_mem found, ?_⟩
    by_cases scheduled : preempted ∈ pass.scheduledRunningReqs
    · exact .inl ⟨scheduled, if_pos scheduled⟩
    · exact .inr ⟨scheduled, if_neg scheduled⟩

theorem removeVictim_scheduler :
    ∃ rest, (pass.removeVictim preempted).scheduler = pass.scheduler.withRunning rest ∧
      (pass.removeVictim preempted).stepSkippedWaiting = pass.stepSkippedWaiting ∧
      pass.scheduler.running.Perm (preempted :: rest) := by
  rcases removeVictim_cases found with
    ⟨-, last, removed⟩ | ⟨-, member, ⟨-, removed⟩ | ⟨-, removed⟩⟩
  · rw [removed]
    refine ⟨pass.scheduler.running.dropLast, rfl, rfl, ?_⟩
    exact (List.Perm.of_eq last).trans (perm_append_singleton preempted _)
  · rw [removed]
    exact ⟨pass.scheduler.running.erase preempted, rfl, rfl, perm_cons_erase member⟩
  · rw [removed]
    exact ⟨pass.scheduler.running.erase preempted, rfl, rfl, perm_cons_erase member⟩

theorem preempt_scheduler
    (taken : pass.preempt answers preempted = .ok next) :
    next.stepSkippedWaiting = pass.stepSkippedWaiting ∧
      ∃ rest, pass.scheduler.running.Perm (preempted :: rest) ∧
      (pass.scheduler.withRunning rest).preemptRequest preempted
        pass.scheduler.config.requiresKvDelivery (answers.blocks preempted) =
          .ok next.scheduler := by
  obtain ⟨rest, removed, held, left⟩ := removeVictim_scheduler found
  unfold preempt at taken
  simp only [bind_eq_ok, pure_eq_ok, removed] at taken
  obtain ⟨scheduler, preempts, rfl⟩ := taken
  exact ⟨held, rest, left, preempts⟩

end

theorem preempt_locals (taken : pass.preempt answers preempted = .ok next) :
    ∃ scheduler, next =
        { pass.removeVictim preempted with
          scheduler := scheduler
          preemptedReqs := (pass.removeVictim preempted).preemptedReqs ++ [preempted] } ∧
      scheduler.running = (pass.removeVictim preempted).scheduler.running := by
  unfold preempt at taken
  simp only [bind_eq_ok, pure_eq_ok] at taken
  obtain ⟨scheduler, preempts, rfl⟩ := taken
  refine ⟨scheduler, rfl, ?_⟩
  obtain ⟨_, _, _, -, -, rfl⟩ := preemptRequest_frame preempts
  rfl

theorem Ordered.of_same {other : Pass} (ordered : pass.Ordered)
    (running : other.scheduler.running = pass.scheduler.running)
    (scheduled : other.scheduledRunningReqs = pass.scheduledRunningReqs)
    (index : other.reqIndex = pass.reqIndex) : other.Ordered := by
  refine ⟨?_, ?_, ?_⟩
  · rw [running]
    exact ordered.once
  · rw [running, scheduled, index]
    exact ordered.front
  · rw [scheduled]
    exact ordered.scheduledOnce

structure At (reqId : RequestId) (pass : Pass) : Prop where
  ordered : pass.Ordered
  position : reqId ∈ pass.scheduler.running.take (pass.reqIndex + 1)
  inPlace : pass.scheduler.config.policy = .fcfs →
    pass.scheduler.running[pass.reqIndex]? = some reqId
  fresh : reqId ∉ pass.scheduledRunningReqs

theorem index_pos (ordered : pass.Ordered) (scheduled : preempted ∈ pass.scheduledRunningReqs) :
    ∃ index, pass.reqIndex = index + 1 ∧
      preempted ∈ pass.scheduler.running.take (index + 1) := by
  have early := ordered.front preempted scheduled
  cases reqIndex : pass.reqIndex with
  | zero =>
    rw [reqIndex] at early
    simp at early
  | succ index =>
    rw [reqIndex] at early
    exact ⟨index, rfl, early⟩

theorem removeVictim_ordered (ordered : pass.Ordered) (found : pass.victim = some preempted)
    (within : pass.scheduler.config.policy = .fcfs →
      pass.reqIndex < pass.scheduler.running.length) :
    (pass.removeVictim preempted).Ordered ∧
      preempted ∉ (pass.removeVictim preempted).scheduledRunningReqs := by
  rcases removeVictim_cases found with
    ⟨policy, last, removed⟩ | ⟨-, member, ⟨scheduled, removed⟩ | ⟨scheduled, removed⟩⟩
  · rw [removed]
    have within := within policy
    have bound : pass.reqIndex ≤ pass.scheduler.running.dropLast.length := by
      rw [length_dropLast]
      omega
    have front : pass.scheduler.running.take pass.reqIndex =
        pass.scheduler.running.dropLast.take pass.reqIndex := by
      conv_lhs => rw [last]
      exact take_append_of_le_length bound
    have apart : preempted ∉ pass.scheduler.running.take pass.reqIndex := by
      intro early
      rw [front] at early
      have once := ordered.once
      rw [last, nodup_append] at once
      exact once.2.2 preempted (mem_of_mem_take early) preempted mem_cons_self rfl
    refine ⟨⟨?_, ?_, ordered.scheduledOnce⟩, fun scheduled => ?_⟩
    · exact ordered.once.sublist (dropLast_sublist _)
    · intro reqId scheduled
      have early := ordered.front reqId scheduled
      rw [front] at early
      exact early
    · exact apart (ordered.front preempted scheduled)
  · rw [removed]
    obtain ⟨_, counted, early⟩ := index_pos ordered scheduled
    refine ⟨⟨ordered.once.erase preempted, ?_, ordered.scheduledOnce.erase preempted⟩,
      ordered.scheduledOnce.not_mem_erase⟩
    intro reqId member
    obtain ⟨different, member⟩ := ordered.scheduledOnce.mem_erase_iff.mp member
    have front := ordered.front reqId member
    rw [counted] at front
    change reqId ∈ (pass.scheduler.running.erase preempted).take (pass.reqIndex - 1)
    rw [counted, Nat.add_sub_cancel, take_erase early]
    exact (mem_erase_of_ne different).mpr front
  · rw [removed]
    refine ⟨⟨ordered.once.erase preempted, ?_, ordered.scheduledOnce⟩, scheduled⟩
    intro reqId member
    apply mem_take_erase (ordered.front reqId member)
    rintro rfl
    exact scheduled member

theorem At.removeVictim (here : At reqId pass) (found : pass.victim = some preempted)
    (other : preempted ≠ reqId) (ordered : (pass.removeVictim preempted).Ordered) :
    At reqId (pass.removeVictim preempted) := by
  rcases removeVictim_cases found with
    ⟨policy, last, removed⟩ | ⟨policy, member, ⟨scheduled, removed⟩ | ⟨scheduled, removed⟩⟩
  · rw [removed] at ordered ⊢
    have still : pass.scheduler.running.dropLast[pass.reqIndex]? = some reqId := by
      have place := here.inPlace policy
      rw [last] at place
      rcases Nat.lt_or_ge pass.reqIndex pass.scheduler.running.dropLast.length with early | late
      · rwa [getElem?_append_left early] at place
      · -- The last request is the victim.
        rw [getElem?_append_right late] at place
        have victim := mem_of_getElem? place
        exact absurd (List.mem_singleton.mp victim).symm other
    refine ⟨ordered, ?_, fun _ => still, here.fresh⟩
    obtain ⟨_, same⟩ := List.getElem?_eq_some_iff.mp still
    change reqId ∈ pass.scheduler.running.dropLast.take (pass.reqIndex + 1)
    rw [← same]
    exact List.mem_take_iff_getElem.mpr ⟨pass.reqIndex, by omega, rfl⟩
  · rw [removed] at ordered ⊢
    obtain ⟨_, counted, early⟩ := index_pos here.ordered scheduled
    have position := here.position
    refine ⟨ordered, ?_, fun fcfs => ?_, fun member => ?_⟩
    · change reqId ∈ (pass.scheduler.running.erase preempted).take (pass.reqIndex - 1 + 1)
      rw [counted] at position ⊢
      rw [Nat.add_sub_cancel, take_erase (take_subset_take_left _ (Nat.le_succ _) early)]
      exact (mem_erase_of_ne other.symm).mpr position
    · change pass.scheduler.config.policy = _ at fcfs
      rw [policy] at fcfs
      cases fcfs
    · exact here.fresh (mem_of_mem_erase member)
  · rw [removed] at ordered ⊢
    refine ⟨ordered, mem_take_erase here.position other.symm, fun fcfs => ?_, here.fresh⟩
    change pass.scheduler.config.policy = _ at fcfs
    rw [policy] at fcfs
    cases fcfs

theorem removeVictim_budget (found : pass.victim = some preempted) (granted : pass.Granted) :
    pass.tokenBudget ≤ (pass.removeVictim preempted).tokenBudget := by
  rcases removeVictim_cases found with ⟨-, -, removed⟩ | ⟨-, -, ⟨-, removed⟩ | ⟨-, removed⟩⟩
  · rw [removed]
    exact Int.le_refl _
  · rw [removed]
    have kept := granted preempted
    change pass.tokenBudget ≤ pass.tokenBudget + (pass.numScheduledTokens.lookup preempted).getD 0
    omega
  · rw [removed]
    exact Int.le_refl _

structure Retains (bounded : Prop) (reqId : RequestId) (pass next : Pass) : Prop where
  here : At reqId next
  record : next.scheduler.requests.lookup reqId = pass.scheduler.requests.lookup reqId
  config : next.scheduler.config = pass.scheduler.config
  budget : bounded → pass.tokenBudget ≤ next.tokenBudget

section

variable (here : At reqId pass)

include here

theorem At.within :
    pass.scheduler.config.policy = .fcfs → pass.reqIndex < pass.scheduler.running.length := by
  intro policy
  exact (List.getElem?_eq_some_iff.mp (here.inPlace policy)).1

theorem preempt_ordered (found : pass.victim = some preempted)
    (taken : pass.preempt answers preempted = .ok next) :
    next.Ordered ∧ preempted ∉ next.scheduledRunningReqs := by
  obtain ⟨ordered, unscheduled⟩ := removeVictim_ordered here.ordered found here.within
  obtain ⟨_, rfl, running⟩ := preempt_locals taken
  exact ⟨ordered.of_same running rfl rfl, unscheduled⟩

theorem preempt_retains (granted : bounded → pass.Granted) (found : pass.victim = some preempted)
    (taken : pass.preempt answers preempted = .ok next) (other : preempted ≠ reqId) :
    Retains bounded reqId pass next := by
  obtain ⟨ordered, -⟩ := removeVictim_ordered here.ordered found here.within
  have still := here.removeVictim found other ordered
  obtain ⟨-, rest, -, preempts⟩ := preempt_scheduler found taken
  obtain ⟨_, _, _, -, -, after⟩ := preemptRequest_frame preempts
  have record : next.scheduler.requests.lookup reqId = pass.scheduler.requests.lookup reqId := by
    rw [after]
    exact AList.lookup_insert_ne other.symm
  have config : next.scheduler.config = pass.scheduler.config := by
    rw [after]
    rfl
  obtain ⟨rest, removed, -, -⟩ := removeVictim_scheduler found
  obtain ⟨scheduler, rfl, running⟩ := preempt_locals taken
  refine ⟨⟨ordered.of_same running rfl rfl, ?_, ?_, still.fresh⟩, record, config, fun holds =>
    removeVictim_budget found (granted holds)⟩
  · change reqId ∈ scheduler.running.take _
    rw [running]
    exact still.position
  · intro policy
    rw [running]
    apply still.inPlace
    rw [removed]
    exact config ▸ policy

theorem allocateRound_steps {outcome : Round Pass (Bool × Pass)} (granted : bounded → pass.Granted)
    (taken : pass.allocateRound answers reqId = .ok outcome) :
    outcome.Holds
      (fun next => RunningSteps answers bounded pass next ∧ Retains bounded reqId pass next)
      fun result => RunningSteps answers bounded pass result.2 ∧ result.2.Ordered ∧
        (result.1 = true → Retains bounded reqId pass result.2) := by
  unfold allocateRound at taken
  dsimp only at taken
  have counted : RunningSteps answers bounded pass pass.countAllocation :=
    .single (.countAllocation pass)
  have still : At reqId pass.countAllocation :=
    ⟨here.ordered.of_same rfl rfl rfl, here.position, here.inPlace, here.fresh⟩
  split_ifs at taken with allocated
  · cases taken
    exact ⟨counted, still.ordered, fun _ => ⟨still, rfl, rfl, fun _ => Int.le_refl _⟩⟩
  · cases found : pass.countAllocation.victim with
    | none =>
      rw [found] at taken
      cases taken
    | some preempted =>
      rw [found] at taken
      obtain ⟨_, preempts, taken⟩ := bind_eq_ok.mp taken
      obtain ⟨ordered, unscheduled⟩ := preempt_ordered still found preempts
      have steps := counted.tail (.preempt found preempts unscheduled)
      split_ifs at taken with same
      · cases taken
        exact ⟨steps, ordered, fun allocated => by cases allocated⟩
      · cases taken
        have kept := preempt_retains still granted found preempts same
        exact ⟨steps, kept.here, kept.record, kept.config, kept.budget⟩

theorem allocateRunning_steps {result : Bool × Pass}
    (granted : bounded → ∀ state, RunningSteps answers bounded pass state → state.Granted)
    (taken : pass.allocateRunning answers reqId = .ok result) :
    RunningSteps answers bounded pass result.2 ∧ result.2.Ordered ∧
      (result.1 = true → Retains bounded reqId pass result.2) := by
  refine iterate_result
    (fun next => RunningSteps answers bounded pass next ∧ Retains bounded reqId pass next)
    (fun result => RunningSteps answers bounded pass result.2 ∧ result.2.Ordered ∧
      (result.1 = true → Retains bounded reqId pass result.2)) ?_
    ⟨.refl, here, rfl, rfl, fun _ => Int.le_refl _⟩ taken
  rintro state outcome ⟨reached, kept⟩ round
  have one := allocateRound_steps kept.here (fun holds => granted holds state reached) round
  have compose {last : Pass} (later : Retains bounded reqId state last) :
      Retains bounded reqId pass last :=
    ⟨later.here, later.record.trans kept.record, later.config.trans kept.config,
      fun holds => Int.le_trans (kept.budget holds) (later.budget holds)⟩
  cases outcome with
  | next after =>
    obtain ⟨steps, later⟩ := one
    exact ⟨reached.trans steps, compose later⟩
  | done result =>
    obtain ⟨steps, ordered, later⟩ := one
    exact ⟨reached.trans steps, ordered, fun allocated => compose (later allocated)⟩

end

theorem Ordered.at (ordered : pass.Ordered)
    (found : pass.scheduler.running[pass.reqIndex]? = some reqId) : At reqId pass := by
  obtain ⟨_, same⟩ := List.getElem?_eq_some_iff.mp found
  refine ⟨ordered, ?_, fun _ => found, fun scheduled => ?_⟩
  · rw [← same]
    exact List.mem_take_iff_getElem.mpr ⟨pass.reqIndex, by omega, rfl⟩
  · have front := ordered.front reqId scheduled
    obtain ⟨_, _, there⟩ := List.mem_take_iff_getElem.mp front
    rw [← there] at same
    have equal := ordered.once.getElem_inj_iff.mp same
    omega

theorem Ordered.skipRunning (ordered : pass.Ordered) : pass.skipRunning.Ordered := by
  refine ⟨ordered.once, fun reqId scheduled => ?_, ordered.scheduledOnce⟩
  exact take_subset_take_left _ (Nat.le_succ _) (ordered.front reqId scheduled)

theorem Ordered.scheduleRunning {numNewTokens : Int} (here : At reqId pass) :
    (pass.scheduleRunning reqId request numNewTokens).Ordered := by
  refine ⟨here.ordered.once, fun other scheduled => ?_, ?_⟩
  · rcases List.mem_append.mp scheduled with earlier | itself
    · exact take_subset_take_left _ (Nat.le_succ _) (here.ordered.front other earlier)
    · rw [List.mem_singleton.mp itself]
      exact here.position
  · refine List.nodup_append.mpr ⟨here.ordered.scheduledOnce, nodup_singleton _, ?_⟩
    rintro other member _ itself rfl
    exact here.fresh (List.mem_singleton.mp itself ▸ member)

section

variable (ordered : pass.Ordered)
  (granted : bounded → ∀ state, RunningSteps answers bounded pass state → state.Granted)

include ordered granted

theorem runningRound_steps (taken : pass.runningRound answers deferPrefills = .ok outcome) :
    outcome.Holds (fun next => RunningSteps answers bounded pass next ∧ next.Ordered)
      (fun next => RunningSteps answers bounded pass next ∧ next.Ordered) := by
  unfold runningRound at taken
  cases place : pass.scheduler.running[pass.reqIndex]? with
  | none =>
    rw [place] at taken
    cases taken
    exact ⟨.refl, ordered⟩
  | some reqId =>
    rw [place] at taken
    have skipped : RunningSteps answers bounded pass pass.skipRunning ∧
        pass.skipRunning.Ordered := ⟨.single (.skip pass), ordered.skipRunning⟩
    split_ifs at taken with spent
    · cases taken
      exact ⟨.refl, ordered⟩
    · simp only [bind_eq_ok] at taken
      obtain ⟨request, found, taken⟩ := taken
      split_ifs at taken with passed empty
      · cases taken
        exact skipped
      · cases taken
        exact skipped
      · obtain ⟨⟨_, after⟩, allocates, taken⟩ := bind_eq_ok.mp taken
        obtain ⟨steps, orderedAfter, kept⟩ :=
          allocateRunning_steps (ordered.at place) granted allocates
        split_ifs at taken with refused
        · cases taken
          exact ⟨steps, orderedAfter⟩
        · obtain ⟨again, lookedUp, taken⟩ := bind_eq_ok.mp taken
          cases taken
          have retained := kept (by simpa using refused)
          have now := request_eq_ok.mp lookedUp
          have same : again = request := by
            rw [retained.record, request_eq_ok.mp found] at now
            exact (Option.some.inj now).symm
          subst same
          have tokens : runningTokens pass.scheduler.config answers again pass.tokenBudget =
              runningTokens after.scheduler.config answers again pass.tokenBudget := by
            rw [retained.config]
          have member := mem_of_mem_take retained.here.position
          exact ⟨steps.tail (.schedule member retained.here.fresh now (by omega) retained.budget
            tokens empty), Ordered.scheduleRunning retained.here⟩

theorem scheduleRunningRequests_steps
    (taken : pass.scheduleRunningRequests answers deferPrefills = .ok next) :
    RunningSteps answers bounded pass next ∧ next.Ordered := by
  refine iterate_result (fun next => RunningSteps answers bounded pass next ∧ next.Ordered)
    (fun next => RunningSteps answers bounded pass next ∧ next.Ordered) ?_ ⟨.refl, ordered⟩ taken
  rintro state outcome ⟨reached, ordered⟩ round
  have one := runningRound_steps ordered
    (fun holds last steps => granted holds last (reached.trans steps)) round
  cases outcome with
  | next after => exact ⟨reached.trans one.1, one.2⟩
  | done after => exact ⟨reached.trans one.1, one.2⟩

end

theorem selectWaiting_mem (selected : selectWaiting scheduler = some (fromSkipped, reqId)) :
    reqId ∈ queueOf scheduler fromSkipped := by
  unfold selectWaiting at selected
  dsimp only at selected
  split at selected
  · cases selected
  · rename_i found _
    cases selected
    exact peekRequest_mem found
  · rename_i found
    cases selected
    exact peekRequest_mem found
  · rename_i waitingFound skippedFound
    split at selected
    · cases selected
      exact peekRequest_mem skippedFound
    · split at selected
      · cases selected
        exact peekRequest_mem waitingFound
      · cases selected
        exact peekRequest_mem skippedFound

theorem updateWaitingForRemoteKv_ok {blocks : List GpuBlockId}
    (taken : updateWaitingForRemoteKv scheduler reqId request blocks = .ok (after, updated)) :
    ∃ received failed log,
      after = { scheduler with
        finishedRecvingKvReqIds := received, failedRecvingKvReqIds := failed, log := log } ∧
      (log = scheduler.log ∨
        request.numComputedTokens = 0 ∧ log = (scheduler.free reqId blocks).log) ∧
      (updated = request ∨ request.numComputedTokens = request.numTokens ∧
        updated = { request with numComputedTokens := request.numTokens - 1 }) := by
  unfold updateWaitingForRemoteKv at taken
  obtain ⟨-, -, taken⟩ := bind_eq_ok.mp taken
  split_ifs at taken with failed valid full
  · cases taken
    exact ⟨_, _, _, rfl, .inl rfl, .inl rfl⟩
  · cases taken
    exact ⟨_, _, _, rfl, .inr ⟨by simpa using valid, rfl⟩, .inl rfl⟩
  · cases taken
    exact ⟨_, _, _, rfl, .inl rfl, .inr ⟨full, rfl⟩⟩
  · cases taken
    exact ⟨_, _, _, rfl, .inl rfl, .inl rfl⟩

structure Promotion (answers : ScheduleAnswers) (reqId : RequestId) (request : SchedRequest)
    (scheduler next : Scheduler) : Prop where
  blocked : request.status = .waitingForRemoteKvs ∨
    request.status = .waitingForStructuredOutputGrammar
  result : ∃ received failed log numComputedTokens status,
    next = { scheduler with
      finishedRecvingKvReqIds := received
      failedRecvingKvReqIds := failed
      log := log
      requests := scheduler.requests.insert reqId
        { request with numComputedTokens := numComputedTokens, status := status } } ∧
    (status = .waiting ∨ status = .preempted) ∧
    (numComputedTokens = request.numComputedTokens ∨ request.status = .waitingForRemoteKvs ∧
      request.numComputedTokens = request.numTokens ∧ numComputedTokens = request.numTokens - 1) ∧
    (log = scheduler.log ∨ request.status = .waitingForRemoteKvs ∧
      request.numComputedTokens = 0 ∧ log = (scheduler.free reqId (answers.blocks reqId)).log)

theorem tryPromote_ok {promoted : Bool}
    (taken : tryPromote scheduler answers reqId request = .ok (promoted, after)) :
    (promoted = false ∧
      ∃ errors, after = { scheduler with grammarCompileErrorReqs := errors }) ∨
    (promoted = true ∧ Promotion answers reqId request scheduler after) := by
  unfold tryPromote at taken
  cases status : request.status with
  | waitingForRemoteKvs =>
    rw [status] at taken
    split_ifs at taken with arrived
    · obtain ⟨⟨_, updated⟩, updates, taken⟩ := bind_eq_ok.mp taken
      obtain ⟨received, failed, log, rfl, freed, computed⟩ := updateWaitingForRemoteKv_ok updates
      cases taken
      refine .inr ⟨rfl, .inl status, received, failed, log, updated.numComputedTokens,
        if 0 < updated.numPreemptions then .preempted else .waiting, ?_, ?_, ?_, ?_⟩
      · rcases computed with rfl | ⟨-, rfl⟩ <;> rfl
      · split_ifs <;> simp
      · rcases computed with rfl | ⟨full, rfl⟩
        · exact .inl rfl
        · exact .inr ⟨status, full, rfl⟩
      · exact freed.imp_right fun freed => ⟨status, freed⟩
    · cases taken
      exact .inl ⟨rfl, _, rfl⟩
  | waitingForStructuredOutputGrammar =>
    rw [status] at taken
    dsimp only at taken
    split at taken
    · cases taken
      exact .inl ⟨rfl, _, rfl⟩
    · cases taken
      exact .inl ⟨rfl, _, rfl⟩
    · cases taken
      exact .inr ⟨rfl, .inr status, scheduler.finishedRecvingKvReqIds,
        scheduler.failedRecvingKvReqIds, scheduler.log, request.numComputedTokens, .waiting, rfl,
        .inl rfl, .inl rfl, .inl rfl⟩
  | waitingForStreamingReq =>
    rw [status] at taken
    obtain ⟨-, -, taken⟩ := bind_eq_ok.mp taken
    cases taken
    exact .inl ⟨rfl, _, rfl⟩
  | _ =>
    rw [status] at taken
    cases taken

theorem cachedTokens_record {config : SchedulerConfig} {cached : Option CachedTokens}
    (taken : cachedTokens config answers reqId request = .ok (cached, updated)) :
    ∃ boundary, updated = { request with sharedPrefixBoundary := boundary } := by
  unfold cachedTokens at taken
  split_ifs at taken with computed
  · cases taken
    exact ⟨request.sharedPrefixBoundary, rfl⟩
  · dsimp only at taken
    split at taken
    · cases taken
      exact ⟨_, rfl⟩
    · obtain ⟨-, -, taken⟩ := bind_eq_ok.mp taken
      split_ifs at taken
      · cases taken
        exact ⟨_, rfl⟩
      · obtain ⟨-, -, taken⟩ := bind_eq_ok.mp taken
        cases taken
        exact ⟨_, rfl⟩
      · cases taken
        exact ⟨_, rfl⟩

theorem tryAdmit_steps {before : SchedRequest} {cached : CachedTokens}
    (admissible : pass.Admissible fromSkipped reqId request)
    (lookedUp : cachedTokens pass.scheduler.config answers reqId before =
      .ok (some cached, request))
    (taken : tryAdmit answers deferPrefills fromSkipped reqId request cached pass = .ok outcome) :
    outcome.Holds (WaitingSteps answers deferPrefills pass) (WaitingSteps answers deferPrefills pass) := by
  unfold tryAdmit at taken
  simp only [bind_eq_ok] at taken
  obtain ⟨_, tokens, taken⟩ := taken
  split at taken
  · cases taken
    exact .refl
  · split_ifs at taken with refused loads
    · cases taken
      exact .single (.countAllocation pass)
    · cases taken
      exact .single (.startLoad admissible lookedUp loads)
    · obtain ⟨_, admits, taken⟩ := bind_eq_ok.mp taken
      cases taken
      exact .single (.admitWaiting admissible lookedUp (by simpa using loads) tokens admits)

theorem considerWaiting_steps (member : reqId ∈ queueOf pass.scheduler fromSkipped)
    (room : (pass.scheduler.running.length : Int) + pass.scheduler.numWaitingForStreamingInput <
      pass.scheduler.config.maxNumRunningReqs)
    (unblocked : ∀ request, pass.scheduler.requests.lookup reqId = some request →
      isBlockedWaitingStatus request.status = false)
    (taken : considerWaiting answers deferPrefills fromSkipped reqId pass = .ok outcome) :
    outcome.Holds (WaitingSteps answers deferPrefills pass) (WaitingSteps answers deferPrefills pass) := by
  unfold considerWaiting at taken
  obtain ⟨request, found, taken⟩ := bind_eq_ok.mp taken
  have found := request_eq_ok.mp found
  split_ifs at taken with stale loras
  · cases taken
    exact .single (.skip member)
  · cases taken
    exact .single (.skip member)
  · obtain ⟨⟨cached, _⟩, lookedUp, taken⟩ := bind_eq_ok.mp taken
    obtain ⟨boundary, rfl⟩ := cachedTokens_record lookedUp
    have bounded : WaitingSteps answers deferPrefills pass _ := .single (.setBoundary boundary found)
    cases cached with
    | none =>
      cases taken
      exact bounded.tail (.skip member)
    | some cached =>
      have admissible : (pass.withScheduler (pass.scheduler.setRequest reqId
          { request with sharedPrefixBoundary := boundary })).Admissible fromSkipped reqId
          { request with sharedPrefixBoundary := boundary } :=
        { member := member
          room := room
          found := AList.lookup_insert _
          unblocked := unblocked request found
          fresh := by
            rcases Int.lt_or_le 0 request.numStaleOutputTokens with pending | drained
            · exact .inr (by simpa [pending] using stale)
            · exact .inl drained }
      have steps := tryAdmit_steps admissible lookedUp taken
      cases outcome with
      | next after => exact bounded.trans steps
      | done after => exact bounded.trans steps

theorem Promotion.kept (promotion : Promotion answers reqId request scheduler after) :
    after.waiting = scheduler.waiting ∧ after.skippedWaiting = scheduler.skippedWaiting ∧
      after.running = scheduler.running ∧
      after.numWaitingForStreamingInput = scheduler.numWaitingForStreamingInput ∧
      after.config = scheduler.config ∧
      ∀ record, after.requests.lookup reqId = some record →
        isBlockedWaitingStatus record.status = false := by
  obtain ⟨_, _, _, _, status, rfl, waits, -, -⟩ := promotion.result
  refine ⟨rfl, rfl, rfl, rfl, rfl, fun record found => ?_⟩
  have same := (AList.lookup_insert scheduler.requests).symm.trans found
  cases same
  rcases waits with rfl | rfl <;> rfl

theorem unblock_steps (deferPrefills : Bool) {ready : Bool}
    (taken : unblock answers reqId pass.scheduler = .ok (ready, after)) :
    WaitingSteps answers deferPrefills pass (pass.withScheduler after) ∧
      (∀ fromSkipped, queueOf after fromSkipped = queueOf pass.scheduler fromSkipped) ∧
      after.running = pass.scheduler.running ∧
      after.numWaitingForStreamingInput = pass.scheduler.numWaitingForStreamingInput ∧
      after.config = pass.scheduler.config ∧
      (ready = true → ∀ record, after.requests.lookup reqId = some record →
        isBlockedWaitingStatus record.status = false) := by
  unfold unblock at taken
  obtain ⟨_, found, taken⟩ := bind_eq_ok.mp taken
  have found := request_eq_ok.mp found
  split_ifs at taken with blocked
  · have step : WaitingSteps answers deferPrefills pass (pass.withScheduler after) :=
      .single (.promote found taken)
    rcases tryPromote_ok taken with ⟨rfl, _, rfl⟩ | ⟨rfl, promotion⟩
    · exact ⟨step, fun _ => rfl, rfl, rfl, rfl, fun ready => by cases ready⟩
    · obtain ⟨waiting, skipped, running, counter, config, unblocked⟩ := promotion.kept
      refine ⟨step, fun fromSkipped => ?_, running, counter, config, fun _ => unblocked⟩
      unfold queueOf
      rw [waiting, skipped]
  · cases taken
    refine ⟨.refl, fun _ => rfl, rfl, rfl, rfl, fun _ record same => ?_⟩
    rw [found] at same
    cases same
    simpa using blocked

theorem waitingRound_steps (taken : pass.waitingRound answers deferPrefills = .ok outcome) :
    outcome.Holds (WaitingSteps answers deferPrefills pass) (WaitingSteps answers deferPrefills pass) := by
  unfold waitingRound at taken
  cases selected : selectWaiting pass.scheduler with
  | none =>
    rw [selected] at taken
    cases taken
    exact .refl
  | some choice =>
    obtain ⟨fromSkipped, reqId⟩ := choice
    have member := selectWaiting_mem selected
    rw [selected] at taken
    split_ifs at taken with spent full
    · cases taken
      exact .refl
    · cases taken
      exact .refl
    · simp only [bind_eq_ok] at taken
      obtain ⟨⟨_, after⟩, unblocks, taken⟩ := taken
      obtain ⟨steps, queues, running, counter, config, unblocked⟩ :=
        unblock_steps deferPrefills unblocks
      have still : reqId ∈ queueOf after fromSkipped := by
        rw [queues]
        exact member
      split_ifs at taken with waits
      · cases taken
        exact steps.tail (.skip still)
      · have considered : outcome.Holds
            (WaitingSteps answers deferPrefills (pass.withScheduler after))
            (WaitingSteps answers deferPrefills (pass.withScheduler after)) := by
          apply considerWaiting_steps still _ (unblocked (by simpa using waits)) taken
          change (after.running.length : Int) + after.numWaitingForStreamingInput <
            after.config.maxNumRunningReqs
          rw [running, counter, config]
          omega
        cases outcome with
        | next final => exact steps.trans considered
        | done final => exact steps.trans considered

theorem scheduleWaitingRequests_steps
    (taken : pass.scheduleWaitingRequests answers deferPrefills = .ok next) :
    next = pass ∨ ∃ last, WaitingSteps answers deferPrefills pass last ∧
      pass.preemptedReqs = [] ∧ next = last.requeueSkipped deferPrefills := by
  unfold scheduleWaitingRequests at taken
  split_ifs at taken with held
  · cases taken
    exact .inl rfl
  · obtain ⟨last, loop, taken⟩ := bind_eq_ok.mp taken
    cases taken
    refine .inr ⟨last, ?_, by simpa using fun filled => held (.inl filled), rfl⟩
    refine iterate_result (WaitingSteps answers deferPrefills pass)
      (WaitingSteps answers deferPrefills pass) ?_ .refl loop
    intro state outcome reached round
    have one := waitingRound_steps round
    cases outcome with
    | next after => exact reached.trans one
    | done after => exact reached.trans one

theorem recordLoras_eq (taken : pass.recordLoras = .ok next) :
    ∃ loras, next = { pass with scheduledLoras := loras } := by
  unfold recordLoras at taken
  split at taken
  · cases taken
    exact ⟨pass.scheduledLoras, rfl⟩
  · obtain ⟨-, -, taken⟩ := bind_eq_ok.mp taken
    cases taken
    exact ⟨_, rfl⟩

theorem RunningStep.stepSkippedWaiting (step : RunningStep answers bounded pass next) :
    next.stepSkippedWaiting = pass.stepSkippedWaiting := by
  cases step with
  | skip | countAllocation | schedule => rfl
  | preempt found taken unscheduled => exact (preempt_scheduler found taken).1

end Pass

namespace Scheduler

variable {scheduler next : Scheduler} {answers : ScheduleAnswers} {output : SchedulerOutput}
  {bounded : Prop} {pass : Pass}

structure Scheduled (answers : ScheduleAnswers) (bounded : Prop) (scheduler : Scheduler)
    (pass : Pass) : Prop where
  phases : ∃ running loras,
    Pass.RunningSteps answers bounded scheduler.beginPass running ∧ running.Ordered ∧
    (pass = { running with scheduledLoras := loras } ∨
      ∃ waiting, Pass.WaitingSteps answers (scheduler.deferPrefills answers)
          { running with scheduledLoras := loras } waiting ∧
        running.preemptedReqs = [] ∧
        pass = waiting.requeueSkipped (scheduler.deferPrefills answers))

theorem Scheduled.keeps {invariant : Pass → Prop}
    (scheduled : Scheduled answers bounded scheduler pass)
    (running : ∀ pass next, Pass.RunningStep answers bounded pass next → invariant pass →
      invariant next)
    (loras : ∀ pass loras, invariant pass → invariant { pass with scheduledLoras := loras })
    (waiting : ∀ pass next, Pass.WaitingStep answers (scheduler.deferPrefills answers) pass next →
      invariant pass → invariant next)
    (requeued : ∀ pass, invariant pass →
      invariant (pass.requeueSkipped (scheduler.deferPrefills answers)))
    (initial : invariant scheduler.beginPass) : invariant pass := by
  obtain ⟨_, _, runningSteps, -, rfl | ⟨_, waitingSteps, -, rfl⟩⟩ :=
    scheduled.phases
  · exact loras _ _ (Pass.keeps_of_steps invariant running runningSteps initial)
  · apply requeued
    apply Pass.keeps_of_steps invariant waiting waitingSteps
    exact loras _ _ (Pass.keeps_of_steps invariant running runningSteps initial)

theorem Scheduled.stepSkippedWaiting
    (scheduled : Scheduled answers bounded scheduler pass) : pass.stepSkippedWaiting = [] := by
  obtain ⟨first, _, runningSteps, -, rfl | ⟨_, _, -, rfl⟩⟩ :=
    scheduled.phases
  · have begun : scheduler.beginPass.stepSkippedWaiting = [] := rfl
    change first.stepSkippedWaiting = []
    refine Pass.keeps_of_steps (fun pass => pass.stepSkippedWaiting = []) ?_ runningSteps begun
    intro pass next step empty
    rw [step.stepSkippedWaiting, empty]
  · rfl

theorem ordered_beginPass (once : scheduler.running.Nodup) : scheduler.beginPass.Ordered :=
  ⟨once, fun _ scheduled => absurd scheduled not_mem_nil, nodup_nil⟩

theorem schedule_ok (once : scheduler.running.Nodup) (granted : bounded → ∀ state,
      Pass.RunningSteps answers bounded scheduler.beginPass state → state.Granted)
    (taken : scheduler.schedule answers = .ok (output, next)) :
    ∃ pass : Pass, Scheduled answers bounded scheduler pass ∧ pass.checkConstraints = .ok () ∧
      output.numScheduledTokens = pass.numScheduledTokens ∧
      output.totalNumScheduledTokens = pass.totalNumScheduledTokens ∧
      output.scheduledSpecDecodeTokens = pass.scheduledSpecDecodeTokens ∧
      output.preemptedReqs = pass.preemptedReqs ∧
      (pass.scheduler.closeStep answers output).updateAfterSchedule output = .ok next := by
  unfold schedule at taken
  simp only [bind_eq_ok] at taken
  obtain ⟨first, runningTaken, _, lorasTaken, pass, waitingTaken, ⟨⟩, checked,
    _, -, _, closed, taken⟩ := taken
  cases taken
  refine ⟨pass, ?_, checked, rfl, rfl, rfl, rfl, closed⟩
  obtain ⟨loras, rfl⟩ := Pass.recordLoras_eq lorasTaken
  obtain ⟨running, ordered⟩ :=
    Pass.scheduleRunningRequests_steps (ordered_beginPass once) granted runningTaken
  exact ⟨first, loras, running, ordered, Pass.scheduleWaitingRequests_steps waitingTaken⟩

theorem modifyAll_ok {change : RequestId → SchedRequest → SchedRequest} {ids : List RequestId}
    (once : ids.Nodup) (taken : ids.foldlM (modify change) scheduler = .ok next) :
    ∃ requests : Requests, next = { scheduler with requests := requests } ∧
      (∀ reqId ∈ ids, (scheduler.requests.lookup reqId).isSome = true) ∧
      ∀ reqId, requests.lookup reqId =
        if reqId ∈ ids then (scheduler.requests.lookup reqId).map (change reqId)
        else scheduler.requests.lookup reqId := by
  induction ids generalizing scheduler with
  | nil =>
    cases taken
    exact ⟨_, rfl, fun _ member => absurd member not_mem_nil,
      fun _ => (if_neg not_mem_nil).symm⟩
  | cons first rest ih =>
    rw [foldlM_cons, bind_eq_ok] at taken
    obtain ⟨_, changed, taken⟩ := taken
    unfold modify at changed
    simp only [bind_eq_ok, pure_eq_ok] at changed
    obtain ⟨_, found, rfl⟩ := changed
    have found := request_eq_ok.mp found
    obtain ⟨absent, once⟩ := List.nodup_cons.mp once
    obtain ⟨requests, rfl, known, lookups⟩ := ih once taken
    refine ⟨requests, rfl, fun reqId member => ?_, fun reqId => ?_⟩
    · rcases List.mem_cons.mp member with rfl | later
      · rw [found]
        rfl
      · have after := known reqId later
        have different : reqId ≠ first := by
          rintro rfl
          exact absent later
        rw [setRequest, AList.lookup_insert_ne different] at after
        exact after
    · rw [lookups, setRequest]
      by_cases same : reqId = first
      · subst same
        rw [if_neg absent, if_pos mem_cons_self, AList.lookup_insert, found]
        rfl
      · rw [AList.lookup_insert_ne same]
        simp only [mem_cons, same, false_or]

def settled (config : SchedulerConfig) (seq currentStep : Nat) (output : SchedulerOutput)
    (reqId : RequestId) (request : SchedRequest) : SchedRequest :=
  let scheduled := request.afterSchedule config seq (output.numScheduled reqId)
  if config.isAsync then
    scheduled.afterScheduleAsync config currentStep output.numSpecTokensToSchedule
      (output.specTokens reqId).length
  else scheduled

theorem updateAfterSchedule_ok (taken : scheduler.updateAfterSchedule output = .ok next) :
    ∃ requests : Requests, next = { scheduler with requests := requests } ∧
      (∀ reqId ∈ output.numScheduledTokens.keys, (scheduler.requests.lookup reqId).isSome = true) ∧
      ∀ reqId, requests.lookup reqId =
        if reqId ∈ output.numScheduledTokens.keys then
          (scheduler.requests.lookup reqId).map
            (settled scheduler.config scheduler.schedStepSeq scheduler.currentStep output reqId)
        else scheduler.requests.lookup reqId := by
  unfold updateAfterSchedule at taken
  obtain ⟨_, scheduled, taken⟩ := bind_eq_ok.mp taken
  have once := output.numScheduledTokens.keys_nodup
  obtain ⟨records, rfl, known, lookups⟩ := modifyAll_ok once scheduled
  unfold settled
  split_ifs at taken with sync
  · cases taken
    refine ⟨records, rfl, known, ?_⟩
    rw [Bool.not_eq_true'] at sync
    simp only [sync]
    exact lookups
  · obtain ⟨after, rfl, -, lookupsAfter⟩ := modifyAll_ok once taken
    refine ⟨after, rfl, known, fun reqId => ?_⟩
    have async : scheduler.config.isAsync = true := by simpa using sync
    simp only [async]
    rw [lookupsAfter, lookups]
    split_ifs
    · rw [Option.map_map]
      rfl
    · rfl

end Scheduler

end VllmEngine.Sched

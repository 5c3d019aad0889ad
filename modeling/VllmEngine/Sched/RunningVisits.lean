import VllmEngine.Sched.Queues

set_option autoImplicit false

namespace VllmEngine.Sched.Pass

open Outcome List

variable (answers : ScheduleAnswers) (deferPrefills : Bool)

def considered (pass : Pass) : Option RequestId :=
  if pass.tokenBudget ≤ 0 then none else pass.scheduler.running[pass.reqIndex]?

def runningRounds (pass : Pass) : List Pass :=
  rounds (runningRound answers deferPrefills) (pass.scheduler.running.length + 1) pass

def visits (pass : Pass) : List RequestId :=
  (pass.runningRounds answers deferPrefills).filterMap considered

-- The request that the round asks for slots for.
def allocatesFor (pass : Pass) : Option RequestId :=
  pass.considered.filter fun reqId =>
    match pass.scheduler.request reqId with
    | .error _ => false
    | .ok request => !passesOver pass.scheduler deferPrefills request &&
      decide (runningTokens pass.scheduler.config answers request pass.tokenBudget ≠ 0)

def Succeeds (pass : Pass) : Prop :=
  ∀ reqId ∈ pass.allocatesFor answers deferPrefills,
    (pass.allocateRunning answers reqId).toOption.map Prod.fst ≠ some false

-- The loop may go past the request without scheduling it.
def MaySkip (scheduler : Scheduler) (reqId : RequestId) : Prop :=
  ∃ request, scheduler.requests.lookup reqId = some request ∧
    (passesOver scheduler deferPrefills request = true ∨
      ∃ tokenBudget > 0, runningTokens scheduler.config answers request tokenBudget = 0)

-- The loop may ask for slots for the request.
def MayAllocate (scheduler : Scheduler) (reqId : RequestId) : Prop :=
  ∃ request, scheduler.requests.lookup reqId = some request ∧
    passesOver scheduler deferPrefills request = false ∧
      ∃ tokenBudget > 0, runningTokens scheduler.config answers request tokenBudget ≠ 0

-- No allocation fails, or no request that may be skipped can be the victim of a request behind it.
def KeepsPlaces (scheduler : Scheduler) : Prop :=
  (∀ allocation, answers.allocateSlots allocation = true) ∨
    scheduler.running.Pairwise fun skipped reqId =>
      MaySkip answers deferPrefills scheduler skipped →
        MayAllocate answers deferPrefills scheduler reqId →
          greatest.later scheduler.requests skipped reqId = true

instance (pass : Pass) : Decidable (pass.Succeeds answers deferPrefills) :=
  inferInstanceAs (Decidable (∀ _ ∈ _, _))

-- The states of the loop that started in `start`.
structure Tracks (start : Scheduler) (pass : Pass) : Prop where
  config : pass.scheduler.config = start.config
  currentStep : pass.scheduler.currentStep = start.currentStep
  running : pass.scheduler.running.Sublist start.running
  record : ∀ reqId ∈ pass.scheduler.running, pass.scheduler.requests.lookup reqId =
    if reqId ∈ pass.scheduledRunningReqs then
      (start.requests.lookup reqId).map fun request => { request with specTokenIds := [] }
    else start.requests.lookup reqId
  behind : ∀ reqId ∈ pass.scheduler.running.take pass.reqIndex,
    reqId ∈ pass.scheduledRunningReqs ∨ MaySkip answers deferPrefills start reqId

structure Visited (start : Scheduler) (visited : List RequestId) (pass : Pass) : Prop
    extends Tracks answers deferPrefills start pass where
  ordered : pass.Ordered
  seen : visited.filter (· ∈ pass.scheduler.running) = pass.scheduler.running.take pass.reqIndex

structure Visiting (start : Scheduler) (visited : List RequestId) (reqId : RequestId)
    (pass : Pass) : Prop extends Visited answers deferPrefills start visited pass where
  place : pass.scheduler.running[pass.reqIndex]? = some reqId

def VisitedAll (start : Scheduler) (visited : List RequestId) (pass : Pass) : Prop :=
  0 < pass.tokenBudget →
    Visited answers deferPrefills start visited pass ∧ pass.scheduler.running.length ≤ pass.reqIndex

variable {answers deferPrefills} {start : Scheduler} {visited : List RequestId} {pass next : Pass}
  {reqId preempted : RequestId}

-- The victim is a first maximum of (priority, arrival time).
theorem greatest_not_later {requests : Requests} {ids : List RequestId} {most other : RequestId}
    (known : ∀ reqId ∈ ids, (requests.lookup reqId).isSome) (found : greatest requests ids = some most)
    (member : other ∈ ids) : greatest.later requests most other = false := by
  induction ids generalizing most other with
  | nil => cases member
  | cons first rest ih =>
    obtain ⟨knownFirst, knownRest⟩ := forall_mem_cons.mp known
    obtain ⟨request, first_eq⟩ := Option.isSome_iff_exists.mp knownFirst
    unfold greatest at found
    cases most_eq : greatest requests rest with
    | none =>
      rw [most_eq] at found
      cases found
      cases rest with
      | nil =>
        cases mem_singleton.mp member
        simp [greatest.later, first_eq]
      | cons second rest =>
        unfold greatest at most_eq
        split at most_eq
        · cases most_eq
        · split_ifs at most_eq
    | some latest =>
      rw [most_eq] at found
      dsimp only at found
      obtain ⟨against, latest_eq⟩ := Option.isSome_iff_exists.mp (knownRest _ (greatest_mem most_eq))
      have least : ∀ other ∈ rest, ∀ last, requests.lookup other = some last →
          ¬ (against.priority < last.priority ∨
            against.priority = last.priority ∧ against.arrivalTime < last.arrivalTime) := by
        intro other member last last_eq
        simpa [greatest.later, latest_eq, last_eq] using ih knownRest most_eq member
      obtain ⟨last, last_eq⟩ := Option.isSome_iff_exists.mp (known other member)
      split_ifs at found with later <;> cases found <;>
        simp only [greatest.later, first_eq, latest_eq, last_eq, decide_eq_true_eq,
          decide_eq_false_iff_not] at later ⊢ <;>
        obtain rfl | member := mem_cons.mp member
      · cases first_eq.symm.trans last_eq
        omega
      · exact least other member last last_eq
      · cases first_eq.symm.trans last_eq
        omega
      · have := least other member last last_eq
        omega

theorem Tracks.later_eq (tracks : Tracks answers deferPrefills start pass) {first second : RequestId}
    (one : first ∈ pass.scheduler.running) (two : second ∈ pass.scheduler.running) :
    greatest.later pass.scheduler.requests first second =
      greatest.later start.requests first second := by
  unfold greatest.later
  rw [tracks.record first one, tracks.record second two]
  cases start.requests.lookup first <;> cases start.requests.lookup second <;> split_ifs <;> rfl

theorem Tracks.known (tracks : Tracks answers deferPrefills start pass)
    (known : ∀ reqId ∈ start.running, (start.requests.lookup reqId).isSome) :
    ∀ reqId ∈ pass.scheduler.running, (pass.scheduler.requests.lookup reqId).isSome := by
  intro reqId member
  rw [tracks.record reqId member]
  have here := known reqId (tracks.running.subset member)
  split_ifs <;> simpa using here

theorem preempt_erases (policy : pass.scheduler.config.policy = .priority)
    (found : pass.victim = some preempted) (taken : pass.preempt answers preempted = .ok next) :
    preempted ∈ pass.scheduler.running ∧
      next.scheduler.running = pass.scheduler.running.erase preempted ∧
      next.scheduledRunningReqs = pass.scheduledRunningReqs.erase preempted ∧
      next.reqIndex =
        if preempted ∈ pass.scheduledRunningReqs then pass.reqIndex - 1 else pass.reqIndex := by
  obtain ⟨_, rfl, running⟩ := preempt_locals taken
  obtain ⟨fcfs, -⟩ | ⟨-, member, ⟨scheduled, removed⟩ | ⟨scheduled, removed⟩⟩ :=
    removeVictim_cases found
  · rw [policy] at fcfs
    cases fcfs
  · rw [removed] at running ⊢
    exact ⟨member, running, rfl, (if_pos scheduled).symm⟩
  · rw [removed] at running ⊢
    exact ⟨member, running, (erase_of_not_mem scheduled).symm, (if_neg scheduled).symm⟩

theorem Tracks.preempt (tracks : Tracks answers deferPrefills start pass)
    (policy : pass.scheduler.config.policy = .priority) (ordered : pass.Ordered)
    (found : pass.victim = some preempted) (taken : pass.preempt answers preempted = .ok next)
    (front : next.scheduler.running.take next.reqIndex =
      (pass.scheduler.running.take pass.reqIndex).erase preempted) :
    Tracks answers deferPrefills start next := by
  obtain ⟨-, running, scheduled, -⟩ := preempt_erases policy found taken
  obtain ⟨-, rest, -, preempts⟩ := preempt_scheduler found taken
  obtain ⟨request, deferredFrees, log, -, -, after⟩ := Scheduler.preemptRequest_frame preempts
  have config : next.scheduler.config = pass.scheduler.config := by rw [after]; rfl
  have currentStep : next.scheduler.currentStep = pass.scheduler.currentStep := by rw [after]; rfl
  have frame : ∀ reqId ≠ preempted,
      next.scheduler.requests.lookup reqId = pass.scheduler.requests.lookup reqId := by
    intro reqId other
    rw [after]
    exact AList.lookup_insert_ne other
  refine ⟨config.trans tracks.config, currentStep.trans tracks.currentStep,
    running ▸ erase_sublist.trans tracks.running, fun reqId member => ?_, fun reqId member => ?_⟩
  · obtain ⟨other, member⟩ := ordered.once.mem_erase_iff.mp (running ▸ member)
    simp only [frame reqId other, tracks.record reqId member, scheduled,
      ordered.scheduledOnce.mem_erase_iff, ne_eq, other, not_false_eq_true, true_and]
  · have once := ordered.once.sublist (take_sublist pass.reqIndex _)
    obtain ⟨other, member⟩ := once.mem_erase_iff.mp (front ▸ member)
    exact (tracks.behind reqId member).imp_left fun earlier =>
      scheduled ▸ ordered.scheduledOnce.mem_erase_iff.mpr ⟨other, earlier⟩

-- A skipped request is below the one that asks for slots, and not the greatest.
theorem Visiting.keeps (here : Visiting answers deferPrefills start visited reqId pass)
    (policy : pass.scheduler.config.policy = .priority)
    (known : ∀ reqId ∈ start.running, (start.requests.lookup reqId).isSome)
    (places : start.running.Pairwise fun skipped reqId =>
      MaySkip answers deferPrefills start skipped → MayAllocate answers deferPrefills start reqId →
        greatest.later start.requests skipped reqId = true)
    (allocates : MayAllocate answers deferPrefills start reqId)
    (found : pass.victim = some preempted) :
    preempted ∈ pass.scheduledRunningReqs ∨
      preempted ∉ pass.scheduler.running.take pass.reqIndex := by
  by_contra passed
  obtain ⟨unscheduled, early⟩ : preempted ∉ pass.scheduledRunningReqs ∧
      preempted ∈ pass.scheduler.running.take pass.reqIndex := by simpa using passed
  have skipped := (here.behind preempted early).resolve_left unscheduled
  have late : reqId ∈ pass.scheduler.running.drop pass.reqIndex :=
    mem_of_getElem? ((getElem?_drop (j := 0)).trans here.place)
  have apart := places.sublist here.running
  rw [← take_append_drop pass.reqIndex pass.scheduler.running, pairwise_append] at apart
  have later := apart.2.2 preempted early reqId late skipped allocates
  unfold victim at found
  rw [policy] at found
  rw [← here.later_eq (mem_of_mem_take early) (mem_of_mem_drop late),
    greatest_not_later (here.known known) found (mem_of_mem_drop late)] at later
  cases later

theorem Visiting.advance (here : Visiting answers deferPrefills start visited reqId pass)
    (tracks : Tracks answers deferPrefills start next) (ordered : next.Ordered)
    (running : next.scheduler.running = pass.scheduler.running)
    (index : next.reqIndex = pass.reqIndex + 1) :
    Visited answers deferPrefills start (visited ++ [reqId]) next := by
  refine ⟨tracks, ordered, ?_⟩
  rw [running, index, filter_append, here.seen, take_add_one, here.place]
  simp [mem_of_getElem? here.place]

theorem Visiting.skipRunning (here : Visiting answers deferPrefills start visited reqId pass)
    (skips : MaySkip answers deferPrefills start reqId) :
    Visited answers deferPrefills start (visited ++ [reqId]) pass.skipRunning := by
  refine here.advance ⟨here.config, here.currentStep, here.running, here.record, ?_⟩
    here.ordered.skipRunning rfl rfl
  intro other member
  rw [Pass.skipRunning, take_add_one, here.place] at member
  rcases mem_append.mp member with earlier | itself
  · exact here.behind other earlier
  · exact .inr (mem_singleton.mp itself ▸ skips)

theorem Visiting.scheduleRunning {request : SchedRequest} {numNewTokens : Int}
    (here : Visiting answers deferPrefills start visited reqId pass)
    (found : pass.scheduler.request reqId = .ok request) :
    Visited answers deferPrefills start (visited ++ [reqId])
      (pass.scheduleRunning reqId request numNewTokens) := by
  have fresh := (here.ordered.at here.place).fresh
  refine here.advance ⟨here.config, here.currentStep, here.running, fun other member => ?_,
    fun other member => ?_⟩ (Ordered.scheduleRunning (here.ordered.at here.place)) rfl rfl
  · have record := here.record other member
    simp only [Pass.scheduleRunning, Scheduler.setRequest, mem_append, mem_singleton]
    by_cases same : other = reqId
    · subst same
      rw [if_neg fresh] at record
      rw [if_pos (.inr rfl), AList.lookup_insert, ← record, Scheduler.request_eq_ok.mp found]
      rfl
    · rw [AList.lookup_insert_ne same, record]
      simp [same]
  · simp only [Pass.scheduleRunning, take_add_one, Scheduler.setRequest] at member
    rw [here.place] at member
    rcases mem_append.mp member with earlier | itself
    · exact (here.behind other earlier).imp_left (mem_append_left _)
    · exact .inl (mem_append_right _ itself)

theorem Visiting.preempt (here : Visiting answers deferPrefills start visited reqId pass)
    (policy : pass.scheduler.config.policy = .priority) (found : pass.victim = some preempted)
    (keeps : preempted ∈ pass.scheduledRunningReqs ∨
      preempted ∉ pass.scheduler.running.take pass.reqIndex)
    (taken : pass.preempt answers preempted = .ok next) (other : preempted ≠ reqId) :
    Visiting answers deferPrefills start visited reqId next := by
  have retained : Retains False reqId pass next :=
    preempt_retains (here.ordered.at here.place) nofun found taken other
  obtain ⟨member, running, -, index⟩ := preempt_erases policy found taken
  have place := here.place
  have once := here.ordered.once
  have distinct : (visited.filter (· ∈ pass.scheduler.running)).Nodup := by
    rw [here.seen]
    exact once.sublist (take_sublist _ _)
  have left : visited.filter (· ∈ pass.scheduler.running.erase preempted) =
      (pass.scheduler.running.take pass.reqIndex).erase preempted := by
    rw [← here.seen, distinct.erase_eq_filter, filter_filter]
    apply filter_congr
    intro reqId _
    rw [Bool.eq_iff_iff]
    simp [once.mem_erase_iff]
  have erased : pass.scheduler.running.erase preempted =
      pass.scheduler.running.eraseIdx (pass.scheduler.running.idxOf preempted) :=
    erase_eq_eraseIdx_of_idxOf rfl
  suffices kept : (pass.scheduler.running.erase preempted).take next.reqIndex =
        (pass.scheduler.running.take pass.reqIndex).erase preempted ∧
      (pass.scheduler.running.erase preempted)[next.reqIndex]? = some reqId by
    rw [← running] at kept left
    exact ⟨⟨here.toTracks.preempt policy here.ordered found taken kept.1, retained.here.ordered,
      left.trans kept.1.symm⟩, kept.2⟩
  by_cases scheduled : preempted ∈ pass.scheduledRunningReqs
  · -- The victim is before the request, and the index moves with the request.
    obtain ⟨i, counted, early⟩ := index_pos here.ordered scheduled
    rw [if_pos scheduled, counted] at index
    rw [counted] at place
    rw [index, counted]
    refine ⟨take_erase early, ?_⟩
    rw [mem_take_iff_idxOf_lt member] at early
    rw [erased, getElem?_eraseIdx, if_neg (by omega)]
    exact place
  · -- The victim is behind the request.
    have late := keeps.resolve_left scheduled
    have apart : pass.scheduler.running.idxOf preempted ≠ pass.reqIndex := by
      intro same
      rw [← same, getElem?_idxOf member] at place
      exact other (Option.some.inj place)
    rw [if_neg scheduled] at index
    rw [index, erase_of_not_mem late, erased]
    rw [mem_take_iff_idxOf_lt member] at late
    rw [take_eraseIdx_eq_take_of_le _ _ _ (by omega), getElem?_eraseIdx, if_pos (by omega)]
    exact ⟨rfl, place⟩

section

variable (places : KeepsPlaces answers deferPrefills start) (policy : start.config.policy = .priority)
  (known : ∀ reqId ∈ start.running, (start.requests.lookup reqId).isSome)

include places policy known

theorem Visiting.allocateRunning {after : Pass}
    (here : Visiting answers deferPrefills start visited reqId pass)
    (allocates : MayAllocate answers deferPrefills start reqId)
    (taken : pass.allocateRunning answers reqId = .ok (true, after)) :
    Visiting answers deferPrefills start visited reqId after := by
  refine iterate_result (Visiting answers deferPrefills start visited reqId)
    (fun result => result.1 = true → Visiting answers deferPrefills start visited reqId result.2)
    ?_ here taken rfl
  intro pass outcome here round
  unfold allocateRound at round
  dsimp only at round
  have counted : Visiting answers deferPrefills start visited reqId pass.countAllocation :=
    ⟨⟨⟨here.config, here.currentStep, here.running, here.record, here.behind⟩,
      here.ordered.of_same rfl rfl rfl, here.seen⟩, here.place⟩
  have byPriority : pass.scheduler.config.policy = .priority := here.config ▸ policy
  split_ifs at round with allocated
  · cases round
    exact fun _ => counted
  · have apart := places.resolve_left fun all => allocated (all _)
    cases found : pass.countAllocation.victim with
    | none =>
      rw [found] at round
      cases round
    | some preempted =>
      rw [found] at round
      obtain ⟨next, taken, round⟩ := bind_eq_ok.mp round
      split_ifs at round with same
      · cases round
        exact nofun
      · cases round
        have keeps := counted.keeps byPriority known apart allocates found
        exact counted.preempt byPriority found keeps taken same

theorem Visited.runningRound {outcome : Round Pass Pass}
    (before : Visited answers deferPrefills start visited pass)
    (succeeds : pass.Succeeds answers deferPrefills)
    (round : pass.runningRound answers deferPrefills = .ok outcome) :
    outcome.Holds (Visited answers deferPrefills start (visited ++ pass.considered.toList))
      (VisitedAll answers deferPrefills start (visited ++ pass.considered.toList)) := by
  unfold Pass.runningRound at round
  cases place : pass.scheduler.running[pass.reqIndex]? with
  | none =>
    rw [place] at round
    cases round
    have none : pass.considered = none := by simp [considered, place]
    rw [none]
    exact fun _ => ⟨by simpa using before, getElem?_eq_none_iff.mp place⟩
  | some reqId =>
    rw [place] at round
    split_ifs at round with spent
    · cases round
      exact fun left => absurd spent (by omega)
    · have current : pass.considered = some reqId := by simp [considered, place, spent]
      have here : Visiting answers deferPrefills start visited reqId pass := ⟨before, place⟩
      simp only [bind_eq_ok] at round
      obtain ⟨request, found, round⟩ := round
      -- The request is not scheduled yet, so that its record is still the one of the start.
      have fresh := (before.ordered.at place).fresh
      have recorded : start.requests.lookup reqId = some request := by
        rw [← Scheduler.request_eq_ok.mp found, before.record reqId (mem_of_getElem? place), if_neg fresh]
      have passesOver_eq : passesOver pass.scheduler deferPrefills request =
          passesOver start deferPrefills request := by
        unfold passesOver
        rw [before.currentStep]
      rw [passesOver_eq, before.config] at round
      have left : pass.tokenBudget > 0 := by omega
      rw [current]
      split_ifs at round with passed empty
      · cases round
        exact here.skipRunning ⟨request, recorded, .inl passed⟩
      · cases round
        exact here.skipRunning ⟨request, recorded, .inr ⟨_, left, empty⟩⟩
      · have allocates : pass.allocatesFor answers deferPrefills = some reqId := by
          simp [allocatesFor, current, found, passesOver_eq, before.config, passed, empty]
        obtain ⟨⟨allocated, after⟩, run, round⟩ := bind_eq_ok.mp round
        cases allocated with
        | false => exact absurd (by rw [run]; rfl) (succeeds reqId allocates)
        | true =>
          obtain ⟨again, foundAgain, round⟩ := bind_eq_ok.mp round
          cases round
          have mayAllocate : MayAllocate answers deferPrefills start reqId :=
            ⟨request, recorded, by simpa using passed, _, left, empty⟩
          exact (here.allocateRunning places policy known mayAllocate run).scheduleRunning foundAgain

end

theorem running_visited_once (scheduler : Scheduler) (policy : scheduler.config.policy = .priority)
    (once : scheduler.running.Nodup)
    (known : ∀ reqId ∈ scheduler.running, (scheduler.requests.lookup reqId).isSome)
    (places : KeepsPlaces answers deferPrefills scheduler.beginPass.scheduler)
    (ran : scheduler.beginPass.scheduleRunningRequests answers deferPrefills = .ok next)
    (left : 0 < next.tokenBudget)
    (succeed : ∀ pass ∈ scheduler.beginPass.runningRounds answers deferPrefills,
      pass.Succeeds answers deferPrefills) :
    ∀ reqId ∈ next.scheduler.running,
      (scheduler.beginPass.visits answers deferPrefills).count reqId = 1 := by
  have start : Visited answers deferPrefills scheduler.beginPass.scheduler [] scheduler.beginPass :=
    ⟨⟨rfl, rfl, .refl _, fun _ _ => rfl, nofun⟩, ⟨once, nofun, nodup_nil⟩, rfl⟩
  have kept := iterate_rounds (Succeeds answers deferPrefills)
    (fun history => Visited answers deferPrefills _ (history.filterMap considered))
    (fun history => VisitedAll answers deferPrefills _ (history.filterMap considered))
    (fun history pass outcome before succeeds round => by
      have visits : [pass].filterMap considered = pass.considered.toList := by
        cases seen : pass.considered <;> simp [seen]
      rw [filterMap_append, visits]
      exact before.runningRound places policy known succeeds round)
    [] start succeed ran
  obtain ⟨visited, ended⟩ := kept left
  intro reqId member
  have seen := visited.seen
  rw [take_of_length_le ended] at seen
  calc (scheduler.beginPass.visits answers deferPrefills).count reqId
    _ = ((scheduler.beginPass.visits answers deferPrefills).filter
          (· ∈ next.scheduler.running)).count reqId := (count_filter (by simpa using member)).symm
    _ = next.scheduler.running.count reqId := congrArg (count reqId) seen
    _ = 1 := count_eq_one_of_mem visited.ordered.once member

def decoding (reqId : RequestId) (priority : Int) (maxTokens : Nat) : SchedRequest :=
  { SchedRequest.create
      { EngineCore.session with requestId := reqId, priority := priority, maxTokens := maxTokens } with
    status := .running
    numComputedTokens := 1
    numOutputPlaceholders := 1 }

def threeRunning (first last : Int) : Scheduler :=
  { Scheduler.create { EngineCore.asyncConfig with policy := .priority } with
    requests := ((AList.insert 0 (decoding 0 first 1) ∅).insert 1 (decoding 1 0 8)).insert 2
      (decoding 2 last 8)
    running := [0, 1, 2] }

def fullOnce : ScheduleAnswers :=
  { EngineCore.roomy with allocateSlots := fun allocation => decide (allocation ≠ 0) }

theorem running_visited_once_last_preempted :
    ∃ next, (threeRunning (-1) 1).beginPass.scheduleRunningRequests fullOnce false = .ok next ∧
      ∀ reqId ∈ next.scheduler.running,
        ((threeRunning (-1) 1).beginPass.visits fullOnce false).count reqId = 1 := by
  have rising : (threeRunning (-1) 1).running.Pairwise fun skipped reqId =>
      greatest.later (threeRunning (-1) 1).requests skipped reqId = true := by decide
  exact ⟨_, rfl, running_visited_once _ rfl (by decide) (by decide)
    (.inr (rising.imp fun later _ _ => later)) rfl (by decide +kernel) (by decide +kernel)⟩

-- The first request is preempted for the second one, and the third one is not considered.
theorem running_passed_over :
    ∃ next, (threeRunning 1 0).beginPass.scheduleRunningRequests fullOnce false = .ok next ∧
      0 < next.tokenBudget ∧
      (∀ pass ∈ (threeRunning 1 0).beginPass.runningRounds fullOnce false,
        pass.Succeeds fullOnce false) ∧
      2 ∈ next.scheduler.running ∧ 2 ∉ (threeRunning 1 0).beginPass.visits fullOnce false :=
  ⟨_, rfl, by decide +kernel, by decide +kernel, by decide +kernel, by decide +kernel⟩

end VllmEngine.Sched.Pass

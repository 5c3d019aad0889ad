import VllmEngine.Sched.UpdateFromOutput
import VllmEngine.Shared.Run

set_option autoImplicit false

namespace VllmEngine.Sched

structure EngineCore where
  scheduler : Scheduler
  inFlight : List SchedulerOutput

inductive EngineCall where
  | addRequest (answers : FreeAnswers) (new : NewRequest)
  | schedule (answers : ScheduleAnswers)
  | updateFromOutput (result : StepResult)
  | updateDraftTokenIds (drafts : List (RequestId × List Int))
  | finishRequests (answers : FreeAnswers) (ids : List RequestId) (finishedStatus : RequestStatus)
  | resetPrefixCache (resetRunningRequests : Bool) (blocks : RequestId → List GpuBlockId)
  | setPauseState (pauseState : PauseState)

namespace EngineCore

def create (config : SchedulerConfig) : EngineCore where
  scheduler := .create config
  inFlight := []

def withScheduler (engine : EngineCore) (scheduler : Scheduler) : EngineCore :=
  { engine with scheduler := scheduler }

-- `error none` is a call that the engine does not make.
def step (engine : EngineCore) : EngineCall → Except (Option PyError) EngineCore
  | .addRequest answers new =>
    ((engine.scheduler.addRequest answers (.create new)).mapError some).map engine.withScheduler
  | .schedule answers =>
    ((engine.scheduler.schedule answers).mapError some).map fun scheduled =>
      { scheduler := scheduled.2, inFlight := engine.inFlight ++ [scheduled.1] }
  | .updateFromOutput result =>
    match engine.inFlight with
    | [] => .error none
    | output :: later =>
      ((engine.scheduler.updateFromOutput output result).mapError some).map fun scheduler =>
        { scheduler := scheduler, inFlight := later }
  | .updateDraftTokenIds drafts =>
    .ok (engine.withScheduler (engine.scheduler.updateDraftTokenIds drafts))
  | .finishRequests answers ids finishedStatus =>
    ((engine.scheduler.finishRequests answers ids finishedStatus).mapError some).map
      engine.withScheduler
  | .resetPrefixCache resetRunningRequests blocks =>
    if resetRunningRequests then
      ((engine.scheduler.resetRunningRequests blocks).mapError some).map engine.withScheduler
    else .ok engine
  | .setPauseState pauseState =>
    .ok (engine.withScheduler { engine.scheduler with pauseState := pauseState })

inductive Steps (engine : EngineCore) : EngineCall → EngineCore → Prop
  | addRequest {answers : FreeAnswers} {new : NewRequest} {scheduler : Scheduler}
      (added : engine.scheduler.addRequest answers (.create new) = .ok scheduler) :
      Steps engine (.addRequest answers new) (engine.withScheduler scheduler)
  | schedule {answers : ScheduleAnswers} {output : SchedulerOutput} {scheduler : Scheduler}
      (scheduled : engine.scheduler.schedule answers = .ok (output, scheduler)) :
      Steps engine (.schedule answers) ⟨scheduler, engine.inFlight ++ [output]⟩
  | updateFromOutput {result : StepResult} {output : SchedulerOutput}
      {later : List SchedulerOutput} {scheduler : Scheduler}
      (inFlight : engine.inFlight = output :: later)
      (updated : engine.scheduler.updateFromOutput output result = .ok scheduler) :
      Steps engine (.updateFromOutput result) ⟨scheduler, later⟩
  | updateDraftTokenIds (drafts : List (RequestId × List Int)) :
      Steps engine (.updateDraftTokenIds drafts)
        (engine.withScheduler (engine.scheduler.updateDraftTokenIds drafts))
  | finishRequests {answers : FreeAnswers} {ids : List RequestId}
      {finishedStatus : RequestStatus} {scheduler : Scheduler}
      (finished : engine.scheduler.finishRequests answers ids finishedStatus = .ok scheduler) :
      Steps engine (.finishRequests answers ids finishedStatus) (engine.withScheduler scheduler)
  | resetRunning {blocks : RequestId → List GpuBlockId} {scheduler : Scheduler}
      (reset : engine.scheduler.resetRunningRequests blocks = .ok scheduler) :
      Steps engine (.resetPrefixCache true blocks) (engine.withScheduler scheduler)
  | resetCache (blocks : RequestId → List GpuBlockId) :
      Steps engine (.resetPrefixCache false blocks) engine
  | setPauseState (pauseState : PauseState) :
      Steps engine (.setPauseState pauseState)
        (engine.withScheduler { engine.scheduler with pauseState := pauseState })

theorem ok_of_lift {A B : Type} {outcome : Except PyError A} {change : A → B} {result : B}
    (taken : (outcome.mapError some).map change = .ok result) :
    ∃ value, outcome = .ok value ∧ result = change value := by
  cases outcome with
  | error error => cases taken
  | ok value =>
    cases taken
    exact ⟨value, rfl, rfl⟩

theorem steps_of_step {engine next : EngineCore} {call : EngineCall}
    (taken : engine.step call = .ok next) : engine.Steps call next := by
  cases call with
  | addRequest answers new =>
    obtain ⟨scheduler, added, rfl⟩ := ok_of_lift taken
    exact .addRequest added
  | schedule answers =>
    obtain ⟨⟨output, scheduler⟩, scheduled, rfl⟩ := ok_of_lift taken
    exact .schedule scheduled
  | updateFromOutput result =>
    simp only [step] at taken
    split at taken
    · cases taken
    · rename_i output later inFlight
      obtain ⟨scheduler, updated, rfl⟩ := ok_of_lift taken
      exact .updateFromOutput inFlight updated
  | updateDraftTokenIds drafts =>
    cases taken
    exact .updateDraftTokenIds drafts
  | finishRequests answers ids finishedStatus =>
    obtain ⟨scheduler, finished, rfl⟩ := ok_of_lift taken
    exact .finishRequests finished
  | resetPrefixCache resetRunningRequests blocks =>
    cases resetRunningRequests with
    | true =>
      obtain ⟨scheduler, reset, rfl⟩ := ok_of_lift taken
      exact .resetRunning reset
    | false =>
      cases taken
      exact .resetCache blocks
  | setPauseState pauseState =>
    cases taken
    exact .setPauseState pauseState

end EngineCore

end VllmEngine.Sched

import Gatehouse.Pipeline.Seal

/-!
# Walking a visit through a pipeline

A walk takes a visit from guard to guard. Each step records the guard, the visit
it was shown and its reaction, and the next guard is shown the visit that the
reaction left. The walk ends with the first guard that does not let the request go
on, or with the last guard.

All that can be asked of a run is read off this list of steps: how it ended, how
the visit was left, and what was logged. A visit takes one walk in its life: a
run leaves it terminated however it ends, and a terminated visit is turned away
without a step.
-/

namespace Gatehouse

open Http

/-- One guard's turn. -/
structure Step where
  stage : Registration
  /-- The visit as the guard was shown it. -/
  seen : Visit
  reaction : Reaction

/-- How a walk ends. -/
inductive Ending where
  /-- All guards let the request go on. -/
  | exhausted
  /-- A guard answered the request. -/
  | answered (response : Response)
  /-- A guard failed. -/
  | failed (guard : String) (fault : Fault)
  deriving DecidableEq, Repr

namespace Step

/-- The visit as the guard left it. -/
def left (step : Step) : Visit := step.reaction.left

/-- How the walk ends if it ends with this step. -/
def ending (step : Step) : Ending :=
  match step.reaction.outcome with
  | .ok .proceed => .exhausted
  | .ok (.answer response) => .answered response
  | .error fault => .failed step.stage.name fault

/-- What is logged before the guard sees the request. -/
def opening (step : Step) : Event := .applying step.stage.name step.stage.priority

/-- What is logged after a guard that does not let the request go on. The line about an answer
shows the request as the guard left it. -/
def closing (step : Step) : List Event :=
  match step.ending with
  | .exhausted => []
  | .answered response =>
    [.aborted step.stage.name response.status step.left.method step.left.path]
  | .failed guard fault => [.failed guard fault.message]

/-- What is logged during the guard's turn. -/
def events (step : Step) : List Event := step.opening :: (step.reaction.events ++ step.closing)

/-- The guard and its verdict in short. -/
def summary (step : Step) : String :=
  match step.ending with
  | .exhausted => s!"{step.stage.name}=Continue"
  | .answered response => s!"{step.stage.name}=Abort({response.status.text})!"
  | .failed guard fault => s!"{guard}=Error({fault.message})"

end Step

/-- The steps of a visit through the guards of `stages`. -/
def walk : List Registration → Visit → List Step
  | [], _ => []
  | stage :: rest, visit =>
    let step : Step := ⟨stage, visit, stage.guard.react visit⟩
    match step.reaction.outcome with
    | .ok .proceed => step :: walk rest step.left
    | _ => [step]

namespace Walk

/-- How a walk ended; without a step, it found no guard. -/
def ending (steps : List Step) : Ending := (steps.getLast?.map Step.ending).getD .exhausted

/-- The visit as the last guard left it; without a step, as it came. -/
def final (visit : Visit) (steps : List Step) : Visit := (steps.getLast?.map Step.left).getD visit

/-- What was logged on the way. -/
def events (steps : List Step) : List Event := steps.flatMap Step.events

end Walk

/-- A run of a pipeline, with all that came of it. -/
structure Run where
  steps : List Step
  /-- The answer of a guard, or nothing if the request may go on to its page. -/
  result : Except PipelineError (Option Response)
  /-- The visit after the run. -/
  visit : Visit

/-- What was logged during a run. -/
def Run.events (run : Run) : List Event := Walk.events run.steps

/-- What an ending means for the caller of the pipeline. -/
def Ending.result : Ending → Except PipelineError (Option Response)
  | exhausted => .ok none
  | answered response => .ok (some response)
  | failed guard fault => .error (.guardFailed guard fault)

/-- Runs a pipeline on a visit. -/
def Pipeline.run (pipeline : Pipeline) (visit : Visit) : Run :=
  if visit.isTerminated then ⟨[], .error .alreadyTerminated, visit⟩
  else
    let steps := walk pipeline.stages visit
    ⟨steps, (Walk.ending steps).result, (Walk.final visit steps).terminate⟩

/-! ## A walk takes a first part of the guards, in their order -/

theorem walk_cons_of_proceed {stage : Registration} {rest : List Registration} {visit : Visit}
    (h : (stage.guard.react visit).outcome = .ok .proceed) :
    walk (stage :: rest) visit =
      ⟨stage, visit, stage.guard.react visit⟩
        :: walk rest (stage.guard.react visit).left := by
  rw [walk]; simp only [h]; rfl

theorem walk_cons_of_stop {stage : Registration} {rest : List Registration} {visit : Visit}
    (h : (stage.guard.react visit).outcome ≠ .ok .proceed) :
    walk (stage :: rest) visit = [⟨stage, visit, stage.guard.react visit⟩] := by
  rw [walk]
  split
  · rename_i he
    exact absurd he h
  · rfl

theorem walk_isPrefix (stages : List Registration) (visit : Visit) :
    ((walk stages visit).map Step.stage).IsPrefix stages := by
  induction stages generalizing visit with
  | nil => exact List.nil_prefix
  | cons stage rest ih =>
    by_cases h : (stage.guard.react visit).outcome = .ok .proceed
    · rw [walk_cons_of_proceed h]
      exact (List.prefix_cons_inj stage).2 (ih _)
    · rw [walk_cons_of_stop h]
      exact (List.prefix_cons_inj stage).2 List.nil_prefix

/-- A visit that has been through a pipeline is turned away untouched. -/
theorem Pipeline.run_of_terminated (pipeline : Pipeline) {visit : Visit}
    (h : visit.isTerminated = true) :
    pipeline.run visit = ⟨[], .error .alreadyTerminated, visit⟩ := by
  rw [Pipeline.run, if_pos h]

end Gatehouse

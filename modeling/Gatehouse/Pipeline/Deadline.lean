import Gatehouse.Pipeline.Walk

/-!
# Deadlines

A request has one span of time for all guards together. Guards are timed one
after the other: a step counts as finished if it ends no later than the deadline,
and the first step that does not is interrupted and comes to nothing. No guard and
no page runs after it.
-/

namespace Gatehouse

/-- How far a walk gets before its deadline. -/
structure Progress where
  finished : List Step
  /-- The step that the deadline interrupts. -/
  interrupted : Option Step

/-- The progress of a walk within `limit` milliseconds. -/
def progress (limit : Nat) : List Step → Progress
  | [] => ⟨[], none⟩
  | step :: rest =>
    if step.reaction.delay ≤ limit then
      let later := progress (limit - step.reaction.delay) rest
      { later with finished := step :: later.finished }
    else ⟨[], some step⟩

/-- What is logged until the deadline; an interrupted guard has only been announced. -/
def Progress.events (progress : Progress) : List Event :=
  Walk.events progress.finished ++ (progress.interrupted.map Step.opening).toList

/-! ## How long a walk takes, and where it is cut -/

/-- How long the guards take for their turns, one after the other. -/
def timeOf : List Step → Nat
  | [] => 0
  | step :: rest => step.reaction.delay + timeOf rest

@[simp] theorem timeOf_nil : timeOf [] = 0 := rfl

@[simp] theorem timeOf_cons (step : Step) (rest : List Step) :
    timeOf (step :: rest) = step.reaction.delay + timeOf rest := rfl

@[simp] theorem timeOf_append (first second : List Step) :
    timeOf (first ++ second) = timeOf first + timeOf second := by
  induction first with
  | nil => exact (Nat.zero_add _).symm
  | cons step first ih => rw [List.cons_append, timeOf_cons, timeOf_cons, ih, Nat.add_assoc]

/-- A walk that is over by the deadline is not interrupted. -/
theorem not_interrupted_of_le {limit : Nat} {steps : List Step} (h : timeOf steps ≤ limit) :
    (progress limit steps).interrupted = none := by
  induction steps generalizing limit with
  | nil => rfl
  | cons step rest ih =>
    rw [timeOf_cons] at h
    have hstep : step.reaction.delay ≤ limit := by omega
    rw [progress, if_pos hstep]
    exact ih (by omega)

/-- Otherwise the deadline passes during one turn, and the walk is cut before it. -/
theorem progress_cut {limit : Nat} {before after : List Step} {step : Step}
    (hbefore : timeOf before ≤ limit) (hstep : limit < timeOf before + step.reaction.delay) :
    progress limit (before ++ step :: after) = ⟨before, some step⟩ := by
  induction before generalizing limit with
  | nil =>
    rw [timeOf_nil, Nat.zero_add] at hstep
    rw [List.nil_append, progress, if_neg (Nat.not_le.mpr hstep)]
  | cons first before ih =>
    rw [timeOf_cons] at hbefore hstep
    have hfirst : first.reaction.delay ≤ limit := by omega
    rw [List.cons_append, progress, if_pos hfirst, ih (by omega) (by omega)]

/-- A walk that takes too long has such a turn. -/
theorem exists_cut {limit : Nat} {steps : List Step} (h : limit < timeOf steps) :
    ∃ before step after, steps = before ++ step :: after ∧ timeOf before ≤ limit
      ∧ limit < timeOf before + step.reaction.delay := by
  induction steps generalizing limit with
  | nil => exact absurd h (Nat.not_lt_zero limit)
  | cons first rest ih =>
    rw [timeOf_cons] at h
    by_cases hfirst : first.reaction.delay ≤ limit
    · -- the rest has what this turn leaves of the time
      obtain ⟨before, step, after, rfl, hbefore, hstep⟩ :=
        @ih (limit - first.reaction.delay) (by omega)
      refine ⟨first :: before, step, after, rfl, ?_, ?_⟩
      · rw [timeOf_cons]; omega
      · rw [timeOf_cons]; omega
    · exact ⟨[], first, rest, rfl, Nat.zero_le limit, by rw [timeOf_nil]; omega⟩

end Gatehouse

import Gatehouse.Pipeline.Script
import Gatehouse.Pipeline.Walk

/-!
# What a run does to a visit

A walk is a list of turns, and two facts pin it down: it takes guards from the
front of the pipeline (`walk_isPrefix`), and each guard is shown the visit as the
guard before it left it (`walk_linked`). Where it stops is the third fact: every
turn but the last let the request go on, and if the last one did so too then no
guard is left (`walk_proceeds`, `walk_complete`).

`Orderly` puts the three together with what the run reports. Nothing is said there
about which of the three exits a run takes, because that is the last guard's
choice; each exit reports that guard's outcome word for word, and each of them
closes the visit.
-/

namespace Gatehouse.Proofs

open Gatehouse Http

/-- Each guard reacts to the visit as the guard before it left it, the first one to `visit`. -/
def Linked (visit : Visit) : List Step → Prop
  | [] => True
  | step :: rest =>
    step.seen = visit ∧ step.reaction = step.stage.guard.react visit ∧ Linked step.left rest

/-- A visit after guards that reacted to it one after another. -/
def afterGuards (stages : List Registration) (visit : Visit) : Visit :=
  stages.foldl (fun v stage => (stage.guard.react v).left) visit

/-! ## Each guard is shown what the one before it left -/

theorem walk_linked (stages : List Registration) (visit : Visit) :
    Linked visit (walk stages visit) := by
  induction stages generalizing visit with
  | nil => trivial
  | cons stage rest ih =>
      by_cases h : (stage.guard.react visit).outcome = .ok .proceed
      · rw [walk_cons_of_proceed h]
        exact ⟨rfl, rfl, ih _⟩
      · rw [walk_cons_of_stop h]
        exact ⟨rfl, rfl, trivial⟩

/-- In a linked row of turns, a guard is shown the visit with all that was done to it before. -/
theorem linked_seen {before after : List Step} {step : Step} {visit : Visit}
    (h : Linked visit (before ++ step :: after)) :
    step.seen = afterGuards (before.map Step.stage) visit := by
  induction before generalizing visit with
  | nil => exact h.1
  | cons first before ih =>
      obtain ⟨hseen, hreaction, hrest⟩ := h
      have hleft : first.left = (first.stage.guard.react visit).left := by
        rw [Step.left, hreaction]
      rw [hleft] at hrest
      exact ih hrest

/-- In a linked row of turns, each guard reacts to what it is shown. -/
theorem linked_step {steps : List Step} {visit : Visit} (h : Linked visit steps) :
    ∀ step ∈ steps, step.reaction = step.stage.guard.react step.seen := by
  induction steps generalizing visit with
  | nil => intro step hs; exact absurd hs (by simp)
  | cons first rest ih =>
      obtain ⟨hseen, hreaction, hrest⟩ := h
      intro step hs
      rcases List.mem_cons.mp hs with rfl | hs
      · rw [hseen]
        exact hreaction
      · exact ih hrest step hs

/-! ## Where a walk stops -/

/-- A walk begins with the first guard. -/
theorem walk_cons (stage : Registration) (rest : List Registration) (visit : Visit) :
    ∃ later, walk (stage :: rest) visit = ⟨stage, visit, stage.guard.react visit⟩ :: later := by
  by_cases h : (stage.guard.react visit).outcome = .ok .proceed
  · exact ⟨_, walk_cons_of_proceed h⟩
  · exact ⟨[], walk_cons_of_stop h⟩

theorem walk_ne_nil {stage : Registration} {rest : List Registration} {visit : Visit} :
    walk (stage :: rest) visit ≠ [] := by
  obtain ⟨later, hlater⟩ := walk_cons stage rest visit
  rw [hlater]
  exact List.cons_ne_nil _ _

/-- Every guard but the last of a walk let the request go on. -/
theorem walk_proceeds (stages : List Registration) (visit : Visit) :
    ∀ step ∈ (walk stages visit).dropLast, step.reaction.outcome = .ok .proceed := by
  induction stages generalizing visit with
  | nil => intro step hs; exact absurd hs (by simp [walk])
  | cons stage rest ih =>
      by_cases h : (stage.guard.react visit).outcome = .ok .proceed
      · rw [walk_cons_of_proceed h]
        intro step hs
        cases rest with
        | nil => exact absurd hs (by simp [walk])
        | cons next rest =>
            -- another guard has a turn, so this one is not the last
            rw [List.dropLast_cons_of_ne_nil walk_ne_nil] at hs
            rcases List.mem_cons.mp hs with rfl | hs
            · exact h
            · exact ih _ step hs
      · rw [walk_cons_of_stop h]
        intro step hs
        exact absurd hs (by simp)

theorem walk_proceeds_before {stages : List Registration} {visit : Visit}
    {before after : List Step} {step : Step}
    (h : walk stages visit = before ++ step :: after) :
    ∀ earlier ∈ before, earlier.reaction.outcome = .ok .proceed := by
  intro earlier hearlier
  have hmem : earlier ∈ (walk stages visit).dropLast := by
    rw [h, List.dropLast_append_of_ne_nil (List.cons_ne_nil step after)]
    exact List.mem_append_left _ hearlier
  exact walk_proceeds stages visit earlier hmem

/-- A walk whose last guard let the request go on has been to all of them. -/
theorem walk_complete {stages : List Registration} {visit : Visit}
    (h : ∀ last ∈ (walk stages visit).getLast?, last.reaction.outcome = .ok .proceed) :
    (walk stages visit).map Step.stage = stages := by
  induction stages generalizing visit with
  | nil => rfl
  | cons stage rest ih =>
      by_cases hp : (stage.guard.react visit).outcome = .ok .proceed
      · rw [walk_cons_of_proceed hp] at h ⊢
        rw [List.map_cons]
        refine congrArg (List.cons stage) (ih ?_)
        intro last hlast
        cases rest with
        | nil => exact absurd hlast (by simp [walk])
        | cons next rest =>
            refine h last ?_
            rw [List.getLast?_cons_of_ne_nil walk_ne_nil]
            exact hlast
      · rw [walk_cons_of_stop hp] at h
        exact absurd (h _ rfl) hp

/-! ## What the turns of a run say -/

theorem run_of_running (pipeline : Pipeline) {visit : Visit} (h : visit.state = .running) :
    pipeline.run visit =
      ⟨walk pipeline.stages visit, (Walk.ending (walk pipeline.stages visit)).result,
        (Walk.final visit (walk pipeline.stages visit)).terminate⟩ := by
  have hrunning : ¬ visit.isTerminated = true := by rw [Visit.isTerminated, h]; decide
  rw [Pipeline.run, if_neg hrunning]

theorem run_steps (pipeline : Pipeline) (visit : Visit) :
    (pipeline.run visit).steps = walk pipeline.stages visit ∨ (pipeline.run visit).steps = [] := by
  -- a visit that came too late has no turn at all
  cases h : visit.state with
  | running => rw [run_of_running pipeline h]; exact .inl rfl
  | terminated =>
      rw [pipeline.run_of_terminated (by rw [Visit.isTerminated, h]; rfl)]
      exact .inr rfl

theorem ending_of_getLast {steps : List Step} {last : Step} (h : last ∈ steps.getLast?) :
    Walk.ending steps = last.ending := by
  rw [Walk.ending, Option.mem_def.mp h]; rfl

/-- A turn that let the request go on has no part in how the walk ended. -/
theorem ending_cons_of_proceed {step : Step} {steps : List Step}
    (h : step.reaction.outcome = .ok .proceed) :
    Walk.ending (step :: steps) = Walk.ending steps := by
  cases steps with
  | nil => simp only [Walk.ending, List.getLast?_singleton, Option.map_some, Step.ending, h]; rfl
  | cons next steps => rw [Walk.ending, List.getLast?_cons_cons, Walk.ending]

theorem final_cons (visit : Visit) (step : Step) (steps : List Step) :
    Walk.final visit (step :: steps) = Walk.final step.left steps := by
  cases steps with
  | nil => rfl
  | cons next steps =>
      rw [Walk.final, List.getLast?_cons_cons, Walk.final]
      cases h : (next :: steps).getLast? with
      | none => exact absurd (List.getLast?_eq_none_iff.mp h) (List.cons_ne_nil next steps)
      | some last => rfl

/-- A guard is shown what the turns before it come to. -/
theorem linked_before {before after : List Step} {step : Step} {visit : Visit}
    (h : Linked visit (before ++ step :: after)) :
    Linked visit before ∧ step.seen = Walk.final visit before := by
  induction before generalizing visit with
  | nil => exact ⟨trivial, h.1⟩
  | cons first before ih =>
      obtain ⟨hseen, hreaction, hrest⟩ := h
      obtain ⟨hlinked, hfinal⟩ := ih hrest
      exact ⟨⟨hseen, hreaction, hlinked⟩, hfinal.trans (final_cons visit first before).symm⟩

/-- Guards that let a request go on do so again, and others can follow them. -/
theorem walk_again {turns : List Step} {visit : Visit} (hlinked : Linked visit turns)
    (hgo : ∀ turn ∈ turns, turn.reaction.outcome = .ok .proceed) (others : List Registration) :
    walk (turns.map Step.stage ++ others) visit =
      turns ++ walk others (Walk.final visit turns) := by
  induction turns generalizing visit with
  | nil => rfl
  | cons first turns ih =>
      obtain ⟨hseen, hreaction, hrest⟩ := hlinked
      have hfirst : (first.stage.guard.react visit).outcome = .ok .proceed :=
        hreaction ▸ hgo first List.mem_cons_self
      have hturn : ⟨first.stage, visit, first.stage.guard.react visit⟩ = first := by
        rw [← hreaction, ← hseen]
      have hleft : (first.stage.guard.react visit).left = first.left := by
        rw [Step.left, hreaction]
      have hlater := ih hrest (fun turn hturn => hgo turn (List.mem_cons_of_mem first hturn))
      rw [List.map_cons, List.cons_append, walk_cons_of_proceed hfirst, hturn, hleft, hlater,
        final_cons, List.cons_append]

/-- The last turn says what the run reports and how the visit is left. -/
theorem run_last {pipeline : Pipeline} {visit : Visit} (hv : visit.state = .running) {last : Step}
    (hlast : last ∈ (pipeline.run visit).steps.getLast?) :
    (pipeline.run visit).result = last.ending.result
      ∧ (pipeline.run visit).visit = last.left.terminate := by
  rw [run_of_running pipeline hv] at hlast ⊢
  refine ⟨?_, ?_⟩
  · rw [ending_of_getLast hlast]
  · rw [Walk.final, Option.mem_def.mp hlast]; rfl

theorem walk_singleton (stage : Registration) (visit : Visit) :
    walk [stage] visit = [⟨stage, visit, stage.guard.react visit⟩] := by
  by_cases h : (stage.guard.react visit).outcome = .ok .proceed
  · rw [walk_cons_of_proceed h]; rfl
  · rw [walk_cons_of_stop h]

/-- When the first guard answers, that is the whole run. -/
theorem run_of_answer {stage : Registration} {rest : List Registration} {visit : Visit}
    {events : List Event} {response : Response} (hv : visit.state = .running)
    (h : stage.guard.react visit = .answer visit events response) :
    (Pipeline.mk (stage :: rest)).run visit =
      ⟨[⟨stage, visit, .answer visit events response⟩], .ok (some response), visit.terminate⟩ := by
  have hstop : (stage.guard.react visit).outcome ≠ .ok .proceed := by
    rw [h, Reaction.answer]; simp
  rw [run_of_running _ hv, walk_cons_of_stop hstop, h]; rfl

/-- When the first of two guards lets the request go on, the second has the last word. -/
theorem run_of_proceed {first second : Registration} {visit left : Visit}
    {events : List Event} {reaction : Reaction} (hv : visit.state = .running)
    (h : first.guard.react visit = .proceed left events)
    (h' : second.guard.react left = reaction) :
    (Pipeline.mk [first, second]).run visit =
      let last : Step := ⟨second, left, reaction⟩
      ⟨[⟨first, visit, .proceed left events⟩, last], last.ending.result,
        last.left.terminate⟩ := by
  have hgo : (first.guard.react visit).outcome = .ok .proceed := by rw [h]; rfl
  rw [run_of_running _ hv, walk_cons_of_proceed hgo, h, walk_singleton]
  subst h'; rfl

/-! ## What a run reports -/

/-- What is promised of a run of `pipeline` on `visit` in which `k` guards take a turn. -/
structure Orderly (pipeline : Pipeline) (visit : Visit) (k : Nat) (run : Run) : Prop where
  /-- They are the first `k` guards, each once and in order. -/
  stages : run.steps.map Step.stage = pipeline.stages.take k
  /-- Each is shown the visit as the one before left it. -/
  linked : Linked visit run.steps
  /-- All but the last let the request go on. -/
  before : ∀ step ∈ run.steps.dropLast, step.reaction.outcome = .ok .proceed
  /-- An answer of the last one is the result as it stands. -/
  answered : ∀ last ∈ run.steps.getLast?, ∀ response,
    last.reaction.outcome = .ok (.answer response) → run.result = .ok (some response)
  /-- A fault of the last one is reported whole, under the name of that guard. -/
  failed : ∀ last ∈ run.steps.getLast?, ∀ fault,
    last.reaction.outcome = .error fault → run.result = .error (.guardFailed last.stage.name fault)
  /-- Otherwise all guards have had their turn, and there is no answer. -/
  exhausted : (∀ last ∈ run.steps.getLast?, last.reaction.outcome = .ok .proceed) →
    k = pipeline.stages.length ∧ run.result = .ok none
  /-- The visit is as the last one left it, or as it came, but for its state. -/
  closed : run.visit =
    { (run.steps.getLast?.map Step.left).getD visit with state := .terminated }

/-- **Every run is orderly.** The guards at the front of the pipeline take their turns until one
of them does not let the request go on, and the run reports what that one made of it. -/
theorem run_orderly (pipeline : Pipeline) (visit : Visit) (h : visit.state = .running) :
    ∃ k ≤ pipeline.stages.length, Orderly pipeline visit k (pipeline.run visit) := by
  have hprefix := walk_isPrefix pipeline.stages visit
  rw [run_of_running pipeline h]
  refine ⟨((walk pipeline.stages visit).map Step.stage).length, hprefix.length_le, ?_⟩
  constructor
  case stages => exact List.prefix_iff_eq_take.mp hprefix
  case linked => exact walk_linked pipeline.stages visit
  case before => exact walk_proceeds pipeline.stages visit
  case answered =>
    intro last hlast response hr
    have hending : last.ending = .answered response := by rw [Step.ending, hr]
    rw [ending_of_getLast hlast, hending]; rfl
  case failed =>
    intro last hlast fault hf
    have hending : last.ending = .failed last.stage.name fault := by rw [Step.ending, hf]
    rw [ending_of_getLast hlast, hending]; rfl
  case exhausted =>
    intro hall
    have hwhole := walk_complete hall
    refine ⟨congrArg List.length hwhole, ?_⟩
    cases hlast : (walk pipeline.stages visit).getLast? with
    | none => rw [Walk.ending, hlast]; rfl
    | some last =>
        have hending : last.ending = .exhausted := by rw [Step.ending, hall last hlast]
        rw [ending_of_getLast hlast, hending]; rfl
  case closed => rfl

/-- A pipeline whose second guard fails. -/
def outage : Pipeline :=
  ⟨[⟨.scripted "naming" .authentication (.setPrincipal "ada"), ⟨10⟩⟩,
    ⟨.scripted "lookup" .general (.fail ⟨"lookup failed", some (.reported "reset")⟩), ⟨20⟩⟩,
    ⟨.scripted "gate" .general (.answer (.empty ⟨418⟩)), ⟨30⟩⟩]⟩

/-- The visit of a request without headers. -/
def plainVisit (path : String) : Visit := .ofRequest ⟨"GET", ⟨none, path, none⟩, []⟩

/-- The fault is reported whole, what the first guard did stays done, and the third is not asked. -/
theorem run_orderly_outage :
    (plainVisit "/").state = .running
      ∧ (∃ k ≤ outage.stages.length,
        Orderly outage (plainVisit "/") k (outage.run (plainVisit "/")))
      ∧ (outage.run (plainVisit "/")).steps.length = 2
      ∧ (outage.run (plainVisit "/")).result =
          .error (.guardFailed "lookup" ⟨"lookup failed", some (.reported "reset")⟩)
      ∧ (outage.run (plainVisit "/")).visit.caller = Caller.anonymous.setPrincipal "ada" :=
  ⟨rfl, run_orderly outage (plainVisit "/") rfl, rfl, rfl, rfl⟩

end Gatehouse.Proofs

import Gatehouse.Proofs.Authentication
import Gatehouse.Proofs.Sealing
import Gatehouse.Proofs.Session

/-!
# How checks are arranged

Two schemes can be put in front of the service in several ways: as one guard that
consults both checks, in either order, or as two guards in one pipeline, in either
order. No request can tell the arrangements apart by how it fares, because it
carries credentials of one scheme at most, and whatever has nothing to look at
keeps out of the way: among other checks it leaves no trace in the survey, and as a
guard of its own, with credentials optional, it lets the request go on as it came
(`Idle`). So every arrangement comes down to the one check that found something
(`alike_ofCheck`, `settlement?_of_idle`).

What the arrangements do not share are words. A refusal is in the name of the first
check, or of the guard that refuses, and a fault is reported under the name of its
guard. A `Settlement` leaves out that name, and `Alike` forgives the choice among
the challenges at hand and nothing else.
-/

namespace Gatehouse.Proofs

open Gatehouse Http

/-- What comes of a visit: how it goes on, and who its caller is then. -/
structure Settlement where
  outcome : Except Fault Verdict
  caller : Caller

/-- What a reaction comes to. -/
def settlementOf (reaction : Reaction) : Settlement := ⟨reaction.outcome, reaction.left.caller⟩

/-- What a run comes to, unless it failed without a guard; which guard it was does not count. -/
def settlement? (run : Run) : Option Settlement :=
  match run.result with
  | .ok none => some ⟨.ok .proceed, run.visit.caller⟩
  | .ok (some response) => some ⟨.ok (.answer response), run.visit.caller⟩
  | .error (.guardFailed _ fault) => some ⟨.error fault, run.visit.caller⟩
  | .error _ => none

/-- Two settlements that differ at most in which of these answers is given. -/
inductive Alike (answers : List Response) : Settlement → Settlement → Prop
  | proceed (caller : Caller) : Alike answers ⟨.ok .proceed, caller⟩ ⟨.ok .proceed, caller⟩
  | answer {response other : Response} (caller : Caller) : response ∈ answers → other ∈ answers →
      Alike answers ⟨.ok (.answer response), caller⟩ ⟨.ok (.answer other), caller⟩
  | fail (fault : Fault) (caller : Caller) :
      Alike answers ⟨.error fault, caller⟩ ⟨.error fault, caller⟩

theorem Alike.symm {answers : List Response} {one other : Settlement}
    (h : Alike answers one other) : Alike answers other one := by
  cases h with
  | proceed caller => exact .proceed caller
  | answer caller hone hother => exact .answer caller hother hone
  | fail fault caller => exact .fail fault caller

theorem Alike.trans {answers : List Response} {one other third : Settlement}
    (h : Alike answers one other) (h' : Alike answers other third) : Alike answers one third := by
  cases h with
  | proceed caller => exact h'
  | answer caller hone _ =>
      cases h' with
      | answer _ _ hthird => exact .answer caller hone hthird
  | fail fault caller => exact h'

theorem Alike.of_subset {answers answers' : List Response} {one other : Settlement}
    (h : Alike answers one other) (hsubset : answers ⊆ answers') : Alike answers' one other := by
  cases h with
  | proceed caller => exact .proceed caller
  | answer caller hone hother => exact .answer caller (hsubset hone) (hsubset hother)
  | fail fault caller => exact .fail fault caller

/-- A member can be singled out wherever it stands. -/
theorem exists_split_of_perm {α : Type} {xs others : List α} {x : α} (h : xs.Perm (x :: others)) :
    ∃ before after, xs = before ++ x :: after ∧ (before ++ after).Perm others := by
  obtain ⟨before, after, rfl⟩ := List.append_of_mem (h.mem_iff.mpr List.mem_cons_self)
  exact ⟨before, after, rfl, (List.perm_middle.symm.trans h).cons_inv⟩

/-! ## Checks behind one guard -/

/-- Among checks that find nothing, a check decides as it would alone. -/
theorem alike_ofCheck {visit : Visit} {checks others : List Check} {check : Check} (mode : Mode)
    (hperm : checks.Perm (check :: others)) (hothers : ∀ c ∈ others, Misses visit c) :
    Alike (checks.map (fun c => c.challenge.response))
      (settlementOf ((Guard.ofChecks checks mode).react visit))
      (settlementOf ((Guard.ofCheck check mode).react visit)) := by
  obtain ⟨before, after, hsplit, hrest⟩ := exists_split_of_perm hperm
  have hbefore : ∀ c ∈ before, Misses visit c := fun c hc =>
    hothers c (hrest.mem_iff.mp (List.mem_append_left after hc))
  have hafter : ∀ c ∈ after, Misses visit c := fun c hc =>
    hothers c (hrest.mem_iff.mp (List.mem_append_right before hc))
  have hundecided : ∀ c ∈ before, Undecided visit c := fun c hc => (hbefore c hc).undecided
  -- a refusal is in the name of the first check on one side and of this one on the other
  obtain ⟨first, rest, hfirst⟩ := List.exists_cons_of_ne_nil
    (List.ne_nil_of_mem (hperm.mem_iff.mpr List.mem_cons_self))
  have hmine : check.challenge.response ∈ checks.map (fun c => c.challenge.response) :=
    List.mem_map_of_mem (hperm.mem_iff.mpr List.mem_cons_self)
  have hchained : first.challenge.response ∈ checks.map (fun c => c.challenge.response) :=
    List.mem_map_of_mem (hfirst ▸ List.mem_cons_self)
  cases hc : check.consult visit with
  | mk events finding =>
      have hfinding : (check.consult visit).finding = finding := by rw [hc]
      cases finding with
      | error fault =>
          rw [react_of_fault mode hsplit hundecided hfinding]
          simp only [Guard.ofCheck, hc]
          exact .fail fault visit.caller
      | ok finding =>
          cases finding with
          | accepted identity =>
              rw [react_of_accepted mode hsplit hundecided hfinding]
              simp only [Guard.ofCheck, hc]
              exact .proceed _
          | rejected =>
              rw [react_of_rejected mode hfirst hsplit hbefore hafter hc]
              simp only [Guard.ofCheck, hc]
              exact .answer visit.caller hchained hmine
          | missing =>
              have hall : ∀ c ∈ checks, Undecided visit c := by
                intro c hmem
                rcases List.mem_cons.mp (hperm.mem_iff.mp hmem) with rfl | hmem
                · exact .inl hfinding
                · exact (hothers c hmem).undecided
              have hany : checks.any (rejects visit) = false := by
                have hnot : rejects visit check = false := by rw [rejects, hc]
                rw [hperm.any_eq, List.any_cons, hnot, any_rejects_of_misses hothers]
                rfl
              rw [react_of_undecided mode hfirst hall, hany]
              simp only [Guard.ofCheck, hc]
              cases mode with
              | optional => exact .proceed visit.caller
              | required => exact .answer visit.caller hchained hmine

/-! ## Guards of their own -/

/-- What guards come to one after another. -/
def settle : List Registration → Visit → Settlement
  | [], visit => ⟨.ok .proceed, visit.caller⟩
  | stage :: rest, visit =>
    let reaction := stage.guard.react visit
    match reaction.outcome with
    | .ok .proceed => settle rest reaction.left
    | outcome => ⟨outcome, reaction.left.caller⟩

theorem settle_cons_of_proceed {stage : Registration} {rest : List Registration} {visit : Visit}
    (h : (stage.guard.react visit).outcome = .ok .proceed) :
    settle (stage :: rest) visit = settle rest (stage.guard.react visit).left := by
  rw [settle]; simp only [h]

theorem settle_cons_of_stop {stage : Registration} {rest : List Registration} {visit : Visit}
    (h : (stage.guard.react visit).outcome ≠ .ok .proceed) :
    settle (stage :: rest) visit = settlementOf (stage.guard.react visit) := by
  rw [settle]
  split
  · rename_i hp
    exact absurd hp h
  · rfl

/-- A run whose last turn is `step` comes to what the guard made of it. -/
theorem settlement?_of_last (steps : List Step) (step : Step) (visit : Visit) :
    settlement? ⟨steps, (Walk.ending [step]).result, (Walk.final visit [step]).terminate⟩ =
      some (settlementOf step.reaction) := by
  have hending : Walk.ending [step] = step.ending := rfl
  rw [hending, Step.ending, settlementOf]
  cases step.reaction.outcome with
  | error fault => rfl
  | ok verdict =>
      cases verdict with
      | proceed => rfl
      | answer response => rfl

/-- A walk comes to what its guards come to, one after another. -/
theorem settlement?_walk (stages : List Registration) (visit : Visit) :
    settlement? ⟨walk stages visit, (Walk.ending (walk stages visit)).result,
      (Walk.final visit (walk stages visit)).terminate⟩ = some (settle stages visit) := by
  induction stages generalizing visit with
  | nil => rfl
  | cons stage rest ih =>
      by_cases hp : (stage.guard.react visit).outcome = .ok .proceed
      · simp only [walk_cons_of_proceed hp, settle_cons_of_proceed hp]
        rw [ending_cons_of_proceed hp, final_cons]
        exact ih _
      · simp only [walk_cons_of_stop hp, settle_cons_of_stop hp]
        exact settlement?_of_last _ _ _

theorem settlement?_run (stages : List Registration) {visit : Visit} (h : visit.state = .running) :
    settlement? ((Pipeline.mk stages).run visit) = some (settle stages visit) := by
  rw [run_of_running _ h]
  exact settlement?_walk stages visit

/-- A visit that came too late comes to nothing. -/
theorem running_of_settlement? {pipeline : Pipeline} {visit : Visit} {settlement : Settlement}
    (h : settlement? (pipeline.run visit) = some settlement) : visit.state = .running := by
  cases hstate : visit.state with
  | running => rfl
  | terminated =>
      rw [pipeline.run_of_terminated (by rw [Visit.isTerminated, hstate]; rfl)] at h
      exact absurd h (Option.some_ne_none settlement).symm

/-- A guard that has nothing to do with a request lets it go on as it came. -/
def Idle (request : Request) (guard : Guard) : Prop :=
  ∀ visit : Visit, visit.request = request → guard.react visit = .proceed visit []

theorem settle_cons_of_idle {stage : Registration} {visit : Visit} (rest : List Registration)
    (h : Idle visit.request stage.guard) : settle (stage :: rest) visit = settle rest visit := by
  have hreact := h visit rfl
  rw [settle_cons_of_proceed (by rw [hreact]; rfl), hreact]
  rfl

theorem settle_of_idle {stages : List Registration} {visit : Visit}
    (h : ∀ r ∈ stages, Idle visit.request r.guard) :
    settle stages visit = ⟨.ok .proceed, visit.caller⟩ := by
  induction stages with
  | nil => rfl
  | cons stage rest ih =>
      rw [settle_cons_of_idle rest (h stage List.mem_cons_self)]
      exact ih (fun r hr => h r (List.mem_cons_of_mem stage hr))

/-- Among guards that are idle, a guard that leaves them the request has the only word. -/
theorem settle_of_idle_around {before after : List Registration} {stage : Registration}
    {visit : Visit} (hkeeps : KeepsToOperations stage.guard)
    (h : ∀ r ∈ before ++ after, Idle visit.request r.guard) :
    settle (before ++ stage :: after) visit = settlementOf (stage.guard.react visit) := by
  induction before with
  | nil =>
      by_cases hp : (stage.guard.react visit).outcome = .ok .proceed
      · have hrest : ∀ r ∈ after, Idle (stage.guard.react visit).left.request r.guard := by
          rw [(hkeeps visit).sameRequest.request]
          exact h
        rw [List.nil_append, settle_cons_of_proceed hp, settle_of_idle hrest, settlementOf, hp]
      · exact settle_cons_of_stop hp
  | cons first before ih =>
      rw [List.cons_append, settle_cons_of_idle _ (h first List.mem_cons_self)]
      exact ih (fun r hr => h r (List.mem_cons_of_mem first hr))

theorem settlement?_of_idle {pipeline : Pipeline} {others : List Registration}
    {stage : Registration} {visit : Visit} (hrunning : visit.state = .running)
    (hperm : pipeline.stages.Perm (stage :: others)) (hkeeps : KeepsToOperations stage.guard)
    (h : ∀ r ∈ others, Idle visit.request r.guard) :
    settlement? (pipeline.run visit) = some (settlementOf (stage.guard.react visit)) := by
  obtain ⟨before, after, hsplit, hrest⟩ := exists_split_of_perm hperm
  have hpipeline : pipeline = ⟨before ++ stage :: after⟩ := congrArg Pipeline.mk hsplit
  rw [hpipeline, settlement?_run _ hrunning, settle_of_idle_around hkeeps]
  exact fun r hr => h r (hrest.mem_iff.mp hr)

/-- A check that finds nothing in a request, whatever has become of its visit. -/
def Absent (request : Request) (check : Check) : Prop :=
  ∀ visit : Visit, visit.request = request → Misses visit check

theorem Absent.idle {request : Request} {check : Check} (h : Absent request check) :
    Idle request (Guard.ofCheck check .optional) := by
  intro visit hrequest
  have hmiss : check.consult visit = ⟨[], .ok .missing⟩ := h visit hrequest
  simp only [Guard.ofCheck, hmiss]

/-! ## All arrangements of two checks -/

/-- Two checks as guards of their own, with credentials optional. -/
def apart (check other : Check) (p q : Priority) : List Registration :=
  [⟨Guard.ofCheck check .optional, p⟩, ⟨Guard.ofCheck other .optional, q⟩]

/-- What can come of a visit where two checks are arranged in one of the ways there are. -/
inductive Comes (check other : Check) (mode : Mode) (visit : Visit) : Settlement → Prop
  /-- One guard consults both, in any order. -/
  | together {checks : List Check} : checks.Perm [check, other] →
      Comes check other mode visit (settlementOf ((Guard.ofChecks checks mode).react visit))
  /-- Each has its own guard in one pipeline; they are registered in any order, at any places. -/
  | separate {p q : Priority} {registrations : List Registration} {pipeline : Pipeline}
      {settlement : Settlement} : mode = .optional → registrations.Perm (apart check other p q) →
      Pipeline.ofRegistrations registrations = .ok pipeline →
      settlement? (pipeline.run visit) = some settlement →
      Comes check other mode visit settlement

theorem Comes.swap {check other : Check} {mode : Mode} {visit : Visit} {settlement : Settlement}
    (h : Comes check other mode visit settlement) : Comes other check mode visit settlement := by
  cases h with
  | together hperm => exact .together (hperm.trans (.swap _ _ _))
  | separate hmode hperm hsealed hrun =>
      exact .separate hmode (hperm.trans (.swap _ _ _)) hsealed hrun

/-- With nothing for one check to find, every arrangement comes to what the other does alone. -/
theorem Comes.alike_ofCheck {check other : Check} {mode : Mode} {visit : Visit}
    {settlement : Settlement} (h : Comes check other mode visit settlement)
    (hother : Absent visit.request other) :
    Alike [check.challenge.response, other.challenge.response] settlement
      (settlementOf ((Guard.ofCheck check mode).react visit)) := by
  cases h with
  | together hperm =>
      refine (Proofs.alike_ofCheck mode hperm ?_).of_subset (hperm.map _).subset
      intro c hc
      rw [List.mem_singleton.mp hc]
      exact hother visit rfl
  | separate hmode hperm hsealed hrun =>
      subst hmode
      have hstages := (ofRegistrations_eq_ok_iff_sealable.mp hsealed).2.perm.trans hperm
      have hkeeps : KeepsToOperations (Guard.ofCheck check .optional) := keeps_ofCheck check _
      have halone := settlement?_of_idle (running_of_settlement? hrun) hstages hkeeps (by
        intro r hr
        rw [List.mem_singleton.mp hr]
        exact hother.idle)
      obtain rfl := Option.some.inj (hrun.symm.trans halone)
      -- the guard of this check is the same on both sides, so it is like the chained one to itself
      have hchained := @Proofs.alike_ofCheck visit [check] [] check .optional (.refl _)
        (List.forall_mem_nil _)
      exact (hchained.symm.trans hchained).of_subset (by simp)

/-- Two checks of which a request leaves one nothing to find come to the same in any two
arrangements. -/
theorem Comes.alike {check other : Check} {mode : Mode} {visit : Visit} {one two : Settlement}
    (hone : Comes check other mode visit one) (htwo : Comes check other mode visit two)
    (h : Absent visit.request check ∨ Absent visit.request other) :
    Alike [check.challenge.response, other.challenge.response] one two := by
  rcases h with h | h
  · have halike := (hone.swap.alike_ofCheck h).trans (htwo.swap.alike_ofCheck h).symm
    exact halike.of_subset (by simp)
  · exact (hone.alike_ofCheck h).trans (htwo.alike_ofCheck h).symm

end Gatehouse.Proofs

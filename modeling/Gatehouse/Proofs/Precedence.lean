import Gatehouse.Pipeline.Order
import Gatehouse.Proofs.Walk

/-!
# Authentication comes first

Sealing compares one pair of priorities, and a run never looks at kinds at all.
What joins the two is the order of the stages: they ascend by priority, so a guard
that stands at or behind an authorization guard has at least its priority, and
every authentication guard has less (`misplaced?_eq_none_iff`). Hence all of them
stand in front (`no_authentication_behind`).

A run goes through the stages from the front and stops at the first guard that
does not let the request go on. If an authorization guard gets its turn, each
authentication guard has had one before, let the request go on, and what it did to
the caller is part of the visit that the authorization guard is shown.
-/

namespace Gatehouse.Proofs

open Gatehouse Pipeline Http

theorem ofKind_sealed {rs : List Registration} {pipeline : Pipeline}
    (h : ofRegistrations rs = .ok pipeline) (kind : Kind) :
    (ofKind kind pipeline.stages).Perm (ofKind kind rs) := by
  obtain ⟨_, _, hstages⟩ := ofRegistrations_eq_ok_iff.mp h
  rw [hstages]
  exact (inOrder_perm rs).filter _

theorem ofKind_append (kind : Kind) (rs more : List Registration) :
    ofKind kind (rs ++ more) = ofKind kind rs ++ ofKind kind more := List.filter_append rs more

theorem ofKind_eq_nil {kind : Kind} {rs : List Registration} (h : ∀ r ∈ rs, r.kind ≠ kind) :
    ofKind kind rs = [] := by
  refine List.filter_eq_nil_iff.mpr ?_
  intro r hr he
  exact h r hr (beq_iff_eq.mp he)

theorem priority_lt_of_sealed {rs : List Registration} {pipeline : Pipeline}
    (h : ofRegistrations rs = .ok pipeline) {a z : Registration}
    (ha : a ∈ pipeline.stages) (hz : z ∈ pipeline.stages)
    (hak : a.kind = .authentication) (hzk : z.kind = .authorization) : a.priority < z.priority := by
  obtain ⟨_, hplaced, hstages⟩ := ofRegistrations_eq_ok_iff.mp h
  rw [hstages] at ha hz
  have hain : a ∈ rs := (inOrder_perm rs).mem_iff.mp ha
  have hzin : z ∈ rs := (inOrder_perm rs).mem_iff.mp hz
  exact misplaced?_eq_none_iff.mp hplaced a hain z hzin hak hzk

/-- No authentication guard stands at or behind an authorization guard. -/
theorem no_authentication_behind {rs : List Registration} {pipeline : Pipeline}
    (h : ofRegistrations rs = .ok pipeline) {before after : List Registration} {z : Registration}
    (hsplit : pipeline.stages = before ++ z :: after) (hz : z.kind = .authorization) :
    ∀ a ∈ z :: after, a.kind ≠ .authentication := by
  obtain ⟨_, _, hstages⟩ := ofRegistrations_eq_ok_iff.mp h
  have hsorted := inOrder_sorted rs
  rw [← hstages, hsplit] at hsorted
  have hbehind := (List.pairwise_cons.mp (List.pairwise_append.mp hsorted).2.1).1
  intro a ha hak
  rcases List.mem_cons.mp ha with rfl | ha
  · -- one guard has one kind
    rw [hz] at hak
    exact absurd hak (by decide)
  · have hlt : a.priority < z.priority := by
      refine priority_lt_of_sealed h ?_ ?_ hak hz
      · rw [hsplit]; exact List.mem_append_right _ (List.mem_cons_of_mem z ha)
      · rw [hsplit]; exact List.mem_append_right _ List.mem_cons_self
    exact Priority.not_le.mpr hlt (hbehind a ha)

/-- What an authorization guard can rely on when its turn `step` comes after the turns `before`. -/
structure Preceded (pipeline : Pipeline) (visit : Visit) (before : List Step) (step : Step)
    (after : List Step) : Prop where
  /-- Each authentication guard of the pipeline has had its turn, once. -/
  once : ofKind .authentication (before.map Step.stage) = ofKind .authentication pipeline.stages
  /-- None has its turn now or later. -/
  never : ofKind .authentication ((step :: after).map Step.stage) = []
  /-- All of them let the request go on, and so did the others. -/
  proceeded : ∀ earlier ∈ before, earlier.reaction.outcome = .ok .proceed
  /-- The guard is shown the visit with all that they did to it. -/
  seen : step.seen = afterGuards (before.map Step.stage) visit

theorem preceded_of_walk {rs : List Registration} {pipeline : Pipeline}
    (h : ofRegistrations rs = .ok pipeline) {visit : Visit} {before after : List Step}
    {step : Step} (hwalk : walk pipeline.stages visit = before ++ step :: after)
    (hk : step.stage.kind = .authorization) : Preceded pipeline visit before step after := by
  obtain ⟨unvisited, hsplit⟩ := walk_isPrefix pipeline.stages visit
  rw [hwalk, List.map_append, List.map_cons, List.append_assoc, List.cons_append] at hsplit
  -- neither the later turns nor the guards that get none are authentication guards
  have hbehind := no_authentication_behind h hsplit.symm hk
  have hnone : ofKind .authentication (step.stage :: (after.map Step.stage ++ unvisited)) = [] :=
    ofKind_eq_nil hbehind
  refine ⟨?_, ?_, walk_proceeds_before hwalk, ?_⟩
  · rw [← hsplit, ofKind_append, hnone, List.append_nil]
  · rw [List.map_cons]
    refine ofKind_eq_nil (fun a ha => hbehind a ?_)
    rcases List.mem_cons.mp ha with rfl | ha
    · exact List.mem_cons_self
    · exact List.mem_cons_of_mem _ (List.mem_append_left _ ha)
  · have hlinked := walk_linked pipeline.stages visit
    rw [hwalk] at hlinked
    exact linked_seen hlinked

theorem preceded_of_run {rs : List Registration} {pipeline : Pipeline}
    (h : ofRegistrations rs = .ok pipeline) {visit : Visit} {before after : List Step}
    {step : Step} (hrun : (pipeline.run visit).steps = before ++ step :: after)
    (hk : step.stage.kind = .authorization) : Preceded pipeline visit before step after := by
  rcases run_steps pipeline visit with hs | hs
  · exact preceded_of_walk h (hs ▸ hrun) hk
  · rw [hs] at hrun
    exact absurd hrun.symm (by simp)

/-- **Authentication comes first in every run.** When an authorization guard has its turn, every
authentication guard has had one and let the request go on; so once an authentication guard answers
or fails, no authorization guard has a turn at all. -/
theorem authentication_precedes_authorization {rs : List Registration} {pipeline : Pipeline}
    (h : ofRegistrations rs = .ok pipeline) (visit : Visit) :
    (ofKind .authentication pipeline.stages).Perm (ofKind .authentication rs)
      ∧ (∀ before step after, (pipeline.run visit).steps = before ++ step :: after →
          step.stage.kind = .authorization → Preceded pipeline visit before step after)
      ∧ ∀ stopped ∈ (pipeline.run visit).steps, stopped.stage.kind = .authentication →
          stopped.reaction.outcome ≠ .ok .proceed →
          ∀ step ∈ (pipeline.run visit).steps, step.stage.kind ≠ .authorization := by
  refine ⟨ofKind_sealed h .authentication, ?_, ?_⟩
  · intro before step after hrun hk
    exact preceded_of_run h hrun hk
  · intro stopped hstopped hauth hout step hstep hk
    obtain ⟨before, after, hrun⟩ := List.append_of_mem hstep
    have hp := preceded_of_run h hrun hk
    rw [hrun] at hstopped
    rcases List.mem_append.mp hstopped with hbefore | hbehind
    · exact hout (hp.proceeded stopped hbefore)
    · -- the guard that stopped the run would stand behind the authorization guard
      have hmem : stopped.stage ∈ ofKind .authentication ((step :: after).map Step.stage) :=
        mem_ofKind.mpr ⟨List.mem_map_of_mem hbehind, hauth⟩
      rw [hp.never] at hmem
      exact absurd hmem (by simp)

/-- Two authentication guards that are registered behind the authorization guard they precede. -/
def registeredBackwards : List Registration :=
  [⟨.scripted "roles" .authorization (.answerIfRole "guest" (.empty .forbidden)), ⟨30⟩⟩,
    ⟨.scripted "naming" .authentication (.setPrincipal "ada"), ⟨20⟩⟩,
    ⟨.scripted "lookup" .authentication (.authenticate (.ofList "bob" ["guest"]) "Basic"), ⟨10⟩⟩]

/-- The authorization guard sees the roles of one of them and the principal of the other. -/
theorem authentication_precedes_authorization_backwards :
    ∃ pipeline, ofRegistrations registeredBackwards = .ok pipeline
      ∧ ∃ first second last, (pipeline.run (plainVisit "/")).steps = [first, second] ++ last :: []
        ∧ last.stage.kind = .authorization
        ∧ Preceded pipeline (plainVisit "/") [first, second] last []
        ∧ last.seen.caller = ⟨some "ada", .ofList ["guest"], some "Basic"⟩ :=
  ⟨_, rfl, _, _, _, rfl, rfl,
    (@authentication_precedes_authorization registeredBackwards _ rfl (plainVisit "/")).2.1
      _ _ _ rfl rfl, rfl⟩

end Gatehouse.Proofs

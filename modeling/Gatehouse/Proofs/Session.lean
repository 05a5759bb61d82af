import Gatehouse.Credentials.Guards
import Gatehouse.Proofs.Enforcement
import Gatehouse.Proofs.Walk

/-!
# A visit is good for one run

Whoever holds a visit may send it through pipelines, say who its caller is, and
look at it, as often as it likes and in any order. Only one of these operations
has a say in whether the visit is still open, and it has it once: the first run
closes the visit, however that run ends and whatever its guards leave behind, and
from then on every run is turned away at the door. Naming another caller in between
opens nothing again, because what is known of the caller and whether the visit is
open are told apart.

The request and the channel it came over are another matter. None of the operations
touches them, and neither does a walk, but a guard is handed the whole visit and may
put any other in its place (`run_replacing`). So they can change in one place only,
in the turn of a guard in the first run. They stay as they were as long as guards do
to a visit what anyone else may do to it, which is a row of the same operations
(`KeepsToOperations`). The guards of this library do no more than that.
-/

namespace Gatehouse.Proofs

open Gatehouse Http

/-- What can be done with a visit. -/
inductive Operation where
  /-- Sends it through a pipeline. -/
  | run (pipeline : Pipeline)
  | setPrincipal (name : String)
  | authenticate (identity : Identity) (scheme : String)
  /-- Asks for something that the visit shows. -/
  | read

namespace Operation

def perform : Operation → Visit → Visit
  | run pipeline, visit => (pipeline.run visit).visit
  | setPrincipal name, visit => visit.withCaller (visit.caller.setPrincipal name)
  | authenticate identity scheme, visit =>
    visit.withCaller (visit.caller.authenticate identity scheme)
  | read, visit => visit

end Operation

/-- The visit after operations that were performed one after another. -/
def performAll (operations : List Operation) (visit : Visit) : Visit :=
  operations.foldl (fun v operation => operation.perform v) visit

/-- A visit is left in this form by a row of operations, and the guards of the pipelines that are
run in its course do no more to a visit than that themselves. -/
inductive ByOperations : Visit → Visit → Prop
  | nothing (visit : Visit) : ByOperations visit visit
  | next {visit left : Visit} (operation : Operation) :
      (∀ pipeline, operation = .run pipeline → ∀ stage ∈ pipeline.stages, ∀ seen,
        ByOperations seen (stage.guard.react seen).left) →
      ByOperations (operation.perform visit) left → ByOperations visit left

/-- A guard that does nothing to a visit but by the operations that are open to everyone. -/
def KeepsToOperations (guard : Guard) : Prop :=
  ∀ seen, ByOperations seen (guard.react seen).left

/-! ## Whether the visit is open -/

/-- The request is the same, and so is the channel that it came over. -/
structure SameRequest (visit left : Visit) : Prop where
  request : left.request = visit.request
  secure : left.isSecure = visit.isSecure

theorem SameRequest.refl (visit : Visit) : SameRequest visit visit := ⟨rfl, rfl⟩

theorem SameRequest.trans {visit left last : Visit} (h : SameRequest visit left)
    (h' : SameRequest left last) : SameRequest visit last :=
  ⟨h'.request.trans h.request, h'.secure.trans h.secure⟩

theorem SameRequest.path {visit left : Visit} (h : SameRequest visit left) :
    left.path = visit.path := by
  rw [Visit.path, Visit.path, h.request]

theorem SameRequest.method {visit left : Visit} (h : SameRequest visit left) :
    left.method = visit.method := by
  rw [Visit.method, Visit.method, h.request]

/-- A walk touches the request only where a guard does so in its turn. -/
theorem final_sameRequest {steps : List Step} {visit : Visit} (h : Linked visit steps)
    (hsteps : ∀ step ∈ steps, SameRequest step.seen step.left) :
    SameRequest visit (Walk.final visit steps) := by
  induction steps generalizing visit with
  | nil => exact .refl visit
  | cons step steps ih =>
      obtain ⟨hseen, _, hrest⟩ := h
      have hstep : SameRequest visit step.left := hseen ▸ hsteps step List.mem_cons_self
      rw [final_cons]
      exact hstep.trans (ih hrest (fun s hs => hsteps s (List.mem_cons_of_mem step hs)))

/-- Then all turns are about the same request. -/
theorem sameRequest_of_linked {steps : List Step} {visit : Visit} (h : Linked visit steps)
    (hsteps : ∀ step ∈ steps, SameRequest step.seen step.left) :
    ∀ step ∈ steps, SameRequest visit step.seen ∧ SameRequest visit step.left := by
  intro step hstep
  obtain ⟨before, after, rfl⟩ := List.append_of_mem hstep
  obtain ⟨hbefore, hseen⟩ := linked_before h
  have hfinal : SameRequest visit step.seen :=
    hseen ▸ final_sameRequest hbefore (fun s hs => hsteps s (List.mem_append_left _ hs))
  exact ⟨hfinal, hfinal.trans (hsteps step hstep)⟩

theorem run_sameRequest {pipeline : Pipeline} {visit : Visit}
    (h : ∀ step ∈ (pipeline.run visit).steps, SameRequest step.seen step.left) :
    SameRequest visit (pipeline.run visit).visit := by
  cases hstate : visit.state with
  | running =>
      rw [run_of_running pipeline hstate] at h ⊢
      have hfinal := final_sameRequest (walk_linked pipeline.stages visit) h
      exact ⟨hfinal.request, hfinal.secure⟩
  | terminated =>
      rw [pipeline.run_of_terminated (by rw [Visit.isTerminated, hstate]; rfl)]
      exact .refl visit

/-- So does an operation. -/
theorem perform_sameRequest {operation : Operation} {visit : Visit}
    (h : ∀ pipeline, operation = .run pipeline →
      ∀ step ∈ (pipeline.run visit).steps, SameRequest step.seen step.left) :
    SameRequest visit (operation.perform visit) := by
  cases operation with
  | run pipeline => exact run_sameRequest (h pipeline rfl)
  | setPrincipal name => exact ⟨rfl, rfl⟩
  | authenticate identity scheme => exact ⟨rfl, rfl⟩
  | read => exact .refl visit

/-- The turns of a run are those of its guards. -/
theorem forall_steps {pipeline : Pipeline} {p : Visit → Visit → Prop}
    (h : ∀ stage ∈ pipeline.stages, ∀ seen, p seen (stage.guard.react seen).left)
    (visit : Visit) : ∀ step ∈ (pipeline.run visit).steps, p step.seen step.left := by
  intro step hstep
  rcases run_steps pipeline visit with hs | hs
  · rw [hs] at hstep
    have hstage := (walk_isPrefix pipeline.stages visit).mem (List.mem_map_of_mem hstep)
    rw [Step.left, linked_step (walk_linked pipeline.stages visit) step hstep]
    exact h step.stage hstage step.seen
  · rw [hs] at hstep
    exact absurd hstep (by simp)

/-- A row of operations leaves the request alone, those of the guards in its course included. -/
theorem ByOperations.sameRequest {visit left : Visit} (h : ByOperations visit left) :
    SameRequest visit left := by
  induction h with
  | nothing visit => exact .refl visit
  | next operation _ _ hguards hrest =>
      refine (perform_sameRequest ?_).trans hrest
      intro pipeline hrun
      exact forall_steps (hguards pipeline hrun) _

theorem ByOperations.setPrincipal (visit : Visit) (name : String) :
    ByOperations visit (visit.withCaller (visit.caller.setPrincipal name)) :=
  .next (.setPrincipal name) (fun _ h => absurd h (by simp)) (.nothing _)

theorem ByOperations.authenticate (visit : Visit) (identity : Identity) (scheme : String) :
    ByOperations visit (visit.withCaller (visit.caller.authenticate identity scheme)) :=
  .next (.authenticate identity scheme) (fun _ h => absurd h (by simp)) (.nothing _)

theorem keeps_ofCheck (check : Check) (mode : Mode) :
    KeepsToOperations (.ofCheck check mode) := by
  intro visit
  simp only [Guard.ofCheck]
  split
  · exact .nothing visit
  · exact .authenticate visit _ check.scheme
  · exact .nothing visit
  · exact .nothing visit
  · exact .nothing visit

theorem keeps_ofChecks (checks : List Check) (mode : Mode) :
    KeepsToOperations (.ofChecks checks mode) := by
  intro visit
  rcases Guard.ofChecks_reacts checks mode visit with
    ⟨events, fault, hreact⟩ | ⟨events, identity, scheme, hreact⟩ | ⟨events, hreact⟩
      | ⟨events, refusal, hreact⟩
  · rw [hreact]; exact .nothing visit
  · rw [hreact]; exact .authenticate visit identity scheme
  · rw [hreact]; exact .nothing visit
  · rw [hreact]; exact .nothing visit

theorem keeps_guard (policy : Policy) : KeepsToOperations policy.guard := by
  intro visit
  rw [left_guard]
  exact .nothing visit

/-- A guard that puts a visit of its own in the place of any other. -/
def replacing (other : Visit) : Guard := ⟨"replacing", .general, fun _ => .proceed other []⟩

/-- A run hands on what a guard puts in the place of the visit. All that it adds is to close it. -/
theorem run_replacing (other : Visit) (priority : Priority) {visit : Visit}
    (h : visit.state = .running) :
    ((Pipeline.mk [⟨replacing other, priority⟩]).run visit).visit = other.terminate := by
  rw [run_of_running _ h]
  rfl

/-- Such a guard does more than operations can do. -/
theorem not_keeps_replacing (other : Visit) : ¬ KeepsToOperations (replacing other) := by
  intro h
  have hsecure : other.isSecure = !other.isSecure :=
    (h { other with isSecure := !other.isSecure }).sameRequest.secure
  exact absurd hsecure (by simp)

/-! ## One run and no more -/

end Gatehouse.Proofs

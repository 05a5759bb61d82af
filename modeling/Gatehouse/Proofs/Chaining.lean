import Mathlib.Data.List.Forall2
import Gatehouse.Proofs.Survey

/-!
# Guards of one scheme, alone and in a chain

A guard of one scheme is set up with all it takes to decide on its own: a way to find
credentials and to resolve them, the words of a refusal, and a mode (`SchemeGuard`). A
chain is set up from such guards and has a mode of its own. It consults the checks of its
members and decides by itself, so the modes that its members came with are never looked at.

A member that is all of its chain is the common case, as most deployments have credentials
of one kind. The chain goes through a survey where the guard looks at one finding, and they
decide by different tables; but there is no finding, and no fault, on which they disagree
(`react_ofChecks_singleton`).
-/

namespace Gatehouse.Proofs

open Gatehouse

/-- A guard of one scheme as it is set up, for credentials of any type. -/
structure SchemeGuard where
  {credentials : Type}
  scheme : Scheme credentials
  authenticate : Authenticator credentials
  challenger : Challenger
  realm : String
  mode : Mode

namespace SchemeGuard

/-- What it lends to a chain. -/
def check (member : SchemeGuard) : Check :=
  member.scheme.check member.authenticate member.challenger member.realm

/-- What it does on its own. -/
def guard (member : SchemeGuard) : Guard := .ofCheck member.check member.mode

end SchemeGuard

/-- A chain of guards, with a mode of its own. -/
def chained (members : List SchemeGuard) (mode : Mode) : Guard :=
  .ofChecks (members.map SchemeGuard.check) mode

/-- Two guards that are set up alike but for the mode. -/
def SameButMode (member other : SchemeGuard) : Prop := ∃ mode, other = { member with mode }

/-! ## One check decides alike in both places -/

theorem consultEvents_singleton (visit : Visit) (check : Check) :
    consultEvents visit [check] = (check.consult visit).events := List.flatMap_singleton ..

theorem react_ofChecks_singleton (check : Check) (mode : Mode) (visit : Visit) :
    (Guard.ofChecks [check] mode).react visit = (Guard.ofCheck check mode).react visit := by
  have halone : [check] = [] ++ check :: [] := rfl
  cases hfinding : (check.consult visit).finding with
  | error fault =>
      rw [react_of_fault mode halone (List.forall_mem_nil _) hfinding]
      simp only [Guard.ofCheck, hfinding]
      rfl
  | ok finding =>
      cases finding with
      | accepted identity =>
          rw [react_of_accepted mode halone (List.forall_mem_nil _) hfinding]
          simp only [Guard.ofCheck, hfinding]
          rfl
      | missing =>
          have hundecided : ∀ c ∈ [check], Undecided visit c :=
            List.forall_mem_singleton.mpr (.inl hfinding)
          have hany : [check].any (rejects visit) = false := by
            simp [rejects, hfinding]
          rw [react_of_undecided mode rfl hundecided, hany, consultEvents_singleton]
          simp only [Guard.ofCheck, hfinding]
          cases mode with
          | required => rfl
          | optional => rfl
      | rejected =>
          have hundecided : ∀ c ∈ [check], Undecided visit c :=
            List.forall_mem_singleton.mpr (.inr hfinding)
          -- whatever the mode, a rejection is held against the request
          have hany : [check].any (rejects visit) = true := by
            simp [rejects, hfinding]
          rw [react_of_undecided mode rfl hundecided, hany, consultEvents_singleton]
          simp only [Guard.ofCheck, hfinding]
          rfl

/-! ## A chain looks at checks only -/

theorem SameButMode.check_eq {member other : SchemeGuard} (h : SameButMode member other) :
    other.check = member.check := by
  obtain ⟨mode, rfl⟩ := h
  rfl

theorem chained_of_sameButMode {members others : List SchemeGuard}
    (h : List.Forall₂ SameButMode members others) (mode : Mode) :
    chained others mode = chained members mode := by
  have hchecks : others.map SchemeGuard.check = members.map SchemeGuard.check := by
    induction h with
    | nil => rfl
    | cons hmember _ ih => rw [List.map_cons, List.map_cons, hmember.check_eq, ih]
  rw [chained, chained, hchecks]

/-- **A chain of one guard is that guard.** With the mode of the guard it has the same outcome for
every visit, be it a verdict or a fault, leaves the same caller, and logs the same. And no chain
depends on the modes that its members came with. -/
theorem chained_alone (member : SchemeGuard) (visit : Visit) :
    (chained [member] member.mode).react visit = member.guard.react visit
      ∧ ∀ (members others : List SchemeGuard) (mode : Mode),
        List.Forall₂ SameButMode members others → chained others mode = chained members mode :=
  ⟨react_ofChecks_singleton member.check member.mode visit,
    fun _ _ mode h => chained_of_sameButMode h mode⟩

/-- Nobody's token, asked for in plain words. -/
def strictTokens : SchemeGuard :=
  ⟨.bearer, TokenTable.authenticator .empty, Refusal.plain, "vault", .required⟩

/-- Logins that cannot be looked up. -/
def lostLogins : SchemeGuard := ⟨.basic, .outOfService "down", Refusal.json, "attic", .optional⟩

/-- A visit with a token. -/
def tokenVisit : Visit :=
  .ofRequest ⟨"GET", ⟨none, "/", none⟩, [⟨"authorization", "Bearer t0p"⟩]⟩

/-- The refusal of a token comes out of the chain as it is, and so it does out of a chain of two
whose members have changed their modes. -/
theorem chained_alone_rejected :
    (chained [strictTokens] .required).react tokenVisit = strictTokens.guard.react tokenVisit
      ∧ (strictTokens.guard.react tokenVisit).outcome =
        .ok (.answer (Refusal.plain "Bearer" "vault").response)
      ∧ List.Forall₂ SameButMode [strictTokens, lostLogins]
        [{ strictTokens with mode := .optional }, { lostLogins with mode := .required }]
      ∧ chained [{ strictTokens with mode := .optional }, { lostLogins with mode := .required }]
        .optional = chained [strictTokens, lostLogins] .optional := by
  have hsame : List.Forall₂ SameButMode [strictTokens, lostLogins]
      [{ strictTokens with mode := .optional }, { lostLogins with mode := .required }] :=
    .cons ⟨.optional, rfl⟩ (.cons ⟨.required, rfl⟩ .nil)
  have halone := chained_alone strictTokens tokenVisit
  refine ⟨halone.1, ?_, hsame, halone.2 _ _ _ hsame⟩
  rfl

end Gatehouse.Proofs

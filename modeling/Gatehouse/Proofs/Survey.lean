import Gatehouse.Credentials.Guards

/-!
# What several checks come to

A survey goes through checks until one settles the matter. Checks that do not
settle it are passed over: their lines in the log stay, it is remembered whether
one of them rejected credentials, and the survey is otherwise that of the checks
behind them (`take_append`). So the first check that accepts or fails decides, and
if there is none, all that counts is whether some check rejected and what the
first one in the row asks for (`settled_by_first`).
-/

namespace Gatehouse.Proofs

open Gatehouse

/-- A check settles nothing about a visit when it finds no credentials or rejects them. -/
def Undecided (visit : Visit) (check : Check) : Prop :=
  (check.consult visit).finding = .ok .missing ∨ (check.consult visit).finding = .ok .rejected

/-- Whether a check rejects the credentials of a visit. -/
def rejects (visit : Visit) (check : Check) : Bool :=
  match (check.consult visit).finding with
  | .ok .rejected => true
  | _ => false

theorem rejects_iff {visit : Visit} {check : Check} :
    rejects visit check = true ↔ (check.consult visit).finding = .ok .rejected := by
  rw [rejects]
  split
  · rename_i h
    exact ⟨fun _ => h, fun _ => rfl⟩
  · rename_i h
    exact ⟨fun hf => absurd hf (by simp), fun hr => absurd hr h⟩

/-- What checks log when each of them is consulted. -/
def consultEvents (visit : Visit) (checks : List Check) : List Event :=
  checks.flatMap (fun check => (check.consult visit).events)

/-- A check that finds no credentials leaves no trace. -/
def Misses (visit : Visit) (check : Check) : Prop := check.consult visit = ⟨[], .ok .missing⟩

theorem Misses.undecided {visit : Visit} {check : Check} (h : Misses visit check) :
    Undecided visit check := by
  rw [Misses] at h
  exact .inl (by rw [h])

theorem rejects_of_misses {visit : Visit} {check : Check} (h : Misses visit check) :
    rejects visit check = false := by
  rw [Misses] at h
  rw [rejects, h]

theorem any_rejects_of_misses {visit : Visit} {checks : List Check}
    (h : ∀ c ∈ checks, Misses visit c) : checks.any (rejects visit) = false := by
  refine List.any_eq_false.mpr ?_
  intro c hc
  rw [rejects_of_misses (h c hc)]
  exact Bool.false_ne_true

theorem consultEvents_of_misses {visit : Visit} {checks : List Check}
    (h : ∀ c ∈ checks, Misses visit c) : consultEvents visit checks = [] := by
  refine List.flatMap_eq_nil_iff.mpr ?_
  intro c hc
  have hmiss := h c hc
  rw [Misses] at hmiss
  rw [hmiss]

/-- Checks that settle nothing are passed over. -/
theorem take_append {visit : Visit} {before : List Check} (h : ∀ c ∈ before, Undecided visit c)
    (rest : List Check) :
    Survey.take visit (before ++ rest) =
      ⟨consultEvents visit before ++ (Survey.take visit rest).events,
        before.any (rejects visit) || (Survey.take visit rest).rejected,
        (Survey.take visit rest).found⟩ := by
  induction before with
  | nil => rfl
  | cons c before ih =>
      have ih := ih (fun c hc => h c (List.mem_cons_of_mem _ hc))
      have hevents : consultEvents visit (c :: before) =
          (c.consult visit).events ++ consultEvents visit before := List.flatMap_cons
      rw [List.cons_append, Survey.take, hevents, List.any_cons]
      rcases h c List.mem_cons_self with hc | hc
      · have hr : rejects visit c = false := by rw [rejects, hc]
        simp only [hc, hr, ih, Bool.false_or, List.append_assoc]
      · have hr : rejects visit c = true := by rw [rejects, hc]
        simp only [hc, hr, ih, Bool.true_or, List.append_assoc]

theorem take_of_undecided {visit : Visit} {checks : List Check}
    (h : ∀ c ∈ checks, Undecided visit c) :
    Survey.take visit checks =
      ⟨consultEvents visit checks, checks.any (rejects visit), .ok none⟩ := by
  have htake := take_append h []
  rw [List.append_nil] at htake
  rw [htake]
  simp [Survey.take]

/-! ## The guard that relies on them -/

/-- The first check that accepts names the caller, whatever the ones before it rejected. -/
theorem react_of_accepted {visit : Visit} {checks before after : List Check} {check : Check}
    {identity : Identity} (mode : Mode) (hsplit : checks = before ++ check :: after)
    (h : ∀ c ∈ before, Undecided visit c)
    (hc : (check.consult visit).finding = .ok (.accepted identity)) :
    (Guard.ofChecks checks mode).react visit =
      Guard.welcome visit (consultEvents visit before ++ (check.consult visit).events) identity
        check.scheme := by
  subst hsplit
  have hfound : Survey.take visit (check :: after) =
      ⟨(check.consult visit).events, false, .ok (some (identity, check.scheme))⟩ := by
    rw [Survey.take]; simp only [hc]
  simp only [Guard.ofChecks, take_append h, hfound]

/-- The first check that fails ends the survey, whatever the ones before it rejected. -/
theorem react_of_fault {visit : Visit} {checks before after : List Check} {check : Check}
    {fault : Fault} (mode : Mode) (hsplit : checks = before ++ check :: after)
    (h : ∀ c ∈ before, Undecided visit c) (hc : (check.consult visit).finding = .error fault) :
    (Guard.ofChecks checks mode).react visit =
      .fail visit (consultEvents visit before ++ (check.consult visit).events) fault := by
  subst hsplit
  have hfound : Survey.take visit (check :: after) =
      ⟨(check.consult visit).events, false, .error fault⟩ := by
    rw [Survey.take]; simp only [hc]
  simp only [Guard.ofChecks, take_append h, hfound]

/-- Checks that settle nothing let the request go on or refuse it in the name of the first. -/
theorem react_of_undecided {visit : Visit} {checks rest : List Check} {first : Check} (mode : Mode)
    (hsplit : checks = first :: rest) (h : ∀ c ∈ checks, Undecided visit c) :
    (Guard.ofChecks checks mode).react visit =
      if !checks.any (rejects visit) && mode == .optional
      then .proceed visit (consultEvents visit checks)
      else Guard.refuse visit (consultEvents visit checks) first.challenge := by
  subst hsplit
  simp only [Guard.ofChecks, take_of_undecided h]

/-- One check that rejects among checks that find nothing is enough for a refusal. -/
theorem react_of_rejected {visit : Visit} {checks before after rest : List Check}
    {check first : Check} {events : List Event} (mode : Mode)
    (hfirst : checks = first :: rest) (hsplit : checks = before ++ check :: after)
    (hbefore : ∀ c ∈ before, Misses visit c) (hafter : ∀ c ∈ after, Misses visit c)
    (hc : check.consult visit = ⟨events, .ok .rejected⟩) :
    (Guard.ofChecks checks mode).react visit = Guard.refuse visit events first.challenge := by
  have hundecided : ∀ c ∈ checks, Undecided visit c := by
    intro c hmem
    rw [hsplit] at hmem
    rcases List.mem_append.mp hmem with hmem | hmem
    · exact (hbefore c hmem).undecided
    · rcases List.mem_cons.mp hmem with rfl | hmem
      · exact .inr (by rw [hc])
      · exact (hafter c hmem).undecided
  have hany : checks.any (rejects visit) = true := by
    refine List.any_eq_true.mpr ⟨check, ?_, rejects_iff.mpr (by rw [hc])⟩
    rw [hsplit]
    exact List.mem_append_right _ List.mem_cons_self
  have hevents : consultEvents visit checks = events := by
    have happend : consultEvents visit (before ++ check :: after) =
        consultEvents visit before
          ++ ((check.consult visit).events ++ consultEvents visit after) := by
      rw [consultEvents, List.flatMap_append, List.flatMap_cons]; rfl
    rw [hsplit, happend, consultEvents_of_misses hbefore, consultEvents_of_misses hafter, hc]
    simp
  rw [react_of_undecided mode hfirst hundecided, hany, hevents]
  rfl

/-- With nobody to ask, a request goes on only where credentials are optional. -/
theorem react_of_no_checks (mode : Mode) (visit : Visit) :
    (Guard.ofChecks [] mode).react visit =
      if mode = .optional then .proceed visit [] else .fail visit [] noSchemes := by
  cases mode with
  | required => rfl
  | optional => rfl

/-! ## The first check that settles the matter -/

theorem accepts_or_fails {visit : Visit} {check : Check} (h : ¬ Undecided visit check) :
    (∃ identity, (check.consult visit).finding = .ok (.accepted identity))
      ∨ ∃ fault, (check.consult visit).finding = .error fault := by
  cases hc : (check.consult visit).finding with
  | error fault => exact .inr ⟨fault, rfl⟩
  | ok finding =>
      cases finding with
      | accepted identity => exact .inl ⟨identity, rfl⟩
      | missing => exact absurd (.inl hc) h
      | rejected => exact absurd (.inr hc) h

/-- Unless no check settles the matter, there is a first one that does. -/
theorem undecided_or_first (visit : Visit) (checks : List Check) :
    (∀ c ∈ checks, Undecided visit c)
      ∨ ∃ before check after, checks = before ++ check :: after
        ∧ (∀ c ∈ before, Undecided visit c) ∧ ¬ Undecided visit check := by
  induction checks with
  | nil => exact .inl (List.forall_mem_nil _)
  | cons first rest ih =>
      by_cases hfirst : Undecided visit first
      · rcases ih with hnone | ⟨before, check, after, rfl, hbefore, hcheck⟩
        · exact .inl (List.forall_mem_cons.mpr ⟨hfirst, hnone⟩)
        · exact .inr ⟨first :: before, check, after, rfl,
            List.forall_mem_cons.mpr ⟨hfirst, hbefore⟩, hcheck⟩
      · exact .inr ⟨[], first, rest, rfl, List.forall_mem_nil _, hfirst⟩

/-- Nothing is held against a request that no check knows. -/
def Unopposed (checks : List Check) (mode : Mode) (visit : Visit) : Prop :=
  mode = .optional ∧ ∀ c ∈ checks, (c.consult visit).finding ≠ .ok .rejected

theorem unopposed_iff {checks : List Check} {mode : Mode} {visit : Visit} :
    Unopposed checks mode visit ↔
      (!checks.any (rejects visit) && mode == .optional) = true := by
  rw [Bool.and_eq_true, Bool.not_eq_true', List.any_eq_false, beq_iff_eq, and_comm]
  simp only [rejects_iff, Unopposed, ne_eq]

/-- What is promised of the reaction of a guard that relies on checks. -/
structure Settled (checks : List Check) (mode : Mode) (visit : Visit) (reaction : Reaction) :
    Prop where
  /-- Either no check settles the matter or there is a first one that does. -/
  complete : (∀ c ∈ checks, Undecided visit c)
    ∨ ∃ before check after, checks = before ++ check :: after
      ∧ (∀ c ∈ before, Undecided visit c) ∧ ¬ Undecided visit check
  /-- If that one accepts, the request goes on, with a caller who is replaced as a whole. -/
  accepted : ∀ before check after identity, checks = before ++ check :: after →
    (∀ c ∈ before, Undecided visit c) →
    (check.consult visit).finding = .ok (.accepted identity) →
    reaction.outcome = .ok .proceed
      ∧ reaction.left =
        ⟨visit.request, ⟨some identity.name, identity.roles, some check.scheme⟩, visit.isSecure,
          visit.state⟩
      ∧ reaction.events = consultEvents visit (before ++ [check])
        ++ [.authenticated identity.name check.scheme]
  /-- If it fails, the guard fails with its fault, and the visit is left alone. -/
  failed : ∀ before check after fault, checks = before ++ check :: after →
    (∀ c ∈ before, Undecided visit c) → (check.consult visit).finding = .error fault →
    reaction.outcome = .error fault ∧ reaction.left = visit
      ∧ reaction.events = consultEvents visit (before ++ [check])
  /-- The checks behind it are not consulted, so any others would do as well. -/
  unheard : ∀ before check after, checks = before ++ check :: after →
    (∀ c ∈ before, Undecided visit c) → ¬ Undecided visit check →
    ∀ others, (Guard.ofChecks (before ++ check :: others) mode).react visit = reaction
  /-- If there is none, the visit is left alone, and goes on if nothing is held against it. -/
  undecided : (∀ c ∈ checks, Undecided visit c) →
    reaction.left = visit
      ∧ (reaction.outcome = .ok .proceed ↔ Unopposed checks mode visit)
  /-- If something is, it is refused in the name of the first check, whichever one rejected. -/
  refused : (∀ c ∈ checks, Undecided visit c) → ¬ Unopposed checks mode visit →
    ∀ first ∈ checks.head?, reaction.outcome = .ok (.answer first.challenge.response)
  /-- Without a check there is nothing to ask for. -/
  helpless : checks = [] → mode = .required → reaction.outcome = .error noSchemes

/-- **The first check that settles the matter has the last word.** -/
theorem settled_by_first (checks : List Check) (mode : Mode) (visit : Visit) :
    Settled checks mode visit ((Guard.ofChecks checks mode).react visit) := by
  have hevents : ∀ (before : List Check) (check : Check),
      consultEvents visit (before ++ [check]) =
        consultEvents visit before ++ (check.consult visit).events := by
    intro before check
    rw [consultEvents, List.flatMap_append, List.flatMap_singleton]; rfl
  constructor
  case complete => exact undecided_or_first visit checks
  case accepted =>
    intro before check after identity hsplit hbefore hc
    rw [react_of_accepted mode hsplit hbefore hc, hevents]
    exact ⟨rfl, rfl, rfl⟩
  case failed =>
    intro before check after fault hsplit hbefore hc
    rw [react_of_fault mode hsplit hbefore hc, hevents]
    exact ⟨rfl, rfl, rfl⟩
  case unheard =>
    intro before check after hsplit hbefore hcheck others
    rcases accepts_or_fails hcheck with ⟨identity, hc⟩ | ⟨fault, hc⟩
    · rw [react_of_accepted mode rfl hbefore hc, react_of_accepted mode hsplit hbefore hc]
    · rw [react_of_fault mode rfl hbefore hc, react_of_fault mode hsplit hbefore hc]
  case undecided =>
    intro h
    cases checks with
    | nil =>
        rw [react_of_no_checks]
        cases mode with
        | optional => exact ⟨rfl, fun _ => ⟨rfl, List.forall_mem_nil _⟩, fun _ => rfl⟩
        | required => exact ⟨rfl, fun hgo => (nomatch hgo), fun hgo => (nomatch hgo.1)⟩
    | cons first rest =>
        rw [react_of_undecided mode rfl h, unopposed_iff]
        split
        · rename_i hgo
          exact ⟨rfl, fun _ => hgo, fun _ => rfl⟩
        · rename_i hstop
          exact ⟨rfl, fun hgo => (nomatch hgo), fun hgo => absurd hgo hstop⟩
  case refused =>
    intro h hopposed first hfirst
    obtain ⟨rest, rfl⟩ := List.head?_eq_some_iff.mp hfirst
    rw [react_of_undecided mode rfl h, if_neg (fun hgo => hopposed (unopposed_iff.mpr hgo))]
    rfl
  case helpless =>
    rintro rfl rfl
    rfl

/-- A check that finds the same in every visit. -/
def constantCheck (scheme : String) (finding : Except Fault Finding) : Check :=
  ⟨scheme, fun _ => ⟨[], finding⟩, Refusal.plain scheme "vault"⟩

/-- A check that rejects, one that accepts, and one that fails. -/
def dividedChecks : List Check :=
  [constantCheck "Digest" (.ok .rejected),
    constantCheck "Bearer" (.ok (.accepted (.ofList "ada" ["admin"]))),
    constantCheck "Basic" (.error noSchemes)]

/-- A visit of somebody else. -/
def relayedVisit : Visit :=
  ⟨⟨"GET", ⟨none, "/", none⟩, []⟩, ⟨some "eve", .ofList ["ops"], some "Basic"⟩, false, .running⟩

/-- Ada takes Eve's place, though she was rejected before and the last check is out of service.
Where the check that rejects is left alone, it has its way. -/
theorem settled_by_first_divided :
    ((Guard.ofChecks dividedChecks .required).react relayedVisit).left =
        ⟨relayedVisit.request, ⟨some "ada", .ofList ["admin"], some "Bearer"⟩, false, .running⟩
      ∧ (∀ others, (Guard.ofChecks (dividedChecks.take 2 ++ others) .required).react relayedVisit =
        (Guard.ofChecks dividedChecks .required).react relayedVisit)
      ∧ ((Guard.ofChecks (dividedChecks.take 1) .optional).react relayedVisit).outcome =
        .ok (.answer (Refusal.plain "Digest" "vault").response) := by
  have hdivided := settled_by_first dividedChecks .required relayedVisit
  have halone := settled_by_first (dividedChecks.take 1) .optional relayedVisit
  have hbefore : ∀ c ∈ dividedChecks.take 1, Undecided relayedVisit c := by
    intro c hc
    rw [List.mem_singleton.mp hc]
    exact .inr rfl
  have haccepts : ¬ Undecided relayedVisit
      (constantCheck "Bearer" (.ok (.accepted (.ofList "ada" ["admin"])))) := by
    rintro (hmissing | hrejected)
    · exact nomatch hmissing
    · exact nomatch hrejected
  refine ⟨?_, ?_, ?_⟩
  · exact (hdivided.accepted (dividedChecks.take 1) _ _ _ rfl hbefore rfl).2.1
  · exact hdivided.unheard (dividedChecks.take 1) _ _ rfl hbefore haccepts
  · exact halone.refused hbefore (fun hgo => hgo.2 _ List.mem_cons_self rfl) _ rfl

end Gatehouse.Proofs

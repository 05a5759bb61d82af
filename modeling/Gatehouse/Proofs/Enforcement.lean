import Gatehouse.Access.Policy

/-!
# What a policy makes of a visit

A policy has three things to say, and which one it says depends on the rule of the
path, on whether the caller has a name, and on what the authorizer grants to that
name. A visit passes (`Admits`), it is asked for credentials (`WantsName`), or it is
turned away for good; the first two exclude each other, and the third is what
remains. The rule comes first: what a nameless caller is credited with never
counts, and where nobody is to pass a name does not help.

A policy looks and does not touch. It cannot fail, and it hands on the visit as it
came. With an authorizer that trusts the roles of the caller, more roles never shut a
caller out (`Admits.more_roles`).
-/

namespace Gatehouse.Proofs

open Gatehouse Http

/-- A rule, or the want of one, lets a visit pass. -/
inductive Admits (authorizer : Authorizer) (visit : Visit) : Option Rule → Prop
  | unruled : Admits authorizer visit none
  | permitAll : Admits authorizer visit (some .permitAll)
  | named {name : String} : visit.caller.principal = some name →
      Admits authorizer visit (some .authenticated)
  /-- One of the roles is enough. -/
  | granted {name role : String} {roles : Roles} : visit.caller.principal = some name →
      role ∈ roles.names → authorizer name role visit = true →
      Admits authorizer visit (some (.anyOf roles))

/-- A rule wants to know who is there, and nobody has said. -/
inductive WantsName (visit : Visit) : Option Rule → Prop
  | authenticated : visit.caller.principal = none → WantsName visit (some .authenticated)
  | anyOf {roles : Roles} : visit.caller.principal = none → WantsName visit (some (.anyOf roles))

variable {policy : Policy} {visit : Visit}

theorem grants_iff_exists {name : String} {roles : Roles} :
    policy.grants name roles visit = true ↔
      ∃ role ∈ roles.names, policy.authorizer name role visit = true := by
  rw [Policy.grants, List.any_eq_true]

/-! ## The three reactions -/

theorem react_of_admits (h : Admits policy.authorizer visit (policy.ruleFor? visit.path)) :
    policy.guard.react visit = .proceed visit [] := by
  rw [Policy.guard]
  dsimp only
  cases hrule : policy.ruleFor? visit.path with
  | none => rfl
  | some rule =>
      rw [hrule] at h
      cases h with
      | permitAll => rfl
      | named hname => simp only [Policy.apply, hname]
      | granted hname hrole hgrant =>
          simp only [Policy.apply, hname]
          exact if_pos (grants_iff_exists.mpr ⟨_, hrole, hgrant⟩)

theorem react_of_wantsName (h : WantsName visit (policy.ruleFor? visit.path)) :
    policy.guard.react visit = policy.askForCredentials visit := by
  rw [Policy.guard]
  dsimp only
  cases hrule : policy.ruleFor? visit.path with
  | none =>
      rw [hrule] at h
      exact nomatch h
  | some rule =>
      rw [hrule] at h
      cases h with
      | authenticated hnobody => simp only [Policy.apply, hnobody]
      | anyOf hnobody => simp only [Policy.apply, hnobody]

/-- What is turned away for good may be put down to the lack of a role, and to nothing else. -/
theorem react_of_neither (hadmits : ¬ Admits policy.authorizer visit (policy.ruleFor? visit.path))
    (hasks : ¬ WantsName visit (policy.ruleFor? visit.path)) :
    ∃ events, policy.guard.react visit = Policy.forbid visit events
      ∧ ∀ event ∈ events, ∃ name, visit.caller.principal = some name
        ∧ event = .roleLacking name visit.path := by
  rw [Policy.guard]
  dsimp only
  cases hrule : policy.ruleFor? visit.path with
  | none =>
      rw [hrule] at hadmits
      exact absurd .unruled hadmits
  | some rule =>
      rw [hrule] at hadmits hasks
      cases hname : visit.caller.principal with
      | none =>
          cases rule with
          | permitAll => exact absurd .permitAll hadmits
          | denyAll => exact ⟨[], rfl, List.forall_mem_nil _⟩
          | authenticated => exact absurd (.authenticated hname) hasks
          | anyOf roles => exact absurd (.anyOf hname) hasks
      | some name =>
          cases rule with
          | permitAll => exact absurd .permitAll hadmits
          | denyAll => exact ⟨[], rfl, List.forall_mem_nil _⟩
          | authenticated => exact absurd (.named hname) hadmits
          | anyOf roles =>
              have hno : ¬ policy.grants name roles visit = true := by
                intro hgrants
                obtain ⟨role, hrole, hgrant⟩ := grants_iff_exists.mp hgrants
                exact hadmits (.granted hname hrole hgrant)
              simp only [Policy.apply, hname]
              exact ⟨[.roleLacking name visit.path], if_neg hno,
                List.forall_mem_singleton.mpr ⟨name, rfl, rfl⟩⟩

/-- A policy has three things to say, and leaves the caller alone whichever it says. -/
theorem reacts_in_three_ways (policy : Policy) (visit : Visit) :
    policy.guard.react visit = .proceed visit []
      ∨ policy.guard.react visit = policy.askForCredentials visit
      ∨ ∃ events, policy.guard.react visit = Policy.forbid visit events
        ∧ ∀ event ∈ events, ∃ name, visit.caller.principal = some name
          ∧ event = .roleLacking name visit.path := by
  by_cases hadmits : Admits policy.authorizer visit (policy.ruleFor? visit.path)
  · exact .inl (react_of_admits hadmits)
  · by_cases hasks : WantsName visit (policy.ruleFor? visit.path)
    · exact .inr (.inl (react_of_wantsName hasks))
    · exact .inr (.inr (react_of_neither hadmits hasks))

theorem left_guard (policy : Policy) (visit : Visit) : (policy.guard.react visit).left = visit := by
  rcases reacts_in_three_ways policy visit with hreact | hreact | ⟨events, hreact, _⟩
  · rw [hreact]; rfl
  · rw [hreact]; rfl
  · rw [hreact]; rfl

theorem not_wantsName_of_admits {rule : Option Rule} (h : Admits policy.authorizer visit rule) :
    ¬ WantsName visit rule := by
  intro hasks
  cases hasks with
  | authenticated hnobody =>
      cases h with
      | named hname => exact absurd (hname.symm.trans hnobody) (by simp)
  | anyOf hnobody =>
      cases h with
      | granted hname _ _ => exact absurd (hname.symm.trans hnobody) (by simp)

/-! ## What is promised -/

/-- The policy with another way to ask for credentials. -/
def challengedBy (policy : Policy) (challenger : Challenger) : Policy := { policy with challenger }

/-- The visit with other roles to its caller's credit. -/
def creditedWith (visit : Visit) (roles : Roles) : Visit :=
  visit.withCaller { visit.caller with roles }

/-- More roles do not shut a caller out. -/
theorem Admits.more_roles {rule : Option Rule} {roles : Roles}
    (h : Admits Authorizer.byRoles visit rule)
    (hmore : ∀ role ∈ visit.caller.roles.names, role ∈ roles.names) :
    Admits Authorizer.byRoles (creditedWith visit roles) rule := by
  cases h with
  | unruled => exact .unruled
  | permitAll => exact .permitAll
  | named hname => exact .named hname
  | granted hname hrole hgrant =>
      refine .granted hname hrole ?_
      simp only [Authorizer.byRoles, Caller.hasRole, Bool.and_eq_true] at hgrant ⊢
      exact ⟨hgrant.1, List.elem_iff.mpr (hmore _ (List.elem_iff.mp hgrant.2))⟩

/-- What is promised of a policy and a visit. -/
structure Enforced (policy : Policy) (visit : Visit) : Prop where
  unchanged : (policy.guard.react visit).left = visit
  unfailing : ∃ verdict, (policy.guard.react visit).outcome = .ok verdict
  passes : (policy.guard.react visit).outcome = .ok .proceed ↔
    Admits policy.authorizer visit (policy.ruleFor? visit.path)
  /-- The first two of the three ways exclude each other. -/
  apart : Admits policy.authorizer visit (policy.ruleFor? visit.path) →
    ¬ WantsName visit (policy.ruleFor? visit.path)
  asked : WantsName visit (policy.ruleFor? visit.path) →
    (policy.guard.react visit).outcome =
      .ok (.answer (policy.challenger policy.scheme policy.realm).response)
  /-- Only then does the challenger have the word: in any other case there is one that would not
  be heard. -/
  challenged : (∀ challenger, ((challengedBy policy challenger).guard.react visit).outcome =
      .ok (.answer (challenger policy.scheme policy.realm).response)) ↔
    WantsName visit (policy.ruleFor? visit.path)
  forbidden : ¬ Admits policy.authorizer visit (policy.ruleFor? visit.path) →
    ¬ WantsName visit (policy.ruleFor? visit.path) →
    (policy.guard.react visit).outcome = .ok (.answer ErrorReply.forbidden.response)
  /-- Nobody passes where everyone is denied, and nobody has a role out of none. -/
  closed : policy.ruleFor? visit.path = some .denyAll
      ∨ policy.ruleFor? visit.path = some (.anyOf .empty) ∧ visit.caller.principal ≠ none →
    (policy.guard.react visit).outcome = .ok (.answer ErrorReply.forbidden.response)
  /-- Where the roles of the caller are what counts, they open doors and close none. -/
  monotone : policy.authorizer = Authorizer.byRoles →
    (policy.guard.react visit).outcome = .ok .proceed →
    ∀ roles : Roles, (∀ role ∈ visit.caller.roles.names, role ∈ roles.names) →
      (policy.guard.react (creditedWith visit roles)).outcome = .ok .proceed

theorem outcome_of_neither (hadmits : ¬ Admits policy.authorizer visit (policy.ruleFor? visit.path))
    (hasks : ¬ WantsName visit (policy.ruleFor? visit.path)) :
    (policy.guard.react visit).outcome = .ok (.answer ErrorReply.forbidden.response) := by
  obtain ⟨events, hreact, _⟩ := react_of_neither hadmits hasks
  rw [hreact]; rfl

/-- A visit that is not asked for credentials is treated alike by all challengers. -/
theorem outcome_challengedBy (challenger : Challenger)
    (h : ¬ WantsName visit (policy.ruleFor? visit.path)) :
    ((challengedBy policy challenger).guard.react visit).outcome = .ok .proceed
      ∨ ((challengedBy policy challenger).guard.react visit).outcome =
        .ok (.answer ErrorReply.forbidden.response) := by
  by_cases hadmits : Admits policy.authorizer visit (policy.ruleFor? visit.path)
  · rw [@react_of_admits (challengedBy policy challenger) visit hadmits]
    exact .inl rfl
  · exact .inr (@outcome_of_neither (challengedBy policy challenger) visit hadmits h)

theorem passes_iff_admits :
    (policy.guard.react visit).outcome = .ok .proceed ↔
      Admits policy.authorizer visit (policy.ruleFor? visit.path) := by
  refine ⟨?_, ?_⟩
  · intro hpass
    by_cases hadmits : Admits policy.authorizer visit (policy.ruleFor? visit.path)
    · exact hadmits
    · by_cases hasks : WantsName visit (policy.ruleFor? visit.path)
      · rw [react_of_wantsName hasks] at hpass
        exact nomatch hpass
      · rw [outcome_of_neither hadmits hasks] at hpass
        exact nomatch hpass
  · intro hadmits
    rw [react_of_admits hadmits]; rfl

theorem challenged_iff_wantsName :
    (∀ challenger, ((challengedBy policy challenger).guard.react visit).outcome =
        .ok (.answer (challenger policy.scheme policy.realm).response)) ↔
      WantsName visit (policy.ruleFor? visit.path) := by
  refine ⟨?_, ?_⟩
  · intro hall
    by_cases hasks : WantsName visit (policy.ruleFor? visit.path)
    · exact hasks
    · -- a challenger whose answer is not the one that forbids
      have hmute := hall (fun _ _ => .silent (.empty .unauthorized))
      rcases outcome_challengedBy _ hasks with hpass | hforbid
      · exact nomatch hpass.symm.trans hmute
      · have hsame := Verdict.answer.inj (Except.ok.inj (hforbid.symm.trans hmute))
        exact absurd (congrArg Response.status hsame) (by decide)
  · intro hasks challenger
    rw [@react_of_wantsName (challengedBy policy challenger) visit hasks]
    rfl

/-- **A policy lets pass, asks for credentials or forbids, by the rule of the path.** -/
theorem enforced (policy : Policy) (visit : Visit) : Enforced policy visit := by
  constructor
  case unchanged => exact left_guard policy visit
  case unfailing =>
    rcases reacts_in_three_ways policy visit with hreact | hreact | ⟨events, hreact, _⟩
    · rw [hreact]; exact ⟨_, rfl⟩
    · rw [hreact]; exact ⟨_, rfl⟩
    · rw [hreact]; exact ⟨_, rfl⟩
  case passes => exact passes_iff_admits
  case apart => exact not_wantsName_of_admits
  case asked => intro hasks; rw [react_of_wantsName hasks]; rfl
  case challenged => exact challenged_iff_wantsName
  case forbidden => exact outcome_of_neither
  case closed =>
    intro hclosed
    refine outcome_of_neither ?_ ?_
    · intro hadmits
      rcases hclosed with hrule | ⟨hrule, _⟩
      · rw [hrule] at hadmits
        exact nomatch hadmits
      · rw [hrule] at hadmits
        cases hadmits with
        | granted _ hrole _ => exact absurd hrole List.not_mem_nil
    · intro hasks
      rcases hclosed with hrule | ⟨hrule, hnamed⟩
      · rw [hrule] at hasks
        exact nomatch hasks
      · rw [hrule] at hasks
        cases hasks with
        | anyOf hnobody => exact hnamed hnobody
  case monotone =>
    intro hroles hpass roles hmore
    have hadmits := passes_iff_admits.mp hpass
    rw [hroles] at hadmits
    refine passes_iff_admits.mpr ?_
    rw [hroles]
    exact hadmits.more_roles hmore

/-- Rules of every kind, each for an area inside the one before. -/
def nestedPolicy : Policy where
  rules := [⟨"/", .permitAll⟩, ⟨"/api", .authenticated⟩,
    ⟨"/api/admin", .anyOf (Roles.ofList ["admin", "ops"])⟩, ⟨"/api/admin/danger", .denyAll⟩]
  authorizer := Authorizer.byRoles
  challenger := Refusal.plain
  scheme := "Bearer"
  realm := "vault"

/-- A visit to `path` by a caller with a role, and with or without a name. -/
def privilegedVisit (path : String) (name : Option String) : Visit :=
  ⟨⟨"GET", ⟨none, path, none⟩, []⟩, ⟨name, .ofList ["ops"], some "Bearer"⟩, false, .running⟩

/-- The role does not help without a name, the name helps with the role, and no more of either
opens what is closed to everyone. -/
theorem enforced_privileged :
    ((nestedPolicy.guard.react (privilegedVisit "/api/admin/x" none)).outcome =
        .ok (.answer (Refusal.plain "Bearer" "vault").response))
      ∧ (nestedPolicy.guard.react (creditedWith (privilegedVisit "/api/admin/x" (some "ada"))
        (.ofList ["user", "ops"]))).outcome = .ok .proceed
      ∧ (nestedPolicy.guard.react (privilegedVisit "/api/admin/danger" (some "ada"))).outcome =
        .ok (.answer ErrorReply.forbidden.response) := by
  have hrule : nestedPolicy.ruleFor? "/api/admin/x" =
      some (.anyOf (Roles.ofList ["admin", "ops"])) := by decide
  have hdanger : nestedPolicy.ruleFor? "/api/admin/danger" = some .denyAll := by decide
  refine ⟨?_, ?_, ?_⟩
  · have hnobody : WantsName (privilegedVisit "/api/admin/x" none)
        (nestedPolicy.ruleFor? "/api/admin/x") := hrule ▸ .anyOf rfl
    exact (enforced nestedPolicy (privilegedVisit "/api/admin/x" none)).asked hnobody
  · have hada : Admits Authorizer.byRoles (privilegedVisit "/api/admin/x" (some "ada"))
        (nestedPolicy.ruleFor? "/api/admin/x") :=
      hrule ▸ @Admits.granted _ _ "ada" "ops" _ rfl (by decide) rfl
    have henforced := enforced nestedPolicy (privilegedVisit "/api/admin/x" (some "ada"))
    exact henforced.monotone rfl (henforced.passes.mpr hada) _ (by decide)
  · exact (enforced nestedPolicy (privilegedVisit "/api/admin/danger" (some "ada"))).closed
      (.inl hdanger)

end Gatehouse.Proofs

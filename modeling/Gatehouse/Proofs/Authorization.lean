import Gatehouse.Proofs.Areas
import Gatehouse.Proofs.Authentication
import Gatehouse.Proofs.Enforcement

/-!
# What the authorization guard of a deployment does

The guard judges the caller that it is shown by the rule of the path. For the
rules of the pages that comes to little. A caller with a name is turned away from
one area only, the administration page, and only for want of its role
(`authorize_named`). A caller without a name passes where no account is asked for,
which is outside the mount point and beneath the greeting, and is asked for
credentials everywhere else (`authorize_unnamed`).
-/

namespace Gatehouse.Proofs

open Gatehouse

variable {settings : Settings} {visit : Visit}

theorem ruleFor?_policy (settings : Settings) (path : String) :
    settings.policy.ruleFor? path = ruleFor? Settings.areaRules path := rfl

/-- An entry holds the roles that are written in it. -/
theorem grants_iff {name role : String} {roles : List String} {scheme : Option String}
    (h : visit.caller = ⟨some name, Roles.ofList roles, scheme⟩) :
    settings.policy.grants name (Roles.ofList [role]) visit = true ↔ role ∈ roles := by
  have hone : (Roles.ofList [role]).names = [role] := rfl
  rw [Policy.grants, hone, Settings.policy]
  simp [Authorizer.byRoles, Caller.hasRole, h, Roles.contains, Roles.mem_ofList]

/-- The rules of the pages admit everyone where no account is asked for. -/
theorem admits_open
    (h : ¬ Beneath "/api/v1" visit.path ∨ Beneath "/api/v1/greeting" visit.path) :
    Admits settings.policy.authorizer visit (settings.policy.ruleFor? visit.path) := by
  rw [ruleFor?_policy]
  rcases h with hmount | hgreeting
  · rw [ruleFor?_outside hmount]
    exact .unruled
  · rw [ruleFor?_greeting hgreeting]
    exact .permitAll

/-- **A caller with a name is turned away from nothing but the administration page.** -/
theorem authorize_named {name : String} {roles : List String} {scheme : Option String}
    (h : visit.caller = ⟨some name, Roles.ofList roles, scheme⟩) :
    settings.policy.guard.react visit =
      if Beneath "/api/v1/admin" visit.path ∧ "admin" ∉ roles then
        Policy.forbid visit [.roleLacking name visit.path]
      else .proceed visit [] := by
  have hname : visit.caller.principal = some name := by rw [h]
  by_cases hadmin : Beneath "/api/v1/admin" visit.path
  · simp only [Policy.guard, ruleFor?_policy, ruleFor?_admin hadmin, Policy.apply, hname]
    by_cases hrole : "admin" ∈ roles
    · rw [if_pos ((grants_iff h).mpr hrole), if_neg (fun hc => hc.2 hrole)]
    · rw [if_neg (fun hc => hrole ((grants_iff h).mp hc)), if_pos ⟨hadmin, hrole⟩]
  · rw [if_neg (fun hc => hadmin hc.1)]
    refine react_of_admits ?_
    by_cases hopen : ¬ Beneath "/api/v1" visit.path ∨ Beneath "/api/v1/greeting" visit.path
    · exact admits_open hopen
    · obtain ⟨hmount, hgreeting⟩ := not_or.mp hopen
      rw [ruleFor?_policy, ruleFor?_inside (not_not.mp hmount) hgreeting hadmin]
      exact .named hname

/-- **A caller without a name passes where no account is asked for.** -/
theorem authorize_unnamed (h : visit.caller.principal = none) :
    settings.policy.guard.react visit =
      if ¬ Beneath "/api/v1" visit.path ∨ Beneath "/api/v1/greeting" visit.path then
        .proceed visit []
      else Guard.refuse visit [] (refusal settings) := by
  by_cases hopen : ¬ Beneath "/api/v1" visit.path ∨ Beneath "/api/v1/greeting" visit.path
  · rw [if_pos hopen]
    exact react_of_admits (admits_open hopen)
  · rw [if_neg hopen]
    obtain ⟨hmount, hgreeting⟩ := not_or.mp hopen
    -- both rules that are left ask for credentials in the same words
    refine (react_of_wantsName ?_).trans rfl
    rw [ruleFor?_policy]
    by_cases hadmin : Beneath "/api/v1/admin" visit.path
    · rw [ruleFor?_admin hadmin]
      exact .anyOf h
    · rw [ruleFor?_inside (not_not.mp hmount) hgreeting hadmin]
      exact .authenticated h

end Gatehouse.Proofs

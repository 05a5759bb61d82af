import Gatehouse.Proofs.Standing
import Gatehouse.Proofs.Survey

/-!
# What the authentication guard of a deployment does

The guard consults one check for each scheme that takes part. A check finds what
the request stands for in its own scheme, and at most one of the two finds
anything, so the guard does what the standing of the request says: it names the
caller (`react_of_resolves`), it refuses (`react_of_invalid`), or it leaves the
matter to the mode (`react_of_missing`). Nothing else about the request has a part
in it, and a refusal is the same whoever's credentials were not accepted.
-/

namespace Gatehouse.Proofs

open Gatehouse Http

section Consult

variable {α : Type} {scheme : Scheme α} {authenticate : Authenticator α} {visit : Visit}

theorem consult_missing (challenger : Challenger) (realm : String)
    (hx : scheme.extract visit.request = none) :
    (scheme.check authenticate challenger realm).consult visit = ⟨[], .ok .missing⟩ := by
  simp only [Scheme.check, hx]

theorem consult_accepted {credentials : α} {identity : Identity} (challenger : Challenger)
    (realm : String) (hx : scheme.extract visit.request = some credentials)
    (ha : authenticate credentials = .ok (some identity)) :
    (scheme.check authenticate challenger realm).consult visit =
      ⟨[], .ok (.accepted identity)⟩ := by
  simp only [Scheme.check, hx, ha]

theorem consult_rejected {credentials : α} (challenger : Challenger) (realm : String)
    (hx : scheme.extract visit.request = some credentials)
    (ha : authenticate credentials = .ok none) :
    (scheme.check authenticate challenger realm).consult visit =
      ⟨[.rejected scheme.name visit.path], .ok .rejected⟩ := by
  simp only [Scheme.check, hx, ha]

/-- What a check logs follows from what it finds. -/
theorem consult_eq {challenger : Challenger} {realm : String} (visit : Visit) :
    (scheme.check authenticate challenger realm).consult visit =
      let finding := ((scheme.check authenticate challenger realm).consult visit).finding
      ⟨if finding = .ok .rejected then [.rejected scheme.name visit.path] else [], finding⟩ := by
  cases hx : scheme.extract visit.request with
  | none =>
      rw [consult_missing challenger realm hx]
      simp
  | some credentials =>
      cases ha : authenticate credentials with
      | error outage =>
          simp only [Scheme.check, hx, ha]
          simp
      | ok identity =>
          cases identity with
          | none =>
              rw [consult_rejected challenger realm hx ha]
              simp
          | some identity =>
              rw [consult_accepted challenger realm hx ha]
              simp

end Consult

variable {settings : Settings} {visit : Visit}

/-! ## What the two checks find -/

theorem consult_tokenCheck_of_mem (hd : Distinct settings) {entry : TokenEntry}
    (hentry : entry ∈ settings.tokens)
    (hx : Scheme.bearer.extract visit.request = some ⟨entry.token⟩) :
    settings.tokenCheck.consult visit = ⟨[], .ok (.accepted entry.identity)⟩ := by
  refine consult_accepted Refusal.json settings.realm hx ?_
  rw [TokenTable.authenticator, (resolve?_tokens hd.tokens).mpr ⟨entry, hentry, rfl, rfl⟩]

theorem consult_loginCheck_of_mem (hd : Distinct settings) {entry : UserEntry}
    (hentry : entry ∈ settings.users)
    (hx : Scheme.basic.extract visit.request = some entry.login) :
    settings.loginCheck.consult visit = ⟨[], .ok (.accepted entry.identity)⟩ := by
  refine consult_accepted Refusal.json settings.realm hx ?_
  rw [UserTable.authenticator, (resolve?_users hd.users).mpr ⟨entry, hentry, rfl, rfl⟩]

theorem consult_tokenCheck_of_unresolved (hd : Distinct settings)
    (hno : ¬ ∃ name roles scheme, Resolves settings visit.request name roles scheme)
    {token : Token} (hx : Scheme.bearer.extract visit.request = some token) :
    settings.tokenCheck.consult visit = ⟨[.rejected "Bearer" visit.path], .ok .rejected⟩ := by
  refine consult_rejected Refusal.json settings.realm hx ?_
  -- whatever the table finds would be an entry that the request resolves to
  cases hr : (TokenTable.ofEntries settings.tokens).resolve? token with
  | none => rw [TokenTable.authenticator, hr]
  | some identity =>
      obtain ⟨entry, hentry, htoken, _⟩ := (resolve?_tokens hd.tokens).mp hr
      exact absurd ⟨_, _, _, .token hentry (by rw [hx, htoken])⟩ hno

theorem consult_loginCheck_of_unresolved (hd : Distinct settings)
    (hno : ¬ ∃ name roles scheme, Resolves settings visit.request name roles scheme)
    {login : Login} (hx : Scheme.basic.extract visit.request = some login) :
    settings.loginCheck.consult visit = ⟨[.rejected "Basic" visit.path], .ok .rejected⟩ := by
  refine consult_rejected Refusal.json settings.realm hx ?_
  cases hr : (UserTable.ofEntries settings.users).resolve? login with
  | none => rw [UserTable.authenticator, hr]
  | some identity =>
      obtain ⟨entry, hentry, hlogin, _⟩ := (resolve?_users hd.users).mp hr
      exact absurd ⟨_, _, _, .login hentry (by rw [hx, hlogin])⟩ hno

theorem consult_tokenCheck_of_none (hx : Scheme.bearer.extract visit.request = none) :
    settings.tokenCheck.consult visit = ⟨[], .ok .missing⟩ :=
  consult_missing Refusal.json settings.realm hx

theorem consult_loginCheck_of_none (hx : Scheme.basic.extract visit.request = none) :
    settings.loginCheck.consult visit = ⟨[], .ok .missing⟩ :=
  consult_missing Refusal.json settings.realm hx

/-! ## The row of checks -/

theorem checks_of_takesTokens (h : settings.takesTokens = true) :
    settings.checks =
      settings.tokenCheck :: if settings.takesLogins then [settings.loginCheck] else [] := by
  rw [Settings.checks, if_pos h]; rfl

theorem checks_of_takesLogins (h : settings.takesLogins = true) :
    settings.checks =
      (if settings.takesTokens then [settings.tokenCheck] else []) ++ [settings.loginCheck] := by
  rw [Settings.checks, if_pos h]

theorem checks_of_not_takesTokens (h : settings.takesTokens = false) :
    settings.checks = [settings.loginCheck] := by
  have hlogins : settings.takesLogins = true := by
    refine takesLogins_iff.mpr ?_
    intro hnil
    rw [takesTokens_iff.mpr (.inr hnil)] at h
    exact absurd h (by simp)
  rw [checks_of_takesLogins hlogins, h]; rfl

/-- How this deployment asks for credentials. -/
def refusal (settings : Settings) : Reply := Refusal.json settings.challengeScheme settings.realm

/-- There is a first check, and it asks for credentials the way the deployment does. -/
theorem checks_eq_cons (settings : Settings) :
    ∃ first rest, settings.checks = first :: rest ∧ first.challenge = refusal settings := by
  cases h : settings.takesTokens with
  | true =>
      have hchecks := checks_of_takesTokens h
      refine ⟨_, _, hchecks, ?_⟩
      rw [refusal, Settings.challengeScheme, hchecks]; rfl
  | false =>
      have hchecks := checks_of_not_takesTokens h
      refine ⟨_, _, hchecks, ?_⟩
      rw [refusal, Settings.challengeScheme, hchecks]; rfl

theorem mem_checks {check : Check} (h : check ∈ settings.checks) :
    (settings.takesTokens = true ∧ check = settings.tokenCheck)
      ∨ (settings.takesLogins = true ∧ check = settings.loginCheck) := by
  rw [Settings.checks] at h
  rcases List.mem_append.mp h with h | h
  · split at h
    · rename_i ht; exact .inl ⟨ht, List.mem_singleton.mp h⟩
    · exact absurd h (by simp)
  · split at h
    · rename_i hl; exact .inr ⟨hl, List.mem_singleton.mp h⟩
    · exact absurd h (by simp)

/-! ## The guard does what the standing says -/

theorem extract_token_eq_none {request : Request} {login : Login}
    (h : Scheme.basic.extract request = some login) : Scheme.bearer.extract request = none := by
  rw [Option.eq_none_iff_forall_ne_some]
  intro token htoken
  rw [extract_login_eq_none htoken] at h
  exact absurd h (by simp)

/-- In front of the login check stands a check that finds nothing in a request with a login. -/
theorem misses_before_loginCheck {login : Login}
    (h : Scheme.basic.extract visit.request = some login) :
    ∀ c ∈ (if settings.takesTokens then [settings.tokenCheck] else []), Misses visit c := by
  intro c hc
  split at hc
  · obtain rfl := List.mem_singleton.mp hc
    exact consult_tokenCheck_of_none (extract_token_eq_none h)
  · exact absurd hc (by simp)

/-- Behind the token check stands a check that finds nothing in a request with a token. -/
theorem misses_behind_tokenCheck {token : Token}
    (h : Scheme.bearer.extract visit.request = some token) :
    ∀ c ∈ (if settings.takesLogins then [settings.loginCheck] else []), Misses visit c := by
  intro c hc
  split at hc
  · obtain rfl := List.mem_singleton.mp hc
    exact consult_loginCheck_of_none (extract_login_eq_none h)
  · exact absurd hc (by simp)

/-- The credentials of an entry name the caller. -/
theorem react_of_resolves (hd : Distinct settings) {name scheme : String} {roles : List String}
    (h : Resolves settings visit.request name roles scheme) :
    (Guard.ofChecks settings.checks settings.mode).react visit =
      Guard.welcome visit [] (.ofList name roles) scheme := by
  cases h with
  | @token entry hentry hx =>
      have hsplit : settings.checks = [] ++ settings.tokenCheck ::
          if settings.takesLogins then [settings.loginCheck] else [] :=
        checks_of_takesTokens (takesTokens_iff.mpr (.inl (List.ne_nil_of_mem hentry)))
      have hconsult := consult_tokenCheck_of_mem hd hentry hx
      have hreact := react_of_accepted settings.mode hsplit (by simp)
        (congrArg Consultation.finding hconsult)
      rw [hconsult] at hreact
      exact hreact
  | @login entry hentry hx =>
      have hsplit := checks_of_takesLogins (takesLogins_iff.mpr (List.ne_nil_of_mem hentry))
      have hmisses : ∀ c ∈ (if settings.takesTokens then [settings.tokenCheck] else []),
          Misses visit c := misses_before_loginCheck hx
      have hconsult := consult_loginCheck_of_mem hd hentry hx
      have hreact := react_of_accepted settings.mode hsplit (fun c hc => (hmisses c hc).undecided)
        (congrArg Consultation.finding hconsult)
      rw [hconsult, consultEvents_of_misses hmisses] at hreact
      exact hreact

/-- Credentials that are nobody's are refused, whatever the mode. -/
theorem react_of_invalid (hd : Distinct settings) {scheme : String}
    (h : Presents settings visit.request scheme)
    (hno : ¬ ∃ name roles scheme, Resolves settings visit.request name roles scheme) :
    (Guard.ofChecks settings.checks settings.mode).react visit =
      Guard.refuse visit [.rejected scheme visit.path] (refusal settings) := by
  obtain ⟨first, rest, hfirst, hchallenge⟩ := checks_eq_cons settings
  rw [← hchallenge]
  cases h with
  | token htakes hx =>
      have hsplit : settings.checks = [] ++ settings.tokenCheck ::
          if settings.takesLogins then [settings.loginCheck] else [] :=
        checks_of_takesTokens (takesTokens_iff.mpr htakes)
      exact react_of_rejected settings.mode hfirst hsplit (by simp) (misses_behind_tokenCheck hx)
        (consult_tokenCheck_of_unresolved hd hno hx)
  | login htakes hx =>
      have hsplit := checks_of_takesLogins (takesLogins_iff.mpr htakes)
      exact react_of_rejected settings.mode hfirst hsplit (misses_before_loginCheck hx) (by simp)
        (consult_loginCheck_of_unresolved hd hno hx)

/-- Without credentials the mode decides. -/
theorem react_of_missing (h : ¬ ∃ scheme, Presents settings visit.request scheme) :
    (Guard.ofChecks settings.checks settings.mode).react visit =
      if settings.mode = .optional then .proceed visit []
      else Guard.refuse visit [] (refusal settings) := by
  have hmisses : ∀ c ∈ settings.checks, Misses visit c := by
    intro c hc
    rcases mem_checks hc with ⟨ht, rfl⟩ | ⟨hl, rfl⟩
    · refine consult_tokenCheck_of_none ?_
      rw [Option.eq_none_iff_forall_ne_some]
      intro token hx
      exact h ⟨_, .token (takesTokens_iff.mp ht) hx⟩
    · refine consult_loginCheck_of_none ?_
      rw [Option.eq_none_iff_forall_ne_some]
      intro login hx
      exact h ⟨_, .login (takesLogins_iff.mp hl) hx⟩
  obtain ⟨first, rest, hsplit, hchallenge⟩ := checks_eq_cons settings
  rw [react_of_undecided settings.mode hsplit (fun c hc => (hmisses c hc).undecided),
    any_rejects_of_misses hmisses, consultEvents_of_misses hmisses, hchallenge]
  simp

end Gatehouse.Proofs

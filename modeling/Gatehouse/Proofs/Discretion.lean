import Gatehouse.Proofs.AccessTable
import Gatehouse.Proofs.Challenge
import Gatehouse.Proofs.Session

/-!
# What a run gives away

The gate of a deployment looks at credentials through its checks and in no other way.
A check reduces them to a finding, and what it logs follows from the finding and the
path; the second guard never looks at a request at all, but for its path. So neither
guard can tell two requests apart that the checks find alike, and a walk of guards
that cannot tell two requests apart is the same walk for both (`walk_about`).

That is a statement about two runs. The other one is about the log of one run: each
word in it comes from a fixed list, the `vocabulary`, in which there is room for the
names of the entries and for the method and the path, but for no token, no password
and no query. The words are followed through the walk together with the caller, whose
name is the one thing that a guard hands on to the next (`walk_worded`).
-/

namespace Gatehouse.Proofs

open Gatehouse Http Text

/-! ## Guards that cannot tell two requests apart -/

/-- Two requests that differ in nothing but headers and query. -/
structure SameFront (request request' : Request) : Prop where
  method : request'.method = request.method
  path : request'.target.path = request.target.path
  secure : request'.target.isSecure = request.target.isSecure

/-- The visit with another request in the place of its own. -/
def about (request : Request) (visit : Visit) : Visit := { visit with request }

/-- The reaction with another request in the place of the one that it leaves. -/
def reactionAbout (request : Request) (reaction : Reaction) : Reaction :=
  { reaction with left := about request reaction.left }

/-- The turn with another request in the place of the one that the guard was shown. -/
def stepAbout (request : Request) (step : Step) : Step :=
  ⟨step.stage, about request step.seen, reactionAbout request step.reaction⟩

/-- A guard that hands on one of two requests as it is shown it, and does the same for the other. -/
def Blind (request request' : Request) (guard : Guard) : Prop :=
  ∀ visit : Visit, visit.request = request → (guard.react visit).left.request = request
    ∧ guard.react (about request' visit) = reactionAbout request' (guard.react visit)

section Blind

variable {request request' : Request}

theorem walk_about {stages : List Registration}
    (h : ∀ stage ∈ stages, Blind request request' stage.guard) {visit : Visit}
    (hvisit : visit.request = request) :
    walk stages (about request' visit) = (walk stages visit).map (stepAbout request') := by
  -- a guard may leave another caller to the rest, so the induction is for every visit
  induction stages generalizing visit with
  | nil => rfl
  | cons stage rest ih =>
      obtain ⟨hleft, hsame⟩ := h stage List.mem_cons_self visit hvisit
      have ih := ih (fun s hs => h s (List.mem_cons_of_mem stage hs)) hleft
      by_cases hgo : (stage.guard.react visit).outcome = .ok .proceed
      · have hgo' : (stage.guard.react (about request' visit)).outcome = .ok .proceed := by
          rw [hsame]
          exact hgo
        rw [walk_cons_of_proceed hgo, walk_cons_of_proceed hgo', List.map_cons, hsame]
        exact congrArg (List.cons _) ih
      · have hstop : (stage.guard.react (about request' visit)).outcome ≠ .ok .proceed := by
          rw [hsame]
          exact hgo
        rw [walk_cons_of_stop hgo, walk_cons_of_stop hstop, hsame]
        rfl

/-- The request is handed on from turn to turn. -/
theorem walk_left_request {stages : List Registration}
    (h : ∀ stage ∈ stages, Blind request request' stage.guard) {visit : Visit}
    (hvisit : visit.request = request) :
    ∀ step ∈ walk stages visit, step.left.request = request := by
  induction stages generalizing visit with
  | nil => intro step hstep; exact absurd hstep (by simp [walk])
  | cons stage rest ih =>
      have hleft := (h stage List.mem_cons_self visit hvisit).1
      have ih := ih (fun s hs => h s (List.mem_cons_of_mem stage hs)) hleft
      by_cases hgo : (stage.guard.react visit).outcome = .ok .proceed
      · rw [walk_cons_of_proceed hgo]
        exact List.forall_mem_cons.mpr ⟨hleft, ih⟩
      · rw [walk_cons_of_stop hgo]
        exact List.forall_mem_singleton.mpr hleft

/-- What is logged during a turn does not depend on headers and query. -/
theorem events_stepAbout (hfront : SameFront request request') {step : Step}
    (hleft : step.left.request = request) : (stepAbout request' step).events = step.events := by
  have hending : (stepAbout request' step).ending = step.ending := rfl
  have hmethod : (stepAbout request' step).left.method = step.left.method := by
    rw [Visit.method, Visit.method, hleft, ← hfront.method]
    rfl
  have hpath : (stepAbout request' step).left.path = step.left.path := by
    rw [Visit.path, Visit.path, hleft, ← hfront.path]
    rfl
  rw [Step.events, Step.events, Step.closing, Step.closing, hending, hmethod, hpath]
  rfl

/-- Two runs that look the same to the client, to the pages and in the log. -/
structure Indistinguishable (run run' : Run) : Prop where
  result : run'.result = run.result
  caller : run'.visit.caller = run.visit.caller
  secure : run'.visit.isSecure = run.visit.isSecure
  events : run'.events = run.events

theorem run_indistinguishable {pipeline : Pipeline}
    (h : ∀ stage ∈ pipeline.stages, Blind request request' stage.guard)
    (hfront : SameFront request request') :
    Indistinguishable (pipeline.run (.ofRequest request)) (pipeline.run (.ofRequest request')) := by
  have hvisit : Visit.ofRequest request' = about request' (.ofRequest request) := by
    rw [Visit.ofRequest, hfront.secure]
    rfl
  have hleft := walk_left_request h (rfl : (Visit.ofRequest request).request = request)
  rw [run_of_running pipeline rfl, run_of_running pipeline rfl, hvisit, walk_about h rfl]
  generalize walk pipeline.stages (.ofRequest request) = steps at hleft
  have hevents : (steps.map (stepAbout request')).flatMap Step.events =
      steps.flatMap Step.events := by
    rw [List.flatMap_map]
    refine List.flatMap_congr ?_
    intro step hstep
    exact events_stepAbout hfront (hleft step hstep)
  -- result and caller are those of the last turn
  have hlast : (steps.map (stepAbout request')).getLast? =
      steps.getLast?.map (stepAbout request') := List.getLast?_map
  constructor
  case result =>
    simp only [Walk.ending, hlast]
    cases steps.getLast? <;> rfl
  case caller =>
    simp only [Walk.final, hlast]
    cases steps.getLast? <;> rfl
  case secure =>
    simp only [Walk.final, hlast]
    cases steps.getLast? <;> rfl
  case events => exact hevents

end Blind

variable {settings : Settings} {request request' : Request}

/-! ## The guards of a deployment -/

/-- Every check that is registered finds the same in both requests. -/
def SameFindings (settings : Settings) (request request' : Request) : Prop :=
  ∀ check ∈ settings.checks,
    (check.consult (.ofRequest request')).finding = (check.consult (.ofRequest request)).finding

section Checks

variable {α : Type} {scheme : Scheme α} {authenticate : Authenticator α} {challenger : Challenger}
  {realm : String}

theorem consult_congr {visit visit' : Visit} (hpath : visit'.path = visit.path)
    (h : ((scheme.check authenticate challenger realm).consult visit').finding =
      ((scheme.check authenticate challenger realm).consult visit).finding) :
    (scheme.check authenticate challenger realm).consult visit' =
      (scheme.check authenticate challenger realm).consult visit := by
  rw [consult_eq visit', consult_eq visit, h, hpath]

end Checks

/-- A check looks at nothing but the request. -/
theorem consult_of_request {check : Check} (hcheck : check ∈ settings.checks) (visit : Visit) :
    check.consult visit = check.consult (.ofRequest visit.request) := by
  rcases mem_checks hcheck with ⟨_, rfl⟩ | ⟨_, rfl⟩
  · rfl
  · rfl

theorem consult_alike (hpath : request'.target.path = request.target.path)
    (h : SameFindings settings request request') {check : Check} (hcheck : check ∈ settings.checks)
    {visit : Visit} (hvisit : visit.request = request) :
    check.consult (about request' visit) = check.consult visit := by
  have hfinding := h check hcheck
  rw [consult_of_request hcheck (about request' visit), consult_of_request hcheck visit, hvisit]
  rcases mem_checks hcheck with ⟨_, rfl⟩ | ⟨_, rfl⟩
  · exact consult_congr hpath hfinding
  · exact consult_congr hpath hfinding

theorem take_congr {visit visit' : Visit} {checks : List Check}
    (h : ∀ c ∈ checks, c.consult visit' = c.consult visit) :
    Survey.take visit' checks = Survey.take visit checks := by
  induction checks with
  | nil => rfl
  | cons c rest ih =>
      have hc := h c List.mem_cons_self
      have ih := ih (fun d hd => h d (List.mem_cons_of_mem c hd))
      rw [Survey.take, Survey.take, hc, ih]

theorem blind_ofChecks {checks : List Check} (mode : Mode)
    (h : ∀ c ∈ checks, ∀ visit : Visit, visit.request = request →
      c.consult (about request' visit) = c.consult visit) :
    Blind request request' (Guard.ofChecks checks mode) := by
  intro visit hvisit
  refine ⟨(keeps_ofChecks checks mode visit).sameRequest.request.trans hvisit, ?_⟩
  have htake : Survey.take (about request' visit) checks = Survey.take visit checks :=
    take_congr (fun c hc => h c hc visit hvisit)
  simp only [Guard.ofChecks, htake]
  split
  · rfl
  · rfl
  · split
    · rfl
    · split
      · rfl
      · rfl

/-- The rules are about paths and callers. -/
theorem apply_about (settings : Settings) (rule : Rule) {visit : Visit}
    (hpath : (about request' visit).path = visit.path) :
    settings.policy.apply rule (about request' visit) =
      reactionAbout request' (settings.policy.apply rule visit) := by
  have hcaller : (about request' visit).caller = visit.caller := rfl
  have hgrants : ∀ principal roles, settings.policy.grants principal roles (about request' visit) =
      settings.policy.grants principal roles visit := fun _ _ => rfl
  simp only [Policy.apply, hcaller, hgrants, hpath]
  cases rule with
  | permitAll => rfl
  | denyAll => rfl
  | authenticated =>
      cases visit.caller.principal with
      | none => rfl
      | some principal => rfl
  | anyOf roles =>
      cases visit.caller.principal with
      | none => rfl
      | some principal =>
          dsimp only
          split
          · rfl
          · rfl

theorem blind_guard (settings : Settings) (hpath : request'.target.path = request.target.path) :
    Blind request request' settings.policy.guard := by
  intro visit hvisit
  refine ⟨(congrArg Visit.request (left_guard settings.policy visit)).trans hvisit, ?_⟩
  have hsame : (about request' visit).path = visit.path := by
    rw [Visit.path, Visit.path, hvisit]
    exact hpath
  simp only [Policy.guard, hsame]
  split
  · rfl
  · exact apply_about settings _ hsame

theorem blind_registrations (hfront : SameFront request request')
    (h : SameFindings settings request request') :
    ∀ stage ∈ settings.registrations, Blind request request' stage.guard := by
  intro stage hstage
  rcases List.mem_cons.mp hstage with rfl | hstage
  · refine blind_ofChecks settings.mode ?_
    intro c hc visit hvisit
    exact consult_alike hfront.path h hc hvisit
  · obtain rfl := List.mem_singleton.mp hstage
    exact blind_guard settings hfront.path

theorem gateRun_indistinguishable (hfront : SameFront request request')
    (h : SameFindings settings request request') :
    Indistinguishable (gateRun settings request) (gateRun settings request') :=
  @run_indistinguishable request request' ⟨settings.registrations⟩ (blind_registrations hfront h)
    hfront

/-! ## All wrong credentials are alike -/

/-- A login that does not succeed. -/
inductive Fails (settings : Settings) (login : Login) : Prop
  /-- Nobody has that name. -/
  | unknown : (∀ entry ∈ settings.users, entry.username ≠ login.username) → Fails settings login
  /-- Somebody has that name and another password. -/
  | mistaken {entry : UserEntry} : entry ∈ settings.users → entry.username = login.username →
      entry.password ≠ login.password → Fails settings login

theorem Fails.ne_login (hd : Distinct settings) {login : Login} (h : Fails settings login) :
    ∀ entry ∈ settings.users, entry.login ≠ login := by
  rintro entry hentry rfl
  cases h with
  | unknown hnobody => exact hnobody entry hentry rfl
  | @mistaken other hother hname hpassword =>
      -- the name is listed once, so it is the password of that very entry
      have hsame := List.inj_on_of_nodup_map hd.users hother hentry hname
      rw [hsame] at hpassword
      exact hpassword rfl

theorem not_resolves_of_token {token : Token} (hx : Scheme.bearer.extract request = some token)
    (h : ∀ entry ∈ settings.tokens, entry.token ≠ token.text) :
    ¬ ∃ name roles scheme, Resolves settings request name roles scheme := by
  rintro ⟨name, roles, scheme, hresolves⟩
  cases hresolves with
  | token hentry hx' =>
      have htoken := Option.some.inj (hx.symm.trans hx')
      exact h _ hentry (by rw [htoken])
  | login _ hx' =>
      rw [extract_login_eq_none hx] at hx'
      exact absurd hx' (by simp)

theorem not_resolves_of_login {login : Login} (hx : Scheme.basic.extract request = some login)
    (h : ∀ entry ∈ settings.users, entry.login ≠ login) :
    ¬ ∃ name roles scheme, Resolves settings request name roles scheme := by
  rintro ⟨name, roles, scheme, hresolves⟩
  cases hresolves with
  | token _ hx' =>
      rw [extract_token_eq_none hx] at hx'
      exact absurd hx' (by simp)
  | login hentry hx' => exact h _ hentry (Option.some.inj (hx'.symm.trans hx))

/-- Whatever token it is, a token that nobody has is rejected by one check and not seen by the
other. -/
theorem sameFindings_of_tokens (hd : Distinct settings) {token token' : Token}
    (hx : Scheme.bearer.extract request = some token)
    (hx' : Scheme.bearer.extract request' = some token')
    (h : ∀ entry ∈ settings.tokens, entry.token ≠ token.text)
    (h' : ∀ entry ∈ settings.tokens, entry.token ≠ token'.text) :
    SameFindings settings request request' := by
  intro check hcheck
  rcases mem_checks hcheck with ⟨_, rfl⟩ | ⟨_, rfl⟩
  · rw [consult_tokenCheck_of_unresolved hd (not_resolves_of_token hx' h') hx',
      consult_tokenCheck_of_unresolved hd (not_resolves_of_token hx h) hx]
  · rw [consult_loginCheck_of_none (extract_login_eq_none hx'),
      consult_loginCheck_of_none (extract_login_eq_none hx)]

theorem sameFindings_of_logins (hd : Distinct settings) {login login' : Login}
    (hx : Scheme.basic.extract request = some login)
    (hx' : Scheme.basic.extract request' = some login')
    (h : ∀ entry ∈ settings.users, entry.login ≠ login)
    (h' : ∀ entry ∈ settings.users, entry.login ≠ login') :
    SameFindings settings request request' := by
  intro check hcheck
  rcases mem_checks hcheck with ⟨_, rfl⟩ | ⟨_, rfl⟩
  · rw [consult_tokenCheck_of_none (extract_token_eq_none hx'),
      consult_tokenCheck_of_none (extract_token_eq_none hx)]
  · rw [consult_loginCheck_of_unresolved hd (not_resolves_of_login hx' h') hx',
      consult_loginCheck_of_unresolved hd (not_resolves_of_login hx h) hx]

/-! ## Where the words of a log come from -/

/-- The names of the entries, without what belongs to them. -/
def entryNames (settings : Settings) : List String :=
  settings.tokens.map TokenEntry.name ++ settings.users.map UserEntry.username

/-- The words that every deployment has in its log. -/
def fixedWords : List String :=
  ["chained-auth[bearer]", "chained-auth[basic]", "chained-auth[bearer,basic]", "roles-allowed",
    "authentication(1000)", "authorization(2000)", "Bearer", "Basic", "401", "403"]

/-- All the words that the log of a gate is made of. -/
def vocabulary (settings : Settings) (request : Request) : List String :=
  fixedWords ++ [settings.realm, request.method, request.target.path] ++ entryNames settings

/-- An event that says nothing but these words. -/
def Worded (words : List String) (event : Event) : Prop := ∀ field ∈ event.fields, field.2 ∈ words

/-- A caller without a name, or with that of an entry. -/
def Listed (settings : Settings) (caller : Caller) : Prop :=
  ∀ name ∈ caller.principal, name ∈ entryNames settings

/-- A reaction that keeps to the vocabulary, and hands on what the vocabulary is about. -/
structure Discreet (settings : Settings) (request : Request) (reaction : Reaction) : Prop where
  handsOn : reaction.left.request = request
  caller : Listed settings reaction.left.caller
  events : ∀ event ∈ reaction.events, Worded (vocabulary settings request) event
  outcome : reaction.outcome = .ok .proceed ∨ ∃ response, reaction.outcome = .ok (.answer response)
    ∧ (response.status = .unauthorized ∨ response.status = .forbidden)

/-- Most events have two fields. -/
theorem Worded.pair {words : List String} {event : Event} {field field' : String × String}
    (hfields : event.fields = [field, field']) (h : field.2 ∈ words) (h' : field'.2 ∈ words) :
    Worded words event := by
  rw [Worded, hfields]
  exact List.forall_mem_cons.mpr ⟨h, List.forall_mem_singleton.mpr h'⟩

theorem mem_vocabulary_of_fixed {word : String} (h : word ∈ fixedWords) :
    word ∈ vocabulary settings request := List.mem_append_left _ (List.mem_append_left _ h)

theorem mem_vocabulary_of_name {name : String} (h : name ∈ entryNames settings) :
    name ∈ vocabulary settings request := List.mem_append_right _ h

theorem realm_mem_vocabulary : settings.realm ∈ vocabulary settings request := by
  simp [vocabulary]

theorem method_mem_vocabulary : request.method ∈ vocabulary settings request := by
  simp [vocabulary]

theorem path_mem_vocabulary : request.target.path ∈ vocabulary settings request := by
  simp [vocabulary]

theorem Resolves.mem_names {name scheme : String} {roles : List String}
    (h : Resolves settings request name roles scheme) : name ∈ entryNames settings := by
  cases h with
  | token hentry _ => exact List.mem_append_left _ (List.mem_map_of_mem hentry)
  | login hentry _ => exact List.mem_append_right _ (List.mem_map_of_mem hentry)

theorem Presents.mem_fixed {scheme : String} (h : Presents settings request scheme) :
    scheme ∈ fixedWords := by
  cases h with
  | token _ _ => decide
  | login _ _ => decide

theorem worded_refusal (settings : Settings) (request : Request) :
    ∀ event ∈ (refusal settings).events, Worded (vocabulary settings request) event := by
  rw [refusal]
  rcases refusal_cases (.inr rfl) settings.challengeScheme settings.realm with
    ⟨-, hevents, -⟩ | ⟨-, hevents, -⟩
  · rw [hevents]
    exact List.forall_mem_nil _
  · -- a realm that cannot be written is named in the log
    rw [hevents]
    exact List.forall_mem_singleton.mpr (List.forall_mem_singleton.mpr realm_mem_vocabulary)

theorem discreet_proceed {visit : Visit} (h : Listed settings visit.caller) :
    Discreet settings visit.request (.proceed visit []) := by
  refine ⟨rfl, h, ?_, .inl rfl⟩
  intro event hevent
  exact absurd hevent (by simp [Reaction.proceed])

theorem discreet_refuse {visit : Visit} {events : List Event} (h : Listed settings visit.caller)
    (hevents : ∀ event ∈ events, Worded (vocabulary settings visit.request) event) :
    Discreet settings visit.request (Guard.refuse visit events (refusal settings)) := by
  refine ⟨rfl, h, ?_, .inr ⟨_, rfl, .inl (status_refusal settings)⟩⟩
  intro event hevent
  rcases List.mem_append.mp hevent with hevent | hevent
  · exact hevents event hevent
  · exact worded_refusal settings visit.request event hevent

theorem discreet_authentication (hd : Distinct settings) {visit : Visit}
    (h : Listed settings visit.caller) (hrequest : visit.request = request) :
    Discreet settings request ((Guard.ofChecks settings.checks settings.mode).react visit) := by
  subst hrequest
  -- one reaction for each standing, and each has its own line in the log
  obtain ⟨standing, hstands⟩ := exists_stands settings visit.request
  cases standing with
  | resolved name roles scheme =>
      have hname := Resolves.mem_names hstands
      have hscheme := (Resolves.presents hstands).mem_fixed
      rw [react_of_resolves hd hstands]
      refine ⟨rfl, ?_, ?_, .inl rfl⟩
      · intro other hother
        obtain rfl := Option.some.inj hother
        exact hname
      · intro event hevent
        obtain rfl := List.mem_singleton.mp hevent
        exact .pair rfl (mem_vocabulary_of_name hname) (mem_vocabulary_of_fixed hscheme)
  | invalid =>
      obtain ⟨⟨scheme, hpresents⟩, hno⟩ := hstands
      rw [react_of_invalid hd hpresents hno]
      refine discreet_refuse h ?_
      intro event hevent
      obtain rfl := List.mem_singleton.mp hevent
      exact .pair rfl (mem_vocabulary_of_fixed hpresents.mem_fixed) path_mem_vocabulary
  | missing =>
      rw [react_of_missing hstands]
      split
      · exact discreet_proceed h
      · exact discreet_refuse h (by simp)

theorem discreet_authorization {visit : Visit} (h : Listed settings visit.caller)
    (hrequest : visit.request = request) :
    Discreet settings request (settings.policy.guard.react visit) := by
  subst hrequest
  rcases reacts_in_three_ways settings.policy visit with
    hreact | hreact | ⟨events, hreact, hlacking⟩
  · rw [hreact]
    exact discreet_proceed h
  · rw [hreact]
    exact @discreet_refuse settings visit [] h (by simp)
  · rw [hreact]
    refine ⟨rfl, h, ?_, .inr ⟨_, rfl, .inr rfl⟩⟩
    intro event hevent
    obtain ⟨name, hname, rfl⟩ := hlacking event hevent
    exact .pair rfl (mem_vocabulary_of_name (h name hname)) path_mem_vocabulary

/-- A stage whose name and place are in the vocabulary, and whose guard keeps to it. -/
structure DiscreetStage (settings : Settings) (request : Request) (stage : Registration) :
    Prop where
  name : stage.name ∈ vocabulary settings request
  priority : stage.priority.text ∈ vocabulary settings request
  react : ∀ visit : Visit, Listed settings visit.caller → visit.request = request →
    Discreet settings request (stage.guard.react visit)

theorem name_authentication (settings : Settings) :
    (Guard.ofChecks settings.checks settings.mode).name ∈ fixedWords := by
  have hbearer : lowerAscii settings.tokenCheck.scheme = "bearer" := by
    change lowerAscii "Bearer" = "bearer"
    decide
  have hbasic : lowerAscii settings.loginCheck.scheme = "basic" := by
    change lowerAscii "Basic" = "basic"
    decide
  simp only [Guard.ofChecks]
  cases htokens : settings.takesTokens with
  | false =>
      rw [checks_of_not_takesTokens htokens, List.map_cons, hbasic]
      decide
  | true =>
      rw [checks_of_takesTokens htokens, List.map_cons, hbearer]
      cases settings.takesLogins with
      | false =>
          rw [if_neg Bool.false_ne_true]
          decide
      | true =>
          rw [if_pos rfl, List.map_cons, hbasic]
          decide

theorem discreet_registrations (hd : Distinct settings) :
    ∀ stage ∈ settings.registrations, DiscreetStage settings request stage := by
  have hfirst : Priority.authentication.text ∈ fixedWords := by decide
  have hsecond : Priority.authorization.text ∈ fixedWords := by decide
  intro stage hstage
  rcases List.mem_cons.mp hstage with rfl | hstage
  · refine ⟨mem_vocabulary_of_fixed (name_authentication settings),
      mem_vocabulary_of_fixed hfirst, ?_⟩
    intro visit h hrequest
    exact discreet_authentication hd h hrequest
  · obtain rfl := List.mem_singleton.mp hstage
    -- the name is read off by hand, as the settings are not known
    have hname : settings.policy.guard.name ∈ fixedWords := by
      change "roles-allowed" ∈ fixedWords
      decide
    refine ⟨mem_vocabulary_of_fixed hname, mem_vocabulary_of_fixed hsecond, ?_⟩
    intro visit h hrequest
    exact discreet_authorization h hrequest

theorem step_worded {step : Step} (hstage : DiscreetStage settings request step.stage)
    (hreaction : Discreet settings request step.reaction) :
    ∀ event ∈ step.events, Worded (vocabulary settings request) event := by
  have hopening : Worded (vocabulary settings request) step.opening :=
    .pair rfl hstage.name hstage.priority
  have hclosing : ∀ event ∈ step.closing, Worded (vocabulary settings request) event := by
    rcases hreaction.outcome with hgo | ⟨response, hanswer, hstatus⟩
    · have hending : step.ending = .exhausted := by rw [Step.ending, hgo]
      simp [Step.closing, hending]
    · have hending : step.ending = .answered response := by rw [Step.ending, hanswer]
      have hcode : toString response.status.code ∈ fixedWords := by
        rcases hstatus with hstatus | hstatus
        · rw [hstatus]; decide
        · rw [hstatus]; decide
      have hmethod : step.left.method ∈ vocabulary settings request := by
        rw [Visit.method, Step.left, hreaction.handsOn]; exact method_mem_vocabulary
      have hpath : step.left.path ∈ vocabulary settings request := by
        rw [Visit.path, Step.left, hreaction.handsOn]; exact path_mem_vocabulary
      intro event hevent
      rw [Step.closing, hending] at hevent
      obtain rfl := List.mem_singleton.mp hevent
      refine List.forall_mem_cons.mpr ⟨hstage.name, ?_⟩
      refine List.forall_mem_cons.mpr ⟨mem_vocabulary_of_fixed hcode, ?_⟩
      exact List.forall_mem_cons.mpr ⟨hmethod, List.forall_mem_singleton.mpr hpath⟩
  intro event hevent
  rcases List.mem_cons.mp hevent with rfl | hevent
  · exact hopening
  · rcases List.mem_append.mp hevent with hevent | hevent
    · exact hreaction.events event hevent
    · exact hclosing event hevent

/-- The caller that a discreet guard leaves is all that the next one learns from it. -/
theorem walk_worded {stages : List Registration}
    (h : ∀ stage ∈ stages, DiscreetStage settings request stage) {visit : Visit}
    (hcaller : Listed settings visit.caller) (hrequest : visit.request = request) :
    ∀ step ∈ walk stages visit, ∀ event ∈ step.events,
      Worded (vocabulary settings request) event := by
  induction stages generalizing visit with
  | nil => intro step hstep; exact absurd hstep (by simp [walk])
  | cons stage rest ih =>
      have hstage := h stage List.mem_cons_self
      have hreaction := hstage.react visit hcaller hrequest
      have hfirst : ∀ event ∈ (Step.mk stage visit (stage.guard.react visit)).events,
          Worded (vocabulary settings request) event := step_worded hstage hreaction
      by_cases hgo : (stage.guard.react visit).outcome = .ok .proceed
      · rw [walk_cons_of_proceed hgo]
        intro step hstep
        rcases List.mem_cons.mp hstep with rfl | hstep
        · exact hfirst
        · exact ih (fun s hs => h s (List.mem_cons_of_mem stage hs)) hreaction.caller
            hreaction.handsOn step hstep
      · rw [walk_cons_of_stop hgo]
        intro step hstep
        obtain rfl := List.mem_singleton.mp hstep
        exact hfirst

theorem gateRun_worded (hd : Distinct settings) (request : Request) :
    ∀ event ∈ (gateRun settings request).events, Worded (vocabulary settings request) event := by
  intro event hevent
  rw [Run.events, gateRun_steps] at hevent
  obtain ⟨step, hstep, hevent⟩ := List.mem_flatMap.mp hevent
  refine walk_worded (discreet_registrations hd) ?_ rfl step hstep event hevent
  intro name hname
  exact absurd hname (by simp [Visit.ofRequest, Caller.anonymous])

/-! ## Secrets count by their findings -/

/-- **What a secret is does not matter to a run, only what the checks find.** Two requests that
the checks find alike are treated alike: wrong tokens, and wrong logins, whether it is the name
that is wrong or the password. And nothing that is logged about a request comes from its headers
or its query. -/
theorem secrets_count_by_findings {env : Environment} {settings : Settings}
    (h : Settings.read env = .ok settings) :
    ∃ pipeline, settings.pipeline = .ok pipeline
      ∧ (∀ request request' : Request, SameFront request request' →
        (SameFindings settings request request' →
          Indistinguishable (pipeline.run (.ofRequest request))
            (pipeline.run (.ofRequest request')))
        ∧ (∀ token token' : Token, Scheme.bearer.extract request = some token →
          Scheme.bearer.extract request' = some token' →
          (∀ entry ∈ settings.tokens, entry.token ≠ token.text ∧ entry.token ≠ token'.text) →
          Indistinguishable (pipeline.run (.ofRequest request))
            (pipeline.run (.ofRequest request')))
        ∧ (∀ login login' : Login, Scheme.basic.extract request = some login →
          Scheme.basic.extract request' = some login' →
          Fails settings login → Fails settings login' →
          Indistinguishable (pipeline.run (.ofRequest request))
            (pipeline.run (.ofRequest request'))))
      ∧ ∀ request : Request, ∀ event ∈ (pipeline.run (.ofRequest request)).events,
        Worded (vocabulary settings request) event := by
  have hd := distinct_of_read h
  refine ⟨_, pipeline_eq settings, ?_, gateRun_worded hd⟩
  intro request request' hfront
  refine ⟨gateRun_indistinguishable hfront, ?_, ?_⟩
  · intro token token' hx hx' hwrong
    have hfindings := sameFindings_of_tokens hd hx hx' (fun entry hentry => (hwrong entry hentry).1)
      (fun entry hentry => (hwrong entry hentry).2)
    exact gateRun_indistinguishable hfront hfindings
  · intro login login' hx hx' hfails hfails'
    have hfindings := sameFindings_of_logins hd hx hx' (hfails.ne_login hd) (hfails'.ne_login hd)
    exact gateRun_indistinguishable hfront hfindings

/-- Nobody is called Eve. -/
def strangerRequest : Request :=
  ⟨"GET", ⟨none, "/api/v1/me", none⟩, [⟨"authorization", "Basic ZXZlOnB3"⟩]⟩

/-- Bob has another password. -/
def mistakenRequest : Request :=
  ⟨"GET", ⟨none, "/api/v1/me", some "page=2"⟩, [⟨"authorization", "Basic Ym9iOm5v"⟩]⟩

theorem secrets_count_by_findings_furnished :
    Settings.read furnished = .ok furnishedSettings
      ∧ SameFront strangerRequest mistakenRequest
      ∧ ∃ pipeline, furnishedSettings.pipeline = .ok pipeline
        ∧ Indistinguishable (pipeline.run (.ofRequest strangerRequest))
          (pipeline.run (.ofRequest mistakenRequest))
        ∧ ∀ event ∈ (pipeline.run (.ofRequest mistakenRequest)).events,
          Worded (vocabulary furnishedSettings mistakenRequest) event := by
  have hfront : SameFront strangerRequest mistakenRequest := ⟨rfl, rfl, rfl⟩
  have hstranger : Scheme.basic.extract strangerRequest = some ⟨"eve", "pw"⟩ := by decide +kernel
  have hmistaken : Scheme.basic.extract mistakenRequest = some ⟨"bob", "no"⟩ := by decide +kernel
  have hunknown : Fails furnishedSettings ⟨"eve", "pw"⟩ := .unknown (by decide)
  have hpassword : Fails furnishedSettings ⟨"bob", "no"⟩ :=
    @Fails.mistaken furnishedSettings ⟨"bob", "no"⟩ ⟨"bob", "pa:ss", []⟩ List.mem_cons_self rfl
      (by decide)
  obtain ⟨pipeline, hpipeline, hpairs, hworded⟩ := secrets_count_by_findings read_furnished
  have hlogins := (hpairs strangerRequest mistakenRequest hfront).2.2
  exact ⟨read_furnished, hfront, pipeline, hpipeline,
    hlogins _ _ hstranger hmistaken hunknown hpassword, hworded mistakenRequest⟩

end Gatehouse.Proofs

import Gatehouse.Proofs.JsonReading
import Gatehouse.Proofs.Outgoing
import Gatehouse.Proofs.Session

/-!
# The pages serve whom the credentials stand for

The account page and the administration page never see a request; they are handed
an account, and they say what stands in it. So what they serve is settled by who
gets that far and by whose account it is, and the access table knows both. Both
pages lie inside the mount point and not beneath the greeting, where nobody passes
but with the credentials of an entry (`needsAccount`), and for the administration
page that entry must name the role.

Each page has an answer ready for a caller without an account. It is never given:
where no account is made out, the gate has answered before (`judged`). What a page
says is what is read in its body (`Conveys`).
-/

namespace Gatehouse.Proofs

open Gatehouse Http Text

/-! ## Who gets to a page -/

/-- Nobody passes to this page but with the credentials of an entry. -/
def NeedsAccount (page : Page) : Prop :=
  ∀ mode standing, Passes mode page.address standing →
    ∃ name roles scheme, standing = .resolved name roles scheme

theorem needsAccount {page : Page} (hin : Beneath "/api/v1" page.address)
    (hout : ¬ Beneath "/api/v1/greeting" page.address) : NeedsAccount page := by
  intro mode standing hpass
  cases standing with
  | resolved name roles scheme => exact ⟨name, roles, scheme, rfl⟩
  | invalid => exact absurd hpass (fun hnever => hnever)
  | missing =>
      rcases hpass.2 with houtside | hgreeting
      · exact absurd hin houtside
      · exact absurd hgreeting hout

theorem needsAccount_me : NeedsAccount .me := needsAccount (by decide) (by decide)

theorem needsAccount_admin : NeedsAccount .admin := needsAccount (by decide) (by decide)

theorem passes_me (mode : Mode) (name : String) (roles : List String) (scheme : String) :
    Passes mode Page.me.address (.resolved name roles scheme) := by
  intro hadmin
  exact absurd hadmin (by decide)

theorem passes_admin_iff {mode : Mode} {name : String} {roles : List String} {scheme : String} :
    Passes mode Page.admin.address (.resolved name roles scheme) ↔ "admin" ∈ roles := by
  have hadmin : Beneath "/api/v1/admin" Page.admin.address := by decide
  refine ⟨?_, ?_⟩
  · intro hpass
    exact hpass hadmin
  · intro hrole _
    exact hrole

/-! ## What is answered -/

/-- The reply to a request of this standing for a page behind the gate. -/
def replyTo (settings : Settings) (page : Page) (standing : Standing) : Reply :=
  if Passes settings.mode page.address standing then page.reply standing.caller.account?
  else .silent (standing.answer settings)

theorem afterRun_gated {settings : Settings} {page : Page} {request : Request}
    {standing : Standing} {run : Run} (haddress : request.target.path = page.address)
    (h : Gated settings request standing run) :
    Service.afterRun page "GET" run = replyTo settings page standing := by
  obtain ⟨hresult, hvisit⟩ := h
  rw [haddress] at hresult
  by_cases hpass : Passes settings.mode page.address standing
  · rw [if_pos hpass] at hresult
    rw [replyTo, if_pos hpass]
    simp only [Service.afterRun, hresult, hvisit]
    rfl
  · rw [if_neg hpass] at hresult
    rw [replyTo, if_neg hpass]
    simp only [Service.afterRun, hresult]

/-- A deployment has a service behind its own gate. -/
theorem service_eq (settings : Settings) :
    settings.service = .ok (settings.serviceBehind ⟨settings.registrations⟩) := rfl

variable {settings : Settings} {page : Page} {fresh : String} {request : Request}
  {standing : Standing}

/-- A `GET` for a page behind the gate, without the announcement of too long a body. -/
structure Asks (settings : Settings) (page : Page) (request : Request) : Prop where
  guarded : page.isProtected = true
  get : request.method = "GET"
  address : request.target.path = page.address
  length : ∀ n, Service.announcedLength? request = some n → n ≤ settings.bodyLimit

/-- A request that asks for a page behind the gate is answered by its standing. -/
theorem serve_of_asks (hd : Distinct settings) (hasks : Asks settings page request)
    (hstands : Stands settings request standing) :
    (settings.serviceBehind ⟨settings.registrations⟩).serve fresh request =
      ⟨labelled (idOf fresh request) (replyTo settings page standing).response,
        (gateRun settings (Service.identified fresh request)).steps,
        (gateRun settings (Service.identified fresh request)).events
          ++ (replyTo settings page standing).events⟩ := by
  have hserve := @serve_protected (settings.serviceBehind ⟨settings.registrations⟩) page fresh
    request hasks.guarded hasks.address (short_identified fresh hasks.length)
    (gate_in_time settings _ _)
  have hgated := gated hd (hstands.of_same (sameCredentials_identified fresh request))
  have hreply := @afterRun_gated settings page (Service.identified fresh request) standing _
    hasks.address hgated
  rw [gateRun] at hreply ⊢
  rw [hserve, hasks.get]
  simp only [Settings.serviceBehind, hreply, dress_get]

theorem response_of_tooLong {service : Service} (hget : request.method = "GET")
    (haddress : request.target.path = page.address)
    (hlong : Service.tooLong service.limits request = true) :
    (service.serve fresh request).response =
      labelled (idOf fresh request) Service.lengthRefused := by
  rw [← tooLong_identified _ fresh] at hlong
  rw [serve_of_tooLong haddress hlong, hget]
  exact dress_get fresh request Service.lengthRefused

/-- The answer to a request of this standing; about too long a body the gate is not asked. -/
def answerTo (settings : Settings) (page : Page) (request : Request) (standing : Standing) :
    Response :=
  if Service.tooLong settings.limits request then Service.lengthRefused
  else (replyTo settings page standing).response

theorem response_of_stands (hd : Distinct settings) (hpage : page.isProtected = true)
    (hget : request.method = "GET") (haddress : request.target.path = page.address)
    (hstands : Stands settings request standing) :
    ((settings.serviceBehind ⟨settings.registrations⟩).serve fresh request).response =
      labelled (idOf fresh request) (answerTo settings page request standing) := by
  cases hlong : Service.tooLong settings.limits request with
  | true => rw [answerTo, hlong, if_pos rfl, response_of_tooLong hget haddress hlong]
  | false =>
      have hasks : Asks settings page request :=
        ⟨hpage, hget, haddress, tooLong_eq_false_iff.mp hlong⟩
      rw [answerTo, hlong, if_neg Bool.false_ne_true, serve_of_asks hd hasks hstands]

/-- A response with the code and the body that the standing of the request calls for. -/
def Answers (settings : Settings) (page : Page) (request : Request) (response : Response) : Prop :=
  ∀ standing, Stands settings request standing →
    response.status = (replyTo settings page standing).response.status
      ∧ response.body = (replyTo settings page standing).response.body

theorem answers_of_asks (hd : Distinct settings) (hasks : Asks settings page request) :
    Answers settings page request
      ((settings.serviceBehind ⟨settings.registrations⟩).serve fresh request).response := by
  intro standing hstands
  rw [serve_of_asks hd hasks hstands]
  exact ⟨rfl, rfl⟩

/-! ## What the gate goes by -/

/-- What the gate went by in an exchange about a page that needs an account. -/
structure Judged (request : Request) (exchange : Exchange) : Prop where
  /-- The gate was asked. -/
  asked : exchange.steps ≠ []
  /-- Each guard was shown the target as it was sent. -/
  whole : ∀ step ∈ exchange.steps, step.seen.request.target = request.target
  /-- If all of them let the request go on, the page is handed an account. -/
  known : ∀ last ∈ exchange.steps.getLast?, last.reaction.outcome = .ok .proceed →
    last.left.caller.account?.isSome = true

/-- A gate that lets nobody but entries pass leaves an account to the page. -/
theorem account_of_proceed (hd : Distinct settings) (hstands : Stands settings request standing)
    (hneeds : NeedsAccount page) (haddress : request.target.path = page.address)
    {last : Step} (hlast : last ∈ (gateRun settings request).steps.getLast?)
    (hproceed : last.reaction.outcome = .ok .proceed) :
    last.left.caller.account?.isSome = true := by
  obtain ⟨hresult, hvisit⟩ := gated hd hstands
  obtain ⟨hreport, hleft⟩ := @run_last ⟨settings.registrations⟩ (.ofRequest request) rfl last hlast
  have hending : last.ending = .exhausted := by rw [Step.ending, hproceed]
  -- a request that does not pass is answered by a guard, and this one went on
  have hpass : Passes settings.mode request.target.path standing := by
    by_contra hstop
    rw [if_neg hstop, gateRun, hreport, hending, Ending.result] at hresult
    exact absurd hresult (by simp)
  rw [haddress] at hpass
  obtain ⟨name, roles, scheme, rfl⟩ := hneeds settings.mode standing hpass
  have hcaller : last.left.caller = (Standing.resolved name roles scheme).caller :=
    congrArg Visit.caller (hleft.symm.trans hvisit)
  rw [hcaller]; rfl

/-- The guards of a deployment keep to operations, so each of them is shown the request as it
came. -/
theorem gateRun_sameRequest (settings : Settings) (request : Request) :
    ∀ step ∈ (gateRun settings request).steps, SameRequest (.ofRequest request) step.seen := by
  have hkeeps : ∀ stage ∈ settings.registrations, KeepsToOperations stage.guard := by
    intro stage hstage
    rcases List.mem_cons.mp hstage with rfl | hstage
    · exact keeps_ofChecks settings.checks settings.mode
    · obtain rfl := List.mem_singleton.mp hstage
      exact keeps_guard settings.policy
  have hsteps := @forall_steps ⟨settings.registrations⟩ SameRequest
    (fun stage hstage seen => (hkeeps stage hstage seen).sameRequest) (.ofRequest request)
  intro step hstep
  rw [← gateRun, gateRun_steps] at hsteps
  rw [gateRun_steps] at hstep
  exact (sameRequest_of_linked (walk_linked _ _) hsteps step hstep).1

theorem judged (hd : Distinct settings) (hasks : Asks settings page request)
    (hneeds : NeedsAccount page) :
    Judged request ((settings.serviceBehind ⟨settings.registrations⟩).serve fresh request) := by
  obtain ⟨standing, hstands⟩ := exists_stands settings request
  rw [serve_of_asks hd hasks hstands]
  constructor
  case asked =>
    rw [gateRun_steps]
    exact walk_ne_nil
  case whole =>
    intro step hstep
    have hsame := gateRun_sameRequest settings (Service.identified fresh request) step hstep
    rw [hsame.request]
    rfl
  case known =>
    intro last hlast hproceed
    exact account_of_proceed hd (hstands.of_same (sameCredentials_identified fresh request)) hneeds
      hasks.address hlast hproceed

/-! ## What the two pages say -/

/-- What the account page says of a caller, whoever vouched for it. -/
def profileBody (name : String) (listed : List String) (scheme : Option String) : Json :=
  .object [("principal", .text name), ("roles", .list (listed.map .text)),
    ("scheme", (scheme.map Json.text).getD .null)]

/-- What the administration page says of a caller. -/
def administrationBody (name : String) : Json :=
  .object [("admin", .bool true), ("principal", .text name)]

theorem replyTo_me (settings : Settings) (name : String) (roles : List String) (scheme : String) :
    replyTo settings .me (.resolved name roles scheme) =
      Page.found (profileBody name (Roles.ofList roles).names (some scheme)) := by
  rw [replyTo, if_pos (passes_me settings.mode name roles scheme)]; rfl

theorem replyTo_admin (settings : Settings) {name : String} {roles : List String} {scheme : String}
    (hrole : "admin" ∈ roles) :
    replyTo settings .admin (.resolved name roles scheme) =
      ⟨.json .ok (administrationBody name), [.adminAccessed name]⟩ := by
  rw [replyTo, if_pos (passes_admin_iff.mpr hrole)]; rfl

theorem status_replyTo_of_stopped
    (hstop : ¬ Passes settings.mode page.address standing) :
    (replyTo settings page standing).response.status = standing.status := by
  rw [replyTo, if_neg hstop]
  exact status_answer settings standing

variable {response : Response}

/-- Without the credentials of an entry, a page that needs an account asks for credentials. -/
theorem Answers.refused (h : Answers settings page request response) (hneeds : NeedsAccount page)
    (hno : ¬ ∃ name roles scheme, Resolves settings request name roles scheme) :
    response.status = .unauthorized := by
  obtain ⟨standing, hstands⟩ := exists_stands settings request
  -- whichever of the two other standings it is, the answer is the same
  have hunnamed : ∀ name roles scheme, standing ≠ .resolved name roles scheme := by
    intro name roles scheme hresolved
    rw [hresolved] at hstands
    exact hno ⟨name, roles, scheme, hstands⟩
  have hstop : ¬ Passes settings.mode page.address standing := by
    intro hpass
    obtain ⟨name, roles, scheme, hresolved⟩ := hneeds settings.mode standing hpass
    exact hunnamed name roles scheme hresolved
  rw [(h standing hstands).1, status_replyTo_of_stopped hstop]
  cases standing with
  | resolved name roles scheme => exact absurd rfl (hunnamed name roles scheme)
  | invalid => rfl
  | missing => rfl

variable {name scheme : String} {roles : List String}

theorem Answers.account (h : Answers settings .me request response)
    (hresolves : Resolves settings request name roles scheme) :
    response.status = .ok
      ∧ Conveys response.body (profileBody name (Roles.ofList roles).names (some scheme)) := by
  obtain ⟨hstatus, hbody⟩ := h (.resolved name roles scheme) hresolves
  rw [replyTo_me] at hstatus hbody
  rw [hbody]
  exact ⟨hstatus, conveys_render _⟩

theorem Answers.administration (h : Answers settings .admin request response)
    (hresolves : Resolves settings request name roles scheme) (hrole : "admin" ∈ roles) :
    response.status = .ok ∧ Conveys response.body (administrationBody name) := by
  obtain ⟨hstatus, hbody⟩ := h (.resolved name roles scheme) hresolves
  rw [replyTo_admin settings hrole] at hstatus hbody
  rw [hbody]
  exact ⟨hstatus, conveys_render _⟩

theorem Answers.forbidden (h : Answers settings .admin request response)
    (hresolves : Resolves settings request name roles scheme) (hlacks : "admin" ∉ roles) :
    response.status = .forbidden := by
  have hstop : ¬ Passes settings.mode Page.admin.address (.resolved name roles scheme) :=
    fun hpass => hlacks (passes_admin_iff.mp hpass)
  rw [(h (.resolved name roles scheme) hresolves).1]
  exact status_replyTo_of_stopped hstop

/-- The administration page has three answers, and each of them says why it is given. -/
theorem Answers.administration_cases (h : Answers settings .admin request response) :
    (response.status = .ok
        ∧ ∃ name roles scheme, Resolves settings request name roles scheme ∧ "admin" ∈ roles)
      ∨ (response.status = .forbidden
        ∧ ∃ name roles scheme, Resolves settings request name roles scheme ∧ "admin" ∉ roles)
      ∨ response.status = .unauthorized := by
  by_cases hresolves : ∃ name roles scheme, Resolves settings request name roles scheme
  · obtain ⟨name, roles, scheme, hresolves⟩ := hresolves
    by_cases hrole : "admin" ∈ roles
    · have hok := (h.administration hresolves hrole).1
      exact .inl ⟨hok, name, roles, scheme, hresolves, hrole⟩
    · have hforbidden := h.forbidden hresolves hrole
      exact .inr (.inl ⟨hforbidden, name, roles, scheme, hresolves, hrole⟩)
  · exact .inr (.inr (h.refused needsAccount_admin hresolves))

/-! ## Whom the two pages are served to -/

/-- Whom the account page is served to, and what it says. -/
structure AccountServed (settings : Settings) (request : Request) (response : Response) : Prop where
  /-- It is served to everyone with the credentials of an entry. -/
  served : response.status = .ok ↔
    ∃ name roles scheme, Resolves settings request name roles scheme
  /-- It says the name of that entry, its roles each once and in order, and the scheme. -/
  shown : ∀ name roles scheme, Resolves settings request name roles scheme →
    ∃ listed : List String, listed.Pairwise (· < ·) ∧ (∀ role, role ∈ listed ↔ role ∈ roles)
      ∧ Conveys response.body (profileBody name listed (some scheme))
  /-- Everyone else is asked for credentials. -/
  refused : (¬ ∃ name roles scheme, Resolves settings request name roles scheme) →
    response.status = .unauthorized

/-- Whom the administration page is served to, and what it says. -/
structure AdministrationServed (settings : Settings) (request : Request) (response : Response) :
    Prop where
  /-- It is served to those whose entry holds the role. -/
  served : response.status = .ok ↔
    ∃ name roles scheme, Resolves settings request name roles scheme ∧ "admin" ∈ roles
  /-- It says the name of that entry. -/
  shown : ∀ name roles scheme, Resolves settings request name roles scheme → "admin" ∈ roles →
    Conveys response.body (administrationBody name)
  /-- Those whose entry does not hold the role are turned away. -/
  forbidden : response.status = .forbidden ↔
    ∃ name roles scheme, Resolves settings request name roles scheme ∧ "admin" ∉ roles
  /-- Everyone else is asked for credentials. -/
  refused : (¬ ∃ name roles scheme, Resolves settings request name roles scheme) →
    response.status = .unauthorized

theorem Answers.accountServed (h : Answers settings .me request response) :
    AccountServed settings request response := by
  constructor
  case served =>
    refine ⟨?_, ?_⟩
    · intro hok
      by_contra hno
      rw [h.refused needsAccount_me hno] at hok
      exact absurd hok (by decide)
    · intro hresolves
      obtain ⟨name, roles, scheme, hresolves⟩ := hresolves
      exact (h.account hresolves).1
  case shown =>
    intro name roles scheme hresolves
    exact ⟨(Roles.ofList roles).names, (Roles.ofList roles).ascending,
      fun role => Roles.mem_ofList, (h.account hresolves).2⟩
  case refused =>
    intro hno
    exact h.refused needsAccount_me hno

theorem Answers.administrationServed (h : Answers settings .admin request response) :
    AdministrationServed settings request response := by
  -- the three answers have different codes, so a code tells which of them it is
  have hcases := h.administration_cases
  constructor
  case served =>
    refine ⟨?_, ?_⟩
    · intro hok
      rcases hcases with ⟨_, hholds⟩ | ⟨hstatus, _⟩ | hstatus
      · exact hholds
      · exact absurd (hok.symm.trans hstatus) (by decide)
      · exact absurd (hok.symm.trans hstatus) (by decide)
    · intro hholds
      obtain ⟨name, roles, scheme, hresolves, hrole⟩ := hholds
      exact (h.administration hresolves hrole).1
  case shown =>
    intro name roles scheme hresolves hrole
    exact (h.administration hresolves hrole).2
  case forbidden =>
    refine ⟨?_, ?_⟩
    · intro hstop
      rcases hcases with ⟨hstatus, _⟩ | ⟨_, hlacks⟩ | hstatus
      · exact absurd (hstop.symm.trans hstatus) (by decide)
      · exact hlacks
      · exact absurd (hstop.symm.trans hstatus) (by decide)
    · intro hlacks
      obtain ⟨name, roles, scheme, hresolves, hlacks⟩ := hlacks
      exact h.forbidden hresolves hlacks
  case refused =>
    intro hno
    exact h.refused needsAccount_admin hno

/-- **The pages serve whom the credentials stand for, and nobody else.** The request may carry
anything but a body that is announced as too long. -/
theorem pages_serve_resolved {env : Environment} {settings : Settings}
    (h : Settings.read env = .ok settings) :
    ∃ service, settings.service = .ok service ∧ ∀ (fresh : String) (request : Request),
      request.method = "GET" →
      (∀ n, Service.announcedLength? request = some n → n ≤ settings.bodyLimit) →
        (request.target.path = "/api/v1/me" →
          AccountServed settings request (service.serve fresh request).response
            ∧ Judged request (service.serve fresh request))
        ∧ (request.target.path = "/api/v1/admin" →
          AdministrationServed settings request (service.serve fresh request).response
            ∧ Judged request (service.serve fresh request)) := by
  have hd := distinct_of_read h
  refine ⟨_, service_eq settings, ?_⟩
  intro fresh request hget hlength
  refine ⟨?_, ?_⟩
  · intro hpath
    have hasks : Asks settings .me request := ⟨rfl, hget, hpath, hlength⟩
    exact ⟨(answers_of_asks hd hasks).accountServed, judged hd hasks needsAccount_me⟩
  · intro hpath
    have hasks : Asks settings .admin request := ⟨rfl, hget, hpath, hlength⟩
    exact ⟨(answers_of_asks hd hasks).administrationServed, judged hd hasks needsAccount_admin⟩

/-- The body of the answer names the administrator. -/
theorem pages_serve_resolved_furnished :
    Settings.read furnished = .ok furnishedSettings
      ∧ administratorRequest.method = "GET"
      ∧ Service.announcedLength? administratorRequest = none
      ∧ administratorRequest.target.path = "/api/v1/admin"
      ∧ Resolves furnishedSettings administratorRequest "ada" ["admin"] "Bearer"
      ∧ ∃ service, furnishedSettings.service = .ok service
        ∧ AdministrationServed furnishedSettings administratorRequest
          (service.serve "c0ffee" administratorRequest).response
        ∧ Judged administratorRequest (service.serve "c0ffee" administratorRequest)
        ∧ readJson? (service.serve "c0ffee" administratorRequest).response.body =
          some (.object [("admin", .bool true), ("principal", .text "ada")]) := by
  have hlength : Service.announcedLength? administratorRequest = none := by decide +kernel
  refine ⟨read_furnished, rfl, hlength, rfl, resolves_administratorRequest, ?_⟩
  obtain ⟨service, hservice, hpages⟩ := pages_serve_resolved read_furnished
  have hshort : ∀ n, Service.announcedLength? administratorRequest = some n →
      n ≤ furnishedSettings.bodyLimit := by
    rw [hlength]
    simp
  obtain ⟨hserved, hjudged⟩ := (hpages "c0ffee" administratorRequest rfl hshort).2 rfl
  exact ⟨service, hservice, hserved, hjudged,
    (hserved.shown _ _ _ resolves_administratorRequest List.mem_cons_self).read⟩

end Gatehouse.Proofs

import Gatehouse.Proofs.RequestId

/-!
# There is one way to be asked for credentials

Two guards ask for credentials, each for reasons of its own: one because what was
presented is nobody's or because nothing was presented at all, the other because a
rule wants an account. They do not consult each other about the words, but both
take them from the settings: the scheme that stands first among those that take
part, and the realm. So a client that is asked for credentials learns nothing about
why. Not even the mode of the deployment shows, which decides who is asked, but not
how.

The pages have an answer of the same code ready for a caller without an account.
It is worded differently, and it is never given (`afterRun_unauthorized`).
-/

namespace Gatehouse.Proofs

open Gatehouse Http Text

/-- The scheme that stands first among those that take part. -/
def firstScheme (settings : Settings) : String :=
  if settings.tokens ≠ [] ∨ settings.users = [] then "Bearer" else "Basic"

theorem challengeScheme_eq (settings : Settings) :
    settings.challengeScheme = firstScheme settings := by
  rw [firstScheme, Settings.challengeScheme]
  by_cases h : settings.tokens ≠ [] ∨ settings.users = []
  · rw [if_pos h, checks_of_takesTokens (takesTokens_iff.mpr h)]
    rfl
  · have htakes : settings.takesTokens = false := by
      rw [← Bool.not_eq_true, takesTokens_iff]
      exact h
    rw [if_neg h, checks_of_not_takesTokens htakes]
    rfl

/-- A `GET` for a page behind the gate. -/
def GetsGuarded (request : Request) : Prop :=
  request.method = "GET"
    ∧ ∃ page : Page, page.isProtected = true ∧ request.target.path = page.address

variable {settings : Settings} {page : Page} {fresh : String} {request : Request}

/-! ## Every 401 is a refusal of the gate -/

/-- A page behind the gate does not ask those for credentials who get to it. -/
theorem status_reply_of_passes {standing : Standing} (hpage : page.isProtected = true)
    (hpass : Passes settings.mode page.address standing) :
    (page.reply standing.caller.account?).response.status = .ok := by
  cases page with
  | health => exact absurd hpage (by decide)
  | greeting =>
      -- the greeting is for everyone
      cases standing.caller.account? with
      | none => rfl
      | some account => rfl
  | me =>
      obtain ⟨name, roles, scheme, rfl⟩ := needsAccount_me _ _ hpass
      rfl
  | admin =>
      obtain ⟨name, roles, scheme, rfl⟩ := needsAccount_admin _ _ hpass
      rfl

/-- After a run of the gate it is the gate that asks for credentials, whatever the method. -/
theorem afterRun_unauthorized {standing : Standing} {run : Run} (hpage : page.isProtected = true)
    (haddress : request.target.path = page.address) (hgated : Gated settings request standing run)
    (hstatus : (Service.afterRun page request.method run).response.status = .unauthorized) :
    (Service.afterRun page request.method run).response = (refusal settings).response := by
  obtain ⟨hresult, hvisit⟩ := hgated
  rw [haddress] at hresult
  by_cases hpass : Passes settings.mode page.address standing
  · rw [if_pos hpass] at hresult
    simp only [Service.afterRun, hresult, hvisit, Service.visitPage] at hstatus
    split at hstatus
    · rw [status_reply_of_passes hpage hpass] at hstatus
      exact absurd hstatus (by decide)
    · -- the page does not know the method
      exact absurd hstatus (by decide)
  · rw [if_neg hpass] at hresult
    simp only [Service.afterRun, hresult] at hstatus ⊢
    cases standing with
    | resolved name roles scheme =>
        -- whoever is known is forbidden, and not asked
        have hforbidden : Status.forbidden = Status.unauthorized := hstatus
        exact absurd hforbidden (by decide)
    | invalid => rfl
    | missing => rfl

theorem answerInside_unauthorized (hd : Distinct settings)
    (haddress : request.target.path = page.address)
    (hstatus : (answerInside (settings.serviceBehind ⟨settings.registrations⟩) page fresh
      request).status = .unauthorized) :
    answerInside (settings.serviceBehind ⟨settings.registrations⟩) page fresh request =
      (refusal settings).response := by
  rw [answerInside] at hstatus ⊢
  split at hstatus
  · -- too long a body is refused in other words, before the gate is asked
    exact absurd hstatus (by decide)
  · rename_i hshort
    rw [if_neg hshort]
    split at hstatus
    · rename_i hpage
      rw [if_pos hpage]
      obtain ⟨standing, hstands⟩ := exists_stands settings (Service.identified fresh request)
      exact @afterRun_unauthorized settings page (Service.identified fresh request) standing _ hpage
        haddress (gated hd hstands) hstatus
    · -- the page that is open to everyone
      rename_i hpage
      cases page with
      | health =>
          rw [Service.visitPage] at hstatus
          split at hstatus
          · exact absurd hstatus (by decide)
          · exact absurd hstatus (by decide)
      | greeting => exact absurd rfl hpage
      | me => exact absurd rfl hpage
      | admin => exact absurd rfl hpage

/-- An answer in the form in which it is sent. -/
def sentOut (fresh : String) (request : Request) (answer : Response) : Response :=
  Service.dress request.method (Service.bearId (Service.identified fresh request) answer)

theorem status_bearId (request : Request) (answer : Response) :
    (Service.bearId request answer).status = answer.status := by
  rw [Service.bearId]
  split
  · rfl
  · rfl

/-- What leads to no page is not found, or too long. -/
theorem status_passLayers_notFound (service : Service) (fresh : String) (request : Request) :
    (service.passLayers fresh Service.notFound request).response.status ≠ .unauthorized := by
  cases hlong : Service.tooLong service.limits (Service.identified fresh request) with
  | true =>
      rw [passLayers_of_tooLong hlong, status_bearId]
      decide
  | false =>
      have hstatus : (service.passLayers fresh Service.notFound request).response.status =
          .notFound := by
        rw [passLayers_in_time hlong rfl]
        exact status_bearId _ _
      rw [hstatus]
      decide

theorem status_of_no_page {service : Service} (hroute : Service.route? request = none) :
    (service.serve fresh request).response.status ≠ .unauthorized := by
  have hstatus := status_passLayers_notFound service fresh request
  simp only [Service.serve, hroute]
  split
  · exact hstatus
  · exact hstatus

/-- Whatever is asked for, and by whatever method, it is the gate that asks for credentials. -/
theorem sentOut_of_unauthorized (hd : Distinct settings)
    (hstatus : ((settings.serviceBehind ⟨settings.registrations⟩).serve fresh
      request).response.status = .unauthorized) :
    ((settings.serviceBehind ⟨settings.registrations⟩).serve fresh request).response =
      sentOut fresh request (refusal settings).response := by
  cases hroute : Service.route? request with
  | none => exact absurd hstatus (status_of_no_page hroute)
  | some page =>
      have haddress := address_of_route? hroute
      have htime : ¬ Overdue (settings.serviceBehind ⟨settings.registrations⟩) page fresh request :=
        fun hlate => hlate.2 (gate_in_time settings _ _)
      rw [serve_in_time haddress htime] at hstatus ⊢
      rw [Service.status_dress, status_bearId] at hstatus
      rw [answerInside_unauthorized hd haddress hstatus, sentOut]

theorem response_of_unauthorized (hd : Distinct settings) (hgets : GetsGuarded request)
    (hstatus : ((settings.serviceBehind ⟨settings.registrations⟩).serve fresh
      request).response.status = .unauthorized) :
    ((settings.serviceBehind ⟨settings.registrations⟩).serve fresh request).response =
      labelled (idOf fresh request) (refusal settings).response := by
  rw [sentOut_of_unauthorized hd hstatus, sentOut, hgets.1, dress_get]

/-! ## They are all alike -/

theorem Distinct.of_mode (h : Distinct settings) (mode : Mode) :
    Distinct { settings with mode } := ⟨h.tokens, h.users⟩

theorem refusal_of_mode (settings : Settings) (mode : Mode) :
    refusal { settings with mode } = refusal settings := rfl

theorem refusal_eq (settings : Settings) :
    refusal settings = Refusal.json (firstScheme settings) settings.realm := by
  rw [refusal, challengeScheme_eq]

/-- **Whoever is asked for credentials is asked in the same way.** Two answers of this code, to
whatever requests for whatever pages, are the same but for the id, also if the deployment has been
switched to the other mode between them; and each of them is the challenge of the first scheme. -/
theorem refusals_alike {env : Environment} {settings : Settings}
    (h : Settings.read env = .ok settings) (mode mode' : Mode) :
    ∃ service service', { settings with mode := mode }.service = .ok service
      ∧ { settings with mode := mode' }.service = .ok service'
      ∧ ∀ (fresh fresh' : String) (request request' : Request),
        GetsGuarded request → GetsGuarded request' →
        (service.serve fresh request).response.status = .unauthorized →
        (service'.serve fresh' request').response.status = .unauthorized →
        AlikeBut [Service.idField] (service.serve fresh request).response
            (service'.serve fresh' request').response
          ∧ (service.serve fresh request).response = labelled (idOf fresh request)
            (Refusal.json (firstScheme settings) settings.realm).response
          ∧ (service'.serve fresh' request').response = labelled (idOf fresh' request')
            (Refusal.json (firstScheme settings) settings.realm).response := by
  have hd := distinct_of_read h
  refine ⟨_, _, service_eq _, service_eq _, ?_⟩
  intro fresh fresh' request request' hgets hgets' hstatus hstatus'
  -- the mode takes no part in what the entries are, nor in the words of a refusal
  have hresponse := response_of_unauthorized (hd.of_mode mode) hgets hstatus
  have hresponse' := response_of_unauthorized (hd.of_mode mode') hgets' hstatus'
  rw [refusal_of_mode, refusal_eq] at hresponse hresponse'
  rw [hresponse, hresponse']
  exact ⟨labelled_alike _ _ _, rfl, rfl⟩

/-- A request for the account page without credentials. -/
def nobodysRequest : Request := ⟨"GET", ⟨none, "/api/v1/me", none⟩, []⟩

/-- A request for the greeting with a token that nobody has. -/
def strangersRequest : Request :=
  ⟨"GET", ⟨none, "/api/v1/greeting", none⟩, [⟨"authorization", "Bearer nope"⟩]⟩

/-- One is turned away by a rule and the other by its token, in different modes. -/
theorem refusals_alike_furnished :
    Settings.read furnished = .ok furnishedSettings
      ∧ GetsGuarded nobodysRequest ∧ GetsGuarded strangersRequest
      ∧ ∃ service service', { furnishedSettings with mode := .optional }.service = .ok service
        ∧ { furnishedSettings with mode := .required }.service = .ok service'
        ∧ (service.serve "c0ffee" nobodysRequest).response.status = .unauthorized
        ∧ (service'.serve "decaf" strangersRequest).response.status = .unauthorized
        ∧ AlikeBut [Service.idField] (service.serve "c0ffee" nobodysRequest).response
          (service'.serve "decaf" strangersRequest).response := by
  have hgets : GetsGuarded nobodysRequest := ⟨rfl, .me, rfl, rfl⟩
  have hgets' : GetsGuarded strangersRequest := ⟨rfl, .greeting, rfl, rfl⟩
  obtain ⟨service, service', hservice, hservice', halike⟩ :=
    refusals_alike read_furnished .optional .required
  have hstatus : (service.serve "c0ffee" nobodysRequest).response.status = .unauthorized := by
    obtain rfl := Except.ok.inj hservice
    decide +kernel
  have hstatus' : (service'.serve "decaf" strangersRequest).response.status = .unauthorized := by
    obtain rfl := Except.ok.inj hservice'
    decide +kernel
  exact ⟨read_furnished, hgets, hgets', service, service', hservice, hservice', hstatus, hstatus',
    (halike _ _ _ _ hgets hgets' hstatus hstatus').1⟩

end Gatehouse.Proofs

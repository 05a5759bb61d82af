import Gatehouse.Proofs.Faithful

/-!
# The id on a response

A request has an id from the moment it comes in, its own or a fresh one, and there is
a layer that puts the id of a request on the response to it. What it has a say in is
settled by where it stands (`stacked_nested`). Outside of it stands only the layer that
gives ids, which hands back what comes. So whatever is answered inside comes past it: a
page, a guard, a fault, a refusal for length or for the method. Each of them leaves with
the id of its request, unless a guard has already put another id on its answer
(`BearsId.added`, `BearsId.kept`).

The answer to a missed deadline does not come past it. A deadline is not answered
inside but breaks off what is going on there, and what makes an answer of that stands
outside of all layers. So the one response that is sent without an id is the one to a
request that took too long (`BearsId.lost`).
-/

namespace Gatehouse.Proofs

open Gatehouse Http Text

section Inside

variable {service : Service} {page : Page} {fresh : String} {request : Request}

/-! ## What is put on a response, and what leaves it alone -/

/-- The form of a response has no part in its id. -/
theorem value?_idField_dress (method : String) (response : Response) :
    (Service.dress method response).headers.value? Service.idField =
      response.headers.value? Service.idField := by
  rw [Service.dress]
  split
  · rfl
  · split
    · exact value?_ensure_of_ne _ (by decide)
    · exact (value?_ensure_of_ne _ (by decide)).trans (value?_ensure_of_ne _ (by decide))

/-- The id of the request is its own or a fresh one. -/
theorem value?_idField_bearId (fresh : String) (request : Request) (response : Response) :
    (Service.bearId (Service.identified fresh request) response).headers.value? Service.idField =
      some ((response.headers.value? Service.idField).getD (idOf fresh request)) :=
  value?_bearId (Headers.value?_ensure request.headers Service.idField fresh) response

/-! ## What is answered, and what is broken off -/

/-- The gate is asked about a request for this page. -/
def ReachesGate (service : Service) (page : Page) (request : Request) : Prop :=
  page.isProtected = true ∧ Service.tooLong service.limits request = false

/-- The request reaches the gate, and the deadline interrupts a guard. -/
def Overdue (service : Service) (page : Page) (fresh : String) (request : Request) : Prop :=
  ReachesGate service page request ∧ ¬ InTime service (visitGate service fresh request)

/-- The request reaches the gate, and a guard answers it. -/
def GuardAnswers (service : Service) (page : Page) (fresh : String) (request : Request)
    (answer : Response) : Prop :=
  ReachesGate service page request ∧ (visitGate service fresh request).result = .ok (some answer)

/-- What is answered inside, before the response is given an id and its form. -/
def answerInside (service : Service) (page : Page) (fresh : String) (request : Request) :
    Response :=
  if Service.tooLong service.limits request then Service.lengthRefused
  else if page.isProtected then
    (Service.afterRun page request.method (visitGate service fresh request)).response
  else (Service.visitPage page request.method none).response

theorem serve_in_time (haddress : request.target.path = page.address)
    (htime : ¬ Overdue service page fresh request) :
    (service.serve fresh request).response =
      Service.dress request.method (Service.bearId (Service.identified fresh request)
        (answerInside service page fresh request)) := by
  have hlength := tooLong_identified service.limits fresh request
  cases hlong : Service.tooLong service.limits request with
  | true =>
      rw [hlong] at hlength
      rw [serve_of_tooLong haddress hlength, answerInside, if_pos hlong]
  | false =>
      rw [hlong] at hlength
      cases hpage : page.isProtected with
      | true =>
          have hnow : InTime service (visitGate service fresh request) :=
            Classical.not_not.mp (fun hlate => htime ⟨⟨hpage, hlong⟩, hlate⟩)
          rw [serve_protected hpage haddress hlength hnow]
          simp only [answerInside, hlong, hpage]
          rfl
      | false =>
          rw [serve_open hpage haddress hlength]
          simp only [answerInside, hlong, hpage, Bool.false_eq_true, if_false]

theorem serve_overdue (haddress : request.target.path = page.address)
    (h : Overdue service page fresh request) :
    (service.serve fresh request).response =
      Service.dress request.method (.empty .requestTimeout) := by
  obtain ⟨⟨hpage, hlong⟩, hlate⟩ := h
  have hlength := (tooLong_identified service.limits fresh request).trans hlong
  obtain ⟨step, hstep⟩ := Option.ne_none_iff_exists'.mp hlate
  rw [serve_late hpage haddress hlength hstep]

/-! ## Where an answer can bring an id from -/

theorem value?_idField_reply (page : Page) (account : Option Account) :
    (page.reply account).response.headers.value? Service.idField = none := by
  cases page <;> cases account <;> rfl

theorem value?_idField_visitPage (page : Page) (method : String) (account : Option Account) :
    (Service.visitPage page method account).response.headers.value? Service.idField = none := by
  rw [Service.visitPage]
  split
  · exact value?_idField_reply page account
  · rfl

/-- Nobody inside puts an id on an answer, except it be a guard. -/
theorem value?_idField_answerInside
    (h : ∀ answer, GuardAnswers service page fresh request answer →
      answer.headers.value? Service.idField = none) :
    (answerInside service page fresh request).headers.value? Service.idField = none := by
  rw [answerInside]
  cases hlong : Service.tooLong service.limits request with
  | true => rfl
  | false =>
      cases hpage : page.isProtected with
      | false => exact value?_idField_visitPage page request.method none
      | true =>
          simp only [Bool.false_eq_true, if_false, if_true, Service.afterRun]
          cases hresult : (visitGate service fresh request).result with
          | error error => rfl
          | ok answer =>
              cases answer with
              | none => exact value?_idField_visitPage page request.method _
              | some answer => exact h answer ⟨⟨hpage, hlong⟩, hresult⟩

theorem answerInside_of_guardAnswers {answer : Response}
    (h : GuardAnswers service page fresh request answer) :
    answerInside service page fresh request = answer := by
  obtain ⟨⟨hpage, hlong⟩, hresult⟩ := h
  simp only [answerInside, hlong, hpage, Service.afterRun, hresult]
  rfl

end Inside

/-! ## The id is lost in one place -/

/-- What is promised of the id on the response to a request for `page`. -/
structure BearsId (service : Service) (page : Page) (fresh : String) (request : Request)
    (response : Response) : Prop where
  /-- However the request ends in time, the response bears its id. -/
  added : ¬ Overdue service page fresh request →
    (∀ answer, GuardAnswers service page fresh request answer →
      answer.headers.value? Service.idField = none) →
    response.headers.value? Service.idField = some (idOf fresh request)
  /-- An id that a guard has put on its answer stays. -/
  kept : ¬ Overdue service page fresh request → ∀ answer own,
    GuardAnswers service page fresh request answer →
    answer.headers.value? Service.idField = some own →
    response.headers.value? Service.idField = some own
  /-- A missed deadline is answered without an id. -/
  lost : Overdue service page fresh request →
    response.status = .requestTimeout ∧ response.headers.value? Service.idField = none

/-- **Every response of a page bears the id of its request, unless the deadline is missed.** It
does so whatever guards there are, and whether the page answers, a guard answers, a guard fails, or
the request is refused for its length or its method. -/
theorem id_borne_in_time (service : Service) (page : Page) (fresh : String) (request : Request)
    (haddress : request.target.path = page.address) :
    BearsId service page fresh request (service.serve fresh request).response := by
  constructor
  case added =>
    intro htime hnone
    rw [serve_in_time haddress htime, value?_idField_dress, value?_idField_bearId,
      value?_idField_answerInside hnone, Option.getD_none]
  case kept =>
    intro htime answer own hanswer hown
    rw [serve_in_time haddress htime, value?_idField_dress, value?_idField_bearId,
      answerInside_of_guardAnswers hanswer, hown, Option.getD_some]
  case lost =>
    intro hlate
    rw [serve_overdue haddress hlate, value?_idField_dress, Service.status_dress]
    exact ⟨rfl, rfl⟩

/-- The response to a failure bears the id that the request brought. -/
theorem id_borne_in_time_outage :
    accountRequest.target.path = Page.me.address
      ∧ ¬ Overdue failingService .me "c0ffee" accountRequest
      ∧ (failingService.serve "c0ffee" accountRequest).response.status = .internalError
      ∧ (failingService.serve "c0ffee" accountRequest).response.headers.value? "x-request-id" =
          some "r1" := by
  have htime : ¬ Overdue failingService .me "c0ffee" accountRequest := fun hlate => hlate.2 rfl
  have hresult : (visitGate failingService "c0ffee" accountRequest).result =
      .error (.guardFailed "lookup" ⟨"lookup failed", some (.reported "reset")⟩) := rfl
  have hid := (id_borne_in_time failingService .me "c0ffee" accountRequest rfl).added htime
    (by
      rintro answer ⟨_, hanswer⟩
      rw [hresult] at hanswer
      exact absurd hanswer (by simp))
  exact ⟨rfl, htime, rfl, hid⟩

/-- A service whose gate takes five seconds where it has one. -/
def slowService : Service :=
  ⟨⟨[⟨.scripted "waiting" .general (.wait 5000), ⟨5000⟩⟩]⟩, ⟨1000, 1048576⟩⟩

/-- A request for the greeting that brings an id of its own. -/
def tracedRequest : Request :=
  ⟨"GET", ⟨none, "/api/v1/greeting", none⟩, [⟨"x-request-id", "r1"⟩]⟩

/-- The request has an id, and the response to it has none. -/
theorem slow_response_without_id :
    tracedRequest.target.path = Page.greeting.address
      ∧ idOf "c0ffee" tracedRequest = "r1"
      ∧ (slowService.serve "c0ffee" tracedRequest).response.status = .requestTimeout
      ∧ (slowService.serve "c0ffee" tracedRequest).response.headers.value? "x-request-id" =
          none := by
  decide +kernel

end Gatehouse.Proofs

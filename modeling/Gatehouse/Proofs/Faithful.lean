import Gatehouse.Proofs.Pages

/-!
# The gate decides, and the page answers

A service adds nothing of its own to what the gate decides. For a request that is
neither too long nor too late it sends one visit through the gate, and then there
are three ways on. If a guard answers, that answer leaves as it is. If a guard
fails, the client is told that something failed and nothing more, in words that are
the same for all guards and all faults. If all guards let the request go on, its
page has its turn, and it goes by the caller that they have left.

That a page has no turn cannot be seen in an answer alone, so it is said in another
way: with any other handler in the place of the page, the exchange would have been
the same (`exchangeWith`).
-/

namespace Gatehouse.Proofs

open Gatehouse Http Text

/-! ## A handler in the place of the page -/

/-- The reply that follows from a run, with `handler` in the place of the page. -/
def replyWith (handler : Option Account → Reply) (run : Run) : Reply :=
  match run.result with
  | .ok none => handler run.visit.caller.account?
  | .ok (some response) => .silent response
  | .error error => ⟨ErrorReply.internal.response, [.failureHidden error.inspect]⟩

/-- The exchange that follows from a run, with `handler` in the place of the page. -/
def exchangeWith (handler : Option Account → Reply) (id : String) (run : Run) : Exchange :=
  let reply := replyWith handler run
  ⟨labelled id reply.response, run.steps, run.events ++ reply.events⟩

theorem afterRun_get (page : Page) (run : Run) :
    Service.afterRun page "GET" run = replyWith page.reply run := by
  rw [Service.afterRun, replyWith]
  cases run.result with
  | error error => rfl
  | ok answer =>
      cases answer with
      | none => rfl
      | some response => rfl

/-- Only a run that let the request go on leaves the handler a say. -/
theorem exchangeWith_eq {run : Run} (h : run.result ≠ .ok none)
    (handler other : Option Account → Reply) (id : String) :
    exchangeWith handler id run = exchangeWith other id run := by
  have hreply : replyWith handler run = replyWith other run := by
    rw [replyWith, replyWith]
    cases hresult : run.result with
    | error error => rfl
    | ok answer =>
        cases answer with
        | none => exact absurd hresult h
        | some response => rfl
  rw [exchangeWith, exchangeWith, hreply]

/-! ## From a `GET` to its exchange -/

/-- The run of the gate for a request, on a visit that begins with it. -/
def visitGate (service : Service) (fresh : String) (request : Request) : Run :=
  service.gate.run (.ofRequest (Service.identified fresh request))

/-- The deadline interrupts no guard. -/
def InTime (service : Service) (run : Run) : Prop :=
  (progress (Timer.span service.limits.time) run.steps).interrupted = none

section Serving

variable {service : Service} {fresh : String} {request : Request}

theorem serve_get {page : Page} (hpage : page.isProtected = true) (hget : request.method = "GET")
    (haddress : request.target.path = page.address)
    (hlength : ∀ n, Service.announcedLength? request = some n → n ≤ service.limits.body)
    (htime : InTime service (visitGate service fresh request)) :
    service.serve fresh request =
      exchangeWith page.reply (idOf fresh request) (visitGate service fresh request) := by
  have hserve := serve_protected hpage haddress (short_identified fresh hlength) htime
  rw [hserve, hget]
  simp only [afterRun_get, dress_get]
  rfl

def healthBody : Json := .object [("status", .text "ok")]

theorem serve_health (hget : request.method = "GET")
    (haddress : request.target.path = Page.health.address)
    (hlength : ∀ n, Service.announcedLength? request = some n → n ≤ service.limits.body) :
    service.serve fresh request =
      ⟨labelled (idOf fresh request) (.json .ok healthBody), [], []⟩ := by
  rw [serve_open rfl haddress (short_identified fresh hlength), hget]
  simp only [dress_get]
  rfl

end Serving

/-! ## What the pages say -/

def greetingBody (name : String) (known : Bool) : Json :=
  .object [("message", .text ("hello, " ++ name)), ("authenticated", .bool known)]

/-- The envelope of an error. -/
def errorBody (code detail : String) : Json :=
  .object [("error", .object [("code", .text code), ("message", .text detail)])]

/-- What a client is told of a failure. -/
def failureBody : Json := errorBody "INTERNAL_SERVER_ERROR" "internal server error"

def concealed : Response := .json .internalError failureBody

/-- An answer in JSON that says this. -/
structure Utters (answer : Response) (status : Status) (value : Json) : Prop where
  form : answer = .json status value
  body : Conveys answer.body value

theorem utters_json (status : Status) (value : Json) : Utters (.json status value) status value :=
  ⟨rfl, conveys_render value⟩

/-- What is promised of the answer of a page to a caller; nothing else of the request is in it. -/
structure Spoken (page : Page) (caller : Caller) (answer : Response) : Prop where
  /-- Whom nobody has named is greeted without a name. -/
  greetsAnyone : page = .greeting → caller.principal = none →
    Utters answer .ok (greetingBody "anonymous" false)
  /-- The other pages have nothing for such a caller. -/
  refuses : page ≠ .greeting → caller.principal = none →
    Utters answer .unauthorized
      (errorBody "UNAUTHORIZED" "Credentials are required to access this resource.")
  greets : page = .greeting → ∀ name, caller.principal = some name →
    Utters answer .ok (greetingBody name true)
  /-- The account page lists each role once and in order. -/
  describes : page = .me → ∀ name, caller.principal = some name →
    ∃ listed : List String, listed.Pairwise (· < ·)
      ∧ (∀ role, role ∈ listed ↔ caller.roles.contains role = true)
      ∧ Utters answer .ok (profileBody name listed caller.scheme)
  admits : page = .admin → ∀ name, caller.principal = some name →
    Utters answer .ok (administrationBody name)

theorem spoken_reply {page : Page} (hpage : page.isProtected = true) (caller : Caller) :
    Spoken page caller (page.reply caller.account?).response := by
  obtain ⟨principal, roles, scheme⟩ := caller
  constructor
  case greetsAnyone =>
    rintro rfl rfl
    exact utters_json _ _
  case refuses =>
    rintro hother rfl
    cases page with
    | health => exact absurd hpage (by decide)
    | greeting => exact absurd rfl hother
    | me => exact utters_json _ _
    | admin => exact utters_json _ _
  case greets =>
    rintro rfl name rfl
    exact utters_json _ _
  case describes =>
    rintro rfl name rfl
    exact ⟨roles.names, roles.ascending, fun role => List.contains_iff_mem.symm,
      utters_json _ _⟩
  case admits =>
    rintro rfl name rfl
    exact utters_json _ _

/-! ## Three ways on -/

/-- What is promised of an exchange about `page`, given the run of the gate. -/
structure Faithful (page : Page) (id : String) (run : Run) (exchange : Exchange) : Prop where
  /-- The turns of the guards are those of this one run. -/
  turns : exchange.steps = run.steps
  /-- The answer of a guard leaves as it is, but for the two labels. -/
  answered : ∀ response, run.result = .ok (some response) →
    AlikeBut [Service.idField, lengthField] exchange.response response
      ∧ exchange.events = run.events
  /-- A failure is answered in the same words, whatever failed and however. -/
  failed : ∀ error, run.result = .error error →
    exchange.response = labelled id concealed ∧ Conveys exchange.response.body failureBody
  /-- In both cases the page has no turn: another handler in its place would not be noticed. -/
  idle : run.result ≠ .ok none → ∀ handler, exchange = exchangeWith handler id run
  /-- Otherwise the page answers the caller that the guards have left. -/
  spoken : run.result = .ok none →
    ∃ answer, Spoken page run.visit.caller answer ∧ exchange.response = labelled id answer

theorem faithful_exchangeWith {page : Page} (hpage : page.isProtected = true) (id : String)
    (run : Run) : Faithful page id run (exchangeWith page.reply id run) := by
  constructor
  case turns => rfl
  case answered =>
    intro response hresult
    have hreply : replyWith page.reply run = .silent response := by rw [replyWith, hresult]
    rw [exchangeWith, hreply]
    exact ⟨labelled_alike_answer id response, List.append_nil run.events⟩
  case failed =>
    intro error hresult
    have hreply : replyWith page.reply run =
        ⟨ErrorReply.internal.response, [.failureHidden error.inspect]⟩ := by
      rw [replyWith, hresult]
    rw [exchangeWith, hreply]
    exact ⟨rfl, conveys_render failureBody⟩
  case idle =>
    intro hresult handler
    exact exchangeWith_eq hresult page.reply handler id
  case spoken =>
    intro hresult
    have hreply : replyWith page.reply run = page.reply run.visit.caller.account? := by
      rw [replyWith, hresult]
    rw [exchangeWith, hreply]
    exact ⟨_, spoken_reply hpage run.visit.caller, rfl⟩

/-- **The service is faithful to its gate, whatever the gate is.** What a guard answers is
answered, what fails is concealed, and what passes is answered by its page for the caller that the
gate has made out. The health page stands in front of the gate and is the same for all of them. -/
theorem faithful_to_gate (service : Service) (fresh : String) (request : Request)
    (hget : request.method = "GET")
    (hlength : ∀ n, Service.announcedLength? request = some n → n ≤ service.limits.body) :
    (∀ page : Page, page.isProtected = true → request.target.path = page.address →
        InTime service (visitGate service fresh request) →
        Faithful page (idOf fresh request) (visitGate service fresh request)
          (service.serve fresh request))
      ∧ (request.target.path = Page.health.address →
        service.serve fresh request =
            ⟨labelled (idOf fresh request) (.json .ok healthBody), [], []⟩
          ∧ Conveys (service.serve fresh request).response.body healthBody) := by
  refine ⟨?_, ?_⟩
  · intro page hpage haddress htime
    rw [serve_get hpage hget haddress hlength htime]
    exact faithful_exchangeWith hpage _ _
  · intro haddress
    rw [serve_health hget haddress hlength]
    exact ⟨rfl, conveys_render healthBody⟩

/-- A service whose gate fails at its second guard. -/
def failingService : Service := ⟨outage, ⟨30000, 1048576⟩⟩

/-- A request for the account page that brings an id of its own. -/
def accountRequest : Request :=
  ⟨"GET", ⟨none, "/api/v1/me", none⟩, [⟨"x-request-id", "r1"⟩]⟩

/-- The client is not told what failed, though the run knows it. -/
theorem faithful_to_gate_outage :
    accountRequest.method = "GET"
      ∧ Service.announcedLength? accountRequest = none
      ∧ Page.me.isProtected = true
      ∧ accountRequest.target.path = Page.me.address
      ∧ InTime failingService (visitGate failingService "c0ffee" accountRequest)
      ∧ Faithful .me (idOf "c0ffee" accountRequest)
          (visitGate failingService "c0ffee" accountRequest)
          (failingService.serve "c0ffee" accountRequest)
      ∧ (visitGate failingService "c0ffee" accountRequest).result =
          .error (.guardFailed "lookup" ⟨"lookup failed", some (.reported "reset")⟩)
      ∧ (failingService.serve "c0ffee" accountRequest).response = labelled "r1" concealed
      ∧ readJson? (failingService.serve "c0ffee" accountRequest).response.body =
          some (.object [("error", .object [("code", .text "INTERNAL_SERVER_ERROR"),
            ("message", .text "internal server error")])]) := by
  have hlength : Service.announcedLength? accountRequest = none := by decide +kernel
  have htime : InTime failingService (visitGate failingService "c0ffee" accountRequest) := rfl
  have hresult : (visitGate failingService "c0ffee" accountRequest).result =
      .error (.guardFailed "lookup" ⟨"lookup failed", some (.reported "reset")⟩) := rfl
  have hfaithful := (faithful_to_gate failingService "c0ffee" accountRequest rfl
    (by rw [hlength]; simp)).1 .me rfl rfl htime
  obtain ⟨hresponse, hsays⟩ := hfaithful.failed _ hresult
  exact ⟨rfl, hlength, rfl, rfl, htime, hfaithful, hresult, hresponse, hsays.read⟩

end Gatehouse.Proofs

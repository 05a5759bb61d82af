import Gatehouse.Pipeline.Timer
import Gatehouse.Service.Layer
import Gatehouse.Service.Page

/-!
# Serving a request

A page, or the lack of one, is chosen by the path of a request as it is written. The
request then goes through the layers of the service to what it has chosen. Behind the
mount point the path is shortened, and the gate still judges the target as it was sent
(`Visit.ofForwarded`).

* The layers stand in this order, from the outside in: the id that a request is given,
  the id on its response, the limit on the length that it announces for its body, and
  the deadline. They stand around every page, open or not, and around the lack of one.
* What is broken off is answered outside of all of them (`answerErrors`).
* Pages know `GET`, and `HEAD` as a `GET` without the body; any other method is
  refused, but only after the gate has let it pass.
* The response of a page says how long its body is, and so does the answer to a
  target that names no place at all: `*` or a bare authority. The answer to an
  unknown path is left as it is.
* A success that answers `CONNECT` opens a tunnel. What follows its header is not
  a body, so it bears neither a body nor a word on methods and lengths. Only the
  gate can give such an answer.
-/

namespace Gatehouse

open Http Text

/-- The pages behind a gate. -/
structure Service where
  gate : Pipeline
  limits : Limits

/-- A request that has been served. -/
structure Exchange where
  response : Response
  /-- The turns of the guards that finished. -/
  steps : List Step
  events : List Event

namespace Service

/-! ## Pages and methods -/

/-- The page at the path of a request. -/
def route? (request : Request) : Option Page := do
  let target ← request.target.below? mount
  Page.find? target.path

/-- The request as it is seen behind the mount point. -/
def forward (request : Request) : Forwarded :=
  ⟨{ request with target := (request.target.below? mount).getD request.target },
    some request.target⟩

/-- Whether pages know a method. -/
def isRead (method : String) : Bool := method == "GET" || method == "HEAD"

/-- The page's own part: its reply, or none to a method that it does not know. -/
def visitPage (page : Page) (method : String) (account : Option Account) : Reply :=
  if isRead method then page.reply account else .silent (.empty .methodNotAllowed)

/-- Whether a response opens a tunnel; method names are compared in their letter case. -/
def opensTunnel (method : String) (status : Status) : Bool :=
  method == "CONNECT" && status.isSuccess

/-- The response with the length of its body, and without the body in answer to `HEAD`. -/
def measure (method : String) (response : Response) : Response :=
  { response with
    headers := response.headers.ensure "content-length" (toString response.body.utf8ByteSize)
    body := if method == "HEAD" then "" else response.body }

/-- The form that every response of a page takes. -/
def dress (method : String) (response : Response) : Response :=
  if opensTunnel method response.status then { response with body := "" }
  else if isRead method then measure method response
  else measure method { response with headers := response.headers.ensure "allow" "GET,HEAD" }

/-- The form of a response leaves its code alone. -/
theorem status_dress (method : String) (response : Response) :
    (dress method response).status = response.status := by
  unfold dress
  split
  · rfl
  · split <;> rfl

/-- What answers a method that pages know is measured, and no more than that. -/
theorem dress_of_isRead {method : String} (h : isRead method = true) (response : Response) :
    dress method response = measure method response := by
  have hne : (method == "CONNECT") = false := by
    simp only [isRead, Bool.or_eq_true, beq_iff_eq] at h
    rcases h with rfl | rfl <;> decide
  simp [dress, opensTunnel, hne, h]

/-! ## What is inside the layers -/

/-- What follows from a run of the gate. -/
def afterRun (page : Page) (method : String) (run : Run) : Reply :=
  match run.result with
  | .ok none => visitPage page method run.visit.caller.account?
  | .ok (some response) => .silent response
  | .error error => ⟨(ErrorReply.ofPipelineError error).response, [.failureHidden error.inspect]⟩

/-- A page behind the gate. -/
def passGate (service : Service) (page : Page) : Handler := fun request =>
  let run := service.gate.run (.ofForwarded (forward request))
  let reply := afterRun page request.method run
  ⟨some reply.response, run.steps, run.events ++ reply.events⟩

/-- A page that is open to everyone. -/
def openPage (page : Page) : Handler := fun request =>
  let reply := visitPage page request.method none
  ⟨some reply.response, [], reply.events⟩

def servePage (service : Service) (page : Page) : Handler :=
  if page.isProtected then service.passGate page else openPage page

/-- What leads to no page is refused without a look at the method. -/
def notFound : Handler := fun _ => .answer (.empty .notFound)

/-! ## All layers -/

/-- The layers of the service; `fresh` is the id for a request without one. -/
def layers (service : Service) (fresh : String) : List Layer :=
  [setId fresh, propagateId, limitLength service.limits, deadline (Timer.span service.limits.time)]

/-- What was broken off is answered as late, and outside of all layers. -/
def answerErrors (outcome : Outcome) : Exchange :=
  ⟨outcome.response.getD (.empty .requestTimeout), outcome.steps, outcome.events⟩

/-- Sends a request through the layers to a handler. -/
def passLayers (service : Service) (fresh : String) (handler : Handler) (request : Request) :
    Exchange :=
  answerErrors (stacked (service.layers fresh) handler request)

/-- Serves a request. -/
def serve (service : Service) (fresh : String) (request : Request) : Exchange :=
  match route? request with
  | none =>
    let exchange := service.passLayers fresh notFound request
    if request.target.isRooted then exchange
    else { exchange with response := measure request.method exchange.response }
  | some page =>
    let exchange := service.passLayers fresh (service.servePage page) request
    { exchange with response := dress request.method exchange.response }

end Service

end Gatehouse

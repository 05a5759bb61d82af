import Gatehouse.Http.Message
import Gatehouse.Pipeline.Deadline
import Gatehouse.Text.Decimal

/-!
# Layers

What a request passes on its way in, and the response to it on its way out, is a row
of layers around a handler, one inside the other. A layer answers a request on the
spot or passes one on, and it is shown what comes back. What goes on outside of it, it
never learns, so it is the nesting that decides what a layer has a say in.

* `setId` gives a fresh id to a request that has none.
* `propagateId` puts the id of the request on the response that comes back to it.
* `limitLength` refuses a body that is announced as too long.
* `deadline` breaks off what takes too long. That is not an answer: no response comes
  out of this layer then, and layers that wait for one have nothing to do.
-/

namespace Gatehouse

open Http Text

/-- What comes out of a handler. -/
structure Outcome where
  /-- The response, or none if the request was broken off. -/
  response : Option Response
  /-- The turns of the guards that finished. -/
  steps : List Step
  events : List Event

/-- A part of the service that deals with requests. -/
abbrev Handler := Request → Outcome

/-- A response that is given on the spot. -/
def Outcome.answer (response : Response) : Outcome := ⟨some response, [], []⟩

/-- A layer around a handler. -/
structure Layer where
  /-- The response to a request that is answered here, or else the request that is passed on. -/
  inward : Request → Except Response Request
  /-- What is made of what comes back for a request that was passed on. -/
  outward : Request → Outcome → Outcome

/-- The layer with a handler inside. -/
def Layer.around (layer : Layer) (handler : Handler) : Handler := fun request =>
  match layer.inward request with
  | .error response => .answer response
  | .ok passed => layer.outward passed (handler passed)

/-- Layers with a handler inside; the first of them is the outermost. -/
def stacked (layers : List Layer) (handler : Handler) : Handler :=
  layers.foldr Layer.around handler

theorem stacked_cons (layer : Layer) (layers : List Layer) (handler : Handler) :
    stacked (layer :: layers) handler = layer.around (stacked layers handler) := rfl

theorem stacked_append (outer inner : List Layer) (handler : Handler) :
    stacked (outer ++ inner) handler = stacked outer (stacked inner handler) := List.foldr_append

theorem Layer.around_of_passed {layer : Layer} {request passed : Request}
    (h : layer.inward request = .ok passed) (handler : Handler) :
    layer.around handler request = layer.outward passed (handler passed) := by
  rw [Layer.around, h]

theorem Layer.around_of_answered {layer : Layer} {request : Request} {response : Response}
    (h : layer.inward request = .error response) (handler : Handler) :
    layer.around handler request = .answer response := by
  rw [Layer.around, h]

/-- What a request may cost. -/
structure Limits where
  /-- What the timer of the gate is set for, in milliseconds. -/
  time : Nat
  /-- The longest body that a request may announce, in bytes. -/
  body : Nat
  deriving DecidableEq, Repr

namespace Service

/-! ## Request ids -/

/-- The name of the field that holds the id of a request. -/
def idField : String := "x-request-id"

/-- The request with an id, a fresh one if it had none. -/
def identified (fresh : String) (request : Request) : Request :=
  { request with headers := request.headers.ensure idField fresh }

/-- The response with the id of its request. -/
def bearId (request : Request) (response : Response) : Response :=
  match request.headers.value? idField with
  | some id => { response with headers := response.headers.ensure idField id }
  | none => response

/-- Sees to it that a request has an id. -/
def setId (fresh : String) : Layer := ⟨fun request => .ok (identified fresh request), fun _ => id⟩

/-- Puts the id of a request on the response. -/
def propagateId : Layer :=
  ⟨.ok, fun request outcome => { outcome with response := outcome.response.map (bearId request) }⟩

/-! ## Body lengths -/

/-- The length that a request announces for its body, if it is a number. -/
def announcedLength? (request : Request) : Option Nat :=
  (request.headers.text? "content-length").bind (fun text => readNat? (UInt64.size - 1) text.toList)

/-- Whether a request announces more than is allowed. -/
def tooLong (limits : Limits) (request : Request) : Bool :=
  (announcedLength? request).any (fun length => limits.body < length)

/-- The answer to a body that is too long. -/
def lengthRefused : Response := .plain .payloadTooLarge "length limit exceeded"

/-- Refuses a body that is announced as too long. -/
def limitLength (limits : Limits) : Layer :=
  ⟨fun request => if tooLong limits request then .error lengthRefused else .ok request, fun _ => id⟩

/-! ## Deadlines -/

/-- Breaks off what takes longer than this many milliseconds. -/
def deadline (limit : Nat) : Layer where
  inward := .ok
  outward _ outcome :=
    let progress := progress limit outcome.steps
    match progress.interrupted with
    | some _ => ⟨none, progress.finished, progress.events⟩
    | none => outcome

end Service

end Gatehouse

import Gatehouse.Service.Layer

/-!
# What a layer has a say in

A request goes inwards through a row of layers until one of them answers it, or until it
arrives at the handler (`inwards`). What comes back is shown to the layers that passed the
request on, and to no other. So a layer in the middle of a row has a say in all that is
answered inside of it, and in nothing else (`stacked_nested`): a layer outside of it that
answers on the spot goes past it, and when nothing comes back from the inside, there is
nothing to put an id on.

This is by induction on the layers outside, whatever layers stand inside. Another order of
the same layers is another instance of it.
-/

namespace Gatehouse.Proofs

open Gatehouse Http Service

/-- What becomes of a request on its way inwards: it is answered by a layer, or arrives. -/
def inwards : List Layer → Request → Except Response Request
  | [], request => .ok request
  | layer :: layers, request =>
    match layer.inward request with
    | .error response => .error response
    | .ok passed => inwards layers passed

/-- A layer that leaves alone what comes back to it. -/
def HandsBack (layer : Layer) : Prop := ∀ request outcome, layer.outward request outcome = outcome

theorem handsBack_setId (fresh : String) : HandsBack (setId fresh) := fun _ _ => rfl

/-- Layers that hand back what comes are a way in and nothing more. -/
theorem stacked_of_handsBack {layers : List Layer} (h : ∀ layer ∈ layers, HandsBack layer)
    (handler : Handler) (request : Request) :
    stacked layers handler request =
      match inwards layers request with
      | .error response => .answer response
      | .ok passed => handler passed := by
  induction layers generalizing request with
  | nil => rfl
  | cons layer layers ih =>
      rw [stacked_cons, inwards]
      cases hinward : layer.inward request with
      | error response => rw [Layer.around_of_answered hinward]
      | ok passed =>
          rw [Layer.around_of_passed hinward, h layer List.mem_cons_self]
          exact ih (fun l hl => h l (List.mem_cons_of_mem layer hl)) passed

/-- The outcome with the id of the request on its response, if there is one. -/
def borneBy (request : Request) (outcome : Outcome) : Outcome :=
  { outcome with response := outcome.response.map (bearId request) }

/-- **What is answered inside bears the id, and nothing else does.** Of what is outside, nothing is
assumed but that it hands back what comes, and of what is inside, nothing at all. -/
theorem stacked_nested {outer inner : List Layer} (h : ∀ layer ∈ outer, HandsBack layer)
    (handler : Handler) (request : Request) :
    stacked (outer ++ propagateId :: inner) handler request =
      match inwards outer request with
      | .error response => .answer response
      | .ok passed => borneBy passed (stacked inner handler passed) := by
  rw [stacked_append, stacked_of_handsBack h]
  rfl

/-- A response is given the id of its request, unless it bears one. -/
theorem value?_bearId {request : Request} {id : String}
    (h : request.headers.value? idField = some id) (response : Response) :
    (bearId request response).headers.value? idField =
      some ((response.headers.value? idField).getD id) := by
  rw [bearId, h]
  exact Headers.value?_ensure _ _ _

end Gatehouse.Proofs

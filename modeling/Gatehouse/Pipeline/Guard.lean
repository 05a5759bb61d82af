import Gatehouse.Event
import Gatehouse.Pipeline.Fault
import Gatehouse.Visit

/-!
# Guards

A guard is handed a visit and reacts. The reaction says how the visit is left, what
was logged, how long it took, and what follows: the request goes on, it is
answered, or the guard failed. A guard may leave any visit behind, one about
another request included. The guards of this library use little of that freedom:
at most they say who the caller is.
-/

namespace Gatehouse

open Http

/-- What follows from a guard that did its work. -/
inductive Verdict where
  /-- The request goes on. -/
  | proceed
  /-- The request is answered here. -/
  | answer (response : Response)
  deriving DecidableEq, Repr

/-- What a guard makes of a visit. -/
structure Reaction where
  /-- The visit as the guard leaves it. -/
  left : Visit
  /-- What the guard logged, in order. -/
  events : List Event
  /-- How long the guard took, in milliseconds. -/
  delay : Nat
  outcome : Except Fault Verdict

/-- A named part of a pipeline. -/
structure Guard where
  name : String
  kind : Kind
  react : Visit → Reaction

namespace Reaction

/-- The request goes on; the visit is left like this. -/
def proceed (left : Visit) (events : List Event) : Reaction := ⟨left, events, 0, .ok .proceed⟩

/-- The request is answered; the visit is left alone. -/
def answer (visit : Visit) (events : List Event) (response : Response) : Reaction :=
  ⟨visit, events, 0, .ok (.answer response)⟩

/-- The guard failed; the visit is left alone. -/
def fail (visit : Visit) (events : List Event) (fault : Fault) : Reaction :=
  ⟨visit, events, 0, .error fault⟩

end Reaction

/-- A guard and its place. -/
structure Registration where
  guard : Guard
  priority : Priority

namespace Registration

def name (r : Registration) : String := r.guard.name

def kind (r : Registration) : Kind := r.guard.kind

end Registration

end Gatehouse

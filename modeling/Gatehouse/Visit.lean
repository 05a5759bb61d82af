import Gatehouse.Http.Message
import Gatehouse.Identity.Caller

/-!
# Visits

A visit is one request on its way through the gate, with what is known of its
caller, whether it came over a secure channel, and whether it is still open. That
it is secure is read off the target once, when the visit begins, and is a part of
the visit from then on. Behind a mount point a request is seen with a shortened
path, and the target that it was sent with is handed over beside it; the visit is
about that one.
-/

namespace Gatehouse

open Http

/-- Whether a visit can still pass a pipeline. -/
inductive Visit.State where
  | running
  | terminated
  deriving DecidableEq, Repr

/-- A request on its way through the gate. -/
structure Visit where
  request : Request
  caller : Caller
  /-- Whether the request came over a secure channel. -/
  isSecure : Bool
  state : Visit.State
  deriving DecidableEq

/-- A request as it is seen behind a mount point. -/
structure Forwarded where
  request : Request
  /-- The target that the request was sent with, if it has been shortened since. -/
  sent : Option Target
  deriving DecidableEq

namespace Visit

/-- A visit that begins. -/
def ofRequest (request : Request) : Visit :=
  ⟨request, .anonymous, request.target.isSecure, .running⟩

/-- A visit that begins behind a mount point, about the target as it was sent. -/
def ofForwarded (forwarded : Forwarded) : Visit :=
  .ofRequest { forwarded.request with
    target := forwarded.sent.getD forwarded.request.target }

def method (visit : Visit) : String := visit.request.method

def path (visit : Visit) : String := visit.request.target.path

def isTerminated (visit : Visit) : Bool := visit.state == .terminated

/-- The visit with another caller. -/
def withCaller (visit : Visit) (caller : Caller) : Visit := { visit with caller }

/-- The visit after a pipeline is done with it. -/
def terminate (visit : Visit) : Visit := { visit with state := .terminated }

end Visit

end Gatehouse

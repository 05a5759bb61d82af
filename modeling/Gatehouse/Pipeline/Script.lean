import Gatehouse.Pipeline.Guard
import Gatehouse.Pipeline.Timer

/-!
# Scripted guards

A guard with a fixed action, for rehearsing a pipeline: it does one thing to every
visit, or decides by the caller it is shown. A scripted guard logs nothing.
-/

namespace Gatehouse

open Http

/-- What a scripted guard does. -/
inductive Action where
  | proceed
  | answer (response : Response)
  /-- Answers a visit without a principal. -/
  | answerUnlessPrincipal (response : Response)
  /-- Answers a visit whose caller has the role. -/
  | answerIfRole (role : String) (response : Response)
  | fail (fault : Fault)
  | setPrincipal (name : String)
  | authenticate (identity : Identity) (scheme : String)
  /-- Sets a timer, in milliseconds, and lets it run out. -/
  | wait (set : Nat)
  deriving DecidableEq

/-- The reaction of a guard with this action. -/
def Action.react (action : Action) (visit : Visit) : Reaction :=
  match action with
  | proceed => .proceed visit []
  | answer response => .answer visit [] response
  | answerUnlessPrincipal response =>
    if visit.caller.principal.isSome then .proceed visit [] else .answer visit [] response
  | answerIfRole role response =>
    if visit.caller.hasRole role then .answer visit [] response else .proceed visit []
  | fail fault => .fail visit [] fault
  | setPrincipal name => .proceed (visit.withCaller (visit.caller.setPrincipal name)) []
  | authenticate identity scheme =>
    .proceed (visit.withCaller (visit.caller.authenticate identity scheme)) []
  | wait set => { Reaction.proceed visit [] with delay := Timer.span set }

/-- A guard with a fixed action. -/
def Guard.scripted (name : String) (kind : Kind) (action : Action) : Guard :=
  ⟨name, kind, action.react⟩

end Gatehouse

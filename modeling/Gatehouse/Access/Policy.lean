import Gatehouse.Access.Rules
import Gatehouse.Pipeline.Guard
import Gatehouse.Reply.Refusal

/-!
# Enforcing access rules

A policy is a list of rules with the means to enforce them: an authorizer that
says whether a principal holds a role, and the way to refuse a request that has no
principal. Asking for credentials (401) is the answer only where credentials could
help; a principal that is known and not allowed gets 403.
-/

namespace Gatehouse

/-- Whether a principal holds a role, for this visit. -/
abbrev Authorizer := (principal role : String) → Visit → Bool

/-- Access rules and how they are enforced. -/
structure Policy where
  rules : List AreaRule
  authorizer : Authorizer
  challenger : Challenger
  /-- The scheme that a refused client is asked to use. -/
  scheme : String
  realm : String

namespace Authorizer

/-- Trusts the roles that came with the principal. -/
def byRoles : Authorizer := fun _ role visit => visit.caller.hasRole role

end Authorizer

namespace Policy

/-- The rule that decides about a path. -/
def ruleFor? (policy : Policy) (path : String) : Option Rule := Gatehouse.ruleFor? policy.rules path

/-- Whether the principal holds one of the roles. -/
def grants (policy : Policy) (principal : String) (roles : Roles) (visit : Visit) : Bool :=
  roles.names.any (fun role => policy.authorizer principal role visit)

/-- Asks for credentials. -/
def askForCredentials (policy : Policy) (visit : Visit) : Reaction :=
  let refusal := policy.challenger policy.scheme policy.realm
  .answer visit refusal.events refusal.response

/-- Turns a caller away for good; credentials would not help. -/
def forbid (visit : Visit) (events : List Event) : Reaction :=
  .answer visit events ErrorReply.forbidden.response

/-- What a rule makes of a visit. -/
def apply (policy : Policy) (rule : Rule) (visit : Visit) : Reaction :=
  match rule, visit.caller.principal with
  | .permitAll, _ => .proceed visit []
  | .denyAll, _ => forbid visit []
  | .authenticated, some _ => .proceed visit []
  | .authenticated, none => policy.askForCredentials visit
  | .anyOf _, none => policy.askForCredentials visit
  | .anyOf roles, some principal =>
    if policy.grants principal roles visit then .proceed visit []
    else forbid visit [.roleLacking principal visit.path]

/-- The guard that enforces a policy. -/
def guard (policy : Policy) : Guard where
  name := "roles-allowed"
  kind := .authorization
  react visit :=
    match policy.ruleFor? visit.path with
    | none => .proceed visit []
    | some rule => policy.apply rule visit

end Policy

end Gatehouse

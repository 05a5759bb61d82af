import Gatehouse.Identity.Roles

/-!
# Callers

What is known of the caller while a request passes the gate: a principal, the
roles granted to it, and the scheme that vouched for it. At first nothing is.
Guards may only name the principal (`setPrincipal`), which leaves roles and
scheme as they are, or replace all three at once (`authenticate`). The roles count
only when there is a principal, and an `Account` is what is then handed on.
-/

namespace Gatehouse

/-- A principal and its roles, as an authenticator vouches for them. -/
structure Identity where
  name : String
  roles : Roles
  deriving DecidableEq

/-- What is known of the caller of a request. -/
structure Caller where
  principal : Option String
  roles : Roles
  scheme : Option String
  deriving DecidableEq

/-- A caller with a principal, as the pages of the service see it. -/
structure Account where
  principal : String
  roles : List String
  scheme : Option String
  deriving DecidableEq, Repr

/-- The identity with the listed roles. -/
def Identity.ofList (name : String) (roles : List String) : Identity := ⟨name, Roles.ofList roles⟩

namespace Caller

/-- Nothing is known. -/
def anonymous : Caller := ⟨none, Roles.empty, none⟩

/-- Names the principal and leaves the rest. -/
def setPrincipal (caller : Caller) (name : String) : Caller := { caller with principal := some name }

/-- Replaces all that is known by an identity and the scheme that vouched for it. -/
def authenticate (_caller : Caller) (identity : Identity) (scheme : String) : Caller :=
  ⟨some identity.name, identity.roles, some scheme⟩

/-- Whether the caller has a principal and that principal the role. -/
def hasRole (caller : Caller) (role : String) : Bool :=
  caller.principal.isSome && caller.roles.contains role

/-- The account of a caller, if it has a principal. -/
def account? (caller : Caller) : Option Account :=
  caller.principal.map (fun name => ⟨name, caller.roles.names, caller.scheme⟩)

end Caller

end Gatehouse

import Gatehouse.Credentials.Authenticator
import Gatehouse.Pipeline.Guard
import Gatehouse.Reply.Refusal

/-!
# Checking credentials

A check is one scheme with the means to resolve what it carries. Consulted about
a visit it finds an identity, or no credentials, or credentials that it does not
accept; only the last leaves a line in the log. It changes nothing. `Mode` says
what a request without credentials is worth, and the guards in the next module
turn findings into verdicts.
-/

namespace Gatehouse

open Text

/-- What to do with a request that carries no credentials. -/
inductive Mode where
  | required
  | optional
  deriving DecidableEq, Repr

/-- What a check makes of a visit. -/
inductive Finding where
  | accepted (identity : Identity)
  | missing
  | rejected
  deriving DecidableEq

/-- A finding, unless the check failed, and what was logged on the way. -/
structure Consultation where
  events : List Event
  finding : Except Fault Finding

/-- One credential scheme, ready to be consulted. -/
structure Check where
  scheme : String
  consult : Visit → Consultation
  /-- How a request is refused in the name of this scheme. -/
  challenge : Reply

namespace Mode

/-- Reads a mode; blanks around it and letter case do not count. -/
def read? (text : String) : Option Mode :=
  match lowerAscii (trimString text) with
  | "required" => some .required
  | "optional" => some .optional
  | _ => none

/-- What is said about a text that is no mode. -/
def unknown (text : String) : String := "unknown auth mode: " ++ lowerAscii (trimString text)

end Mode

/-- The check of a scheme against an authenticator. -/
def Scheme.check {α : Type} (scheme : Scheme α) (authenticate : Authenticator α)
    (challenger : Challenger) (realm : String) : Check where
  scheme := scheme.name
  consult visit :=
    match scheme.extract visit.request with
    | none => ⟨[], .ok .missing⟩
    | some credentials =>
      match authenticate credentials with
      | .error outage => ⟨[], .error outage.toFault⟩
      | .ok (some identity) => ⟨[], .ok (.accepted identity)⟩
      | .ok none => ⟨[.rejected scheme.name visit.path], .ok .rejected⟩
  challenge := challenger scheme.name realm

end Gatehouse

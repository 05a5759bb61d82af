import Gatehouse.Http.Status
import Gatehouse.Pipeline.Priority

/-!
# The log

Every decision leaves an event. An event is a case of `Event` with the data it is
about; its level, its message and its fields as text are functions of that case,
so two events are equal exactly when they tell the same story. No case has a
place for a token or a password.
-/

namespace Gatehouse

open Http

/-- How much an event matters. -/
inductive Level where
  | error
  | warn
  | info
  | debug
  deriving DecidableEq, Repr

/-- What can be logged. -/
inductive Event where
  /-- A guard is about to see the request. -/
  | applying (guard : String) (priority : Priority)
  /-- A guard answered the request itself. -/
  | aborted (guard : String) (status : Status) (method path : String)
  /-- A guard could not do its work. -/
  | failed (guard error : String)
  /-- Credentials were presented and not accepted. -/
  | rejected (scheme path : String)
  /-- Credentials were accepted. -/
  | authenticated (principal scheme : String)
  /-- A realm cannot be written into a header field. -/
  | challengeOmitted (realm : String)
  /-- A principal holds none of the roles that a rule asks for. -/
  | roleLacking (principal path : String)
  /-- The failure of a pipeline is answered with a plain server error. -/
  | failureHidden (error : String)
  /-- The administration page was served. -/
  | adminAccessed (principal : String)
  /-- The settings name no credentials at all. -/
  | noCredentials
  deriving DecidableEq, Repr

namespace Level

def text : Level → String
  | .error => "ERROR"
  | .warn => "WARN"
  | .info => "INFO"
  | .debug => "DEBUG"

end Level

namespace Event

def level : Event → Level
  | applying .. => .debug
  | aborted .. => .info
  | failed .. => .error
  | rejected .. => .warn
  | authenticated .. => .debug
  | challengeOmitted .. => .warn
  | roleLacking .. => .info
  | failureHidden .. => .debug
  | adminAccessed .. => .info
  | noCredentials => .warn

def message : Event → String
  | applying .. => "applying request filter"
  | aborted .. => "request aborted by filter"
  | failed .. => "request filter failed"
  | rejected .. => "credentials rejected"
  | authenticated .. => "authenticated"
  | challengeOmitted .. => "realm is not a valid header value; challenge omitted"
  | roleLacking .. => "principal lacks required role"
  | failureHidden .. => "mapping filter chain error to 500"
  | adminAccessed .. => "admin area accessed"
  | noCredentials => "no credentials configured; protected routes will reject every caller"

/-- The data of an event as named texts. -/
def fields : Event → List (String × String)
  | applying guard priority => [("filter", guard), ("priority", priority.text)]
  | aborted guard status method path =>
    [("filter", guard), ("status", toString status.code), ("method", method), ("path", path)]
  | failed guard error => [("filter", guard), ("error", error)]
  | rejected scheme path => [("scheme", scheme), ("path", path)]
  | authenticated principal scheme => [("principal", principal), ("scheme", scheme)]
  | challengeOmitted realm => [("realm", realm)]
  | roleLacking principal path => [("principal", principal), ("path", path)]
  | failureHidden error => [("error", error)]
  | adminAccessed principal => [("principal", principal)]
  | noCredentials => []

end Event

end Gatehouse

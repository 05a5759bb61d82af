import Gatehouse.Reply
import Gatehouse.Reply.ErrorReply

/-!
# Refusals

A request that needs credentials is refused with a challenge: a response that
names the scheme to use and the realm that it is for. The realm goes between the
quotes as it is. A realm that no header field can hold is left out together with
the challenge, and the log says so.

There are two wordings, plain text and the JSON envelope; a guard is given one of
them as its `Challenger`.
-/

namespace Gatehouse

open Http

/-- Refuses a request in the name of a scheme and a realm. -/
abbrev Challenger := (scheme realm : String) → Reply

/-- The text of a challenge. -/
def challengeText (scheme realm : String) : String := scheme ++ " realm=\"" ++ realm ++ "\""

namespace Refusal

/-- Adds a challenge to a response, if it can be written. -/
def challenge (response : Response) (scheme realm : String) : Reply :=
  let value := challengeText scheme realm
  if isFieldValue value then
    .silent { response with headers := response.headers ++ [⟨"www-authenticate", value⟩] }
  else ⟨response, [.challengeOmitted realm]⟩

/-- A refusal in plain text. -/
def plain : Challenger :=
  challenge (.plain .unauthorized "Credentials are required to access this resource.")

/-- A refusal in the JSON envelope. -/
def json : Challenger := challenge ErrorReply.unauthorized.response

end Refusal

end Gatehouse

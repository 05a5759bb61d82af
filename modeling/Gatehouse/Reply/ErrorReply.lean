import Gatehouse.Http.Message
import Gatehouse.Pipeline.Fault

/-!
# Error replies

The service has three errors to tell its clients about, and one JSON envelope for
them. Whatever goes wrong inside a pipeline becomes the same internal error: its
details are for the log alone, and `ofPipelineError` has no way to pass them on.
-/

namespace Gatehouse

open Http Text

/-- An error that a client is told about. -/
inductive ErrorReply where
  | unauthorized
  | forbidden
  | internal
  deriving DecidableEq, Repr

namespace ErrorReply

/-- Details stay inside. -/
def ofPipelineError (_error : PipelineError) : ErrorReply := .internal

def status : ErrorReply → Status
  | unauthorized => .unauthorized
  | forbidden => .forbidden
  | internal => .internalError

/-- The word for programs. -/
def code : ErrorReply → String
  | unauthorized => "UNAUTHORIZED"
  | forbidden => "FORBIDDEN"
  | internal => "INTERNAL_SERVER_ERROR"

/-- The sentence for people. -/
def detail : ErrorReply → String
  | unauthorized => "Credentials are required to access this resource."
  | forbidden => "You are not allowed to access this resource."
  | internal => "internal server error"

/-- The error in the log. -/
def message : ErrorReply → String
  | unauthorized => "unauthorized"
  | forbidden => "forbidden"
  | internal => "internal server error"

/-- The error in its envelope. -/
def response (error : ErrorReply) : Response :=
  .json error.status
    (.object [("error", .object [("code", .text error.code), ("message", .text error.detail)])])

end ErrorReply

end Gatehouse

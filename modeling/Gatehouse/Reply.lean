import Gatehouse.Event
import Gatehouse.Http.Message

/-!
# Replies

An answer that the gate or the service makes itself, with the lines that making
it left in the log.
-/

namespace Gatehouse

/-- A response, and what was logged while it was made. -/
structure Reply where
  response : Http.Response
  events : List Event
  deriving DecidableEq, Repr

/-- A response that is made without a word in the log. -/
def Reply.silent (response : Http.Response) : Reply := ⟨response, []⟩

end Gatehouse

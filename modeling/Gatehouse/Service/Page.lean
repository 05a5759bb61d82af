import Gatehouse.Identity.Caller
import Gatehouse.Reply
import Gatehouse.Reply.ErrorReply

/-!
# The pages of the service

Four pages hang below one mount point. `health` is open to everyone; the other
three are behind the gate and see nothing of a request but the account that the
gate has made out. `greeting` is content without one.
-/

namespace Gatehouse

open Http Text

/-- Where the pages are mounted. -/
def mount : String := "/api/v1"

/-- A page of the service. -/
inductive Page where
  | health
  | greeting
  | me
  | admin
  deriving DecidableEq, Repr

namespace Page

/-- The path of a page below the mount point. -/
def path : Page → String
  | health => "/health"
  | greeting => "/greeting"
  | me => "/me"
  | admin => "/admin"

/-- The full path of a page. -/
def address (page : Page) : String := mount ++ page.path

def all : List Page := [health, greeting, me, admin]

/-- The page at a path below the mount point; paths are compared as they are written. -/
def find? (path : String) : Option Page := all.find? (fun page => page.path == path)

/-- Whether a page is behind the gate. -/
def isProtected (page : Page) : Bool := page ≠ health

/-- A page that was found. -/
def found (body : Json) : Reply := .silent (.json .ok body)

/-- A page that needs an account and has none. -/
def withoutAccount : Reply := .silent ErrorReply.unauthorized.response

/-- What a page says to an account, or to a caller without one. -/
def reply : Page → Option Account → Reply
  | health, _ => found (.object [("status", .text "ok")])
  | greeting, some account =>
    found (.object
      [("message", .text ("hello, " ++ account.principal)), ("authenticated", .bool true)])
  | greeting, none =>
    found (.object [("message", .text "hello, anonymous"), ("authenticated", .bool false)])
  | me, some account =>
    found (.object
      [("principal", .text account.principal), ("roles", .list (account.roles.map .text)),
        ("scheme", (account.scheme.map Json.text).getD .null)])
  | me, none => withoutAccount
  | admin, some account =>
    ⟨.json .ok (.object [("admin", .bool true), ("principal", .text account.principal)]),
      [.adminAccessed account.principal]⟩
  | admin, none => withoutAccount

end Page

end Gatehouse

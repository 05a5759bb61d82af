import Gatehouse.Credentials.Scheme
import Gatehouse.Identity.Caller

/-!
# Configured credentials

The two kinds of entries that a deployment lists: a token with the principal it
stands for, and a user with a password. An entry keeps its roles as they were
written, with order and repetitions; they become a set only where an identity is
made of them. The log never shows the secret of an entry.
-/

namespace Gatehouse

open Text

/-- A token and whom it stands for. -/
structure TokenEntry where
  token : String
  name : String
  roles : List String
  deriving DecidableEq, Repr

/-- A user who logs in with a password. -/
structure UserEntry where
  username : String
  password : String
  roles : List String
  deriving DecidableEq, Repr

/-- The principal that the token stands for. -/
def TokenEntry.identity (entry : TokenEntry) : Identity := .ofList entry.name entry.roles

/-- The principal that the user is. -/
def UserEntry.identity (entry : UserEntry) : Identity := .ofList entry.username entry.roles

/-- What a client has to present. -/
def UserEntry.login (entry : UserEntry) : Login := ⟨entry.username, entry.password⟩

/-- What the log shows of an entry. -/
def TokenEntry.inspect (entry : TokenEntry) : String :=
  "TokenEntry \x7b name: " ++ Quoted.ofString entry.name
    ++ ", roles: " ++ Quoted.ofStrings entry.roles ++ ", .. \x7d"

/-- What the log shows of an entry. -/
def UserEntry.inspect (entry : UserEntry) : String :=
  "BasicUserEntry \x7b username: " ++ Quoted.ofString entry.username
    ++ ", roles: " ++ Quoted.ofStrings entry.roles ++ ", .. \x7d"

end Gatehouse

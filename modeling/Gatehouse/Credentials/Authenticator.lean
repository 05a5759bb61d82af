import Gatehouse.Credentials.Entry
import Gatehouse.Credentials.Table
import Gatehouse.Pipeline.Fault

/-!
# Authenticators

An authenticator resolves credentials into an identity. It may say no, and it may
be unable to say anything; the second is an outage and never counts as a
rejection. The two fixed tables resolve tokens by the token and logins by the
user name, and then compare the password.
-/

namespace Gatehouse

/-- Credentials cannot be looked up at present. -/
structure Outage where
  reason : String
  deriving DecidableEq, Repr

/-- Resolves credentials of type `α`; `none` is a rejection. -/
abbrev Authenticator (α : Type) := α → Except Outage (Option Identity)

/-- What a guard reports when its authenticator is out. -/
def Outage.toFault (outage : Outage) : Fault :=
  ⟨"authenticator failed", some (.unavailable outage.reason)⟩

/-- Whom each token stands for. -/
abbrev TokenTable := Table Identity

/-- The password and the identity of each user. -/
abbrev UserTable := Table (String × Identity)

namespace TokenTable

def ofEntries (entries : List TokenEntry) : TokenTable :=
  Table.ofList (entries.map (fun entry => (entry.token, entry.identity)))

def resolve? (table : TokenTable) (token : Token) : Option Identity := table.find? token.text

def authenticator (table : TokenTable) : Authenticator Token := fun token =>
  .ok (table.resolve? token)

end TokenTable

namespace UserTable

def ofEntries (entries : List UserEntry) : UserTable :=
  Table.ofList (entries.map (fun entry => (entry.username, entry.password, entry.identity)))

def resolve? (table : UserTable) (login : Login) : Option Identity :=
  ((table.find? login.username).filter (fun row => row.1 == login.password)).map Prod.snd

def authenticator (table : UserTable) : Authenticator Login := fun login =>
  .ok (table.resolve? login)

end UserTable

/-- An authenticator that is always out. -/
def Authenticator.outOfService {α : Type} (reason : String) : Authenticator α := fun _ =>
  .error ⟨reason⟩

end Gatehouse

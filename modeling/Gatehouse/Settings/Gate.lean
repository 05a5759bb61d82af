import Gatehouse.Access.Policy
import Gatehouse.Credentials.Guards
import Gatehouse.Pipeline.Seal
import Gatehouse.Service.Page
import Gatehouse.Settings.Read

/-!
# The gate of a deployment

The settings determine a pipeline of two guards: one that authenticates against
the configured tables, and one that enforces the access rules of the pages. A
scheme takes part if it has entries. With no entries at all the bearer scheme
takes part nevertheless, so that there is a challenge to answer with; such a
deployment turns everyone away, and the log says so once.
-/

namespace Gatehouse

namespace Settings

/-- Whether clients can present a token. -/
def takesTokens (settings : Settings) : Bool := !settings.tokens.isEmpty || settings.users.isEmpty

/-- Whether clients can log in. -/
def takesLogins (settings : Settings) : Bool := !settings.users.isEmpty

/-- The check of the configured tokens. -/
def tokenCheck (settings : Settings) : Check :=
  Scheme.bearer.check (TokenTable.ofEntries settings.tokens).authenticator Refusal.json
    settings.realm

/-- The check of the configured users. -/
def loginCheck (settings : Settings) : Check :=
  Scheme.basic.check (UserTable.ofEntries settings.users).authenticator Refusal.json settings.realm

/-- The checks of the schemes that take part. -/
def checks (settings : Settings) : List Check :=
  (if settings.takesTokens then [settings.tokenCheck] else [])
    ++ (if settings.takesLogins then [settings.loginCheck] else [])

/-- The scheme that clients are asked to use. -/
def challengeScheme (settings : Settings) : String :=
  (settings.checks.head?.map Check.scheme).getD Scheme.bearer.name

/-- The access rules of the pages; what is not mentioned below the mount point needs an account. -/
def areaRules : List AreaRule :=
  [⟨mount, .authenticated⟩, ⟨Page.greeting.address, .permitAll⟩, ⟨Page.me.address, .authenticated⟩,
    ⟨Page.admin.address, .anyOf (Roles.ofList ["admin"])⟩]

/-- The access rules with the means to enforce them. -/
def policy (settings : Settings) : Policy where
  rules := areaRules
  authorizer := Authorizer.byRoles
  challenger := Refusal.json
  scheme := settings.challengeScheme
  realm := settings.realm

/-- The guards of a deployment. -/
def registrations (settings : Settings) : List Registration :=
  [⟨Guard.ofChecks settings.checks settings.mode, .authentication⟩,
    ⟨settings.policy.guard, .authorization⟩]

/-- The pipeline of a deployment. -/
def pipeline (settings : Settings) : Except SealError Pipeline :=
  Pipeline.ofRegistrations settings.registrations

/-- What is logged when the pipeline is made. -/
def events (settings : Settings) : List Event :=
  if settings.tokens.isEmpty && settings.users.isEmpty then [.noCredentials] else []

end Settings

end Gatehouse

import Gatehouse.Credentials.Authenticator

/-!
# Tables without secrets

A table need not hold the tokens and the passwords that it is asked about. It is
enough to keep a digest of each and to compare what is presented by its digest too.
Of digests nothing is needed but that different secrets have different ones, so they
are texts like the secrets that they stand for, and a table of digests is the table of
the entries with their secrets replaced.
-/

namespace Gatehouse

/-- What is kept of a secret. -/
abbrev Digest := String → String

/-- No two of these texts have one digest. -/
def Digest.CollisionFree (digest : Digest) (texts : List String) : Prop :=
  ∀ s ∈ texts, ∀ t ∈ texts, digest s = digest t → s = t

instance (digest : Digest) (texts : List String) : Decidable (digest.CollisionFree texts) :=
  inferInstanceAs (Decidable (∀ s ∈ texts, ∀ t ∈ texts, digest s = digest t → s = t))

/-- The entry with a digest in the place of its token. -/
def TokenEntry.digested (digest : Digest) (entry : TokenEntry) : TokenEntry :=
  { entry with token := digest entry.token }

/-- The entry with a digest in the place of its password. -/
def UserEntry.digested (digest : Digest) (entry : UserEntry) : UserEntry :=
  { entry with password := digest entry.password }

/-- The table of the entries, which keeps digests of the tokens. -/
def TokenTable.ofDigests (digest : Digest) (entries : List TokenEntry) : TokenTable :=
  .ofEntries (entries.map (TokenEntry.digested digest))

/-- The table of the entries, which keeps digests of the passwords. -/
def UserTable.ofDigests (digest : Digest) (entries : List UserEntry) : UserTable :=
  .ofEntries (entries.map (UserEntry.digested digest))

/-- Resolves tokens by a table of digests. -/
def TokenTable.digestAuthenticator (table : TokenTable) (digest : Digest) : Authenticator Token :=
  fun token => table.authenticator ⟨digest token.text⟩

/-- Resolves logins by a table of digests. -/
def UserTable.digestAuthenticator (table : UserTable) (digest : Digest) : Authenticator Login :=
  fun login => table.authenticator ⟨login.username, digest login.password⟩

end Gatehouse

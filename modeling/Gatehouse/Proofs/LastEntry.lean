import Mathlib.Data.Finset.Card
import Mathlib.Data.List.Induction
import Gatehouse.Credentials.Digest

/-!
# Of several entries the last one counts

A list of credentials may name one token or one user several times. The table that is
made of it has one row for each, and that row is made of one entry, the last one of
that name (`LastFor`). So nothing is put together from two entries: name, roles and
password are those of the last one, and an older password of a user is as good as none.

Whether a table holds secrets or digests of them makes no difference as long as no two
of the secrets in question have one digest. Tokens are keys, so with digests the
argument is about which rows are told apart (`lastFor_digested`); passwords are
compared after the row is found, so there it is about that one comparison.
-/

namespace Gatehouse.Proofs

open Gatehouse

/-! ## The last entry of a key -/

section Keys

variable {ε α : Type} {key : ε → String} {value : ε → α} {k : String} {entries : List ε} {entry : ε}

/-- `entry` is the last of the entries under the key `k`. -/
def LastFor (key : ε → String) (k : String) (entries : List ε) (entry : ε) : Prop :=
  key entry = k ∧ ∃ before after, entries = before ++ entry :: after
    ∧ ∀ later ∈ after, key later ≠ k

/-- There is a last entry, or there is none at all. -/
theorem lastFor_or_none (key : ε → String) (k : String) (entries : List ε) :
    (∃ entry, LastFor key k entries entry) ∨ ∀ entry ∈ entries, key entry ≠ k := by
  induction entries using List.reverseRecOn with
  | nil => exact .inr (List.forall_mem_nil _)
  | append_singleton entries last ih =>
      by_cases hlast : key last = k
      · exact .inl ⟨last, hlast, entries, [], rfl, List.forall_mem_nil _⟩
      · have hlater : ∀ later ∈ [last], key later ≠ k := by
          intro later hmem
          rw [List.mem_singleton.mp hmem]
          exact hlast
        rcases ih with ⟨entry, hentry, before, after, rfl, hafter⟩ | hnone
        · refine .inl ⟨entry, hentry, before, after ++ [last], by simp, ?_⟩
          exact List.forall_mem_append.mpr ⟨hafter, hlater⟩
        · exact .inr (List.forall_mem_append.mpr ⟨hnone, hlater⟩)

/-- Where entries change and no two keys become one, the last entry stays the last. -/
theorem LastFor.map {f : ε → ε} {k' : String} (h : LastFor key k entries entry)
    (hkeys : ∀ e ∈ entries, key (f e) = k' ↔ key e = k) :
    LastFor key k' (entries.map f) (f entry) := by
  obtain ⟨hkey, before, after, rfl, hafter⟩ := h
  have hlast : entry ∈ before ++ entry :: after := List.mem_append_right _ List.mem_cons_self
  refine ⟨(hkeys entry hlast).mpr hkey, before.map f, after.map f, List.map_append, ?_⟩
  intro later hlater
  obtain ⟨e, he, rfl⟩ := List.mem_map.mp hlater
  have hmem : e ∈ before ++ entry :: after :=
    List.mem_append_right _ (List.mem_cons_of_mem entry he)
  exact fun hsame => hafter e he ((hkeys e hmem).mp hsame)

theorem forall_ne_map {f : ε → ε} {k' : String} (h : ∀ e ∈ entries, key e ≠ k)
    (hkeys : ∀ e ∈ entries, key (f e) = k' ↔ key e = k) : ∀ e ∈ entries.map f, key e ≠ k' := by
  intro changed hchanged
  obtain ⟨e, he, rfl⟩ := List.mem_map.mp hchanged
  exact fun hsame => h e he ((hkeys e he).mp hsame)

/-- A table holds what stands in the last entry of a key. -/
theorem find?_of_lastFor (value : ε → α) (h : LastFor key k entries entry) :
    (Table.ofList (entries.map (fun e => (key e, value e)))).find? k = some (value entry) := by
  obtain ⟨hkey, before, after, rfl, hafter⟩ := h
  have hnone : ((after.map (fun e => (key e, value e))).reverse).lookup k = none := by
    refine List.lookup_eq_none_iff.mpr ?_
    intro row hrow
    obtain ⟨later, hlater, rfl⟩ := List.mem_map.mp (List.mem_reverse.mp hrow)
    exact bne_iff_ne.mpr (hafter later hlater).symm
  rw [Table.find?_ofList, List.map_append, List.map_cons, List.reverse_append, List.reverse_cons,
    List.append_assoc, Table.lookup_append, hnone, Option.none_or, List.singleton_append, hkey,
    List.lookup_cons_self]

theorem find?_of_forall_ne (value : ε → α) (h : ∀ e ∈ entries, key e ≠ k) :
    (Table.ofList (entries.map (fun e => (key e, value e)))).find? k = none := by
  rw [Table.find?_ofList]
  refine List.lookup_eq_none_iff.mpr ?_
  intro row hrow
  obtain ⟨e, he, rfl⟩ := List.mem_map.mp (List.mem_reverse.mp hrow)
  exact bne_iff_ne.mpr (h e he).symm

/-! ## How many rows there are -/

theorem mem_keys_putAll (rows : List (String × α)) (table : Table α) (name : String) :
    name ∈ (rows.foldl (fun table row => table.put row.1 row.2) table).rows.map Prod.fst ↔
      name ∈ rows.map Prod.fst ∨ name ∈ table.rows.map Prod.fst := by
  induction rows generalizing table with
  | nil => simp
  | cons row rows ih =>
      rw [List.foldl_cons, ih, Table.put, Table.mem_keys_putRow, List.map_cons, List.mem_cons,
        or_left_comm, or_assoc]

/-- A table has one row for each key. -/
theorem size_ofList (rows : List (String × α)) :
    (Table.ofList rows).size = (rows.map Prod.fst).toFinset.card := by
  have hsame : ((Table.ofList rows).rows.map Prod.fst).toFinset = (rows.map Prod.fst).toFinset := by
    ext name
    rw [List.mem_toFinset, List.mem_toFinset, Table.ofList, mem_keys_putAll]
    simp [Table.empty]
  rw [← hsame, List.toFinset_card_of_nodup (Table.ofList rows).distinct, List.length_map]
  rfl

theorem size_of_entries (value : ε → α) :
    (Table.ofList (entries.map (fun e => (key e, value e)))).size =
      (entries.map key).toFinset.card := by
  rw [size_ofList, List.map_map]
  rfl

theorem isEmpty_of_entries (value : ε → α) :
    (Table.ofList (entries.map (fun e => (key e, value e)))).isEmpty = true ↔ entries = [] := by
  rw [Table.isEmpty, List.isEmpty_iff, ← List.length_eq_zero_iff, ← Table.size, size_of_entries,
    Finset.card_eq_zero, List.toFinset_eq_empty_iff, List.map_eq_nil_iff]

end Keys

/-! ## Tokens and logins -/

section Lookups

variable {tokens : List TokenEntry} {users : List UserEntry}

theorem authenticator_token_of_lastFor {text : String} {entry : TokenEntry}
    (h : LastFor TokenEntry.token text tokens entry) :
    (TokenTable.ofEntries tokens).authenticator ⟨text⟩ = .ok (some entry.identity) :=
  congrArg Except.ok (find?_of_lastFor TokenEntry.identity h)

theorem authenticator_token_of_forall_ne {text : String}
    (h : ∀ entry ∈ tokens, entry.token ≠ text) :
    (TokenTable.ofEntries tokens).authenticator ⟨text⟩ = .ok none :=
  congrArg Except.ok (find?_of_forall_ne TokenEntry.identity h)

/-- A login is held against the last entry of the user. -/
theorem authenticator_login_of_lastFor {username : String} {entry : UserEntry}
    (h : LastFor UserEntry.username username users entry) (password : String) :
    (UserTable.ofEntries users).authenticator ⟨username, password⟩ =
      .ok (if entry.password = password then some entry.identity else none) := by
  have hrow := find?_of_lastFor (fun e : UserEntry => (e.password, e.identity)) h
  refine congrArg Except.ok ?_
  rw [UserTable.resolve?, UserTable.ofEntries, hrow]
  by_cases hp : entry.password = password
  · simp [hp]
  · simp [hp]

theorem authenticator_login_of_forall_ne {username : String}
    (h : ∀ entry ∈ users, entry.username ≠ username) (password : String) :
    (UserTable.ofEntries users).authenticator ⟨username, password⟩ = .ok none := by
  have hrow := find?_of_forall_ne (fun e : UserEntry => (e.password, e.identity)) h
  refine congrArg Except.ok ?_
  rw [UserTable.resolve?, UserTable.ofEntries, hrow]
  rfl

/-! ## Digests -/

variable {digest : Digest}

theorem digest_eq_iff {texts : List String} (h : digest.CollisionFree texts)
    {s t : String} (hs : s ∈ texts) (ht : t ∈ texts) : digest s = digest t ↔ s = t :=
  ⟨h s hs t ht, congrArg digest⟩

/-- A token stands for the same identity in a table of digests. -/
theorem digestAuthenticator_token {token : Token}
    (h : digest.CollisionFree (token.text :: tokens.map TokenEntry.token)) :
    (TokenTable.ofDigests digest tokens).digestAuthenticator digest token =
      (TokenTable.ofEntries tokens).authenticator token := by
  have hkeys : ∀ e ∈ tokens, (e.digested digest).token = digest token.text ↔
      e.token = token.text := by
    intro e he
    exact digest_eq_iff h (List.mem_cons_of_mem _ (List.mem_map_of_mem he)) List.mem_cons_self
  rcases lastFor_or_none TokenEntry.token token.text tokens with ⟨entry, hentry⟩ | hnone
  · have hdigested := authenticator_token_of_lastFor (hentry.map hkeys)
    exact hdigested.trans (authenticator_token_of_lastFor hentry).symm
  · have hdigested := authenticator_token_of_forall_ne (forall_ne_map hnone hkeys)
    exact hdigested.trans (authenticator_token_of_forall_ne hnone).symm

/-- A login stands for the same identity in a table of digests. -/
theorem digestAuthenticator_login {login : Login}
    (h : digest.CollisionFree (login.password :: users.map UserEntry.password)) :
    (UserTable.ofDigests digest users).digestAuthenticator digest login =
      (UserTable.ofEntries users).authenticator login := by
  -- the keys are names, and a name is not digested
  have hkeys : ∀ e ∈ users, (e.digested digest).username = login.username ↔
      e.username = login.username := fun _ _ => Iff.rfl
  rcases lastFor_or_none UserEntry.username login.username users with ⟨entry, hentry⟩ | hnone
  · have hdigested := authenticator_login_of_lastFor (hentry.map hkeys) (digest login.password)
    have hplain := authenticator_login_of_lastFor hentry login.password
    obtain ⟨_, before, after, rfl, _⟩ := hentry
    have hsecret : digest entry.password = digest login.password ↔
        entry.password = login.password := by
      refine digest_eq_iff h (List.mem_cons_of_mem _ (List.mem_map_of_mem ?_)) List.mem_cons_self
      exact List.mem_append_right _ List.mem_cons_self
    refine hdigested.trans (Eq.trans ?_ hplain.symm)
    rw [UserEntry.digested]
    simp only [hsecret]
    rfl
  · have hdigested :=
      authenticator_login_of_forall_ne (forall_ne_map hnone hkeys) (digest login.password)
    exact hdigested.trans (authenticator_login_of_forall_ne hnone login.password).symm

theorem size_ofDigests_tokens (h : digest.CollisionFree (tokens.map TokenEntry.token)) :
    (TokenTable.ofDigests digest tokens).size = (TokenTable.ofEntries tokens).size := by
  rw [TokenTable.ofDigests, TokenTable.ofEntries, TokenTable.ofEntries, size_of_entries,
    size_of_entries, List.map_map]
  have himage : (tokens.map (TokenEntry.token ∘ TokenEntry.digested digest)).toFinset =
      (tokens.map TokenEntry.token).toFinset.image digest := by
    ext text
    simp [TokenEntry.digested]
  rw [himage]
  refine Finset.card_image_of_injOn ?_
  intro s hs t ht
  exact h s (List.mem_toFinset.mp hs) t (List.mem_toFinset.mp ht)

theorem size_ofDigests_users :
    (UserTable.ofDigests digest users).size = (UserTable.ofEntries users).size := by
  rw [UserTable.ofDigests, UserTable.ofEntries, UserTable.ofEntries, size_of_entries,
    size_of_entries, List.map_map]
  rfl

end Lookups

/-! ## What is promised -/

/-- The identity has this name and exactly these roles. -/
structure HasRoles (identity : Identity) (name : String) (roles : List String) : Prop where
  name : identity.name = name
  roles : ∀ role, identity.roles.contains role = true ↔ role ∈ roles

theorem hasRoles_ofList (name : String) (roles : List String) :
    HasRoles (.ofList name roles) name roles :=
  ⟨rfl, fun _ => List.contains_iff_mem.trans Roles.mem_ofList⟩

/-- What is promised of the table of some tokens. -/
structure TokensResolve (tokens : List TokenEntry) (table : TokenTable) : Prop where
  /-- A token stands for the principal and the roles of its last entry. -/
  found : ∀ text entry, LastFor TokenEntry.token text tokens entry →
    ∃ identity, table.authenticator ⟨text⟩ = .ok (some identity)
      ∧ HasRoles identity entry.name entry.roles
  /-- Any other text stands for nobody. -/
  unknown : ∀ text, (∀ entry ∈ tokens, entry.token ≠ text) →
    table.authenticator ⟨text⟩ = .ok none
  size : table.size = (tokens.map TokenEntry.token).toFinset.card
  empty : table.isEmpty = true ↔ tokens = []

/-- What is promised of the table of some users. -/
structure UsersResolve (users : List UserEntry) (table : UserTable) : Prop where
  /-- A user logs in with the password of the last entry, and has the roles of that one. -/
  found : ∀ username entry, LastFor UserEntry.username username users entry →
    ∃ identity, table.authenticator ⟨username, entry.password⟩ = .ok (some identity)
      ∧ HasRoles identity entry.username entry.roles
  /-- No other password will do, and be it that of an earlier entry. -/
  refused : ∀ username entry password, LastFor UserEntry.username username users entry →
    password ≠ entry.password → table.authenticator ⟨username, password⟩ = .ok none
  /-- Nobody logs in under any other name. -/
  unknown : ∀ username password, (∀ entry ∈ users, entry.username ≠ username) →
    table.authenticator ⟨username, password⟩ = .ok none
  size : table.size = (users.map UserEntry.username).toFinset.card
  empty : table.isEmpty = true ↔ users = []

/-- What is promised of tables that keep digests: they are as good as the ones above. -/
structure KeptAsDigests (digest : Digest) (tokens : List TokenEntry) (users : List UserEntry) :
    Prop where
  token : ∀ token : Token,
    digest.CollisionFree (token.text :: tokens.map TokenEntry.token) →
    (TokenTable.ofDigests digest tokens).digestAuthenticator digest token =
      (TokenTable.ofEntries tokens).authenticator token
  login : ∀ login : Login,
    digest.CollisionFree (login.password :: users.map UserEntry.password) →
    (UserTable.ofDigests digest users).digestAuthenticator digest login =
      (UserTable.ofEntries users).authenticator login
  sizes : digest.CollisionFree (tokens.map TokenEntry.token) →
    (TokenTable.ofDigests digest tokens).size = (TokenTable.ofEntries tokens).size
      ∧ (UserTable.ofDigests digest users).size = (UserTable.ofEntries users).size
  empty : ((TokenTable.ofDigests digest tokens).isEmpty = true ↔ tokens = [])
    ∧ ((UserTable.ofDigests digest users).isEmpty = true ↔ users = [])

/-- **Tables go by the last entry of a key and by nothing else**, and it makes no difference to
them whether they keep secrets or digests. -/
theorem resolved_by_last_entry (digest : Digest) (tokens : List TokenEntry)
    (users : List UserEntry) :
    TokensResolve tokens (TokenTable.ofEntries tokens)
      ∧ UsersResolve users (UserTable.ofEntries users)
      ∧ KeptAsDigests digest tokens users := by
  refine ⟨?_, ?_, ?_⟩
  · constructor
    case found =>
      intro text entry h
      exact ⟨_, authenticator_token_of_lastFor h, hasRoles_ofList entry.name entry.roles⟩
    case unknown =>
      intro text h
      exact authenticator_token_of_forall_ne h
    case size => exact size_of_entries TokenEntry.identity
    case empty => exact isEmpty_of_entries TokenEntry.identity
  · constructor
    case found =>
      intro username entry h
      refine ⟨entry.identity, ?_, hasRoles_ofList entry.username entry.roles⟩
      rw [authenticator_login_of_lastFor h, if_pos rfl]
    case refused =>
      intro username entry password h hother
      rw [authenticator_login_of_lastFor h, if_neg hother.symm]
    case unknown =>
      intro username password h
      exact authenticator_login_of_forall_ne h password
    case size => exact size_of_entries (fun e : UserEntry => (e.password, e.identity))
    case empty => exact isEmpty_of_entries (fun e : UserEntry => (e.password, e.identity))
  · constructor
    case token =>
      intro token h
      exact digestAuthenticator_token h
    case login =>
      intro login h
      exact digestAuthenticator_login h
    case sizes =>
      intro h
      exact ⟨size_ofDigests_tokens h, size_ofDigests_users⟩
    case empty =>
      refine ⟨?_, ?_⟩
      · exact (isEmpty_of_entries TokenEntry.identity).trans List.map_eq_nil_iff
      · exact (isEmpty_of_entries (fun e : UserEntry => (e.password, e.identity))).trans
          List.map_eq_nil_iff

/-- Entries of which the first token is listed again, for somebody else. -/
def relistedTokens : List TokenEntry :=
  [⟨"t-1", "ada", ["admin"]⟩, ⟨"t-2", "bob", []⟩, ⟨"t-1", "eve", ["ops", "ops"]⟩]

/-- A user who has changed the password and lost a role. -/
def relistedUsers : List UserEntry := [⟨"bob", "old", ["admin"]⟩, ⟨"bob", "new", ["user"]⟩]

/-- The SHA-256 digests of five texts. -/
def fewDigests : Digest
  | "t-1" => "46e9bc3476c92ea24fb17adac6cd9cdacff7a34a5c753100787da5a29984f836"
  | "t-2" => "b1ad9ff6eb8dad4aa41950317bd6fb7b6269b2b24b2da52e6312b190d5d2d5eb"
  | "t-3" => "b6b5bcaab8dc5b28e9280befc2258e3f34d198d4b5755005cd6badebeb6fb6cd"
  | "old" => "cba06b5736faf67e54b07b561eae94395e774c517a7d910a54369e1263ccfbd4"
  | "new" => "11507a0e2f5e69d5dfa40a62a1bd7b6ee57e6bcd85c67c9b8431b36fff21c437"
  | _ => ""

/-- The token is Eve's now and brings none of Ada's roles, the old password is worth nothing, and
tables of digests say the same. -/
theorem resolved_by_last_entry_relisted :
    (∃ identity, (TokenTable.ofEntries relistedTokens).authenticator ⟨"t-1"⟩ = .ok (some identity)
        ∧ HasRoles identity "eve" ["ops", "ops"])
      ∧ (UserTable.ofEntries relistedUsers).authenticator ⟨"bob", "old"⟩ = .ok none
      ∧ (TokenTable.ofEntries relistedTokens).size = 2
      ∧ fewDigests.CollisionFree ["old", "old", "new"]
      ∧ (UserTable.ofDigests fewDigests relistedUsers).digestAuthenticator fewDigests
          ⟨"bob", "old"⟩ = .ok none
      ∧ fewDigests.CollisionFree ["t-3", "t-1", "t-2", "t-1"]
      ∧ (TokenTable.ofDigests fewDigests relistedTokens).digestAuthenticator fewDigests
          ⟨"t-3"⟩ = .ok none := by
  obtain ⟨htokens, husers, hdigests⟩ :=
    resolved_by_last_entry fewDigests relistedTokens relistedUsers
  have heve : LastFor TokenEntry.token "t-1" relistedTokens ⟨"t-1", "eve", ["ops", "ops"]⟩ :=
    ⟨rfl, relistedTokens.take 2, [], rfl, List.forall_mem_nil _⟩
  have hbob : LastFor UserEntry.username "bob" relistedUsers ⟨"bob", "new", ["user"]⟩ :=
    ⟨rfl, relistedUsers.take 1, [], rfl, List.forall_mem_nil _⟩
  have hold := husers.refused "bob" _ "old" hbob (by decide)
  have hpasswords : fewDigests.CollisionFree ["old", "old", "new"] := by decide +kernel
  have htexts : fewDigests.CollisionFree ["t-3", "t-1", "t-2", "t-1"] := by decide +kernel
  refine ⟨htokens.found "t-1" _ heve, hold, htokens.size, hpasswords, ?_, htexts, ?_⟩
  · rw [hdigests.login ⟨"bob", "old"⟩ hpasswords, hold]
  · rw [hdigests.token ⟨"t-3"⟩ htexts, htokens.unknown "t-3" (by decide)]

end Gatehouse.Proofs

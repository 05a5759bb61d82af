import Gatehouse.Settings.Gate

/-!
# What accepted settings promise

Settings are accepted when every variable is, one by one (`read_eq_ok_iff`). All
that the gate relies on is that no token and no user name is listed twice
(`distinct_of_read`). A table keeps the last entry of each key; with keys that are
distinct that is the only one, so looking credentials up in a table is the same as
looking for their entry in the settings.
-/

namespace Gatehouse.Proofs

open Gatehouse Text

/-! ## Reading settings -/

theorem bind_eq_ok_iff {ε α β : Type} {x : Except ε α} {f : α → Except ε β} {b : β} :
    x >>= f = .ok b ↔ ∃ a, x = .ok a ∧ f a = .ok b := by
  cases x with
  | error e => simp [bind, Except.bind]
  | ok a => simp [bind, Except.bind]

/-- Settings are read when each variable is, and each field is about its own variable. -/
theorem read_eq_ok_iff {env : Environment} {settings : Settings} :
    Settings.read env = .ok settings ↔
      Settings.readOr env .tcpPort 3000 (Settings.readNumber? Settings.greatestTcpPort)
          = .ok settings.tcpPort
        ∧ Settings.realmOf (env Setting.realm.key) = settings.realm
        ∧ Settings.readOr env .mode .optional Mode.read? = .ok settings.mode
        ∧ Settings.readOr env .tokens [] readTokens? = .ok settings.tokens
        ∧ Settings.readOr env .users [] readUsers? = .ok settings.users
        ∧ Settings.readOr env .timeout 30 Settings.readTimeout? = .ok settings.timeoutSecs
        ∧ Settings.readOr env .bodyLimit (1024 * 1024) (Settings.readNumber? Settings.greatestWord)
          = .ok settings.bodyLimit := by
  simp only [Settings.read, bind_eq_ok_iff]
  refine ⟨?_, ?_⟩
  · intro h
    obtain ⟨tcpPort, hport, mode, hmode, tokens, htokens, users, husers, secs, hsecs, body, hbody,
      hsettings⟩ := h
    obtain rfl := Except.ok.inj hsettings
    exact ⟨hport, rfl, hmode, htokens, husers, hsecs, hbody⟩
  · -- the realm is the one part that is not read but made
    intro h
    obtain ⟨hport, hrealm, hmode, htokens, husers, hsecs, hbody⟩ := h
    refine ⟨_, hport, _, hmode, _, htokens, _, husers, _, hsecs, _, hbody, ?_⟩
    rw [hrealm]; rfl

theorem readOr_eq_ok {α : Type} {env : Environment} {setting : Setting} {default value : α}
    {read? : String → Option α} (h : Settings.readOr env setting default read? = .ok value) :
    value = default ∨ ∃ text, env setting.key = some text ∧ read? text = some value := by
  rw [Settings.readOr] at h
  split at h
  · exact .inl (Except.ok.inj h).symm
  · rename_i text htext
    split at h
    · rename_i v hv
      obtain rfl := Except.ok.inj h
      exact .inr ⟨text, htext, hv⟩
    · exact absurd h (by simp)

/-- A list is read entry by entry, and each key stands in it once. -/
theorem readEntries?_eq_some_iff {α : Type} {read? : List Char → Option α} {key : α → String}
    {text : String} {entries : List α} :
    readEntries? read? key text = some entries ↔
      (nonblankPieces ',' text.toList).mapM read? = some entries ∧ (entries.map key).Nodup := by
  rw [readEntries?]
  refine ⟨?_, ?_⟩
  · intro h
    obtain ⟨found, hfound, h⟩ := Option.bind_eq_some_iff.mp h
    split at h
    · rename_i hnodup
      obtain rfl := Option.some.inj h
      exact ⟨hfound, hnodup⟩
    · exact absurd h (by simp)
  · rintro ⟨hfound, hnodup⟩
    simp only [hfound, Option.bind_eq_bind, Option.bind_some, if_pos hnodup]

section Lists

variable {env : Environment} {settings : Settings}

theorem tokens_of_read (h : Settings.read env = .ok settings) :
    settings.tokens = [] ∨ ∃ text, readTokens? text = some settings.tokens := by
  obtain ⟨_, _, _, htokens, _, _, _⟩ := read_eq_ok_iff.mp h
  rcases readOr_eq_ok htokens with hnil | ⟨text, _, hread⟩
  · exact .inl hnil
  · exact .inr ⟨text, hread⟩

theorem users_of_read (h : Settings.read env = .ok settings) :
    settings.users = [] ∨ ∃ text, readUsers? text = some settings.users := by
  obtain ⟨_, _, _, _, husers, _, _⟩ := read_eq_ok_iff.mp h
  rcases readOr_eq_ok husers with hnil | ⟨text, _, hread⟩
  · exact .inl hnil
  · exact .inr ⟨text, hread⟩

end Lists

/-- No token and no user name is listed twice. -/
structure Distinct (settings : Settings) : Prop where
  tokens : (settings.tokens.map TokenEntry.token).Nodup
  users : (settings.users.map UserEntry.username).Nodup

theorem distinct_of_read {env : Environment} {settings : Settings}
    (h : Settings.read env = .ok settings) : Distinct settings := by
  constructor
  case tokens =>
    rcases tokens_of_read h with hnil | ⟨text, hread⟩
    · rw [hnil]; exact List.nodup_nil
    · exact (readEntries?_eq_some_iff.mp hread).2
  case users =>
    rcases users_of_read h with hnil | ⟨text, hread⟩
    · rw [hnil]; exact List.nodup_nil
    · exact (readEntries?_eq_some_iff.mp hread).2

/-! ## Tables of distinct entries -/

/-- Under distinct keys, looking a key up finds its row and nothing else. -/
theorem lookup_eq_some_iff {α : Type} {rows : List (String × α)} {key : String} {value : α}
    (h : (rows.map Prod.fst).Nodup) : rows.lookup key = some value ↔ (key, value) ∈ rows := by
  induction rows with
  | nil => simp
  | cons row rows ih =>
      obtain ⟨k, v⟩ := row
      obtain ⟨hfresh, hrest⟩ := List.nodup_cons.mp (List.map_cons .. ▸ h)
      by_cases hk : key = k
      · subst hk
        have hgone : (key, value) ∉ rows := by
          intro hmem
          exact hfresh (List.mem_map.mpr ⟨(key, value), hmem, rfl⟩)
        simp [hgone, eq_comm]
      · simp [List.lookup_cons, beq_false_of_ne hk, ih hrest, hk]

theorem find?_ofList_eq_some_iff {α : Type} {entries : List (String × α)} {key : String} {value : α}
    (h : (entries.map Prod.fst).Nodup) :
    (Table.ofList entries).find? key = some value ↔ (key, value) ∈ entries := by
  rw [Table.find?_ofList, lookup_eq_some_iff, List.mem_reverse]
  rw [List.map_reverse]
  exact (List.reverse_perm _).nodup_iff.mpr h

/-- A token stands for the identity of its entry. -/
theorem resolve?_tokens {tokens : List TokenEntry} (h : (tokens.map TokenEntry.token).Nodup)
    {token : Token} {identity : Identity} :
    (TokenTable.ofEntries tokens).resolve? token = some identity ↔
      ∃ entry ∈ tokens, entry.token = token.text ∧ entry.identity = identity := by
  rw [TokenTable.resolve?, TokenTable.ofEntries, find?_ofList_eq_some_iff]
  · simp
  · rw [List.map_map]; exact h

/-- A login stands for the identity of the entry with that name and that password. -/
theorem resolve?_users {users : List UserEntry} (h : (users.map UserEntry.username).Nodup)
    {login : Login} {identity : Identity} :
    (UserTable.ofEntries users).resolve? login = some identity ↔
      ∃ entry ∈ users, entry.login = login ∧ entry.identity = identity := by
  have hnodup : ((users.map (fun entry => (entry.username, entry.password, entry.identity))).map
      Prod.fst).Nodup := by
    rw [List.map_map]; exact h
  obtain ⟨username, password⟩ := login
  simp only [UserTable.resolve?, UserTable.ofEntries, Option.map_eq_some_iff,
    Option.filter_eq_some_iff, find?_ofList_eq_some_iff hnodup]
  refine ⟨?_, ?_⟩
  · intro h
    obtain ⟨⟨p, i⟩, ⟨hmem, hp⟩, rfl⟩ := h
    -- the row under the name is that of one entry, and its password is the one presented
    obtain ⟨entry, hentry, he⟩ := List.mem_map.mp hmem
    obtain ⟨rfl, rfl, rfl⟩ := by simpa using he
    obtain rfl : entry.password = password := by simpa using hp
    exact ⟨entry, hentry, rfl, rfl⟩
  · intro h
    obtain ⟨entry, hentry, hlogin, rfl⟩ := h
    obtain ⟨rfl, rfl⟩ := Login.mk.inj hlogin
    exact ⟨_, ⟨List.mem_map_of_mem hentry, by simp⟩, rfl⟩

end Gatehouse.Proofs

import Mathlib.Data.List.Forall2
import Gatehouse.Proofs.Accepted

/-!
# What a list of entries says

A list setting is written by hand, so there are many ways to write one list: blanks
around a field, a comma too many, a last colon that is there or not. `Lists`,
`DenotesRoles`, `DenotesToken` and `DenotesUser` say which list a text stands for,
from the side of the writer. They take a text apart where its separators are and
never mention how it is read.

Reading finds what a text denotes and nothing else (`readTokens?_eq_some_iff`,
`readUsers?_eq_some_iff`). So a list is refused exactly when it denotes nothing:
one of its entries is not well formed, or a key occurs twice.
-/

namespace Gatehouse.Proofs

open Gatehouse Text

/-! ## A field and the blanks around it -/

def Blank (cs : List Char) : Prop := ∀ c ∈ cs, isBlank c = true

/-- A field holds a text, which is not empty, and any blanks around it. -/
def Holds (field text : List Char) : Prop :=
  text ≠ [] ∧ Trimmed text ∧ ∃ before after, Blank before ∧ Blank after
    ∧ field = before ++ text ++ after

/-- What is cut around a text is blank. -/
theorem exists_around_trim (cs : List Char) :
    ∃ before after, Blank before ∧ Blank after ∧ cs = before ++ trim cs ++ after := by
  obtain ⟨after, hafter, hcut⟩ := trimEnd_append (trimStart cs)
  refine ⟨cs.takeWhile isBlank, after, ?_, hafter, ?_⟩
  · intro c hc
    exact List.all_eq_true.mp List.all_takeWhile c hc
  · rw [List.append_assoc, trim, ← hcut, trimStart, List.takeWhile_append_dropWhile]

theorem trim_around {before text after : List Char} (hbefore : Blank before) (hafter : Blank after)
    (h : Trimmed text) : trim (before ++ text ++ after) = text := by
  rw [trim, List.append_assoc, trimStart_append_of_blank hbefore]
  cases text with
  | nil =>
      have hnone : trimStart (after ++ []) = [] := trimStart_append_of_blank hafter
      rw [List.nil_append, ← List.append_nil after, hnone]
      rfl
  | cons c text =>
      have hhead : trimStart (c :: text ++ after) = c :: text ++ after :=
        dropWhile_eq_self_of_head h.1
      rw [hhead, trimEnd_append_of_blank hafter, trimEnd_eq_self h.2]

theorem trim_eq_nil_iff {field : List Char} : trim field = [] ↔ Blank field := by
  refine ⟨?_, ?_⟩
  · intro hnil
    obtain ⟨before, after, hbefore, hafter, hfield⟩ := exists_around_trim field
    rw [hnil, List.append_nil] at hfield
    rw [hfield]
    intro c hc
    exact (List.mem_append.mp hc).elim (hbefore c) (hafter c)
  · intro hblank
    have htrimmed : Trimmed [] := trim_eq_self_iff.mp rfl
    simpa using trim_around hblank (List.forall_mem_nil _) htrimmed

theorem holds_iff {field text : List Char} : Holds field text ↔ trim field = text ∧ text ≠ [] := by
  refine ⟨?_, ?_⟩
  · rintro ⟨hne, htrimmed, before, after, hbefore, hafter, rfl⟩
    exact ⟨trim_around hbefore hafter htrimmed, hne⟩
  · rintro ⟨rfl, hne⟩
    exact ⟨hne, trimmed_trim field, exists_around_trim field⟩

/-! ## The ways to write -/

/-- Fields between separators list values, one for each field that is not blank. -/
inductive Lists {α : Type} (denotes : List Char → α → Prop) : List (List Char) → List α → Prop
  | nil : Lists denotes [] []
  | blank {field : List Char} {fields : List (List Char)} {values : List α} : Blank field →
      Lists denotes fields values → Lists denotes (field :: fields) values
  | value {field text : List Char} {fields : List (List Char)} {value : α} {values : List α} :
      Holds field text → denotes text value → Lists denotes fields values →
      Lists denotes (field :: fields) (value :: values)

/-- A text denotes the roles between its bars. -/
def DenotesRoles (text : List Char) (roles : List String) : Prop :=
  Lists (fun text role => text = role.toList) (text.splitOn '|') roles

/-- A text denotes a token entry. -/
inductive DenotesToken : (text : List Char) → TokenEntry → Prop
  /-- A token and a name. -/
  | bare {token name : List Char} {entry : TokenEntry} : ':' ∉ token → ':' ∉ name →
      Holds token entry.token.toList → Holds name entry.name.toList → entry.roles = [] →
      DenotesToken (token ++ ':' :: name) entry
  /-- The roles come after a second colon, and may hold more of them. -/
  | roled {token name roles : List Char} {entry : TokenEntry} : ':' ∉ token → ':' ∉ name →
      Holds token entry.token.toList → Holds name entry.name.toList →
      DenotesRoles roles entry.roles →
      DenotesToken (token ++ ':' :: (name ++ ':' :: roles)) entry

/-- A text denotes a user entry. The password is taken as it stands, with its colons and blanks. -/
inductive DenotesUser : (text : List Char) → UserEntry → Prop
  | mk {username roles : List Char} {entry : UserEntry} : ':' ∉ username → ':' ∉ roles →
      Holds username entry.username.toList → entry.password.toList ≠ [] →
      DenotesRoles roles entry.roles →
      DenotesUser (username ++ ':' :: (entry.password.toList ++ ':' :: roles)) entry

/-- A text denotes the entries between its commas, if no two of them have the same key. -/
def DenotesEntries {α : Type} (denotes : List Char → α → Prop) (key : α → String) (text : String)
    (entries : List α) : Prop :=
  Lists denotes (text.toList.splitOn ',') entries ∧ (entries.map key).Nodup

/-! ## Reading finds what is denoted -/

theorem mapM_eq_some_iff {α β : Type} {f : α → Option β} {xs : List α} {ys : List β} :
    xs.mapM f = some ys ↔ List.Forall₂ (fun x y => f x = some y) xs ys := by
  induction xs generalizing ys with
  | nil =>
      rw [List.mapM_nil, List.forall₂_nil_left_iff]
      exact ⟨fun h => (Option.some.inj h).symm, fun h => congrArg some h.symm⟩
  | cons x xs ih =>
      simp only [List.mapM_cons, Option.bind_eq_bind, Option.bind_eq_some_iff, Option.pure_def,
        Option.some.injEq, ih, List.forall₂_cons_left_iff]
      refine ⟨?_, ?_⟩
      · rintro ⟨y, hy, ys, hys, rfl⟩
        exact ⟨y, ys, hy, hys, rfl⟩
      · rintro ⟨y, ys, hy, hys, rfl⟩
        exact ⟨y, hy, ys, hys, rfl⟩

/-- Values are listed one for each field that is not blank once it is trimmed. -/
theorem lists_iff {α : Type} {denotes : List Char → α → Prop} {fields : List (List Char)}
    {values : List α} :
    Lists denotes fields values ↔
      List.Forall₂ denotes ((fields.map trim).filter (fun piece => !piece.isEmpty)) values := by
  induction fields generalizing values with
  | nil =>
      refine ⟨?_, ?_⟩
      · rintro ⟨⟩
        exact .nil
      · intro h
        obtain rfl := List.forall₂_nil_left_iff.mp h
        exact .nil
  | cons field fields ih =>
      rw [List.map_cons]
      by_cases hblank : trim field = []
      · rw [hblank, List.filter_cons_of_neg (by simp), ← ih]
        refine ⟨?_, .blank (trim_eq_nil_iff.mp hblank)⟩
        rintro (_ | ⟨_, hrest⟩ | ⟨hholds, _, _⟩)
        · exact hrest
        · -- a field that holds something is not blank
          obtain ⟨htrim, hne⟩ := holds_iff.mp hholds
          exact absurd (htrim.symm.trans hblank) hne
      · rw [List.filter_cons_of_pos (by simpa using hblank), List.forall₂_cons_left_iff]
        refine ⟨?_, ?_⟩
        · rintro (_ | ⟨hfield, _⟩ | ⟨hholds, hvalue, hrest⟩)
          · exact absurd (trim_eq_nil_iff.mpr hfield) hblank
          · obtain ⟨rfl, _⟩ := holds_iff.mp hholds
            exact ⟨_, _, hvalue, ih.mp hrest, rfl⟩
        · rintro ⟨value, values, hvalue, hrest, rfl⟩
          exact .value (holds_iff.mpr ⟨rfl, hblank⟩) hvalue (ih.mpr hrest)

theorem ofList_eq_iff {cs : List Char} {s : String} : String.ofList cs = s ↔ cs = s.toList := by
  rw [← String.toList_inj, String.toList_ofList]

theorem readRoles_eq_iff {text : List Char} {roles : List String} :
    readRoles text = roles ↔ DenotesRoles text roles := by
  rw [readRoles, nonblankPieces, DenotesRoles, lists_iff, ← List.forall₂_eq_eq_eq,
    List.forall₂_map_left_iff]
  simp only [ofList_eq_iff]

/-- An entry is made of two fields if there is something in both of them. -/
theorem made_eq_some_iff {α : Type} {field field' : List Char} {made value : α} :
    (if field.isEmpty || field'.isEmpty then none else some made) = some value ↔
      field ≠ [] ∧ field' ≠ [] ∧ made = value := by
  split
  · rename_i hempty
    simp only [Bool.or_eq_true, List.isEmpty_iff] at hempty
    refine ⟨fun h => (nomatch h), ?_⟩
    rintro ⟨hsome, hsome', _⟩
    exact absurd hempty (not_or.mpr ⟨hsome, hsome'⟩)
  · rename_i hnonempty
    simp only [Bool.or_eq_true, List.isEmpty_iff, not_or] at hnonempty
    rw [Option.some.injEq]
    exact ⟨fun h => ⟨hnonempty.1, hnonempty.2, h⟩, fun h => h.2.2⟩

theorem tokenEntry_eq_some_iff {token name roles : List Char} {entry : TokenEntry} :
    (if (trim token).isEmpty || (trim name).isEmpty then none
      else some (⟨String.ofList (trim token), String.ofList (trim name), readRoles roles⟩ :
        TokenEntry)) = some entry ↔
      Holds token entry.token.toList ∧ Holds name entry.name.toList
        ∧ DenotesRoles roles entry.roles := by
  obtain ⟨entryToken, entryName, entryRoles⟩ := entry
  rw [made_eq_some_iff, TokenEntry.mk.injEq, ofList_eq_iff, ofList_eq_iff, holds_iff, holds_iff,
    ← readRoles_eq_iff]
  refine ⟨?_, ?_⟩
  · rintro ⟨hsome, hsome', htoken, hname, hroles⟩
    exact ⟨⟨htoken, htoken ▸ hsome⟩, ⟨hname, hname ▸ hsome'⟩, hroles⟩
  · rintro ⟨⟨htoken, hsome⟩, ⟨hname, hsome'⟩, hroles⟩
    exact ⟨htoken ▸ hsome, hname ▸ hsome', htoken, hname, hroles⟩

theorem denotesRoles_nil {roles : List String} : DenotesRoles [] roles ↔ roles = [] := by
  rw [← readRoles_eq_iff]
  exact eq_comm

theorem readToken?_eq_some_iff {text : List Char} {entry : TokenEntry} :
    TokenEntry.read? text = some entry ↔ DenotesToken text entry := by
  refine ⟨?_, ?_⟩
  · intro h
    rw [TokenEntry.read?, Option.bind_eq_bind, Option.bind_eq_some_iff] at h
    obtain ⟨⟨token, rest⟩, hcut, h⟩ := h
    obtain ⟨rfl, htoken⟩ := cutFirst_eq_some_iff.mp hcut
    dsimp only at h
    cases hrest : cutFirst ':' rest with
    | none =>
        -- without a second colon there is a name and no roles
        rw [hrest] at h
        obtain ⟨hheld, hheld', hroles⟩ := tokenEntry_eq_some_iff.mp h
        exact .bare htoken (cutFirst_eq_none_iff.mp hrest) hheld hheld' (denotesRoles_nil.mp hroles)
    | some parts =>
        obtain ⟨name, roles⟩ := parts
        rw [hrest] at h
        obtain ⟨hheld, hheld', hroles⟩ := tokenEntry_eq_some_iff.mp h
        obtain ⟨rfl, hname⟩ := cutFirst_eq_some_iff.mp hrest
        exact .roled htoken hname hheld hheld' hroles
  · intro h
    cases h with
    | @bare token name _ htoken hname hheld hheld' hroles =>
        rw [TokenEntry.read?, cutFirst_append htoken, Option.bind_eq_bind, Option.bind_some]
        dsimp only
        rw [cutFirst_eq_none_iff.mpr hname]
        exact tokenEntry_eq_some_iff.mpr ⟨hheld, hheld', denotesRoles_nil.mpr hroles⟩
    | @roled token name roles _ htoken hname hheld hheld' hroles =>
        rw [TokenEntry.read?, cutFirst_append htoken, Option.bind_eq_bind, Option.bind_some]
        dsimp only
        rw [cutFirst_append hname]
        exact tokenEntry_eq_some_iff.mpr ⟨hheld, hheld', hroles⟩

/-- Of the password nothing is cut. -/
theorem userEntry_eq_some_iff {username password roles : List Char} {entry : UserEntry} :
    (if (trim username).isEmpty || password.isEmpty then none
      else some (⟨String.ofList (trim username), String.ofList password, readRoles roles⟩ :
        UserEntry)) = some entry ↔
      Holds username entry.username.toList
        ∧ (password = entry.password.toList ∧ password ≠ []) ∧ DenotesRoles roles entry.roles := by
  obtain ⟨entryUsername, entryPassword, entryRoles⟩ := entry
  rw [made_eq_some_iff, UserEntry.mk.injEq, ofList_eq_iff, ofList_eq_iff, holds_iff,
    ← readRoles_eq_iff]
  refine ⟨?_, ?_⟩
  · rintro ⟨hsome, hsome', husername, hpassword, hroles⟩
    exact ⟨⟨husername, husername ▸ hsome⟩, ⟨hpassword, hsome'⟩, hroles⟩
  · rintro ⟨⟨husername, hsome⟩, ⟨hpassword, hsome'⟩, hroles⟩
    exact ⟨husername ▸ hsome, hsome', husername, hpassword, hroles⟩

theorem readUser?_eq_some_iff {text : List Char} {entry : UserEntry} :
    UserEntry.read? text = some entry ↔ DenotesUser text entry := by
  simp only [UserEntry.read?, Option.bind_eq_bind, Option.bind_eq_some_iff]
  refine ⟨?_, ?_⟩
  · rintro ⟨⟨username, rest⟩, hfirst, ⟨password, roles⟩, hlast, h⟩
    obtain ⟨rfl, husername⟩ := cutFirst_eq_some_iff.mp hfirst
    obtain ⟨rfl, hroles⟩ := cutLast_eq_some_iff.mp hlast
    obtain ⟨hheld, ⟨rfl, hpassword⟩, hdenotes⟩ := userEntry_eq_some_iff.mp h
    exact .mk husername hroles hheld hpassword hdenotes
  · rintro ⟨husername, hroles, hheld, hpassword, hdenotes⟩
    exact ⟨_, cutFirst_append husername _, _, cutLast_append _ hroles,
      userEntry_eq_some_iff.mpr ⟨hheld, ⟨rfl, hpassword⟩, hdenotes⟩⟩

/-- A list is read entry by entry, whatever its entries are. -/
theorem readEntries?_iff_denotes {α : Type} {read? : List Char → Option α} {key : α → String}
    {denotes : List Char → α → Prop}
    (h : ∀ text entry, read? text = some entry ↔ denotes text entry)
    {text : String} {entries : List α} :
    readEntries? read? key text = some entries ↔ DenotesEntries denotes key text entries := by
  rw [readEntries?_eq_some_iff, DenotesEntries, lists_iff, mapM_eq_some_iff, nonblankPieces]
  simp only [h]

theorem readTokens?_eq_some_iff {text : String} {entries : List TokenEntry} :
    readTokens? text = some entries ↔
      DenotesEntries DenotesToken TokenEntry.token text entries :=
  readEntries?_iff_denotes (fun _ _ => readToken?_eq_some_iff)

theorem readUsers?_eq_some_iff {text : String} {entries : List UserEntry} :
    readUsers? text = some entries ↔
      DenotesEntries DenotesUser UserEntry.username text entries :=
  readEntries?_iff_denotes (fun _ _ => readUser?_eq_some_iff)

end Gatehouse.Proofs

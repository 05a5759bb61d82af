import Gatehouse.Proofs.Reading

/-!
# Lists of entries are read back as they were written

Not every list of entries can be written. A field must be free of the separators that
would end it, and a blank at either end of it would be cut. `ProperToken` and `ProperUser`
say what this comes to for each field: a role of a token may hold a colon, for it stands
where all colons have been counted, and a password may hold anything but a comma.

What is proper is written by putting separators between fields. `WritesToken`,
`WritesUser` and `Written` allow for blanks around fields and for blank pieces between
separators, wherever those make no difference.

Reading and writing are inverse to one another: what is read of a text is proper, and the
text is one of the ways to write it (`readTokens?_iff_written`, `readUsers?_iff_written`).
The two lists share all but the layout of an entry, so there is one theorem for lists
(`lists_iff_written`), which serves the roles within an entry as well.

Clients rely on two things that are proper: there are no blanks around a token
(`trimmed_of_read`) and no colon in a user name (`no_colon_of_read`). Both can be
presented as they are listed.
-/

namespace Gatehouse.Proofs

open Gatehouse Text

/-! ## What can be written -/

/-- There are none of the separators in a text. -/
def Free (seps cs : List Char) : Prop := ∀ c ∈ cs, c ∉ seps

/-- There is something in the text, no blank at either end, and none of the separators. -/
structure Proper (seps : List Char) (text : String) : Prop where
  nonempty : text.toList ≠ []
  trimmed : Trimmed text.toList
  free : Free seps text.toList

structure ProperToken (entry : TokenEntry) : Prop where
  token : Proper [':', ','] entry.token
  name : Proper [':', ','] entry.name
  roles : ∀ role ∈ entry.roles, Proper ['|', ','] role

structure ProperUser (entry : UserEntry) : Prop where
  username : Proper [':', ','] entry.username
  /-- A password may begin and end with blanks, and be nothing but blanks or colons. -/
  password : entry.password.toList ≠ [] ∧ Free [','] entry.password.toList
  roles : ∀ role ∈ entry.roles, Proper ['|', ':', ','] role

/-- A list can be written if each of its entries can, and no two of them have the same key. -/
structure ProperList {α : Type} (proper : α → Prop) (key : α → String) (entries : List α) :
    Prop where
  each : ∀ entry ∈ entries, proper entry
  distinct : (entries.map key).Nodup

abbrev ProperTokens : List TokenEntry → Prop := ProperList ProperToken TokenEntry.token

abbrev ProperUsers : List UserEntry → Prop := ProperList ProperUser UserEntry.username

/-! ## The ways to write -/

/-- A text with any blanks around it. -/
def Padded (field text : List Char) : Prop :=
  ∃ before after, Blank before ∧ Blank after ∧ field = before ++ text ++ after

/-- The pieces that are not blank. -/
def kept (pieces : List (List Char)) : List (List Char) :=
  pieces.filter (fun piece => !piece.all isBlank)

/-- Values are written between separators, with any number of blank pieces among them. -/
def Written {α : Type} (sep : Char) (writes : List Char → α → Prop) (cs : List Char)
    (values : List α) : Prop :=
  ∃ pieces, cs = [sep].intercalate pieces ∧ List.Forall₂ writes (kept pieces) values

/-- A way to write roles. -/
abbrev WritesRoles : List Char → List String → Prop :=
  Written '|' (fun field role => Padded field role.toList)

/-- A way to write a token entry. -/
inductive WritesToken : List Char → TokenEntry → Prop
  /-- If there are no roles, the second colon may be left out. -/
  | bare {token name : List Char} {entry : TokenEntry} : Padded token entry.token.toList →
      Padded name entry.name.toList → entry.roles = [] → WritesToken (token ++ ':' :: name) entry
  | roled {token name roles : List Char} {entry : TokenEntry} : Padded token entry.token.toList →
      Padded name entry.name.toList → WritesRoles roles entry.roles →
      WritesToken (token ++ ':' :: (name ++ ':' :: roles)) entry

/-- A way to write a user entry. The password stands as it is. -/
inductive WritesUser : List Char → UserEntry → Prop
  | mk {username roles : List Char} {entry : UserEntry} : Padded username entry.username.toList →
      WritesRoles roles entry.roles →
      WritesUser (username ++ ':' :: (entry.password.toList ++ ':' :: roles)) entry

abbrev WritesTokens (text : String) : List TokenEntry → Prop :=
  Written ',' WritesToken text.toList

abbrev WritesUsers (text : String) : List UserEntry → Prop := Written ',' WritesUser text.toList

/-! ## Separators -/

section Free

variable {sep : Char} {seps cs field : List Char} {pieces : List (List Char)}

theorem free_cons_iff : Free (sep :: seps) cs ↔ sep ∉ cs ∧ Free seps cs := by
  unfold Free
  simp only [List.mem_cons, not_or, forall_and]
  refine and_congr_left fun _ => ⟨fun h hsep => h sep hsep rfl, fun h c hc => ?_⟩
  exact fun heq => h (heq ▸ hc)

theorem free_nil : Free [] cs := fun _ _ => List.not_mem_nil

theorem free_append {xs ys : List Char} : Free seps (xs ++ ys) ↔ Free seps xs ∧ Free seps ys :=
  List.forall_mem_append

theorem free_around {xs ys : List Char} (hsep : sep ∉ seps) :
    Free seps (xs ++ sep :: ys) ↔ Free seps xs ∧ Free seps ys := by
  rw [free_append]
  refine and_congr_right fun _ => ?_
  exact List.forall_mem_cons.trans (and_iff_right hsep)

/-- Separators between pieces are none of the others. -/
theorem free_intercalate (hsep : sep ∉ seps) :
    Free seps ([sep].intercalate pieces) ↔ ∀ piece ∈ pieces, Free seps piece := by
  induction pieces with
  | nil => simp [Free]
  | cons piece pieces ih =>
      cases pieces with
      | nil => simp
      | cons next pieces =>
          rw [List.intercalate_cons_cons, List.append_assoc, List.singleton_append,
            free_around hsep, ih]
          exact List.forall_mem_cons.symm

theorem not_mem_of_blank (hsep : isBlank sep = false) (h : Blank cs) : sep ∉ cs := by
  intro hmem
  exact absurd (h sep hmem) (by simp [hsep])

theorem free_of_blank (hseps : ∀ c ∈ seps, isBlank c = false) (h : Blank cs) : Free seps cs :=
  fun c hc hmem => not_mem_of_blank (hseps c hmem) h hc

theorem free_padded (hseps : ∀ c ∈ seps, isBlank c = false) (h : Padded field cs) :
    Free seps field ↔ Free seps cs := by
  obtain ⟨before, after, hbefore, hafter, rfl⟩ := h
  rw [free_append, free_append]
  simp [free_of_blank hseps hbefore, free_of_blank hseps hafter]

/-- A field is free of separators and holds a text, if the text is proper and written there. -/
theorem free_holds_iff {text : String} (hseps : ∀ c ∈ seps, isBlank c = false) :
    Free seps field ∧ Holds field text.toList ↔ Proper seps text ∧ Padded field text.toList := by
  refine ⟨?_, ?_⟩
  · intro h
    obtain ⟨hfree, hnonempty, htrimmed, hpadded⟩ := h
    exact ⟨⟨hnonempty, htrimmed, (free_padded hseps hpadded).mp hfree⟩, hpadded⟩
  · intro h
    obtain ⟨hproper, hpadded⟩ := h
    exact ⟨(free_padded hseps hpadded).mpr hproper.free, hproper.nonempty, hproper.trimmed, hpadded⟩

end Free

/-! ## Lists -/

theorem mem_kept_iff {pieces : List (List Char)} {piece : List Char} :
    piece ∈ kept pieces ↔ piece ∈ pieces ∧ ¬ Blank piece := by
  simp [kept, Blank]

theorem forall₂_and_right {α β : Type} {R : α → β → Prop} {p : β → Prop} {xs : List α}
    {ys : List β} :
    List.Forall₂ (fun x y => p y ∧ R x y) xs ys ↔ (∀ y ∈ ys, p y) ∧ List.Forall₂ R xs ys := by
  refine ⟨fun h => ?_, fun h => ?_⟩
  · exact (List.forall₂_and_left ys xs).mp h.flip |>.imp_right List.Forall₂.flip
  · exact ((List.forall₂_and_left ys xs).mpr (h.imp_right List.Forall₂.flip)).flip

section Lists

variable {α : Type} {sep : Char} {seps : List Char} {denotes writes : List Char → α → Prop}
  {proper : α → Prop} {values : List α}

/-- The values in trimmed pieces. -/
theorem lists_iff_kept {pieces : List (List Char)} :
    Lists denotes pieces values ↔
      List.Forall₂ (fun piece value => denotes (trim piece) value) (kept pieces) values := by
  have hblank : (fun piece => !piece.isEmpty) ∘ trim = fun piece => !piece.all isBlank := by
    funext piece
    rw [Function.comp_apply, Bool.eq_iff_iff]
    simpa [Blank] using not_congr (@trim_eq_nil_iff piece)
  rw [lists_iff, List.filter_map, List.forall₂_map_left_iff, hblank, kept]

theorem kept_iff {pieces : List (List Char)}
    (h : ∀ piece value, ¬ Blank piece →
      (Free seps piece ∧ denotes (trim piece) value ↔ proper value ∧ writes piece value)) :
    (∀ piece ∈ kept pieces, Free seps piece) ∧ Lists denotes pieces values ↔
      (∀ value ∈ values, proper value) ∧ List.Forall₂ writes (kept pieces) values := by
  have hnonblank : ∀ piece ∈ kept pieces, ¬ Blank piece := fun _ hmem => (mem_kept_iff.mp hmem).2
  rw [lists_iff_kept, ← List.forall₂_and_left, ← forall₂_and_right]
  refine ⟨fun hall => ?_, fun hall => ?_⟩
  all_goals
    refine ((List.forall₂_and_left _ _).mpr ⟨hnonblank, hall⟩).imp fun piece value hpiece => ?_
  · exact (h piece value hpiece.1).mp hpiece.2
  · exact (h piece value hpiece.1).mpr hpiece.2

/-- A list of values is read of what they are written in, if each value is. -/
theorem lists_iff_written (hseps : ∀ c ∈ sep :: seps, isBlank c = false) (hsep : sep ∉ seps)
    (h : ∀ piece value, ¬ Blank piece →
      (Free (sep :: seps) piece ∧ denotes (trim piece) value ↔ proper value ∧ writes piece value))
    {cs : List Char} :
    Free seps cs ∧ Lists denotes (cs.splitOn sep) values ↔
      (∀ value ∈ values, proper value) ∧ Written sep writes cs values := by
  refine ⟨?_, ?_⟩
  · intro hread
    obtain ⟨hfree, hlists⟩ := hread
    have hcs : [sep].intercalate (cs.splitOn sep) = cs := List.intercalate_splitOn sep
    rw [← hcs, free_intercalate hsep] at hfree
    have hpieces : ∀ piece ∈ kept (cs.splitOn sep), Free (sep :: seps) piece := by
      intro piece hpiece
      have hmem := (mem_kept_iff.mp hpiece).1
      exact free_cons_iff.mpr ⟨not_mem_of_mem_splitOn hmem, hfree piece hmem⟩
    obtain ⟨hproper, hwrites⟩ := (kept_iff h).mp ⟨hpieces, hlists⟩
    exact ⟨hproper, _, hcs.symm, hwrites⟩
  · intro hwritten
    obtain ⟨hproper, pieces, rfl, hwrites⟩ := hwritten
    obtain ⟨hkept, hlists⟩ := (kept_iff h).mpr ⟨hproper, hwrites⟩
    have hpieces : ∀ piece ∈ pieces, sep ∉ piece ∧ Free seps piece := by
      intro piece hpiece
      rw [← free_cons_iff]
      by_cases hblank : Blank piece
      · exact free_of_blank hseps hblank
      · exact hkept piece (mem_kept_iff.mpr ⟨hpiece, hblank⟩)
    refine ⟨(free_intercalate hsep).mpr fun piece hpiece => (hpieces piece hpiece).2, ?_⟩
    rw [lists_iff_kept] at hlists ⊢
    rwa [kept, filter_splitOn_intercalate rfl fun piece hpiece => (hpieces piece hpiece).1]

end Lists

theorem denotesRoles_iff_written {seps cs : List Char} {roles : List String}
    (hseps : ∀ c ∈ '|' :: seps, isBlank c = false) (hsep : '|' ∉ seps) :
    Free seps cs ∧ DenotesRoles cs roles ↔
      (∀ role ∈ roles, Proper ('|' :: seps) role) ∧ WritesRoles cs roles := by
  unfold DenotesRoles
  refine lists_iff_written hseps hsep fun piece role hpiece => ?_
  rw [← free_holds_iff hseps, holds_iff]
  refine and_congr_right fun _ => (and_iff_left_of_imp fun htrim hnil => ?_).symm
  exact hpiece (trim_eq_nil_iff.mp (htrim.trans hnil))

/-! ## Blanks around an entry -/

section Around

variable {before after : List Char} (hbefore : Blank before) (hafter : Blank after)

include hbefore hafter

theorem trim_padded (cs : List Char) : trim (before ++ cs ++ after) = trim cs := by
  obtain ⟨front, back, hfront, hback, hcs⟩ := exists_around_trim cs
  have hbefore' : Blank (before ++ front) := List.forall_mem_append.mpr ⟨hbefore, hfront⟩
  have hafter' : Blank (back ++ after) := List.forall_mem_append.mpr ⟨hback, hafter⟩
  have htrim := trim_around hbefore' hafter' (trimmed_trim cs)
  rw [← htrim]
  conv_lhs => rw [hcs]
  simp only [List.append_assoc]

omit hbefore in
/-- Blanks at the end belong to the last piece. -/
theorem exists_splitOn_padded {sep : Char} (hsep : isBlank sep = false) (cs : List Char) :
    ∃ pieces last, cs.splitOn sep = pieces ++ [last]
      ∧ (cs ++ after).splitOn sep = pieces ++ [last ++ after] := by
  have hfree := not_mem_of_blank hsep hafter
  cases hcut : cutLast sep cs with
  | none =>
      have hcs := cutLast_eq_none_iff.mp hcut
      have hpadded : sep ∉ cs ++ after := by simp [hcs, hfree]
      exact ⟨[], cs, List.splitOn_eq_singleton hcs, List.splitOn_eq_singleton hpadded⟩
  | some parts =>
      obtain ⟨rfl, hlast⟩ := cutLast_eq_some_iff.mp hcut
      have hpadded : sep ∉ parts.2 ++ after := by simp [hlast, hfree]
      refine ⟨parts.1.splitOn sep, parts.2, ?_, ?_⟩
      · rw [List.splitOn_append_cons_self, List.splitOn_eq_singleton hlast]
      · rw [List.append_assoc, List.cons_append, List.splitOn_append_cons_self,
          List.splitOn_eq_singleton hpadded]

omit hbefore in
theorem readRoles_padded (cs : List Char) : readRoles (cs ++ after) = readRoles cs := by
  have hbar : isBlank '|' = false := by decide
  obtain ⟨pieces, last, hcs, hpadded⟩ := exists_splitOn_padded hafter hbar cs
  have hlast : trim (last ++ after) = trim last := trim_padded (List.forall_mem_nil _) hafter last
  rw [readRoles, readRoles, nonblankPieces, nonblankPieces, hcs, hpadded, List.map_append,
    List.map_append, List.map_singleton, List.map_singleton, hlast]

section Cut

variable {sep : Char} (hsep : isBlank sep = false)

include hsep

theorem cutFirst_padded (cs : List Char) : cutFirst sep (before ++ cs ++ after) =
    (cutFirst sep cs).map (fun parts => (before ++ parts.1, parts.2 ++ after)) := by
  have hfree := not_mem_of_blank hsep hbefore
  have hfree' := not_mem_of_blank hsep hafter
  cases hcut : cutFirst sep cs with
  | none =>
      have hcs := cutFirst_eq_none_iff.mp hcut
      exact cutFirst_eq_none_iff.mpr (by simp [hfree, hfree', hcs])
  | some parts =>
      obtain ⟨rfl, hfirst⟩ := cutFirst_eq_some_iff.mp hcut
      exact cutFirst_eq_some_iff.mpr ⟨by simp, by simp [hfree, hfirst]⟩

theorem cutLast_padded (cs : List Char) : cutLast sep (before ++ cs ++ after) =
    (cutLast sep cs).map (fun parts => (before ++ parts.1, parts.2 ++ after)) := by
  have hfree := not_mem_of_blank hsep hbefore
  have hfree' := not_mem_of_blank hsep hafter
  cases hcut : cutLast sep cs with
  | none =>
      have hcs := cutLast_eq_none_iff.mp hcut
      exact cutLast_eq_none_iff.mpr (by simp [hfree, hfree', hcs])
  | some parts =>
      obtain ⟨rfl, hlast⟩ := cutLast_eq_some_iff.mp hcut
      exact cutLast_eq_some_iff.mpr ⟨by simp, by simp [hfree', hlast]⟩

end Cut

theorem readToken?_padded (cs : List Char) :
    TokenEntry.read? (before ++ cs ++ after) = TokenEntry.read? cs := by
  have hcolon : isBlank ':' = false := by decide
  have hnone : Blank [] := List.forall_mem_nil _
  unfold TokenEntry.read?
  rw [cutFirst_padded hbefore hafter hcolon]
  cases cutFirst ':' cs with
  | none => rfl
  | some parts =>
      obtain ⟨token, rest⟩ := parts
      have htoken : trim (before ++ token) = trim token := by
        simpa using trim_padded hbefore hnone token
      have hrest := cutFirst_padded hnone hafter hcolon rest
      rw [List.nil_append] at hrest
      simp only [Option.map_some, Option.bind_eq_bind, Option.bind_some, htoken, hrest]
      cases cutFirst ':' rest with
      | none =>
          have hname : trim (rest ++ after) = trim rest := trim_padded hnone hafter rest
          simp only [Option.map_none, Option.getD_none, hname]
      | some parts =>
          obtain ⟨name, roles⟩ := parts
          simp only [Option.map_some, Option.getD_some, List.nil_append, readRoles_padded hafter]

theorem readUser?_padded (cs : List Char) :
    UserEntry.read? (before ++ cs ++ after) = UserEntry.read? cs := by
  have hcolon : isBlank ':' = false := by decide
  have hnone : Blank [] := List.forall_mem_nil _
  unfold UserEntry.read?
  rw [cutFirst_padded hbefore hafter hcolon]
  cases cutFirst ':' cs with
  | none => rfl
  | some parts =>
      obtain ⟨username, rest⟩ := parts
      have husername : trim (before ++ username) = trim username := by
        simpa using trim_padded hbefore hnone username
      have hrest := cutLast_padded hnone hafter hcolon rest
      rw [List.nil_append] at hrest
      simp only [Option.map_some, Option.bind_eq_bind, Option.bind_some, husername, hrest]
      cases cutLast ':' rest with
      | none => rfl
      | some parts => simp only [Option.map_some, Option.bind_some, List.nil_append,
          readRoles_padded hafter]

end Around

/-! ## Entries -/

theorem denotesToken_trim_iff {field : List Char} {entry : TokenEntry} :
    DenotesToken (trim field) entry ↔ DenotesToken field entry := by
  obtain ⟨before, after, hbefore, hafter, hfield⟩ := exists_around_trim field
  rw [← readToken?_eq_some_iff, ← readToken?_eq_some_iff,
    ← readToken?_padded hbefore hafter (trim field), ← hfield]

theorem denotesUser_trim_iff {field : List Char} {entry : UserEntry} :
    DenotesUser (trim field) entry ↔ DenotesUser field entry := by
  obtain ⟨before, after, hbefore, hafter, hfield⟩ := exists_around_trim field
  rw [← readUser?_eq_some_iff, ← readUser?_eq_some_iff,
    ← readUser?_padded hbefore hafter (trim field), ← hfield]

/-- A field that ends at a colon. -/
theorem field_iff {field : List Char} {text : String} :
    (':' ∉ field ∧ Free [','] field) ∧ Holds field text.toList ↔
      Proper [':', ','] text ∧ Padded field text.toList := by
  rw [← free_cons_iff]
  exact free_holds_iff (by simp [isBlank])

theorem denotesToken_iff_writes {field : List Char} {entry : TokenEntry} :
    Free [','] field ∧ DenotesToken field entry ↔ ProperToken entry ∧ WritesToken field entry := by
  have hcomma : ':' ∉ [','] := by decide
  have hroles {cs : List Char} := @denotesRoles_iff_written [','] cs entry.roles
    (by simp [isBlank]) (by decide)
  refine ⟨?_, ?_⟩
  · intro h
    obtain ⟨hfree, hdenotes⟩ := h
    cases hdenotes with
    | bare htoken hname hheld hheld' hnone =>
        obtain ⟨hfree, hfree'⟩ := (free_around hcomma).mp hfree
        obtain ⟨hproper, hpadded⟩ := field_iff.mp ⟨⟨htoken, hfree⟩, hheld⟩
        obtain ⟨hproper', hpadded'⟩ := field_iff.mp ⟨⟨hname, hfree'⟩, hheld'⟩
        exact ⟨⟨hproper, hproper', by simp [hnone]⟩, .bare hpadded hpadded' hnone⟩
    | roled htoken hname hheld hheld' hdenotes =>
        obtain ⟨hfree, hrest⟩ := (free_around hcomma).mp hfree
        obtain ⟨hfree', hfree''⟩ := (free_around hcomma).mp hrest
        obtain ⟨hproper, hpadded⟩ := field_iff.mp ⟨⟨htoken, hfree⟩, hheld⟩
        obtain ⟨hproper', hpadded'⟩ := field_iff.mp ⟨⟨hname, hfree'⟩, hheld'⟩
        obtain ⟨hproper'', hwrites⟩ := hroles.mp ⟨hfree'', hdenotes⟩
        exact ⟨⟨hproper, hproper', hproper''⟩, .roled hpadded hpadded' hwrites⟩
  · intro h
    obtain ⟨hproper, hwrites⟩ := h
    cases hwrites with
    | bare hpadded hpadded' hnone =>
        obtain ⟨⟨htoken, hfree⟩, hheld⟩ := field_iff.mpr ⟨hproper.token, hpadded⟩
        obtain ⟨⟨hname, hfree'⟩, hheld'⟩ := field_iff.mpr ⟨hproper.name, hpadded'⟩
        exact ⟨(free_around hcomma).mpr ⟨hfree, hfree'⟩, .bare htoken hname hheld hheld' hnone⟩
    | roled hpadded hpadded' hwrites =>
        obtain ⟨⟨htoken, hfree⟩, hheld⟩ := field_iff.mpr ⟨hproper.token, hpadded⟩
        obtain ⟨⟨hname, hfree'⟩, hheld'⟩ := field_iff.mpr ⟨hproper.name, hpadded'⟩
        obtain ⟨hfree'', hdenotes⟩ := hroles.mpr ⟨hproper.roles, hwrites⟩
        refine ⟨(free_around hcomma).mpr ⟨hfree, ?_⟩, .roled htoken hname hheld hheld' hdenotes⟩
        exact (free_around hcomma).mpr ⟨hfree', hfree''⟩

theorem denotesUser_iff_writes {field : List Char} {entry : UserEntry} :
    Free [','] field ∧ DenotesUser field entry ↔ ProperUser entry ∧ WritesUser field entry := by
  have hcomma : ':' ∉ [','] := by decide
  have hroles {cs : List Char} := @denotesRoles_iff_written [':', ','] cs entry.roles
    (by simp [isBlank]) (by decide)
  refine ⟨?_, ?_⟩
  · intro h
    obtain ⟨hfree, hdenotes⟩ := h
    cases hdenotes with
    | mk husername hcolon hheld hpassword hdenotes =>
        obtain ⟨hfree, hrest⟩ := (free_around hcomma).mp hfree
        obtain ⟨hfree', hfree''⟩ := (free_around hcomma).mp hrest
        obtain ⟨hproper, hpadded⟩ := field_iff.mp ⟨⟨husername, hfree⟩, hheld⟩
        obtain ⟨hproper', hwrites⟩ := hroles.mp ⟨free_cons_iff.mpr ⟨hcolon, hfree''⟩, hdenotes⟩
        exact ⟨⟨hproper, ⟨hpassword, hfree'⟩, hproper'⟩, .mk hpadded hwrites⟩
  · intro h
    obtain ⟨hproper, hwrites⟩ := h
    cases hwrites with
    | mk hpadded hwrites =>
        obtain ⟨hpassword, hfree'⟩ := hproper.password
        obtain ⟨⟨husername, hfree⟩, hheld⟩ := field_iff.mpr ⟨hproper.username, hpadded⟩
        obtain ⟨hroles, hdenotes⟩ := hroles.mpr ⟨hproper.roles, hwrites⟩
        obtain ⟨hcolon, hfree''⟩ := free_cons_iff.mp hroles
        refine ⟨(free_around hcomma).mpr ⟨hfree, ?_⟩, .mk husername hcolon hheld hpassword hdenotes⟩
        exact (free_around hcomma).mpr ⟨hfree', hfree''⟩

/-! ## Lists of entries -/

theorem denotesEntries_iff_written {α : Type} {denotes writes : List Char → α → Prop}
    {proper : α → Prop} {key : α → String} {text : String} {entries : List α}
    (h : ∀ field entry,
      Free [','] field ∧ denotes (trim field) entry ↔ proper entry ∧ writes field entry) :
    DenotesEntries denotes key text entries ↔
      ProperList proper key entries ∧ Written ',' writes text.toList entries := by
  have hlists := @lists_iff_written _ ',' [] denotes writes proper entries (by simp [isBlank])
    List.not_mem_nil (fun field entry _ => h field entry) text.toList
  rw [and_iff_right free_nil] at hlists
  rw [DenotesEntries, hlists]
  refine ⟨?_, ?_⟩
  · intro hread
    obtain ⟨⟨hproper, hwritten⟩, hdistinct⟩ := hread
    exact ⟨⟨hproper, hdistinct⟩, hwritten⟩
  · intro hwritten
    obtain ⟨hproper, hwritten⟩ := hwritten
    exact ⟨⟨hproper.each, hwritten⟩, hproper.distinct⟩

theorem readTokens?_iff_written {text : String} {entries : List TokenEntry} :
    readTokens? text = some entries ↔ ProperTokens entries ∧ WritesTokens text entries := by
  rw [readTokens?_eq_some_iff]
  refine denotesEntries_iff_written fun field entry => ?_
  rw [denotesToken_trim_iff, denotesToken_iff_writes]

theorem readUsers?_iff_written {text : String} {entries : List UserEntry} :
    readUsers? text = some entries ↔ ProperUsers entries ∧ WritesUsers text entries := by
  rw [readUsers?_eq_some_iff]
  refine denotesEntries_iff_written fun field entry => ?_
  rw [denotesUser_trim_iff, denotesUser_iff_writes]

/-! ## The plain way to write -/

theorem padded_self (cs : List Char) : Padded cs cs :=
  ⟨[], [], List.forall_mem_nil _, List.forall_mem_nil _, by simp⟩

theorem written_intercalate {α : Type} {sep : Char} {writes : List Char → α → Prop}
    {write : α → List Char} {values : List α}
    (h : ∀ value ∈ values, ¬ Blank (write value) ∧ writes (write value) value) :
    Written sep writes ([sep].intercalate (values.map write)) values := by
  have hkept : kept (values.map write) = values.map write := by
    refine List.filter_eq_self.mpr fun piece hpiece => ?_
    obtain ⟨value, hvalue, rfl⟩ := List.mem_map.mp hpiece
    simpa [Blank] using (h value hvalue).1
  refine ⟨_, rfl, ?_⟩
  rw [hkept, List.forall₂_map_left_iff, List.forall₂_same]
  exact fun value hvalue => (h value hvalue).2

theorem not_blank_of_proper {seps : List Char} {text : String} (h : Proper seps text) :
    ¬ Blank text.toList := by
  intro hblank
  exact h.nonempty ((trim_eq_self_iff.mpr h.trimmed).symm.trans (trim_eq_nil_iff.mpr hblank))

theorem writesRoles_intercalate {seps : List Char} {roles : List String}
    (h : ∀ role ∈ roles, Proper seps role) :
    WritesRoles (String.intercalate "|" roles).toList roles := by
  rw [String.toList_intercalate]
  exact written_intercalate fun role hrole => ⟨not_blank_of_proper (h role hrole), padded_self _⟩

/-- An entry is not blank, as there is a colon in it. -/
theorem not_blank_around {xs ys : List Char} : ¬ Blank (xs ++ ':' :: ys) := by
  intro hblank
  exact not_mem_of_blank (by decide) hblank (List.mem_append_right xs List.mem_cons_self)

theorem writesToken_write {entry : TokenEntry} (h : ProperToken entry) :
    ¬ Blank entry.write.toList ∧ WritesToken entry.write.toList entry := by
  have hwrite : entry.write.toList = entry.token.toList ++ ':' :: (entry.name.toList
      ++ ':' :: (String.intercalate "|" entry.roles).toList) := by
    simp [TokenEntry.write]
  rw [hwrite]
  exact ⟨not_blank_around, .roled (padded_self _) (padded_self _) (writesRoles_intercalate h.roles)⟩

theorem writesUser_write {entry : UserEntry} (h : ProperUser entry) :
    ¬ Blank entry.write.toList ∧ WritesUser entry.write.toList entry := by
  have hwrite : entry.write.toList = entry.username.toList ++ ':' :: (entry.password.toList
      ++ ':' :: (String.intercalate "|" entry.roles).toList) := by
    simp [UserEntry.write]
  rw [hwrite]
  exact ⟨not_blank_around, .mk (padded_self _) (writesRoles_intercalate h.roles)⟩

theorem writesTokens_write {entries : List TokenEntry} (h : ProperTokens entries) :
    WritesTokens (writeTokens entries) entries := by
  unfold WritesTokens writeTokens
  rw [String.toList_intercalate, List.map_map]
  exact written_intercalate fun entry hentry => writesToken_write (h.each entry hentry)

theorem writesUsers_write {entries : List UserEntry} (h : ProperUsers entries) :
    WritesUsers (writeUsers entries) entries := by
  unfold WritesUsers writeUsers
  rw [String.toList_intercalate, List.map_map]
  exact written_intercalate fun entry hentry => writesUser_write (h.each entry hentry)

/-! ## The two list settings -/

section Setting

variable {α : Type} {env : Environment} {setting : Setting} {proper : List α → Prop}
  {writes : String → List α → Prop}

theorem proper_of_says {entries : List α} (hnil : proper [])
    (h : Says env setting [] (fun text entries => proper entries ∧ writes text entries) entries) :
    proper entries ∧ Says env setting [] writes entries := by
  unfold Says at h ⊢
  split at h
  · exact ⟨h ▸ hnil, h⟩
  · exact h

theorem not_invalid_of_wellFormed {text : String} (htext : env setting.key = some text)
    (h : WellFormed setting text) : Settings.read env ≠ .error (.invalid setting) := by
  intro hread
  obtain ⟨found, hfound, before, after, _, _, hfault⟩ := (stopsAtFirst_read env _).mp hread
  obtain rfl := SettingsError.invalid.inj hfound
  refine hfault fun other hother => ?_
  rw [htext] at hother
  exact Option.some.inj hother ▸ h

end Setting

section Accepted

variable {env : Environment} {settings : Settings}

theorem properTokens_of_read (h : Settings.read env = .ok settings) :
    ProperTokens settings.tokens ∧ Says env .tokens [] WritesTokens settings.tokens := by
  obtain ⟨_, _, _, htokens, _, _, _⟩ := read_eq_ok_iff.mp h
  rw [readOr_eq_ok_iff fun _ _ => readTokens?_iff_written] at htokens
  exact proper_of_says ⟨List.forall_mem_nil _, List.nodup_nil⟩ htokens

theorem properUsers_of_read (h : Settings.read env = .ok settings) :
    ProperUsers settings.users ∧ Says env .users [] WritesUsers settings.users := by
  obtain ⟨_, _, _, _, husers, _, _⟩ := read_eq_ok_iff.mp h
  rw [readOr_eq_ok_iff fun _ _ => readUsers?_iff_written] at husers
  exact proper_of_says ⟨List.forall_mem_nil _, List.nodup_nil⟩ husers

/-- A token that is listed has no blanks around it, and there is something of it. -/
theorem trimmed_of_read (h : Settings.read env = .ok settings) {entry : TokenEntry}
    (hentry : entry ∈ settings.tokens) : Trimmed entry.token.toList ∧ entry.token.toList ≠ [] := by
  have hproper := ((properTokens_of_read h).1.each entry hentry).token
  exact ⟨hproper.trimmed, hproper.nonempty⟩

/-- The name of a user who is listed ends at the first colon of the login. -/
theorem no_colon_of_read (h : Settings.read env = .ok settings) {entry : UserEntry}
    (hentry : entry ∈ settings.users) : ':' ∉ entry.username.toList := by
  have hproper := ((properUsers_of_read h).1.each entry hentry).username
  exact (free_cons_iff.mp hproper.free).1

end Accepted

/-- A list setting and its text. -/
structure ReadBack {α : Type} (setting : Setting) (list : Settings → List α)
    (read? : String → Option (List α)) (write : List α → String) (proper : List α → Prop)
    (writes : String → List α → Prop) : Prop where
  /-- A text is read as the entries that it is a way to write, if these can be written at all. -/
  reads : ∀ text entries, read? text = some entries ↔ proper entries ∧ writes text entries
  /-- Entries that can be written are read back from their plain form. -/
  restores : ∀ entries, proper entries → read? (write entries) = some entries
  /-- Accepted settings hold a list that can be written, and it is what the variable says. -/
  accepted : ∀ env settings, Settings.read env = .ok settings →
    proper (list settings) ∧ Says env setting [] writes (list settings)
  /-- A variable that says such a list is not what settings are refused for. -/
  blameless : ∀ env text entries, env setting.key = some text → proper entries →
    writes text entries → Settings.read env ≠ .error (.invalid setting)

/-- **The tokens in force are the tokens as they were written.** -/
theorem tokens_read_back :
    ReadBack .tokens Settings.tokens readTokens? writeTokens ProperTokens WritesTokens where
  reads _ _ := readTokens?_iff_written
  restores _ h := readTokens?_iff_written.mpr ⟨h, writesTokens_write h⟩
  accepted _ _ h := properTokens_of_read h
  blameless _ _ entries htext hproper hwrites := by
    have hread := readTokens?_iff_written.mpr ⟨hproper, hwrites⟩
    exact not_invalid_of_wellFormed htext ⟨entries, readTokens?_eq_some_iff.mp hread⟩

/-- **The users in force are the users as they were written, passwords included.** -/
theorem users_read_back :
    ReadBack .users Settings.users readUsers? writeUsers ProperUsers WritesUsers where
  reads _ _ := readUsers?_iff_written
  restores _ h := readUsers?_iff_written.mpr ⟨h, writesUsers_write h⟩
  accepted _ _ h := properUsers_of_read h
  blameless _ _ entries htext hproper hwrites := by
    have hread := readUsers?_iff_written.mpr ⟨hproper, hwrites⟩
    exact not_invalid_of_wellFormed htext ⟨entries, readUsers?_eq_some_iff.mp hread⟩

/-- Of the blanks and colons in here, those between the first and the last colon are a password. -/
example : readUsers? " u : :: : a|| b ,," = some [⟨"u", " :: ", ["a", "b"]⟩] := by decide +kernel

end Gatehouse.Proofs

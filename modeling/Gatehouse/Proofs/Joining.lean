import Mathlib.Data.List.Perm.Basic
import Gatehouse.Proofs.Rendering

/-!
# Lists of entries can be joined and shuffled

A list setting is read piece by piece, and only the pieces that are not blank count
(`entryPieces`). A comma between two texts joins their pieces, so the joined text lists
what both list, one after the other, unless they have a key in common. All else follows
from the pieces as well. Each of them must denote an entry, so one that does not refuses
the whole list. The entries are those of the pieces whatever stands between them, and in
another order they are the same entries in that order.

A key stands before the first colon of its piece, with any blanks around it
(`WrittenUnder`). So two pieces under one key are found out also where the blanks differ,
and wherever in the list they stand.
-/

namespace Gatehouse.Proofs

open Gatehouse Text

/-- The pieces between the commas of a text, without the blank ones. -/
def entryPieces (text : String) : List (List Char) := kept (text.toList.splitOn ',')

/-- The key stands in front of the first colon, with any blanks around it. -/
def WrittenUnder (key : String) (piece : List Char) : Prop :=
  ∃ field rest, piece = field ++ ':' :: rest ∧ ':' ∉ field ∧ Padded field key.toList

/-! ## Pieces -/

theorem entryPieces_joined (a b : String) :
    entryPieces (a ++ "," ++ b) = entryPieces a ++ entryPieces b := by
  have htext : (a ++ "," ++ b).toList = a.toList ++ ',' :: b.toList := by simp
  rw [entryPieces, htext, List.splitOn_append_cons_self, kept, List.filter_append]
  rfl

theorem WrittenUnder.not_blank {key : String} {piece : List Char} (h : WrittenUnder key piece) :
    ¬ Blank piece := by
  obtain ⟨field, rest, rfl, _, _⟩ := h
  exact not_blank_around

/-- Two pieces that are not blank keep their places. -/
theorem sublist_entryPieces {text : String} {piece piece' : List Char} (h : ¬ Blank piece)
    (h' : ¬ Blank piece') (hsub : [piece, piece'].Sublist (text.toList.splitOn ',')) :
    [piece, piece'].Sublist (entryPieces text) := by
  have hkept : kept [piece, piece'] = [piece, piece'] := by
    refine List.filter_eq_self.mpr ?_
    refine List.forall_mem_cons.mpr ⟨?_, List.forall_mem_singleton.mpr ?_⟩
    · simpa [Blank] using h
    · simpa [Blank] using h'
  rw [← hkept]
  exact hsub.filter _

/-! ## Rows that belong together -/

section Rows

variable {α β : Type} {R : α → β → Prop}

theorem forall₂_append_iff {xs xs' : List α} {ys : List β} :
    List.Forall₂ R (xs ++ xs') ys ↔
      ∃ zs zs', List.Forall₂ R xs zs ∧ List.Forall₂ R xs' zs' ∧ ys = zs ++ zs' := by
  induction xs generalizing ys with
  | nil => simp
  | cons x xs ih =>
      rw [List.cons_append, List.forall₂_cons_left_iff]
      refine ⟨?_, ?_⟩
      · intro h
        obtain ⟨y, rest, hxy, hrest, rfl⟩ := h
        obtain ⟨zs, zs', hzs, hzs', rfl⟩ := ih.mp hrest
        exact ⟨y :: zs, zs', .cons hxy hzs, hzs', rfl⟩
      · intro h
        obtain ⟨zs, zs', hzs, hzs', rfl⟩ := h
        obtain ⟨y, rest, hxy, hrest, rfl⟩ := List.forall₂_cons_left_iff.mp hzs
        exact ⟨y, rest ++ zs', hxy, ih.mpr ⟨rest, zs', hrest, hzs', rfl⟩, rfl⟩

theorem exists_sublist_of_forall₂ {xs part : List α} {ys : List β} (h : List.Forall₂ R xs ys)
    (hsub : part.Sublist xs) : ∃ zs, List.Forall₂ R part zs ∧ zs.Sublist ys := by
  induction hsub generalizing ys with
  | slnil => exact ⟨[], .nil, List.nil_sublist ys⟩
  | cons x _ ih =>
      obtain ⟨y, rest, _, hrest, rfl⟩ := List.forall₂_cons_left_iff.mp h
      obtain ⟨zs, hzs, hzsub⟩ := ih hrest
      exact ⟨zs, hzs, hzsub.cons y⟩
  | cons_cons x _ ih =>
      obtain ⟨y, rest, hxy, hrest, rfl⟩ := List.forall₂_cons_left_iff.mp h
      obtain ⟨zs, hzs, hzsub⟩ := ih hrest
      exact ⟨y :: zs, .cons hxy hzs, hzsub.cons_cons y⟩

end Rows

/-! ## Reading by pieces -/

/-- A list is read by its pieces: each denotes an entry, and no two of them have the same key. -/
def ReadByPieces {α : Type} (read? : String → Option (List α)) (denotes : List Char → α → Prop)
    (key : α → String) : Prop :=
  ∀ text entries, read? text = some entries ↔
    List.Forall₂ denotes (entryPieces text) entries ∧ (entries.map key).Nodup

/-- What denotes an entry is written under its key. -/
def ShowsKey {α : Type} (denotes : List Char → α → Prop) (key : α → String) : Prop :=
  ∀ piece entry, denotes piece entry →
    ∃ field rest, piece = field ++ ':' :: rest ∧ ':' ∉ field ∧ Holds field (key entry).toList

theorem denotesEntries_iff_pieces {α : Type} {denotes : List Char → α → Prop} {key : α → String}
    {text : String} {entries : List α}
    (h : ∀ piece entry, denotes (trim piece) entry ↔ denotes piece entry) :
    DenotesEntries denotes key text entries ↔
      List.Forall₂ denotes (entryPieces text) entries ∧ (entries.map key).Nodup := by
  rw [DenotesEntries, lists_iff_kept, entryPieces]
  simp only [h]

theorem tokens_readByPieces : ReadByPieces readTokens? DenotesToken TokenEntry.token := by
  intro text entries
  rw [readTokens?_eq_some_iff]
  exact denotesEntries_iff_pieces fun _ _ => denotesToken_trim_iff

theorem users_readByPieces : ReadByPieces readUsers? DenotesUser UserEntry.username := by
  intro text entries
  rw [readUsers?_eq_some_iff]
  exact denotesEntries_iff_pieces fun _ _ => denotesUser_trim_iff

theorem token_showsKey : ShowsKey DenotesToken TokenEntry.token := by
  intro piece entry h
  cases h with
  | bare htoken _ hheld _ _ => exact ⟨_, _, rfl, htoken, hheld⟩
  | roled htoken _ hheld _ _ => exact ⟨_, _, rfl, htoken, hheld⟩

theorem user_showsKey : ShowsKey DenotesUser UserEntry.username := by
  intro piece entry h
  cases h with
  | mk husername _ hheld _ _ => exact ⟨_, _, rfl, husername, hheld⟩

section Pieces

variable {α : Type} {read? : String → Option (List α)} {denotes : List Char → α → Prop}
  {key : α → String} {text other : String} {entries : List α}

theorem key_of_writtenUnder (hshows : ShowsKey denotes key) {written : String} {piece : List Char}
    {entry : α} (h : denotes piece entry) (hunder : WrittenUnder written piece) :
    (key entry).toList = trim written.toList := by
  obtain ⟨field, rest, rfl, hfield, hheld⟩ := hshows piece entry h
  obtain ⟨field', rest', hsame, hfield', before, after, hbefore, hafter, rfl⟩ := hunder
  -- there is one first colon, so the two fields are the same
  have hcut := cutFirst_append hfield rest
  rw [hsame, cutFirst_append hfield' rest'] at hcut
  obtain ⟨rfl, _⟩ := Prod.mk.inj (Option.some.inj hcut)
  rw [← (holds_iff.mp hheld).1, trim_padded hbefore hafter]

variable (hread : ReadByPieces read? denotes key)

include hread

theorem read?_joined_iff (a b : String) :
    read? (a ++ "," ++ b) = some entries ↔
      ∃ front back, read? a = some front ∧ read? b = some back
        ∧ (∀ entry ∈ front, ∀ other ∈ back, key entry ≠ key other) ∧ entries = front ++ back := by
  simp only [hread _ _, entryPieces_joined, forall₂_append_iff]
  refine ⟨?_, ?_⟩
  · intro h
    obtain ⟨⟨front, back, hfront, hback, rfl⟩, hdistinct⟩ := h
    rw [List.map_append, List.nodup_append] at hdistinct
    obtain ⟨hdistinct, hdistinct', hapart⟩ := hdistinct
    refine ⟨front, back, ⟨hfront, hdistinct⟩, ⟨hback, hdistinct'⟩, ?_, rfl⟩
    intro entry hentry other hother
    exact hapart _ (List.mem_map_of_mem hentry) _ (List.mem_map_of_mem hother)
  · intro h
    obtain ⟨front, back, ⟨hfront, hdistinct⟩, ⟨hback, hdistinct'⟩, hapart, rfl⟩ := h
    refine ⟨⟨front, back, hfront, hback, rfl⟩, ?_⟩
    rw [List.map_append, List.nodup_append]
    refine ⟨hdistinct, hdistinct', ?_⟩
    intro written hwritten written' hwritten'
    obtain ⟨entry, hentry, rfl⟩ := List.mem_map.mp hwritten
    obtain ⟨other, hother, rfl⟩ := List.mem_map.mp hwritten'
    exact hapart entry hentry other hother

theorem read?_of_malformed {piece : List Char} (hmem : piece ∈ text.toList.splitOn ',')
    (hblank : ¬ Blank piece) (h : ∀ entry, ¬ denotes piece entry) : read? text = none := by
  rw [Option.eq_none_iff_forall_ne_some]
  intro entries hentries
  have hpieces := ((hread text entries).mp hentries).1
  have hpiece : [piece].Sublist (entryPieces text) :=
    List.singleton_sublist.mpr (mem_kept_iff.mpr ⟨hmem, hblank⟩)
  obtain ⟨_, hdenoted, _⟩ := exists_sublist_of_forall₂ hpieces hpiece
  obtain ⟨entry, _, hentry, _, _⟩ := List.forall₂_cons_left_iff.mp hdenoted
  exact h entry hentry

theorem read?_of_repeated (hshows : ShowsKey denotes key) {written : String}
    {piece piece' : List Char} (hsub : [piece, piece'].Sublist (text.toList.splitOn ','))
    (h : WrittenUnder written piece) (h' : WrittenUnder written piece') : read? text = none := by
  rw [Option.eq_none_iff_forall_ne_some]
  intro entries hentries
  obtain ⟨hpieces, hdistinct⟩ := (hread text entries).mp hentries
  obtain ⟨_, hdenoted, hfound⟩ :=
    exists_sublist_of_forall₂ hpieces (sublist_entryPieces h.not_blank h'.not_blank hsub)
  obtain ⟨entry, _, hentry, hrest, rfl⟩ := List.forall₂_cons_left_iff.mp hdenoted
  obtain ⟨entry', _, hentry', hrest', rfl⟩ := List.forall₂_cons_left_iff.mp hrest
  -- both of them are listed, and both have what is written for their key
  have hkeys := (hfound.map key).nodup hdistinct
  have hsame : key entry = key entry' := by
    rw [← String.toList_inj, key_of_writtenUnder hshows hentry h,
      key_of_writtenUnder hshows hentry' h']
  rw [List.map_cons, List.map_cons, hsame] at hkeys
  exact (List.nodup_cons.mp hkeys).1 List.mem_cons_self

theorem read?_of_same_pieces (h : entryPieces text = entryPieces other) :
    read? text = read? other := by
  refine Option.ext fun entries => ?_
  rw [hread, hread, h]

theorem read?_of_perm (h : (entryPieces text).Perm (entryPieces other))
    (hentries : read? text = some entries) :
    ∃ shuffled, read? other = some shuffled ∧ shuffled.Perm entries := by
  obtain ⟨hpieces, hdistinct⟩ := (hread text entries).mp hentries
  obtain ⟨shuffled, hshuffled, hperm⟩ := List.perm_comp_forall₂ h.symm hpieces
  exact ⟨shuffled, (hread other shuffled).mpr
    ⟨hshuffled, (hperm.map key).nodup_iff.mpr hdistinct⟩, hperm⟩

end Pieces

/-! ## The two list settings -/

theorem read?_of_readOr {α : Type} {env : Environment} {setting : Setting} {default value : α}
    {read? : String → Option α} {text : String} (htext : env setting.key = some text)
    (h : Settings.readOr env setting default read? = .ok value) : read? text = some value := by
  rw [Settings.readOr, htext] at h
  dsimp only at h
  cases hread : read? text with
  | none =>
      rw [hread] at h
      exact absurd h (by simp)
  | some found =>
      rw [hread] at h
      exact congrArg some (Except.ok.inj h)

/-- What is promised of a list setting, whatever the texts are. -/
structure Composes {α : Type} (setting : Setting) (list : Settings → List α)
    (read? : String → Option (List α)) (denotes : List Char → α → Prop) (key : α → String) :
    Prop where
  /-- Two texts with a comma between them are read if each is and they have no key in common; what
  they list is what the first lists and then what the second lists. -/
  joined : ∀ a b entries, read? (a ++ "," ++ b) = some entries ↔
    ∃ front back, read? a = some front ∧ read? b = some back
      ∧ (∀ entry ∈ front, ∀ other ∈ back, key entry ≠ key other) ∧ entries = front ++ back
  /-- A piece that is not blank and denotes no entry refuses the whole list. -/
  malformed : ∀ text piece, piece ∈ text.toList.splitOn ',' → ¬ Blank piece →
    (∀ entry, ¬ denotes piece entry) → read? text = none
  /-- So do two pieces under one key, wherever they stand and whatever blanks are around it. -/
  repeated : ∀ text key piece piece', [piece, piece'].Sublist (text.toList.splitOn ',') →
    WrittenUnder key piece → WrittenUnder key piece' → read? text = none
  /-- Blank pieces make no difference. -/
  blank : ∀ text other, entryPieces text = entryPieces other → read? text = read? other
  /-- In another order the same pieces are accepted as well, and list the same entries. -/
  shuffled : ∀ text other, (entryPieces text).Perm (entryPieces other) →
    ∀ entries, read? text = some entries →
      ∃ shuffled, read? other = some shuffled ∧ shuffled.Perm entries
  /-- Settings are accepted with the whole list that is read of the variable, or not at all. -/
  inForce : ∀ env settings text, env setting.key = some text →
    Settings.read env = .ok settings → read? text = some (list settings)

theorem composes_of_readByPieces {α : Type} {setting : Setting} {list : Settings → List α}
    {read? : String → Option (List α)} {denotes : List Char → α → Prop} {key : α → String}
    (hread : ReadByPieces read? denotes key) (hshows : ShowsKey denotes key)
    (hlist : ∀ env settings, Settings.read env = .ok settings →
      Settings.readOr env setting [] read? = .ok (list settings)) :
    Composes setting list read? denotes key := by
  constructor
  case joined => exact fun a b _ => read?_joined_iff hread a b
  case malformed => exact fun _ _ => read?_of_malformed hread
  case repeated => exact fun _ _ _ _ => read?_of_repeated hread hshows
  case blank => exact fun _ _ => read?_of_same_pieces hread
  case shuffled => exact fun _ _ h _ => read?_of_perm hread h
  case inForce => exact fun env settings _ htext h => read?_of_readOr htext (hlist env settings h)

/-- **Lists of entries are joined by a comma, and are accepted as a whole or not at all.** -/
theorem lists_compose :
    Composes .tokens Settings.tokens readTokens? DenotesToken TokenEntry.token
      ∧ Composes .users Settings.users readUsers? DenotesUser UserEntry.username := by
  refine ⟨composes_of_readByPieces tokens_readByPieces token_showsKey ?_,
    composes_of_readByPieces users_readByPieces user_showsKey ?_⟩
  · intro env settings h
    obtain ⟨_, _, _, htokens, _, _, _⟩ := read_eq_ok_iff.mp h
    exact htokens
  · intro env settings h
    obtain ⟨_, _, _, _, husers, _, _⟩ := read_eq_ok_iff.mp h
    exact husers

/-- The blank pieces are skipped, and the second key is the first one with a blank before it. -/
example : readTokens? "t:ada,, t:bob:ops" = none ∧ readTokens? "t:ada,, s:bob:ops" =
    some [⟨"t", "ada", []⟩, ⟨"s", "bob", ["ops"]⟩] := by decide +kernel

end Gatehouse.Proofs

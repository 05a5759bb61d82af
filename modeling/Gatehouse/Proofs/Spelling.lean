import Mathlib.Data.List.Forall2
import Gatehouse.Http.Target

/-!
# Spellings of a query

There are many ways to write one list of pairs as a query. A byte may stand for
itself or be escaped, with digits of either case; a space has a sign of its own; a
pair without a value may go without its equals sign, and an ampersand too many does
no harm. `Spells`, `SpellsPair` and `SpellsPairs` list these ways, from the writer's
side and on bytes, as names and values need not be text.

The reader undoes all of them: what it makes of a query is the text of the pairs
that the query spells (`pairs_of_spells`). The list excludes nothing, for there is
no query that spells no pairs (`exists_spellsPairs`), and the writer's own choice is
among the spellings (`spellsPairs_write`).
-/

namespace Gatehouse.Proofs

open Gatehouse Text Text.Form

/-! ## The ways to write -/

/-- `written` is a way to write `bytes` in a name or a value. -/
inductive Spells : (written bytes : List UInt8) → Prop
  | nil : Spells [] []
  /-- What has no other meaning may stand for itself. -/
  | plain {b : UInt8} {written bytes : List UInt8} : b ≠ 0x25 → b ≠ 0x26 → b ≠ 0x2B →
      Spells written bytes → Spells (b :: written) (b :: bytes)
  /-- A plus is a space. -/
  | space {written bytes : List UInt8} :
      Spells written bytes → Spells (0x2B :: written) (0x20 :: bytes)
  /-- Every byte may be given by its digits. -/
  | escaped {high low h l : UInt8} {written bytes : List UInt8} : hexValue? high = some h →
      hexValue? low = some l → Spells written bytes →
      Spells (0x25 :: high :: low :: written) ((16 * h + l) :: bytes)
  /-- A percent sign stands for itself where no two digits follow. -/
  | percent {written bytes : List UInt8} : (∀ high low rest, written = high :: low :: rest →
      hexValue? high = none ∨ hexValue? low = none) →
      Spells written bytes → Spells (0x25 :: written) (0x25 :: bytes)

/-- A way to write a pair of name and value. -/
inductive SpellsPair : (written : List UInt8) → (pair : List UInt8 × List UInt8) → Prop
  | full {writtenName writtenValue name value : List UInt8} : 0x3D ∉ writtenName →
      Spells writtenName name → Spells writtenValue value →
      SpellsPair (writtenName ++ 0x3D :: writtenValue) (name, value)
  /-- An empty value may be left out, with its equals sign. -/
  | bare {writtenName name : List UInt8} : 0x3D ∉ writtenName → writtenName ≠ [] →
      Spells writtenName name → SpellsPair writtenName (name, [])

/-- A way to write a list of pairs: each pair between ampersands, with any number of them. -/
def SpellsPairs (written : List UInt8) (ps : List (List UInt8 × List UInt8)) : Prop :=
  ∃ pieces, written = [0x26].intercalate pieces
    ∧ List.Forall₂ SpellsPair (pieces.filter (fun piece => !piece.isEmpty)) ps

variable {written bytes : List UInt8} {pair : List UInt8 × List UInt8}
  {ps : List (List UInt8 × List UInt8)}

/-! ## Reading undoes writing -/

theorem unescape_cons {b : UInt8} (h : b ≠ 0x25) (rest : List UInt8) :
    unescape (b :: rest) = (if b = 0x2B then 0x20 else b) :: unescape rest := by
  rcases rest with _ | ⟨high, _ | ⟨low, rest⟩⟩
  · rfl
  · rfl
  · rw [unescape, if_neg h]

theorem unescape_percent (hno : ∀ high low rest, written = high :: low :: rest →
    hexValue? high = none ∨ hexValue? low = none) :
    unescape (0x25 :: written) = 0x25 :: unescape written := by
  rcases written with _ | ⟨high, _ | ⟨low, rest⟩⟩
  · rfl
  · rfl
  · rw [unescape, if_pos rfl]
    rcases hno high low rest rfl with hhigh | hlow
    · rw [hhigh]
    · rw [hlow]
      cases hexValue? high <;> rfl

theorem unescape_of_spells (h : Spells written bytes) : unescape written = bytes := by
  induction h with
  | nil => rfl
  | plain hpercent _ hplus _ ih => rw [unescape_cons hpercent, if_neg hplus, ih]
  | space _ ih => rw [unescape_cons (by decide), if_pos rfl, ih]
  | escaped hhigh hlow _ ih => rw [unescape, if_pos rfl, hhigh, hlow, ih]
  | percent hno _ ih => rw [unescape_percent hno, ih]

/-- No spelling reaches beyond its piece. -/
theorem not_mem_of_spells (h : Spells written bytes) : 0x26 ∉ written := by
  have hdigit : ∀ {b v : UInt8}, hexValue? b = some v → b ≠ 0x26 := by
    rintro b v hb rfl
    exact absurd hb (by simp [show hexValue? 0x26 = none by decide])
  induction h with
  | nil => exact List.not_mem_nil
  | plain _ hamp _ _ ih => exact List.not_mem_cons_of_ne_of_not_mem hamp.symm ih
  | space _ ih => exact List.not_mem_cons_of_ne_of_not_mem (by decide) ih
  | escaped hhigh hlow _ ih =>
      have ih := List.not_mem_cons_of_ne_of_not_mem (hdigit hlow).symm ih
      have ih := List.not_mem_cons_of_ne_of_not_mem (hdigit hhigh).symm ih
      exact List.not_mem_cons_of_ne_of_not_mem (by decide) ih
  | percent _ _ ih => exact List.not_mem_cons_of_ne_of_not_mem (by decide) ih

theorem not_mem_of_spellsPair (h : SpellsPair written pair) : 0x26 ∉ written := by
  cases h with
  | full _ hname hvalue =>
      have hvalue := not_mem_of_spells hvalue
      have hsign : (0x26 : UInt8) ∉ 0x3D :: _ :=
        List.not_mem_cons_of_ne_of_not_mem (by decide) hvalue
      exact fun hmem => (List.mem_append.mp hmem).elim (not_mem_of_spells hname) hsign
  | bare _ _ hname => exact not_mem_of_spells hname

/-- The text that a reader of queries sees in bytes. -/
def textOf (bytes : List UInt8) : String := String.ofList (Utf8.lenient bytes)

theorem pair_of_spells (h : SpellsPair written pair) :
    Form.pair written = (textOf pair.1, textOf pair.2) := by
  cases h with
  | full hsign hname hvalue =>
      rw [Form.pair, cutFirst_append hsign]
      simp only [decode, unescape_of_spells hname, unescape_of_spells hvalue, textOf]
  | bare hsign _ hname =>
      have hempty : textOf [] = "" := by decide
      rw [Form.pair, cutFirst_eq_none_iff.mpr hsign, hempty]
      simp only [decode, unescape_of_spells hname, textOf]

/-- **What is read of a query is what it spells.** -/
theorem pairs_of_spells (h : SpellsPairs written ps) :
    pairs written = ps.map (Prod.map textOf textOf) := by
  obtain ⟨pieces, rfl, hps⟩ := h
  have hamp : ∀ piece ∈ pieces, 0x26 ∉ piece := by
    intro piece hpiece
    -- an empty piece spells no pair, but it holds no ampersand either
    by_cases hempty : piece = []
    · rw [hempty]; exact List.not_mem_nil
    · have hkept : piece ∈ pieces.filter (fun piece => !piece.isEmpty) :=
        List.mem_filter.mpr ⟨hpiece, by simpa using hempty⟩
      obtain ⟨i, hi, rfl⟩ := List.getElem_of_mem hkept
      exact not_mem_of_spellsPair (hps.get hi (hps.length_eq ▸ hi))
  have hread : List.Forall₂ (fun piece p => Form.pair piece = Prod.map textOf textOf p)
      (pieces.filter (fun piece => !piece.isEmpty)) ps := hps.imp (fun _ _ hp => pair_of_spells hp)
  rw [pairs, filter_splitOn_intercalate rfl hamp, ← List.forall₂_eq_eq_eq,
    List.forall₂_map_left_iff, List.forall₂_map_right_iff]
  exact hread

/-! ## Looking a parameter up -/

theorem textOf_ofString (s : String) : textOf (Utf8.ofString s) = s := by
  rw [textOf, Utf8.ofString, Utf8.lenient_write, String.ofList_toList]

/-- A text without the sign for faults is read from no bytes but its own. -/
theorem textOf_eq_iff {s : String} (h : '\uFFFD' ∉ s.toList) :
    textOf bytes = s ↔ bytes = Utf8.ofString s := by
  refine ⟨?_, fun hbytes => hbytes ▸ textOf_ofString s⟩
  rintro rfl
  rw [textOf, String.toList_ofList] at h
  have hpieces : Utf8.pieces bytes = (Utf8.lenient bytes).map some := by
    rw [Utf8.lenient, List.map_map]
    refine (List.map_id' (Utf8.pieces bytes)).symm.trans (List.map_congr_left ?_)
    intro piece hpiece
    cases piece with
    | some c => rfl
    -- a fault would have left its sign in the text
    | none => exact absurd (List.mem_map_of_mem hpiece) h
  rw [textOf, Utf8.ofString, String.toList_ofList]
  exact Utf8.write_of_pieces hpieces

theorem lookup_textOf {name : String} (h : '\uFFFD' ∉ name.toList) :
    (ps.map (Prod.map textOf textOf)).lookup name = (ps.lookup (Utf8.ofString name)).map textOf := by
  induction ps with
  | nil => rfl
  | cons p ps ih =>
      obtain ⟨key, value⟩ := p
      rw [List.map_cons, Prod.map_apply, List.lookup_cons, List.lookup_cons]
      -- the keys are compared as texts on one side and as bytes on the other
      by_cases hkey : Utf8.ofString name = key
      · have hname : name = textOf key := ((textOf_eq_iff h).mpr hkey.symm).symm
        rw [beq_iff_eq.mpr hkey, beq_iff_eq.mpr hname]
        rfl
      · have hname : name ≠ textOf key := fun hname => hkey ((textOf_eq_iff h).mp hname.symm).symm
        rw [beq_false_of_ne hkey, beq_false_of_ne hname]
        exact ih

/-- The first pair of a name is found, however the pairs are spelled. -/
theorem lookup?_of_spells {name value : String} (h : SpellsPairs written ps)
    (hname : '\uFFFD' ∉ name.toList)
    (hvalue : ps.lookup (Utf8.ofString name) = some (Utf8.ofString value)) :
    lookup? name written = some value := by
  rw [lookup?, pairs_of_spells h, lookup_textOf hname, hvalue, Option.map_some, textOf_ofString]

/-! ## Every query spells something -/

theorem spells_unescape (h : 0x26 ∉ written) : Spells written (unescape written) := by
  -- by length, as an escape takes three bytes at once
  induction hlength : written.length using Nat.strongRecOn generalizing written with
  | _ length ih =>
      subst hlength
      rcases written with _ | ⟨b, rest⟩
      · exact .nil
      · obtain ⟨hb, hrest⟩ := List.ne_and_not_mem_of_not_mem_cons h
        have hspells := ih rest.length (by simp) hrest rfl
        by_cases hpercent : b = 0x25
        · subst hpercent
          by_cases hno : ∀ high low tail, rest = high :: low :: tail →
              hexValue? high = none ∨ hexValue? low = none
          · rw [unescape_percent hno]
            exact .percent hno hspells
          · -- two digits follow, and the rest of the query after them
            push Not at hno
            obtain ⟨high, low, tail, rfl, hhigh, hlow⟩ := hno
            obtain ⟨h, hh⟩ := Option.ne_none_iff_exists'.mp hhigh
            obtain ⟨l, hl⟩ := Option.ne_none_iff_exists'.mp hlow
            have htail : (0x26 : UInt8) ∉ tail := fun hmem =>
              hrest (List.mem_cons_of_mem high (List.mem_cons_of_mem low hmem))
            have hspells := ih tail.length (by simp; omega) htail rfl
            rw [unescape, if_pos rfl, hh, hl]
            exact .escaped hh hl hspells
        · rw [unescape_cons hpercent]
          by_cases hplus : b = 0x2B
          · subst hplus
            exact .space hspells
          · rw [if_neg hplus]
            exact .plain hpercent hb.symm hplus hspells

theorem exists_spellsPair (h : 0x26 ∉ written) (hne : written ≠ []) :
    ∃ pair, SpellsPair written pair := by
  cases hcut : cutFirst 0x3D written with
  | none => exact ⟨_, .bare (cutFirst_eq_none_iff.mp hcut) hne (spells_unescape h)⟩
  | some parts =>
      obtain ⟨rfl, hsign⟩ := cutFirst_eq_some_iff.mp hcut
      have hname : 0x26 ∉ parts.1 := fun hmem => h (List.mem_append_left _ hmem)
      have hvalue : 0x26 ∉ parts.2 := fun hmem =>
        h (List.mem_append_right _ (List.mem_cons_of_mem _ hmem))
      exact ⟨_, .full hsign (spells_unescape hname) (spells_unescape hvalue)⟩

theorem exists_forall₂ {α β : Type} {R : α → β → Prop} {xs : List α}
    (h : ∀ x ∈ xs, ∃ y, R x y) : ∃ ys, List.Forall₂ R xs ys := by
  induction xs with
  | nil => exact ⟨[], .nil⟩
  | cons x xs ih =>
      obtain ⟨y, hy⟩ := h x List.mem_cons_self
      obtain ⟨ys, hys⟩ := ih (fun x' hx' => h x' (List.mem_cons_of_mem x hx'))
      exact ⟨y :: ys, .cons hy hys⟩

/-- No query is left out. -/
theorem exists_spellsPairs (written : List UInt8) : ∃ ps, SpellsPairs written ps := by
  have hpieces : ∀ piece ∈ (written.splitOn 0x26).filter (fun piece => !piece.isEmpty),
      ∃ pair, SpellsPair piece pair := by
    intro piece hpiece
    obtain ⟨hmem, hkept⟩ := List.mem_filter.mp hpiece
    exact exists_spellsPair (not_mem_of_mem_splitOn hmem) (by simpa using hkept)
  obtain ⟨ps, hps⟩ := exists_forall₂ hpieces
  exact ⟨ps, _, (List.intercalate_splitOn 0x26).symm, hps⟩

/-! ## The writer's spelling -/

theorem hexValue?_hexDigit {n : UInt8} (h : n < 16) : hexValue? (hexDigit n) = some n := by
  have all : ∀ k : Fin 16, hexValue? (hexDigit (UInt8.ofNat k)) = some (UInt8.ofNat k) := by decide
  have hn := all ⟨n.toNat, UInt8.lt_iff_toNat_lt.mp h⟩
  rwa [UInt8.ofNat_toNat] at hn

theorem hexDigit_ne {n : UInt8} (h : n < 16) : hexDigit n ≠ 0x3D := by
  intro he
  have hn := hexValue?_hexDigit h
  rw [he] at hn
  exact absurd hn (by simp [show hexValue? 0x3D = none by decide])

theorem div_lt_sixteen (b : UInt8) : b / 16 < 16 := by
  have hb := b.toNat_lt
  rw [UInt8.lt_iff_toNat_lt, UInt8.toNat_div]
  simp only [UInt8.reduceToNat]
  omega

theorem mod_lt_sixteen (b : UInt8) : b % 16 < 16 := UInt8.mod_lt b (by decide)

theorem sixteen_mul_div_add_mod (b : UInt8) : 16 * (b / 16) + b % 16 = b := by
  have hb := b.toNat_lt
  apply UInt8.toNat_inj.mp
  simp only [UInt8.toNat_add, UInt8.toNat_mul, UInt8.toNat_div, UInt8.toNat_mod, UInt8.reduceToNat]
  omega

theorem spells_escapeByte (b : UInt8) (h : Spells written bytes) :
    Spells (escapeByte b ++ written) (b :: bytes) := by
  rw [escapeByte]
  split
  · rename_i hplain
    refine .plain ?_ ?_ ?_ h
    all_goals
      rintro rfl
      exact absurd hplain (by decide)
  · split
    · rename_i hspace
      subst hspace
      exact .space h
    · have hspells := Spells.escaped (hexValue?_hexDigit (div_lt_sixteen b))
        (hexValue?_hexDigit (mod_lt_sixteen b)) h
      rwa [sixteen_mul_div_add_mod] at hspells

theorem spells_encode (s : String) : Spells (encode s) (Utf8.ofString s) := by
  rw [encode]
  induction Utf8.ofString s with
  | nil => exact .nil
  | cons b rest ih => exact spells_escapeByte b ih

theorem not_mem_encode (s : String) : 0x3D ∉ encode s := by
  intro hmem
  obtain ⟨b, _, hb⟩ := List.mem_flatMap.mp hmem
  rw [escapeByte] at hb
  split at hb
  · rename_i hplain
    obtain rfl := List.mem_singleton.mp hb
    exact absurd hplain (by decide)
  · split at hb
    · exact absurd hb (by decide)
    · have hhigh := hexDigit_ne (div_lt_sixteen b)
      have hlow := hexDigit_ne (mod_lt_sixteen b)
      rcases List.mem_cons.mp hb with hb | hb
      · exact absurd hb (by decide)
      · simp [hhigh.symm, hlow.symm] at hb

/-- What is written is one of the spellings. -/
theorem spellsPairs_write (ps : List (String × String)) :
    SpellsPairs (Form.write ps) (ps.map (Prod.map Utf8.ofString Utf8.ofString)) := by
  have hkept : (ps.map writePair).filter (fun piece => !piece.isEmpty) = ps.map writePair := by
    refine List.filter_eq_self.mpr ?_
    intro piece hpiece
    obtain ⟨p, _, rfl⟩ := List.mem_map.mp hpiece
    -- there is always the equals sign
    simp [writePair]
  refine ⟨ps.map writePair, rfl, ?_⟩
  rw [hkept, List.forall₂_map_left_iff, List.forall₂_map_right_iff, List.forall₂_same]
  intro p _
  exact .full (not_mem_encode p.1) (spells_encode p.1) (spells_encode p.2)

end Gatehouse.Proofs

import Mathlib.Data.List.Basic
import Mathlib.Tactic.Ring
import Gatehouse.Text.Base64

/-!
# Base64 by its bits

What the standard form of bytes in Base64 is does not depend on how this library writes
it, so `IsBase64` tells it by bits: those of the digits are those of the bytes, with zeros
to fill the last digit up and padding to fill the last group of four. That rule leaves no
choice (`IsBase64.unique`), and the writer keeps to it (`isBase64_write`).

A text that is the form of no bytes has something wrong with it: a character that is no
digit, padding that is missing, misplaced or too much, or bits left over that are not
zeros. `Garbled` lists these, and reading fails for them alone
(`read?_eq_none_iff_garbled`).
-/

namespace Gatehouse.Proofs

open Gatehouse Text

/-! ## Digits and bytes -/

/-- The digits. The place of a digit is its value. -/
def alphabet : List Char :=
  "ABCDEFGHIJKLMNOPQRSTUVWXYZabcdefghijklmnopqrstuvwxyz0123456789+/".toList

/-- The lowest `width` bits of a number, the highest of them first. -/
def bits : (width : Nat) → Nat → List Nat
  | 0, _ => []
  | width + 1, n => bits width (n / 2) ++ [n % 2]

/-- `text` is `bytes` in standard Base64. -/
def IsBase64 (text : List Char) (bytes : List UInt8) : Prop :=
  ∃ (digits : List Char) (fill pads : Nat),
    text = digits ++ List.replicate pads '='
    ∧ (∀ c ∈ digits, c ∈ alphabet)
    ∧ digits.flatMap (fun c => bits 6 (alphabet.idxOf c)) =
        bytes.flatMap (fun b => bits 8 b.toNat) ++ List.replicate fill 0
    ∧ fill < 6 ∧ pads < 4 ∧ 4 ∣ digits.length + pads

theorem length_bits (width n : Nat) : (bits width n).length = width := by
  induction width generalizing n with
  | zero => rfl
  | succ width ih => rw [bits, List.length_append, ih]; rfl

theorem length_flatMap_bits {α : Type} (width : Nat) (f : α → Nat) (xs : List α) :
    (xs.flatMap (fun x => bits width (f x))).length = width * xs.length := by
  induction xs with
  | nil => rfl
  | cons x xs ih =>
      rw [List.flatMap_cons, List.length_append, length_bits, ih, List.length_cons]
      ring

/-- High bits and low bits of a number. -/
theorem bits_append (m k high low : Nat) (h : low < 2 ^ k) :
    bits (m + k) (high * 2 ^ k + low) = bits m high ++ bits k low := by
  induction k generalizing low with
  | zero =>
      obtain rfl : low = 0 := by omega
      simp [bits]
  | succ k ih =>
      have hpow : high * 2 ^ (k + 1) = high * 2 ^ k * 2 := by ring
      have hlow : low / 2 < 2 ^ k := by omega
      have hhalf : (high * 2 ^ (k + 1) + low) / 2 = high * 2 ^ k + low / 2 := by omega
      have hlast : (high * 2 ^ (k + 1) + low) % 2 = low % 2 := by omega
      rw [← Nat.add_assoc, bits, hhalf, hlast, ih _ hlow, bits, List.append_assoc]

theorem bits_zero (k : Nat) : bits k 0 = List.replicate k 0 := by
  induction k with
  | zero => rfl
  | succ k ih => rw [bits, Nat.zero_div, ih, List.replicate_succ']

theorem bits_injective {width n n' : Nat} (hn : n < 2 ^ width) (hn' : n' < 2 ^ width)
    (h : bits width n = bits width n') : n = n' := by
  induction width generalizing n n' with
  | zero => omega
  | succ width ih =>
      obtain ⟨hhigh, hlow⟩ := List.append_inj' h rfl
      have hhalf := ih (by omega) (by omega) hhigh
      have hlast : n % 2 = n' % 2 := by simpa using hlow
      omega

/-- Zeros at the end are a power of two. -/
theorem two_pow_dvd_of_bits {width k n : Nat} {front : List Nat}
    (h : bits width n = front ++ List.replicate k 0) : 2 ^ k ∣ n := by
  induction k generalizing width n with
  | zero => exact Nat.one_dvd n
  | succ k ih =>
      rw [List.replicate_succ', ← List.append_assoc] at h
      cases width with
      | zero => exact absurd h.symm (by simp [bits])
      | succ width =>
          obtain ⟨hhigh, hlow⟩ := List.append_inj' h rfl
          obtain ⟨half, hhalf⟩ := ih hhigh
          have hlast : n % 2 = 0 := by simpa using hlow
          refine ⟨half, ?_⟩
          have hn : n = 2 * (n / 2) := by omega
          rw [hn, hhalf]
          ring

theorem alphabet_eq : alphabet = (List.range 64).map Base64.digit := by decide +kernel

theorem digit_mem {n : Nat} (h : n < 64) : Base64.digit n ∈ alphabet := by
  rw [alphabet_eq]
  exact List.mem_map_of_mem (List.mem_range.mpr h)

theorem idxOf_digit {n : Nat} (h : n < 64) : alphabet.idxOf (Base64.digit n) = n := by
  have all : ∀ k : Fin 64, alphabet.idxOf (Base64.digit k) = k := by decide +kernel
  exact all ⟨n, h⟩

theorem exists_digit {c : Char} (h : c ∈ alphabet) : ∃ n < 64, Base64.digit n = c := by
  rw [alphabet_eq] at h
  obtain ⟨n, hn, rfl⟩ := List.mem_map.mp h
  exact ⟨n, List.mem_range.mp hn, rfl⟩

theorem idxOf_lt {c : Char} (h : c ∈ alphabet) : alphabet.idxOf c < 64 := by
  obtain ⟨n, hn, rfl⟩ := exists_digit h
  rwa [idxOf_digit hn]

theorem pad_not_mem : '=' ∉ alphabet := by
  intro h
  obtain ⟨n, hn, hpad⟩ := exists_digit h
  exact Base64.digit_ne_pad hn hpad

/-! ## The rule leaves no choice -/

theorem digits_unique {digits other : List Char} (h : ∀ c ∈ digits, c ∈ alphabet)
    (h' : ∀ c ∈ other, c ∈ alphabet) (hlength : digits.length = other.length)
    (heq : digits.flatMap (fun c => bits 6 (alphabet.idxOf c)) =
      other.flatMap (fun c => bits 6 (alphabet.idxOf c))) : digits = other := by
  induction digits generalizing other with
  | nil => exact (List.eq_nil_of_length_eq_zero hlength.symm).symm
  | cons c digits ih =>
      cases other with
      | nil => exact absurd hlength (by simp)
      | cons d other =>
          obtain ⟨hc, hdigits⟩ := List.forall_mem_cons.mp h
          obtain ⟨hd, hother⟩ := List.forall_mem_cons.mp h'
          rw [List.flatMap_cons, List.flatMap_cons] at heq
          obtain ⟨hfirst, hrest⟩ := List.append_inj heq (by rw [length_bits, length_bits])
          have hvalue := bits_injective (idxOf_lt hc) (idxOf_lt hd) hfirst
          rw [(List.idxOf_inj hc).mp hvalue, ih hdigits hother (Nat.succ.inj hlength) hrest]

/-- Bytes have at most one text. -/
theorem IsBase64.unique {text text' : List Char} {bytes : List UInt8} (h : IsBase64 text bytes)
    (h' : IsBase64 text' bytes) : text = text' := by
  obtain ⟨digits, fill, pads, rfl, hdigits, hbits, hfill, hpads, hgroups⟩ := h
  obtain ⟨digits', fill', pads', rfl, hdigits', hbits', hfill', hpads', hgroups'⟩ := h'
  have hlength := congrArg List.length hbits
  have hlength' := congrArg List.length hbits'
  simp only [length_flatMap_bits, List.length_append, List.length_replicate] at hlength hlength'
  -- both fill the same bits up to a whole number of digits
  obtain rfl : fill = fill' := by omega
  obtain rfl : digits = digits' :=
    digits_unique hdigits hdigits' (by omega) (hbits.trans hbits'.symm)
  obtain rfl : pads = pads' := by omega
  rfl

/-! ## The writer keeps to it -/

/-- A byte is cut where a digit ends. -/
theorem bits_byte (k : Nat) (hk : k ≤ 8) (n : Nat) :
    bits 8 n = bits (8 - k) (n / 2 ^ k) ++ bits k (n % 2 ^ k) := by
  rw [← bits_append _ _ _ _ (Nat.mod_lt n (Nat.two_pow_pos k)), Nat.sub_add_cancel hk,
    Nat.div_add_mod']

/-- A digit takes the end of one byte and the start of the next. -/
theorem bits_across (k : Nat) (hk : k ≤ 6) (n m : Nat) (hm : m < 2 ^ k) :
    bits 6 (n * 2 ^ k + m) = bits (6 - k) n ++ bits k m := by
  rw [← bits_append _ _ _ _ hm, Nat.sub_add_cancel hk]

/-- The last digit is filled up with zeros. -/
theorem bits_filled (k : Nat) (hk : k ≤ 6) (n : Nat) :
    bits 6 (n * 2 ^ k) = bits (6 - k) n ++ List.replicate k 0 := by
  rw [← bits_zero, ← bits_across k hk n 0 (Nat.two_pow_pos k), Nat.add_zero]

theorem bits_one (a : Nat) :
    bits 6 (a / 4) ++ bits 6 (a % 4 * 16) = bits 8 a ++ List.replicate 4 0 := by
  have ha : bits 8 a = bits 6 (a / 4) ++ bits 2 (a % 4) := bits_byte 2 (by decide) a
  have hq : bits 6 (a % 4 * 16) = bits 2 (a % 4) ++ List.replicate 4 0 :=
    bits_filled 4 (by decide) (a % 4)
  rw [ha, hq, List.append_assoc]

theorem bits_two (a : Nat) {b : Nat} (hb : b < 256) :
    bits 6 (a / 4) ++ (bits 6 (a % 4 * 16 + b / 16) ++ bits 6 (b % 16 * 4)) =
      bits 8 a ++ (bits 8 b ++ List.replicate 2 0) := by
  have ha : bits 8 a = bits 6 (a / 4) ++ bits 2 (a % 4) := bits_byte 2 (by decide) a
  have hb' : bits 8 b = bits 4 (b / 16) ++ bits 4 (b % 16) := bits_byte 4 (by decide) b
  have hq : bits 6 (a % 4 * 16 + b / 16) = bits 2 (a % 4) ++ bits 4 (b / 16) :=
    bits_across 4 (by decide) (a % 4) (b / 16) (by omega)
  have hr : bits 6 (b % 16 * 4) = bits 4 (b % 16) ++ List.replicate 2 0 :=
    bits_filled 2 (by decide) (b % 16)
  rw [ha, hb', hq, hr]
  simp only [List.append_assoc]

theorem bits_three (a : Nat) {b c : Nat} (hb : b < 256) (hc : c < 256) :
    bits 6 (a / 4) ++ (bits 6 (a % 4 * 16 + b / 16) ++ (bits 6 (b % 16 * 4 + c / 64)
      ++ bits 6 (c % 64))) = bits 8 a ++ (bits 8 b ++ bits 8 c) := by
  have ha : bits 8 a = bits 6 (a / 4) ++ bits 2 (a % 4) := bits_byte 2 (by decide) a
  have hb' : bits 8 b = bits 4 (b / 16) ++ bits 4 (b % 16) := bits_byte 4 (by decide) b
  have hc' : bits 8 c = bits 2 (c / 64) ++ bits 6 (c % 64) := bits_byte 6 (by decide) c
  have hq : bits 6 (a % 4 * 16 + b / 16) = bits 2 (a % 4) ++ bits 4 (b / 16) :=
    bits_across 4 (by decide) (a % 4) (b / 16) (by omega)
  have hr : bits 6 (b % 16 * 4 + c / 64) = bits 4 (b % 16) ++ bits 2 (c / 64) :=
    bits_across 2 (by decide) (b % 16) (c / 64) (by omega)
  rw [ha, hb', hc', hq, hr]
  simp only [List.append_assoc]

theorem bits_digit {n : Nat} (h : n < 64) :
    bits 6 (alphabet.idxOf (Base64.digit n)) = bits 6 n := by rw [idxOf_digit h]

theorem isBase64_write (bytes : List UInt8) : IsBase64 (Base64.write bytes) bytes := by
  fun_induction Base64.write bytes with
  | case1 => exact ⟨[], 0, 0, rfl, List.forall_mem_nil _, rfl, by decide, by decide, by decide⟩
  | case2 a =>
      have ha := a.toNat_lt
      have hp : a.toNat / 4 < 64 := by omega
      have hq : a.toNat % 4 * 16 < 64 := by omega
      refine ⟨[Base64.digit (a.toNat / 4), Base64.digit (a.toNat % 4 * 16)], 4, 2, rfl, ?_, ?_,
        by decide, by decide, ⟨1, rfl⟩⟩
      · simp only [List.forall_mem_cons]
        exact ⟨digit_mem hp, digit_mem hq, List.forall_mem_nil _⟩
      · simp only [List.flatMap_cons, List.flatMap_nil, List.append_nil, bits_digit hp,
          bits_digit hq]
        exact bits_one a.toNat
  | case3 a b =>
      have ha := a.toNat_lt
      have hb := b.toNat_lt
      have hp : a.toNat / 4 < 64 := by omega
      have hq : a.toNat % 4 * 16 + b.toNat / 16 < 64 := by omega
      have hr : b.toNat % 16 * 4 < 64 := by omega
      refine ⟨[Base64.digit (a.toNat / 4), Base64.digit (a.toNat % 4 * 16 + b.toNat / 16),
        Base64.digit (b.toNat % 16 * 4)], 2, 1, rfl, ?_, ?_, by decide, by decide, ⟨1, rfl⟩⟩
      · simp only [List.forall_mem_cons]
        exact ⟨digit_mem hp, digit_mem hq, digit_mem hr, List.forall_mem_nil _⟩
      · simp only [List.flatMap_cons, List.flatMap_nil, List.append_nil, List.append_assoc,
          bits_digit hp, bits_digit hq, bits_digit hr]
        exact bits_two a.toNat hb
  | case4 a b c rest ih =>
      obtain ⟨digits, fill, pads, htext, hdigits, hbits, hfill, hpads, hgroups⟩ := ih
      have ha := a.toNat_lt
      have hb := b.toNat_lt
      have hc := c.toNat_lt
      have hp : a.toNat / 4 < 64 := by omega
      have hq : a.toNat % 4 * 16 + b.toNat / 16 < 64 := by omega
      have hr : b.toNat % 16 * 4 + c.toNat / 64 < 64 := by omega
      have hs : c.toNat % 64 < 64 := by omega
      refine ⟨Base64.digit (a.toNat / 4) :: Base64.digit (a.toNat % 4 * 16 + b.toNat / 16)
        :: Base64.digit (b.toNat % 16 * 4 + c.toNat / 64) :: Base64.digit (c.toNat % 64) :: digits,
        fill, pads, ?_, ?_, ?_, hfill, hpads, ?_⟩
      · rw [htext]
        rfl
      · simp only [List.forall_mem_cons]
        exact ⟨digit_mem hp, digit_mem hq, digit_mem hr, digit_mem hs, hdigits⟩
      · simp only [List.flatMap_cons, hbits, bits_digit hp, bits_digit hq, bits_digit hr,
          bits_digit hs, List.append_assoc]
        have hgroup := bits_three a.toNat hb hc
        simp only [← List.append_assoc] at hgroup ⊢
        rw [hgroup]
      · simp only [List.length_cons]
        omega

/-- The rule tells the texts that are written. -/
theorem isBase64_iff {text : List Char} {bytes : List UInt8} :
    IsBase64 text bytes ↔ text = Base64.write bytes :=
  ⟨fun h => h.unique (isBase64_write bytes), fun h => h ▸ isBase64_write bytes⟩

/-- A text is that of one row of bytes at most. -/
theorem IsBase64.bytes_unique {text : List Char} {bytes bytes' : List UInt8}
    (h : IsBase64 text bytes) (h' : IsBase64 text bytes') : bytes = bytes' := by
  rw [isBase64_iff, ← Base64.read?_eq_some_iff] at h h'
  exact Option.some.inj (h.symm.trans h')

/-! ## What is no Base64 -/

/-- A text that is nothing in standard Base64. -/
inductive Garbled (text : List Char) : Prop
  /-- A character is neither a digit nor padding. -/
  | foreign {c : Char} : c ∈ text → c ∉ alphabet → c ≠ '=' → Garbled text
  /-- The characters do not make whole groups, as padding is missing or there is too much. -/
  | uneven : ¬ 4 ∣ text.length → Garbled text
  /-- Padding is not followed by one more padding at most. -/
  | misplaced {before after : List Char} : text = before ++ '=' :: after → after ≠ [] →
      after ≠ ['='] → Garbled text
  /-- The last digit has bits left over that are not zeros, two for each padding. -/
  | spare {before : List Char} {c : Char} {pads : Nat} :
      text = before ++ c :: List.replicate pads '=' → c ∈ alphabet →
      ¬ 4 ^ pads ∣ alphabet.idxOf c → Garbled text

theorem value?_of_mem {c : Char} (h : c ∈ alphabet) :
    Base64.value? c = some (alphabet.idxOf c) := by
  obtain ⟨n, hn, rfl⟩ := exists_digit h
  rw [idxOf_digit hn, Base64.value?_digit hn]

theorem value?_eq_some {c : Char} {n : Nat} (h : Base64.value? c = some n) :
    c ∈ alphabet ∧ alphabet.idxOf c = n := by
  obtain ⟨hn, rfl⟩ := Base64.digit_of_value? h
  exact ⟨digit_mem hn, idxOf_digit hn⟩

/-- A character that is no digit does harm, unless it is padding that ends the text. -/
theorem garbled_of_value? (before after : List Char) {c : Char} (h : Base64.value? c = none)
    (hplace : c = '=' → after ≠ [] ∧ after ≠ ['=']) : Garbled (before ++ c :: after) := by
  by_cases hpad : c = '='
  · subst hpad
    exact .misplaced rfl (hplace rfl).1 (hplace rfl).2
  · have hdigit : c ∉ alphabet := by
      intro hmem
      rw [value?_of_mem hmem] at h
      exact nomatch h
    exact .foreign (List.mem_append_right before List.mem_cons_self) hdigit hpad

/-- Whole groups in front make no difference. -/
theorem Garbled.behind {text : List Char} (front : List Char) (hfront : 4 ∣ front.length)
    (h : Garbled text) : Garbled (front ++ text) := by
  cases h with
  | foreign hmem hdigit hpad => exact .foreign (List.mem_append_right front hmem) hdigit hpad
  | uneven hlength =>
      refine .uneven ?_
      rw [List.length_append, Nat.dvd_add_right hfront]
      exact hlength
  | @misplaced before after htext hne hne' =>
      have hsplit : front ++ text = (front ++ before) ++ '=' :: after := by
        rw [htext, List.append_assoc]
      exact .misplaced hsplit hne hne'
  | @spare before c pads htext hdigit hbits =>
      have hsplit : front ++ text = (front ++ before) ++ c :: List.replicate pads '=' := by
        rw [htext, List.append_assoc]
      exact .spare hsplit hdigit hbits

theorem garbled_of_oneByte? {p q : Char} {m n : Nat} (hq : Base64.value? q = some n)
    (h : Base64.oneByte? m n = none) : Garbled [p, q, '=', '='] := by
  unfold Base64.oneByte? at h
  split at h
  · exact nomatch h
  · rename_i hbits
    obtain ⟨hdigit, hvalue⟩ := value?_eq_some hq
    refine @Garbled.spare _ [p] q 2 rfl hdigit ?_
    rw [hvalue]
    omega

theorem garbled_of_twoBytes? {p q r : Char} {m n k : Nat} (hr : Base64.value? r = some k)
    (h : Base64.twoBytes? m n k = none) : Garbled [p, q, r, '='] := by
  unfold Base64.twoBytes? at h
  split at h
  · exact nomatch h
  · rename_i hbits
    obtain ⟨hdigit, hvalue⟩ := value?_eq_some hr
    refine @Garbled.spare _ [p, q] r 1 rfl hdigit ?_
    rw [hvalue]
    omega

/-- A text that cannot be read has a reason, found where reading stops. -/
theorem garbled_of_read? {text : List Char} (h : Base64.read? text = none) : Garbled text := by
  by_cases hgroups : 4 ∣ text.length
  · fun_induction Base64.read? text with
    | case1 => exact absurd h (Option.some_ne_none [])
    | case2 p q =>
        rcases hp : Base64.value? p with _ | m
        · exact garbled_of_value? [] _ hp (by simp)
        rcases hq : Base64.value? q with _ | n
        · exact garbled_of_value? [p] _ hq (by simp)
        rw [hp, hq] at h
        exact garbled_of_oneByte? hq h
    | case3 p q r hpad =>
        rcases hp : Base64.value? p with _ | m
        · exact garbled_of_value? [] _ hp (by simp)
        rcases hq : Base64.value? q with _ | n
        · exact garbled_of_value? [p] _ hq (by simp)
        rcases hr : Base64.value? r with _ | k
        · exact garbled_of_value? [p, q] _ hr (fun hpad' => absurd hpad' hpad)
        rw [hp, hq, hr] at h
        exact garbled_of_twoBytes? hr h
    | case4 p q r s rest _ hpad ih =>
        -- a full group, so the last of its characters is no padding that ends the text
        have hrest : 4 ∣ rest.length := by
          simp only [List.length_cons] at hgroups
          omega
        rcases hp : Base64.value? p with _ | m
        · exact garbled_of_value? [] _ hp (by simp)
        rcases hq : Base64.value? q with _ | n
        · exact garbled_of_value? [p] _ hq (by simp)
        rcases hr : Base64.value? r with _ | k
        · refine garbled_of_value? [p, q] _ hr (fun _ => ⟨by simp, ?_⟩)
          intro hlast
          obtain ⟨hs, hnil⟩ := List.cons.inj hlast
          exact hpad hs hnil
        rcases hs : Base64.value? s with _ | l
        · refine garbled_of_value? [p, q, r] _ hs (fun hs => ⟨hpad hs, ?_⟩)
          intro hlast
          rw [hlast] at hrest
          exact absurd hrest (by decide)
        have hnone : Base64.read? rest = none := by
          cases hbytes : Base64.read? rest with
          | none => rfl
          | some bytes =>
              rw [hp, hq, hr, hs, hbytes] at h
              exact absurd h (Option.some_ne_none _)
        exact (ih hnone hrest).behind [p, q, r, s] ⟨1, rfl⟩
    | case5 cs hnil _ _ hlong =>
        rcases cs with _ | ⟨p, _ | ⟨q, _ | ⟨r, _ | ⟨s, rest⟩⟩⟩⟩
        · exact absurd rfl hnil
        · exact absurd hgroups (by simp)
        · exact absurd hgroups (by simp)
        · exact absurd hgroups (by simp)
        · exact absurd rfl (hlong p q r s rest)
  · exact .uneven hgroups

/-- The bits that are filled up come to two for each padding. -/
theorem fill_eq {digits bytes fill pads : Nat} (hbits : 6 * digits = 8 * bytes + fill)
    (hfill : fill < 6) (hpads : pads < 4) (hgroups : 4 ∣ digits + pads) :
    fill = 2 * pads ∧ pads ≤ 2 := by
  omega

section Padding

variable {digits before after : List Char} {pads : Nat}

/-- Behind padding there is less padding. -/
theorem behind_padding (h : '=' ∉ digits)
    (hsplit : digits ++ List.replicate pads '=' = before ++ '=' :: after) :
    ∃ k < pads, after = List.replicate k '=' := by
  rcases List.append_eq_append_iff.mp hsplit with ⟨front, _, hpads⟩ | ⟨back, hdigits, hback⟩
  · obtain ⟨hlength, _, hafter⟩ := List.append_eq_replicate_iff.mp hpads.symm
    rw [List.length_cons] at hlength hafter
    exact ⟨after.length, by omega, (List.cons.inj hafter).2⟩
  · cases back with
    | nil =>
        obtain ⟨hlength, hafter⟩ := List.eq_replicate_iff.mp hback
        rw [List.length_cons] at hlength
        have hall := List.eq_replicate_of_mem (fun c hc => hafter c (List.mem_cons_of_mem _ hc))
        exact ⟨after.length, by omega, hall⟩
    | cons c back =>
        -- the padding would be a digit
        obtain ⟨rfl, _⟩ := List.cons.inj hback
        exact absurd (hdigits ▸ List.mem_append_right before List.mem_cons_self) h

/-- In front of all padding is the last digit. -/
theorem last_digit {c : Char} {k : Nat} (h : '=' ∉ digits) (hc : c ≠ '=')
    (hsplit : digits ++ List.replicate pads '=' = before ++ c :: List.replicate k '=') :
    digits = before ++ [c] ∧ pads = k := by
  rcases List.append_eq_append_iff.mp hsplit with ⟨front, _, hpads⟩ | ⟨back, hdigits, hback⟩
  · have hmem : c ∈ List.replicate pads '=' :=
      hpads ▸ List.mem_append_right front List.mem_cons_self
    exact absurd (List.eq_of_mem_replicate hmem) hc
  · cases back with
    | nil =>
        have hmem : c ∈ List.replicate pads '=' := by
          rw [List.nil_append] at hback
          exact hback ▸ List.mem_cons_self
        exact absurd (List.eq_of_mem_replicate hmem) hc
    | cons d back =>
        obtain ⟨rfl, htail⟩ := List.cons.inj hback
        obtain ⟨hlength, hnone, _⟩ := List.append_eq_replicate_iff.mp htail.symm
        cases back with
        | nil =>
            rw [List.length_nil, List.length_replicate, Nat.zero_add] at hlength
            exact ⟨hdigits, hlength⟩
        | cons d back =>
            obtain ⟨rfl, _⟩ := List.cons.inj hnone
            have hmem : '=' ∈ before ++ c :: '=' :: back := by simp
            exact absurd (hdigits ▸ hmem) h

end Padding

/-- What is garbled is no text of any bytes. -/
theorem Garbled.not_isBase64 {text : List Char} {bytes : List UInt8} (h : Garbled text) :
    ¬ IsBase64 text bytes := by
  intro hbase
  obtain ⟨digits, fill, pads, htext, hdigits, hbits, hfill, hpads, hgroups⟩ := hbase
  have hlength := congrArg List.length hbits
  simp only [length_flatMap_bits, List.length_append, List.length_replicate] at hlength
  obtain ⟨hfill, hpads⟩ := fill_eq hlength hfill hpads hgroups
  have hnopad : '=' ∉ digits := fun hmem => pad_not_mem (hdigits _ hmem)
  cases h with
  | foreign hmem hdigit hpad =>
      rw [htext, List.mem_append, List.mem_replicate] at hmem
      rcases hmem with hmem | hmem
      · exact hdigit (hdigits _ hmem)
      · exact hpad hmem.2
  | uneven hlength =>
      rw [htext, List.length_append, List.length_replicate] at hlength
      exact hlength hgroups
  | misplaced hsplit hne hne' =>
      obtain ⟨k, hk, hafter⟩ := behind_padding hnopad (htext.symm.trans hsplit)
      have hcases : k = 0 ∨ k = 1 := by omega
      rcases hcases with rfl | rfl
      · exact hne hafter
      · exact hne' hafter
  | @spare before c k hsplit hdigit hvalue =>
      have hc : c ≠ '=' := fun hpad => pad_not_mem (hpad ▸ hdigit)
      obtain ⟨rfl, rfl⟩ := last_digit hnopad hc (htext.symm.trans hsplit)
      rw [List.flatMap_append, List.flatMap_singleton] at hbits
      rcases List.append_eq_append_iff.mp hbits with ⟨high, _, hlast⟩ | ⟨low, _, hlast⟩
      · refine hvalue ?_
        have hpow := two_pow_dvd_of_bits hlast
        rwa [hfill, pow_mul] at hpow
      · -- the zeros would take more than the last digit
        have hlong := congrArg List.length hlast
        rw [List.length_replicate, List.length_append, length_bits] at hlong
        omega

/-- A text is not read if it is garbled, and for no other reason. -/
theorem read?_eq_none_iff_garbled {text : List Char} :
    Base64.read? text = none ↔ Garbled text := by
  refine ⟨garbled_of_read?, ?_⟩
  intro h
  cases hbytes : Base64.read? text with
  | none => rfl
  | some bytes =>
      have hwritten := isBase64_iff.mpr (Base64.read?_eq_some_iff.mp hbytes)
      exact absurd hwritten h.not_isBase64

end Gatehouse.Proofs

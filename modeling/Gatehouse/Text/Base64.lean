/-!
# Base64

The standard alphabet with canonical padding: three bytes are four digits, and a
last group of one or two bytes is padded with `=` to four. The reader accepts
nothing but what the writer produces. In particular it refuses missing padding,
white space, and a last digit whose spare bits are not zero, so that no two texts
spell the same bytes.
-/

namespace Gatehouse.Text.Base64

/-- The digit of value `n`, for `n` below 64. -/
def digit (n : Nat) : Char :=
  if n < 26 then Char.ofNat (0x41 + n)
  else if n < 52 then Char.ofNat (0x61 + (n - 26))
  else if n < 62 then Char.ofNat (0x30 + (n - 52))
  else if n = 62 then '+'
  else '/'

/-- The value of a digit. -/
def value? (c : Char) : Option Nat :=
  let n := c.toNat
  if 0x41 ≤ n ∧ n ≤ 0x5A then some (n - 0x41)
  else if 0x61 ≤ n ∧ n ≤ 0x7A then some (n - 0x61 + 26)
  else if 0x30 ≤ n ∧ n ≤ 0x39 then some (n - 0x30 + 52)
  else if c = '+' then some 62
  else if c = '/' then some 63
  else none

/-- The Base64 text of `bytes`. -/
def write : List UInt8 → List Char
  | [] => []
  | [a] =>
    [digit (a.toNat / 4), digit (a.toNat % 4 * 16), '=', '=']
  | [a, b] =>
    [digit (a.toNat / 4), digit (a.toNat % 4 * 16 + b.toNat / 16), digit (b.toNat % 16 * 4), '=']
  | a :: b :: c :: rest =>
    digit (a.toNat / 4) :: digit (a.toNat % 4 * 16 + b.toNat / 16)
      :: digit (b.toNat % 16 * 4 + c.toNat / 64) :: digit (c.toNat % 64) :: write rest

/-- The byte of a last group of two digits; the four spare bits are zero. -/
def oneByte? (p q : Nat) : Option (List UInt8) :=
  if q % 16 = 0 then some [UInt8.ofNat (p * 4 + q / 16)] else none

/-- The bytes of a last group of three digits; the two spare bits are zero. -/
def twoBytes? (p q r : Nat) : Option (List UInt8) :=
  if r % 4 = 0 then
    some [UInt8.ofNat (p * 4 + q / 16), UInt8.ofNat (q % 16 * 16 + r / 4)]
  else none

/-- The bytes of a full group of four digits. -/
def threeBytes (p q r s : Nat) : List UInt8 :=
  [UInt8.ofNat (p * 4 + q / 16), UInt8.ofNat (q % 16 * 16 + r / 4), UInt8.ofNat (r % 4 * 64 + s)]

/-- The bytes whose Base64 text this is. -/
def read? : List Char → Option (List UInt8)
  | [] => some []
  | [p, q, '=', '='] => do oneByte? (← value? p) (← value? q)
  | [p, q, r, '='] => do twoBytes? (← value? p) (← value? q) (← value? r)
  | p :: q :: r :: s :: rest => do
    let group := threeBytes (← value? p) (← value? q) (← value? r) (← value? s)
    return group ++ (← read? rest)
  | _ => none

/-! ## Reading accepts exactly what writing produces -/

theorem value?_digit {n : Nat} (h : n < 64) : value? (digit n) = some n := by
  have all : ∀ k : Fin 64, value? (digit k) = some k.val := by decide
  exact all ⟨n, h⟩

theorem digit_ne_pad {n : Nat} (h : n < 64) : digit n ≠ '=' := by
  have all : ∀ k : Fin 64, digit k ≠ '=' := by decide
  exact all ⟨n, h⟩

theorem ofNat_toNat_add {c : Char} {base : Nat} (h : base ≤ c.toNat) :
    Char.ofNat (base + (c.toNat - base)) = c := by
  rw [Nat.add_sub_cancel' h, Char.ofNat_toNat]

theorem digit_of_value? {c : Char} {n : Nat} (h : value? c = some n) : n < 64 ∧ digit n = c := by
  simp only [value?] at h
  split at h
  · rename_i hc
    obtain rfl := Option.some.inj h
    refine ⟨by omega, ?_⟩
    rw [digit, if_pos (by omega), ofNat_toNat_add hc.1]
  split at h
  · rename_i hc
    obtain rfl := Option.some.inj h
    refine ⟨by omega, ?_⟩
    rw [digit, if_neg (by omega), if_pos (by omega), Nat.add_sub_cancel, ofNat_toNat_add hc.1]
  split at h
  · rename_i hc
    obtain rfl := Option.some.inj h
    refine ⟨by omega, ?_⟩
    rw [digit, if_neg (by omega), if_neg (by omega), if_pos (by omega), Nat.add_sub_cancel,
      ofNat_toNat_add hc.1]
  split at h
  · rename_i hc
    obtain rfl := Option.some.inj h
    exact ⟨by decide, hc ▸ rfl⟩
  split at h
  · rename_i hc
    obtain rfl := Option.some.inj h
    exact ⟨by decide, hc ▸ rfl⟩
  · exact absurd h (by simp)

/-- A group whose last digit is no padding is a full one. -/
theorem read?_group {p q r s : Char} (rest : List Char) (h : s ≠ '=') :
    read? (p :: q :: r :: s :: rest) = (do
      let group := threeBytes (← value? p) (← value? q) (← value? r) (← value? s)
      return group ++ (← read? rest)) := by
  rw [read?] <;> simp [h]

/-- A group of three digits and one padding. -/
theorem read?_pad {p q r : Char} (h : r ≠ '=') :
    read? [p, q, r, '='] = (do twoBytes? (← value? p) (← value? q) (← value? r)) := by
  rw [read?]; simp [h]

theorem ofNat_eq {n : Nat} {b : UInt8} (h : n = b.toNat) : UInt8.ofNat n = b := by
  subst h; simp

theorem oneByte?_write (a : UInt8) : oneByte? (a.toNat / 4) (a.toNat % 4 * 16) = some [a] := by
  have ha := ofNat_eq (show a.toNat / 4 * 4 + a.toNat % 4 * 16 / 16 = a.toNat by omega)
  rw [oneByte?, if_pos (by omega), ha]

theorem twoBytes?_write (a b : UInt8) :
    twoBytes? (a.toNat / 4) (a.toNat % 4 * 16 + b.toNat / 16) (b.toNat % 16 * 4)
      = some [a, b] := by
  have lt := b.toNat_lt
  have ha := ofNat_eq
    (show a.toNat / 4 * 4 + (a.toNat % 4 * 16 + b.toNat / 16) / 16 = a.toNat by omega)
  have hb := ofNat_eq
    (show (a.toNat % 4 * 16 + b.toNat / 16) % 16 * 16 + b.toNat % 16 * 4 / 4 = b.toNat by omega)
  rw [twoBytes?, if_pos (by omega), ha, hb]

theorem threeBytes_write (a b c : UInt8) :
    threeBytes (a.toNat / 4) (a.toNat % 4 * 16 + b.toNat / 16) (b.toNat % 16 * 4 + c.toNat / 64)
      (c.toNat % 64) = [a, b, c] := by
  have ltb := b.toNat_lt
  have ltc := c.toNat_lt
  have ha := ofNat_eq
    (show a.toNat / 4 * 4 + (a.toNat % 4 * 16 + b.toNat / 16) / 16 = a.toNat by omega)
  have hb := ofNat_eq
    (show (a.toNat % 4 * 16 + b.toNat / 16) % 16 * 16 + (b.toNat % 16 * 4 + c.toNat / 64) / 4
      = b.toNat by omega)
  have hc := ofNat_eq
    (show (b.toNat % 16 * 4 + c.toNat / 64) % 4 * 64 + c.toNat % 64 = c.toNat by omega)
  rw [threeBytes, ha, hb, hc]

/-- What is written reads back. -/
theorem read?_write (bytes : List UInt8) : read? (write bytes) = some bytes := by
  fun_induction write bytes with
  | case1 => rfl
  | case2 a =>
    have lta := a.toNat_lt
    have hp := value?_digit (show a.toNat / 4 < 64 by omega)
    have hq := value?_digit (show a.toNat % 4 * 16 < 64 by omega)
    simp only [read?, hp, hq, Option.bind_eq_bind, Option.bind_some, oneByte?_write]
  | case3 a b =>
    have lta := a.toNat_lt
    have ltb := b.toNat_lt
    have hp := value?_digit (show a.toNat / 4 < 64 by omega)
    have hq := value?_digit (show a.toNat % 4 * 16 + b.toNat / 16 < 64 by omega)
    have hr := value?_digit (show b.toNat % 16 * 4 < 64 by omega)
    rw [read?_pad (digit_ne_pad (by omega))]
    simp only [hp, hq, hr, Option.bind_eq_bind, Option.bind_some, twoBytes?_write]
  | case4 a b c rest ih =>
    have lta := a.toNat_lt
    have ltb := b.toNat_lt
    have ltc := c.toNat_lt
    have hp := value?_digit (show a.toNat / 4 < 64 by omega)
    have hq := value?_digit (show a.toNat % 4 * 16 + b.toNat / 16 < 64 by omega)
    have hr := value?_digit (show b.toNat % 16 * 4 + c.toNat / 64 < 64 by omega)
    have hs := value?_digit (show c.toNat % 64 < 64 by omega)
    rw [read?_group _ (digit_ne_pad (by omega))]
    simp only [hp, hq, hr, hs, ih, Option.bind_eq_bind, Option.bind_some, threeBytes_write]
    rfl

theorem write_threeBytes {p q r s : Nat} (hp : p < 64) (hq : q < 64) (hr : r < 64) (hs : s < 64)
    (bytes : List UInt8) :
    write (threeBytes p q r s ++ bytes) = digit p :: digit q :: digit r :: digit s :: write bytes := by
  have e₁ : p * 4 + q / 16 < 256 := by omega
  have e₂ : q % 16 * 16 + r / 4 < 256 := by omega
  have e₃ : r % 4 * 64 + s < 256 := by omega
  simp only [threeBytes, List.cons_append, List.nil_append, write, UInt8.toNat_ofNat',
    Nat.mod_eq_of_lt e₁, Nat.mod_eq_of_lt e₂, Nat.mod_eq_of_lt e₃]
  have h₁ : (p * 4 + q / 16) / 4 = p := by omega
  have h₂ : (p * 4 + q / 16) % 4 * 16 + (q % 16 * 16 + r / 4) / 16 = q := by omega
  have h₃ : (q % 16 * 16 + r / 4) % 16 * 4 + (r % 4 * 64 + s) / 64 = r := by omega
  have h₄ : (r % 4 * 64 + s) % 64 = s := by omega
  rw [h₁, h₂, h₃, h₄]

theorem write_of_oneByte? {p q : Nat} {bytes : List UInt8} (hp : p < 64) (hq : q < 64)
    (h : oneByte? p q = some bytes) : write bytes = [digit p, digit q, '=', '='] := by
  rw [oneByte?] at h
  split at h
  · obtain rfl := Option.some.inj h
    have e : p * 4 + q / 16 < 256 := by omega
    have h₁ : (p * 4 + q / 16) / 4 = p := by omega
    have h₂ : (p * 4 + q / 16) % 4 * 16 = q := by omega
    simp only [write, UInt8.toNat_ofNat', Nat.mod_eq_of_lt e, h₁, h₂]
  · exact absurd h (by simp)

theorem write_of_twoBytes? {p q r : Nat} {bytes : List UInt8} (hp : p < 64) (hq : q < 64)
    (hr : r < 64) (h : twoBytes? p q r = some bytes) :
    write bytes = [digit p, digit q, digit r, '='] := by
  rw [twoBytes?] at h
  split at h
  · obtain rfl := Option.some.inj h
    have e₁ : p * 4 + q / 16 < 256 := by omega
    have e₂ : q % 16 * 16 + r / 4 < 256 := by omega
    have h₁ : (p * 4 + q / 16) / 4 = p := by omega
    have h₂ : (p * 4 + q / 16) % 4 * 16 + (q % 16 * 16 + r / 4) / 16 = q := by omega
    have h₃ : (q % 16 * 16 + r / 4) % 16 * 4 = r := by omega
    simp only [write, UInt8.toNat_ofNat', Nat.mod_eq_of_lt e₁, Nat.mod_eq_of_lt e₂, h₁, h₂, h₃]
  · exact absurd h (by simp)

/-- Only what is written is read. -/
theorem write_of_read? {cs : List Char} {bytes : List UInt8} (h : read? cs = some bytes) :
    write bytes = cs := by
  fun_induction read? cs generalizing bytes with
  | case1 => obtain rfl := Option.some.inj h; rfl
  | case2 p q =>
    -- two digits and two signs of padding
    simp only [Option.bind_eq_bind, Option.bind_eq_some_iff] at h
    obtain ⟨vp, hp, vq, hq, h⟩ := h
    obtain ⟨lp, rfl⟩ := digit_of_value? hp
    obtain ⟨lq, rfl⟩ := digit_of_value? hq
    exact write_of_oneByte? lp lq h
  | case3 p q r =>
    -- three digits and one sign of padding
    simp only [Option.bind_eq_bind, Option.bind_eq_some_iff] at h
    obtain ⟨vp, hp, vq, hq, vr, hr, h⟩ := h
    obtain ⟨lp, rfl⟩ := digit_of_value? hp
    obtain ⟨lq, rfl⟩ := digit_of_value? hq
    obtain ⟨lr, rfl⟩ := digit_of_value? hr
    exact write_of_twoBytes? lp lq lr h
  | case4 p q r s rest _ _ ih =>
    simp only [Option.bind_eq_bind, Option.bind_eq_some_iff, Option.pure_def, Option.some.injEq] at h
    obtain ⟨vp, hp, vq, hq, vr, hr, vs, hs, tail, ht, rfl⟩ := h
    obtain ⟨lp, rfl⟩ := digit_of_value? hp
    obtain ⟨lq, rfl⟩ := digit_of_value? hq
    obtain ⟨lr, rfl⟩ := digit_of_value? hr
    obtain ⟨ls, rfl⟩ := digit_of_value? hs
    rw [write_threeBytes lp lq lr ls, ih ht]
  | case5 => exact absurd h (by simp)

/-- Each byte list has one Base64 text, and that text is all that reads as it. -/
theorem read?_eq_some_iff {cs : List Char} {bytes : List UInt8} :
    read? cs = some bytes ↔ cs = write bytes :=
  ⟨fun h => (write_of_read? h).symm, fun h => h ▸ read?_write bytes⟩

end Gatehouse.Text.Base64

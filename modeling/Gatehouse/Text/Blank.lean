/-!
# Blank characters and trimming

Settings and credentials are written by hand, so white space around a field never
counts. What is white is decided by Unicode's `White_Space` property, which is a
finite table; the zero-width space and the byte order mark are not in it, and
neither are the ASCII separators `0x1C` to `0x1F`.

`trim` cuts blanks at both ends and leaves the ones inside alone. `Trimmed` says
that there is nothing to cut, and `trim_eq_self_iff` that the two agree.
-/

namespace Gatehouse.Text

/-- Unicode's `White_Space` property. -/
def isBlank (c : Char) : Bool :=
  let n := c.toNat
  (0x09 ≤ n && n ≤ 0x0D) || n == 0x20 || n == 0x85 || n == 0xA0 || n == 0x1680
    || (0x2000 ≤ n && n ≤ 0x200A) || n == 0x2028 || n == 0x2029 || n == 0x202F
    || n == 0x205F || n == 0x3000

/-- The text without the blanks it starts with. -/
def trimStart (cs : List Char) : List Char := cs.dropWhile isBlank

/-- The text without the blanks it ends with. -/
def trimEnd (cs : List Char) : List Char := (cs.reverse.dropWhile isBlank).reverse

/-- The text without the blanks around it. -/
def trim (cs : List Char) : List Char := trimEnd (trimStart cs)

/-- `trim` on strings. -/
def trimString (s : String) : String := String.ofList (trim s.toList)

/-- No blank at either end. -/
def Trimmed (cs : List Char) : Prop :=
  (∀ c ∈ cs.head?, isBlank c = false) ∧ (∀ c ∈ cs.getLast?, isBlank c = false)

instance (cs : List Char) : Decidable (Trimmed cs) :=
  @instDecidableAnd _ _ (Option.decidableForallMem cs.head?) (Option.decidableForallMem cs.getLast?)

/-! ## Trimming cuts exactly the blanks at the ends -/

theorem dropWhile_eq_self_of_head {p : Char → Bool} {cs : List Char}
    (h : ∀ c ∈ cs.head?, p c = false) : cs.dropWhile p = cs := by
  cases cs with
  | nil => rfl
  | cons c cs => simp [List.dropWhile, h c (by simp)]

theorem head_dropWhile {p : Char → Bool} {cs : List Char} :
    ∀ c ∈ (cs.dropWhile p).head?, p c = false := by
  induction cs with
  | nil => simp
  | cons d cs ih =>
    intro c hc
    cases hd : p d with
    | true => exact ih c (by simpa [List.dropWhile, hd] using hc)
    | false =>
      have : d = c := by simpa [List.dropWhile, hd] using hc
      exact this ▸ hd

theorem trimStart_append_of_blank {ws cs : List Char} (h : ∀ c ∈ ws, isBlank c = true) :
    trimStart (ws ++ cs) = trimStart cs := by
  induction ws with
  | nil => rfl
  | cons w ws ih =>
    have hw := h w (by simp)
    have ih := ih (fun c hc => h c (by simp [hc]))
    simpa [trimStart, List.dropWhile, hw] using ih

theorem trimEnd_append_of_blank {ws cs : List Char} (h : ∀ c ∈ ws, isBlank c = true) :
    trimEnd (cs ++ ws) = trimEnd cs := by
  have : trimStart (ws.reverse ++ cs.reverse) = trimStart cs.reverse :=
    trimStart_append_of_blank (by simpa using h)
  simpa [trimEnd, trimStart] using this

theorem trimEnd_eq_self {cs : List Char} (h : ∀ c ∈ cs.getLast?, isBlank c = false) :
    trimEnd cs = cs := by
  have : cs.reverse.dropWhile isBlank = cs.reverse :=
    dropWhile_eq_self_of_head (by simpa using h)
  simp [trimEnd, this]

theorem trim_of_trimmed {cs : List Char} (h : Trimmed cs) : trim cs = cs := by
  have hs : trimStart cs = cs := dropWhile_eq_self_of_head h.1
  rw [trim, hs, trimEnd_eq_self h.2]

theorem getLast_trimEnd {cs : List Char} : ∀ c ∈ (trimEnd cs).getLast?, isBlank c = false := by
  intro c hc
  rw [trimEnd, List.getLast?_reverse] at hc
  exact head_dropWhile c hc

/-- What is cut at the end is blank. -/
theorem trimEnd_append (cs : List Char) :
    ∃ ws, (∀ c ∈ ws, isBlank c = true) ∧ cs = trimEnd cs ++ ws := by
  refine ⟨(cs.reverse.takeWhile isBlank).reverse, ?_, ?_⟩
  · intro c hc
    have all : (cs.reverse.takeWhile isBlank).all isBlank = true := List.all_takeWhile
    exact List.all_eq_true.1 all c (List.mem_reverse.1 hc)
  · rw [trimEnd, ← List.reverse_append, List.takeWhile_append_dropWhile, List.reverse_reverse]

/-- Trimming leaves no blank at either end. -/
theorem trimmed_trim (cs : List Char) : Trimmed (trim cs) := by
  refine ⟨?_, getLast_trimEnd⟩
  intro c hc
  obtain ⟨ws, -, h⟩ := trimEnd_append (trimStart cs)
  refine @head_dropWhile isBlank cs c ?_
  change c ∈ (trimStart cs).head?
  rw [h, List.head?_append]
  rw [trim] at hc
  simp [Option.mem_def.1 hc]

/-- A text is trimmed exactly when trimming changes nothing. -/
theorem trim_eq_self_iff {cs : List Char} : trim cs = cs ↔ Trimmed cs :=
  ⟨fun h => h ▸ trimmed_trim cs, trim_of_trimmed⟩

end Gatehouse.Text

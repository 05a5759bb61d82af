/-!
# Bounded decimal numbers

A number setting is an optional `+` and one or more ASCII digits, read exactly
and then held against a bound. Nothing wraps around: a text of any length is one
natural number, and it is refused when that number is too large. A minus sign is
refused even before a zero.
-/

namespace Gatehouse.Text

/-- The text without the `+` it may start with. -/
def dropPlus : List Char → List Char
  | '+' :: cs => cs
  | cs => cs

/-- The number that `cs` spells, if it spells one that is at most `bound`. -/
def readNat? (bound : Nat) (cs : List Char) : Option Nat :=
  let digits := dropPlus cs
  if !digits.isEmpty && digits.all Char.isDigit then
    let n := Nat.ofDigitChars 10 digits 0
    if n ≤ bound then some n else none
  else none

/-- A number is read exactly when it is spelled in digits and within the bound. -/
theorem readNat?_eq_some_iff {bound n : Nat} {cs : List Char} :
    readNat? bound cs = some n ↔
      dropPlus cs ≠ [] ∧ (∀ c ∈ dropPlus cs, c.isDigit = true) ∧
        Nat.ofDigitChars 10 (dropPlus cs) 0 = n ∧ n ≤ bound := by
  simp only [readNat?]
  split
  · rename_i h
    simp only [Bool.and_eq_true, Bool.not_eq_true', List.isEmpty_eq_false_iff, List.all_eq_true] at h
    split
    · rename_i hb
      simp only [Option.some.injEq]
      exact ⟨fun e => ⟨h.1, h.2, e, e ▸ hb⟩, fun e => e.2.2.1⟩
    · rename_i hb
      simp only [reduceCtorEq, false_iff, not_and]
      rintro - - rfl
      exact hb
  · rename_i h
    simp only [reduceCtorEq, false_iff, not_and]
    rintro h₁ h₂ -
    exact absurd (by simpa using ⟨h₁, h₂⟩) h

end Gatehouse.Text

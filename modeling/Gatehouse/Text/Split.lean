/-!
# Cutting a list at a separator

Fields are told apart by one separator each. A list of fields is core's
`List.splitOn`; this file adds the two cuts into a pair, at the first separator
and at the last one. Both are pinned down from either side: the parts and the
separator give the list back, and the part that was searched is free of it.
-/

namespace Gatehouse.Text

variable {α : Type} [DecidableEq α]

/-- What stands before and after the first `sep`. -/
def cutFirst (sep : α) : List α → Option (List α × List α)
  | [] => none
  | x :: xs =>
    if x = sep then some ([], xs)
    else (cutFirst sep xs).map (fun parts => (x :: parts.1, parts.2))

/-- What stands before and after the last `sep`. -/
def cutLast (sep : α) : List α → Option (List α × List α)
  | [] => none
  | x :: xs =>
    match cutLast sep xs with
    | some parts => some (x :: parts.1, parts.2)
    | none => if x = sep then some ([], xs) else none

/-! ## The parts determine the list, and the list its parts -/

theorem cutFirst_eq_none_iff {sep : α} {xs : List α} : cutFirst sep xs = none ↔ sep ∉ xs := by
  induction xs with
  | nil => simp [cutFirst]
  | cons x xs ih =>
    by_cases h : x = sep
    · simp [cutFirst, h]
    · simp [cutFirst, h, ih, Ne.symm h]

theorem cutFirst_append {sep : α} {before : List α} (h : sep ∉ before) (after : List α) :
    cutFirst sep (before ++ sep :: after) = some (before, after) := by
  induction before with
  | nil => simp [cutFirst]
  | cons x before ih =>
    have hx : x ≠ sep := fun e => h (by simp [e])
    simp [cutFirst, hx, ih (fun m => h (by simp [m]))]

theorem cutFirst_eq_some_iff {sep : α} {xs before after : List α} :
    cutFirst sep xs = some (before, after) ↔ xs = before ++ sep :: after ∧ sep ∉ before := by
  refine ⟨?_, fun h => h.1 ▸ cutFirst_append h.2 after⟩
  induction xs generalizing before with
  | nil => simp [cutFirst]
  | cons x xs ih =>
    by_cases h : x = sep
    · rintro he
      simp only [cutFirst, h, if_true, Option.some.injEq, Prod.mk.injEq] at he
      obtain ⟨rfl, rfl⟩ := he
      simp [h]
    · rintro he
      simp only [cutFirst, h, if_false, Option.map_eq_some_iff, Prod.mk.injEq] at he
      obtain ⟨⟨b, a⟩, hb, rfl, rfl⟩ := he
      obtain ⟨rfl, hn⟩ := ih hb
      exact ⟨rfl, by simp [Ne.symm h, hn]⟩

theorem cutLast_eq_none_iff {sep : α} {xs : List α} : cutLast sep xs = none ↔ sep ∉ xs := by
  induction xs with
  | nil => simp [cutLast]
  | cons x xs ih =>
    cases hc : cutLast sep xs with
    | some parts =>
      have hm : sep ∈ xs := Classical.byContradiction fun hn => by simp [ih.2 hn] at hc
      simp [cutLast, hc, hm]
    | none =>
      have hn := ih.1 hc
      by_cases h : x = sep
      · simp [cutLast, hc, h]
      · simp [cutLast, hc, h, hn, Ne.symm h]

theorem cutLast_append {sep : α} (before : List α) {after : List α} (h : sep ∉ after) :
    cutLast sep (before ++ sep :: after) = some (before, after) := by
  induction before with
  | nil => simp [cutLast, cutLast_eq_none_iff.2 h]
  | cons x before ih => simp [cutLast, ih]

theorem cutLast_eq_some_iff {sep : α} {xs before after : List α} :
    cutLast sep xs = some (before, after) ↔ xs = before ++ sep :: after ∧ sep ∉ after := by
  refine ⟨?_, fun h => h.1 ▸ cutLast_append before h.2⟩
  induction xs generalizing before with
  | nil => simp [cutLast]
  | cons x xs ih =>
    cases hc : cutLast sep xs with
    | some parts =>
      rintro he
      simp only [cutLast, hc, Option.some.injEq, Prod.mk.injEq] at he
      obtain ⟨rfl, rfl⟩ := he
      obtain ⟨hx, hn⟩ := ih hc
      exact ⟨by simp [hx], hn⟩
    | none =>
      by_cases h : x = sep
      · rintro he
        simp only [cutLast, hc, h, if_true, Option.some.injEq, Prod.mk.injEq] at he
        obtain ⟨rfl, rfl⟩ := he
        exact ⟨by simp [h], cutLast_eq_none_iff.1 hc⟩
      · simp [cutLast, hc, h]

/-! ## Pieces of a list -/

/-- The pieces between separators hold none. -/
theorem not_mem_of_mem_splitOn {sep : α} {xs piece : List α}
    (h : piece ∈ xs.splitOn sep) : sep ∉ piece := by
  induction xs generalizing piece with
  | nil =>
      rw [List.splitOn_nil] at h
      obtain rfl := List.mem_singleton.mp h
      exact List.not_mem_nil
  | cons x xs ih =>
      rw [List.splitOn_cons_eq_if_modifyHead] at h
      split at h
      · rcases List.mem_cons.mp h with rfl | h
        · exact List.not_mem_nil
        · exact ih h
      · rename_i hx
        cases hpieces : xs.splitOn sep with
        | nil =>
            rw [hpieces] at h
            exact absurd h List.not_mem_nil
        | cons first pieces =>
            rw [hpieces] at h ih
            rcases List.mem_cons.mp h with rfl | h
            · have hne : sep ≠ x := fun e => hx (beq_iff_eq.mpr e.symm)
              exact List.not_mem_cons_of_ne_of_not_mem hne (ih List.mem_cons_self)
            · exact ih (List.mem_cons_of_mem first h)

/-- Pieces are found again. If there are none, an empty one is found, which does not count. -/
theorem filter_splitOn_intercalate {sep : α} {pieces : List (List α)} {counts : List α → Bool}
    (hnil : counts [] = false) (h : ∀ piece ∈ pieces, sep ∉ piece) :
    (([sep].intercalate pieces).splitOn sep).filter counts = pieces.filter counts := by
  cases pieces with
  | nil => rw [List.intercalate_nil, List.splitOn_nil, List.filter_cons_of_neg (by simp [hnil])]
  | cons piece pieces => rw [List.splitOn_intercalate sep h (List.cons_ne_nil piece pieces)]

end Gatehouse.Text

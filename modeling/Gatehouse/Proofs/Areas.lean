import Mathlib.Data.List.Induction
import Gatehouse.Settings.Gate

/-!
# Which rule governs a path

`covers` looks at what a path goes on with after the area, character by character.
What it decides is a fact about segments, the texts between the slashes: unless
the area ends with a slash, it covers the paths whose segments start with its own
(`covers_iff_beneath`). Segments make the rest plain. Two areas with as many
segments cover no path together unless they are one, and an area that lies beneath
another covers no path that the other does not.

Of the rules that cover a path the longest one governs it (`governing?_spec`). For
the rules of the pages that leaves four kinds of paths: outside the mount point,
beneath `greeting`, beneath `admin`, and everything else inside.
-/

namespace Gatehouse.Proofs

open Gatehouse

/-- The texts between the slashes of a path. -/
def segments (path : String) : List (List Char) := path.toList.splitOn '/'

/-- A path lies beneath an area if its segments start with those of the area. -/
def Beneath (area path : String) : Prop := (segments area).IsPrefix (segments path)

instance (area path : String) : Decidable (Beneath area path) :=
  inferInstanceAs (Decidable ((segments area).IsPrefix (segments path)))

/-! ## Covering is about segments -/

theorem intercalate_append {sep : Char} {xss yss : List (List Char)}
    (hx : xss ≠ []) (hy : yss ≠ []) :
    [sep].intercalate (xss ++ yss) = [sep].intercalate xss ++ sep :: [sep].intercalate yss := by
  induction xss with
  | nil => exact absurd rfl hx
  | cons xs xss ih =>
      cases xss with
      | nil => simp [List.intercalate_cons_of_ne_nil hy]
      | cons xs' xss =>
          have hne : xs' :: xss ++ yss ≠ [] := by simp
          rw [List.cons_append, List.intercalate_cons_of_ne_nil hne, ih (by simp),
            List.intercalate_cons_cons]
          simp

/-- The pieces of one text start with those of another when it goes on after a separator. -/
theorem splitOn_isPrefix_iff {sep : Char} {xs ys : List Char} :
    (xs.splitOn sep).IsPrefix (ys.splitOn sep) ↔ ys = xs ∨ ∃ rest, ys = xs ++ sep :: rest := by
  refine ⟨?_, ?_⟩
  · intro h
    obtain ⟨more, hmore⟩ := h
    have hys : ys = [sep].intercalate (xs.splitOn sep ++ more) := by
      rw [hmore, List.intercalate_splitOn]
    cases more with
    | nil =>
        rw [List.append_nil, List.intercalate_splitOn] at hys
        exact .inl hys
    | cons piece more =>
        rw [intercalate_append (List.splitOn_ne_nil sep xs) (List.cons_ne_nil _ _),
          List.intercalate_splitOn] at hys
        exact .inr ⟨_, hys⟩
  · intro h
    rcases h with rfl | ⟨rest, rfl⟩
    · exact List.prefix_rfl
    · rw [List.splitOn_append_cons_self]
      exact List.prefix_append _ _

theorem covers_iff {area path : String} :
    covers area path = true ↔
      ∃ rest, path.toList = area.toList ++ rest
        ∧ (rest = [] ∨ rest.head? = some '/' ∨ area.toList.getLast? = some '/') := by
  rw [covers]
  split
  · rename_i rest hrest
    rw [remainder?_eq_some_iff] at hrest
    simp only [Bool.or_eq_true, List.isEmpty_iff, beq_iff_eq, or_assoc]
    refine ⟨?_, ?_⟩
    · intro h
      exact ⟨rest, hrest, h⟩
    · -- what the path goes on with is settled by the path and the area
      intro h
      obtain ⟨rest', hrest', h⟩ := h
      rw [hrest] at hrest'
      rw [List.append_cancel_left hrest']
      exact h
  · rename_i hnone
    simp only [Bool.false_eq_true, false_iff]
    intro h
    obtain ⟨rest, hrest, _⟩ := h
    rw [remainder?_eq_some_iff.mpr hrest] at hnone
    exact absurd hnone (by simp)

/-- **Areas end at a boundary between segments.** -/
theorem covers_iff_beneath {area path : String} (h : area.toList.getLast? ≠ some '/') :
    covers area path = true ↔ Beneath area path := by
  rw [covers_iff, Beneath, segments, segments, splitOn_isPrefix_iff]
  refine ⟨?_, ?_⟩
  · intro hcov
    obtain ⟨rest, hrest, hend⟩ := hcov
    rcases hend with rfl | hslash | hlast
    · exact .inl (by rw [hrest, List.append_nil])
    · obtain ⟨tail, rfl⟩ := List.head?_eq_some_iff.mp hslash
      exact .inr ⟨tail, hrest⟩
    · exact absurd hlast h
  · intro hbeneath
    rcases hbeneath with hsame | ⟨rest, hrest⟩
    · exact ⟨[], by rw [hsame, List.append_nil], .inl rfl⟩
    · exact ⟨'/' :: rest, hrest, .inr (.inl rfl)⟩

theorem Beneath.trans {outer inner path : String} (h : Beneath outer inner)
    (h' : Beneath inner path) : Beneath outer path := List.IsPrefix.trans h h'

/-- Areas with as many segments that have a path in common are one. -/
theorem segments_eq_of_beneath {area area' path : String} (h : Beneath area path)
    (h' : Beneath area' path) (hlen : (segments area).length = (segments area').length) :
    segments area = segments area' :=
  (List.prefix_of_prefix_length_le h h' (Nat.le_of_eq hlen)).eq_of_length hlen

/-! ## The longest area governs -/

/-- A rule that is added last governs where it covers and no longer area does. -/
theorem governing?_concat (rules : List AreaRule) (r : AreaRule) (path : String) :
    governing? (rules ++ [r]) path =
      if covers r.area path && (governing? rules path).all (fun b => b.area.length ≤ r.area.length)
      then some r else governing? rules path := by
  rw [governing?, List.foldl_append]; rfl

theorem governing?_eq_none_iff {rules : List AreaRule} {path : String} :
    governing? rules path = none ↔ ∀ r ∈ rules, covers r.area path = false := by
  induction rules using List.reverseRecOn with
  | nil => simp [governing?]
  | append_singleton rules r ih =>
      rw [governing?_concat]
      cases hc : covers r.area path with
      | true =>
          refine ⟨?_, ?_⟩
          · intro h
            split at h
            · exact absurd h (by simp)
            · -- had nothing governed before, the added rule would
              rename_i hpassed
              rw [h] at hpassed
              exact absurd rfl hpassed
          · intro h
            rw [h r (List.mem_append_right _ (List.mem_singleton.mpr rfl))] at hc
            exact absurd hc (by simp)
      | false => simp [ih, hc, or_imp, forall_and]

/-- The governing rule covers the path, and none that does has a longer area. -/
theorem governing?_spec {rules : List AreaRule} {path : String} {r : AreaRule}
    (h : governing? rules path = some r) :
    r ∈ rules ∧ covers r.area path = true
      ∧ ∀ s ∈ rules, covers s.area path = true → s.area.length ≤ r.area.length := by
  induction rules using List.reverseRecOn generalizing r with
  | nil => simp [governing?] at h
  | append_singleton rules q ih =>
      rw [governing?_concat] at h
      split at h
      · rename_i hq
        obtain rfl := Option.some.inj h
        simp only [Bool.and_eq_true] at hq
        refine ⟨by simp, hq.1, ?_⟩
        intro s hs hcov
        rcases List.mem_append.mp hs with hs | hs
        · -- the rule that governed before is no longer, and `s` was no longer than that one
          cases hg : governing? rules path with
          | none =>
              have := governing?_eq_none_iff.mp hg s hs
              rw [hcov] at this
              exact absurd this (by simp)
          | some b =>
              have hb := hq.2
              rw [hg] at hb
              exact Nat.le_trans ((ih hg).2.2 s hs hcov) (by simpa using hb)
        · obtain rfl := List.mem_singleton.mp hs
          exact Nat.le_refl _
      · rename_i hq
        obtain ⟨hmem, hcov, hmax⟩ := ih h
        refine ⟨List.mem_append_left _ hmem, hcov, ?_⟩
        intro s hs hscov
        rcases List.mem_append.mp hs with hs | hs
        · exact hmax s hs hscov
        · -- `q` covers the path too, so it was passed over for being shorter
          obtain rfl := List.mem_singleton.mp hs
          rw [h, hscov] at hq
          simp only [Bool.true_and, Option.all_some, decide_eq_true_eq, Nat.not_le] at hq
          exact Nat.le_of_lt hq

/-! ## The rules of the pages -/

/-- No area of a page rule ends with a slash, so all of them are made of whole segments. -/
theorem covers_pageRule {r : AreaRule} (hr : r ∈ Settings.areaRules) {path : String} :
    covers r.area path = true ↔ Beneath r.area path := by
  have hends : ∀ r ∈ Settings.areaRules, r.area.toList.getLast? ≠ some '/' := by decide
  exact covers_iff_beneath (hends r hr)

theorem mount_of_pageRule {r : AreaRule} (hr : r ∈ Settings.areaRules) {path : String}
    (h : Beneath r.area path) : Beneath "/api/v1" path := by
  have hmount : ∀ r ∈ Settings.areaRules, Beneath "/api/v1" r.area := by decide
  exact (hmount r hr).trans h

/-- If a page rule covers the path, then the longest such rule governs it. -/
theorem pageRule_governs {r : AreaRule} (hr : r ∈ Settings.areaRules) {path : String}
    (h : Beneath r.area path) :
    ∃ g ∈ Settings.areaRules, ruleFor? Settings.areaRules path = some g.rule
      ∧ Beneath g.area path ∧ r.area.length ≤ g.area.length := by
  cases hg : governing? Settings.areaRules path with
  | none =>
      have hcov := governing?_eq_none_iff.mp hg r hr
      rw [(covers_pageRule hr).mpr h] at hcov
      exact absurd hcov (by simp)
  | some g =>
      obtain ⟨hmem, hcov, hmax⟩ := governing?_spec hg
      refine ⟨g, hmem, by rw [ruleFor?, hg]; rfl, (covers_pageRule hmem).mp hcov, ?_⟩
      exact hmax r hr ((covers_pageRule hr).mpr h)

theorem mem_areaRules {r : AreaRule} :
    r ∈ Settings.areaRules ↔ r = ⟨"/api/v1", .authenticated⟩ ∨ r = ⟨"/api/v1/greeting", .permitAll⟩
      ∨ r = ⟨"/api/v1/me", .authenticated⟩
      ∨ r = ⟨"/api/v1/admin", .anyOf (Roles.ofList ["admin"])⟩ := by
  have h : Settings.areaRules = [⟨"/api/v1", .authenticated⟩, ⟨"/api/v1/greeting", .permitAll⟩,
      ⟨"/api/v1/me", .authenticated⟩, ⟨"/api/v1/admin", .anyOf (Roles.ofList ["admin"])⟩] := by
    decide
  rw [h]
  simp

/-- Outside the mount point there is no rule. -/
theorem ruleFor?_outside {path : String} (h : ¬ Beneath "/api/v1" path) :
    ruleFor? Settings.areaRules path = none := by
  have hnone : governing? Settings.areaRules path = none := by
    refine governing?_eq_none_iff.mpr ?_
    intro r hr
    refine Bool.eq_false_iff.mpr ?_
    intro hcov
    exact h (mount_of_pageRule hr ((covers_pageRule hr).mp hcov))
  rw [ruleFor?, hnone]; rfl

/-- Everyone may pass to what lies beneath the greeting. -/
theorem ruleFor?_greeting {path : String} (h : Beneath "/api/v1/greeting" path) :
    ruleFor? Settings.areaRules path = some .permitAll := by
  obtain ⟨g, hmem, hrule, _, hlen⟩ :=
    pageRule_governs (mem_areaRules.mpr (.inr (.inl rfl))) h
  rcases mem_areaRules.mp hmem with rfl | rfl | rfl | rfl
  · exact absurd hlen (by decide)
  · exact hrule
  · exact absurd hlen (by decide)
  · exact absurd hlen (by decide)

/-- What lies beneath the administration page asks for its role. -/
theorem ruleFor?_admin {path : String} (h : Beneath "/api/v1/admin" path) :
    ruleFor? Settings.areaRules path = some (.anyOf (Roles.ofList ["admin"])) := by
  obtain ⟨g, hmem, hrule, hbeneath, hlen⟩ :=
    pageRule_governs (mem_areaRules.mpr (.inr (.inr (.inr rfl)))) h
  rcases mem_areaRules.mp hmem with rfl | rfl | rfl | rfl
  · exact absurd hlen (by decide)
  · -- the area is longer, but a path lies beneath one of the two at most
    exact absurd (segments_eq_of_beneath h hbeneath (by decide)) (by decide)
  · exact absurd hlen (by decide)
  · exact hrule

/-- Everything else inside the mount point asks for an account. -/
theorem ruleFor?_inside {path : String} (h : Beneath "/api/v1" path)
    (hgreeting : ¬ Beneath "/api/v1/greeting" path) (hadmin : ¬ Beneath "/api/v1/admin" path) :
    ruleFor? Settings.areaRules path = some .authenticated := by
  obtain ⟨g, hmem, hrule, hbeneath, _⟩ := pageRule_governs (mem_areaRules.mpr (.inl rfl)) h
  rcases mem_areaRules.mp hmem with rfl | rfl | rfl | rfl
  · exact hrule
  · exact absurd hbeneath hgreeting
  · exact hrule
  · exact absurd hbeneath hadmin

end Gatehouse.Proofs

import Gatehouse.Proofs.Areas

/-!
# The most specific area governs

Areas that cover one path are all starts of it, and so of each other
(`nested_of_covers`). Two of them cannot be equally long without being the same, and
it makes no difference whether they are measured in characters or in bytes. So the
longest area is the most specific one, and a tie can only be between two rules for
the same area, of which the later one counts (`Governs`).

Where every area has one rule there are no ties, and what governs a path does not
depend on the order of the rules (`governs_iff_of_nodup`). A rule that is added last
has its way in its own area, except where that area contains a smaller one
(`ruleFor?_concat`).
-/

namespace Gatehouse.Proofs

open Gatehouse

/-! ## Areas that cover one path -/

theorem isPrefix_of_covers {area path : String} (h : covers area path = true) :
    area.toList.IsPrefix path.toList := by
  obtain ⟨rest, hpath, _⟩ := covers_iff.mp h
  exact ⟨rest, hpath.symm⟩

theorem nested_of_covers {area other path : String} (h : covers area path = true)
    (hother : covers other path = true) :
    area.toList.IsPrefix other.toList ∨ other.toList.IsPrefix area.toList :=
  List.prefix_or_prefix_of_prefix (isPrefix_of_covers h) (isPrefix_of_covers hother)

/-- A text that goes on after a start of it takes more bytes. -/
theorem eq_or_size_lt {area other : String} (h : area.toList.IsPrefix other.toList) :
    area = other ∨ area.utf8ByteSize < other.utf8ByteSize ∧ area.length < other.length := by
  obtain ⟨rest, hrest⟩ := h
  have happend : other = area ++ String.ofList rest := by
    rw [← String.toList_inj, String.toList_append, String.toList_ofList, hrest]
  cases rest with
  | nil => exact .inl (by rw [happend]; simp)
  | cons c rest =>
      have hsize : (String.ofList (c :: rest)).utf8ByteSize ≠ 0 := by
        rw [ne_eq, String.utf8ByteSize_eq_zero_iff]
        simp
      have hlength : (String.ofList (c :: rest)).length = rest.length + 1 := String.length_ofList
      rw [happend, String.utf8ByteSize_append, String.length_append, hlength]
      exact .inr ⟨by omega, by omega⟩

/-- The longer of two areas is the same one in bytes and in characters. -/
theorem size_le_iff_length_le {area other path : String} (h : covers area path = true)
    (hother : covers other path = true) :
    area.utf8ByteSize ≤ other.utf8ByteSize ↔ area.length ≤ other.length := by
  rcases nested_of_covers h hother with hstart | hstart
  · rcases eq_or_size_lt hstart with rfl | ⟨hsize, hlength⟩
    · simp
    · exact ⟨fun _ => Nat.le_of_lt hlength, fun _ => Nat.le_of_lt hsize⟩
  · rcases eq_or_size_lt hstart with rfl | ⟨hsize, hlength⟩
    · simp
    · exact ⟨fun hle => absurd hle (Nat.not_le.mpr hsize),
        fun hle => absurd hle (Nat.not_le.mpr hlength)⟩

theorem eq_of_covers {area other path : String} (h : covers area path = true)
    (hother : covers other path = true) (hsize : area.utf8ByteSize = other.utf8ByteSize) :
    area = other := by
  rcases nested_of_covers h hother with hstart | hstart
  · rcases eq_or_size_lt hstart with heq | ⟨hlt, _⟩
    · exact heq
    · exact absurd hsize (Nat.ne_of_lt hlt)
  · rcases eq_or_size_lt hstart with heq | ⟨hlt, _⟩
    · exact heq.symm
    · exact absurd hsize.symm (Nat.ne_of_lt hlt)

/-! ## The last among the longest -/

/-- Among the rules whose area covers the path, `r` is the last one of the longest. -/
def Governs (rules : List AreaRule) (path : String) (r : AreaRule) : Prop :=
  covers r.area path = true ∧ ∃ before after, rules = before ++ r :: after
    ∧ (∀ s ∈ before, covers s.area path = true → s.area.utf8ByteSize ≤ r.area.utf8ByteSize)
    ∧ ∀ s ∈ after, covers s.area path = true → s.area.utf8ByteSize < r.area.utf8ByteSize

theorem Governs.mem {rules : List AreaRule} {path : String} {r : AreaRule}
    (h : Governs rules path r) : r ∈ rules := by
  obtain ⟨_, before, after, rfl, _, _⟩ := h
  exact List.mem_append_right _ List.mem_cons_self

theorem Governs.size_le {rules : List AreaRule} {path : String} {r s : AreaRule}
    (h : Governs rules path r) (hs : s ∈ rules) (hcov : covers s.area path = true) :
    s.area.utf8ByteSize ≤ r.area.utf8ByteSize := by
  obtain ⟨_, before, after, rfl, hbefore, hafter⟩ := h
  rcases List.mem_append.mp hs with hs | hs
  · exact hbefore s hs hcov
  · rcases List.mem_cons.mp hs with rfl | hs
    · exact Nat.le_refl _
    · exact Nat.le_of_lt (hafter s hs hcov)

/-- No rule is for a longer area that covers the path. -/
def Unsurpassed (rules : List AreaRule) (area path : String) : Prop :=
  ∀ s ∈ rules, covers s.area path = true → ¬ area.utf8ByteSize < s.area.utf8ByteSize

theorem governs_concat_iff {rules : List AreaRule} {path : String} {q r : AreaRule} :
    Governs (rules ++ [q]) path r ↔
      r = q ∧ covers q.area path = true ∧ Unsurpassed rules q.area path
        ∨ Governs rules path r
          ∧ (covers q.area path = true → q.area.utf8ByteSize < r.area.utf8ByteSize) := by
  refine ⟨?_, ?_⟩
  · rintro ⟨hcov, before, after, hsplit, hbefore, hafter⟩
    rcases List.eq_nil_or_concat after with rfl | ⟨after, last, rfl⟩
    · -- nothing stands behind `r`, so it is the added rule
      obtain ⟨rfl, hlast⟩ := List.append_inj' hsplit rfl
      obtain rfl := (List.singleton_inj.mp hlast).symm
      exact .inl ⟨rfl, hcov, fun s hs hs' => Nat.not_lt.mpr (hbefore s hs hs')⟩
    · rw [List.concat_eq_append] at hsplit hafter
      have hcut : rules ++ [q] = (before ++ r :: after) ++ [last] := by simpa using hsplit
      obtain ⟨rfl, hlast⟩ := List.append_inj' hcut rfl
      obtain rfl := List.singleton_inj.mp hlast
      refine .inr ⟨⟨hcov, before, after, rfl, hbefore, ?_⟩, ?_⟩
      · exact fun s hs => hafter s (List.mem_append_left _ hs)
      · exact hafter q (List.mem_append_right _ List.mem_cons_self)
  · rintro (⟨rfl, hcov, hunsurpassed⟩ | ⟨⟨hcov, before, after, rfl, hbefore, hafter⟩, hq⟩)
    · exact ⟨hcov, rules, [], rfl, fun s hs hs' => Nat.not_lt.mp (hunsurpassed s hs hs'),
        List.forall_mem_nil _⟩
    · refine ⟨hcov, before, after ++ [q], by simp, hbefore, ?_⟩
      intro s hs
      rcases List.mem_append.mp hs with hs | hs
      · exact hafter s hs
      · rw [List.mem_singleton.mp hs]
        exact hq

/-- The rule that governs so far gives way exactly where no area is longer than the new one. -/
theorem gives_way_iff {rules : List AreaRule} {area path : String}
    (hcov : covers area path = true) :
    (governing? rules path).all (fun b => b.area.length ≤ area.length) = true ↔
      Unsurpassed rules area path := by
  cases hg : governing? rules path with
  | none =>
      refine ⟨fun _ s hs hs' => ?_, fun _ => rfl⟩
      rw [governing?_eq_none_iff.mp hg s hs] at hs'
      exact nomatch hs'
  | some b =>
      obtain ⟨hb, hbcov, hmax⟩ := governing?_spec hg
      rw [Option.all_some, decide_eq_true_eq]
      refine ⟨?_, ?_⟩
      · intro hle s hs hs'
        have hlength : s.area.length ≤ area.length := Nat.le_trans (hmax s hs hs') hle
        exact Nat.not_lt.mpr ((size_le_iff_length_le hs' hcov).mpr hlength)
      · intro hunsurpassed
        exact (size_le_iff_length_le hbcov hcov).mp (Nat.not_lt.mp (hunsurpassed b hb hbcov))

/-- The rule that is found is the last one for the longest area. -/
theorem governing?_eq_some_iff {rules : List AreaRule} {path : String} {r : AreaRule} :
    governing? rules path = some r ↔ Governs rules path r := by
  induction rules using List.reverseRecOn generalizing r with
  | nil =>
      refine ⟨fun h => (nomatch h), fun h => ?_⟩
      exact absurd h.mem List.not_mem_nil
  | append_singleton rules q ih =>
      rw [governing?_concat, governs_concat_iff]
      by_cases hq : covers q.area path = true ∧ Unsurpassed rules q.area path
      · rw [if_pos (by rw [Bool.and_eq_true, gives_way_iff hq.1]; exact hq), Option.some.injEq]
        refine ⟨fun h => .inl ⟨h.symm, hq⟩, ?_⟩
        rintro (⟨rfl, _⟩ | ⟨hr, hlt⟩)
        · rfl
        · exact absurd (hlt hq.1) (hq.2 r hr.mem hr.1)
      · have hstays : ¬ (covers q.area path
            && (governing? rules path).all (fun b => b.area.length ≤ q.area.length)) = true := by
          rw [Bool.and_eq_true]
          exact fun h => hq ⟨h.1, (gives_way_iff h.1).mp h.2⟩
        rw [if_neg hstays, ih]
        refine ⟨fun hr => .inr ⟨hr, ?_⟩, ?_⟩
        · -- some area is longer than the new one, and this one is as long at least
          intro hcov
          by_contra hle
          refine hq ⟨hcov, fun s hs hs' hlt => hle ?_⟩
          exact Nat.lt_of_lt_of_le hlt (hr.size_le hs hs')
        · rintro (⟨_, hcov, hunsurpassed⟩ | ⟨hr, _⟩)
          · exact absurd ⟨hcov, hunsurpassed⟩ hq
          · exact hr

/-! ## Other rules, and other orders -/

theorem ruleFor?_eq_none_iff {rules : List AreaRule} {path : String} :
    ruleFor? rules path = none ↔ ∀ r ∈ rules, covers r.area path = false := by
  rw [ruleFor?, Option.map_eq_none_iff, governing?_eq_none_iff]

theorem ruleFor?_eq_some_iff {rules : List AreaRule} {path : String} {rule : Rule} :
    ruleFor? rules path = some rule ↔ ∃ r, Governs rules path r ∧ r.rule = rule := by
  rw [ruleFor?, Option.map_eq_some_iff]
  simp only [governing?_eq_some_iff]

/-- Where every area has one rule, there is no last one to look for. -/
theorem governs_iff_of_nodup {rules : List AreaRule} {path : String} {r : AreaRule}
    (hnodup : (rules.map AreaRule.area).Nodup) :
    Governs rules path r ↔ r ∈ rules ∧ covers r.area path = true
      ∧ ∀ s ∈ rules, covers s.area path = true → s.area.utf8ByteSize ≤ r.area.utf8ByteSize := by
  refine ⟨fun h => ⟨h.mem, h.1, fun s => h.size_le⟩, ?_⟩
  rintro ⟨hmem, hcov, hmax⟩
  obtain ⟨before, after, rfl⟩ := List.append_of_mem hmem
  refine ⟨hcov, before, after, rfl, ?_, ?_⟩
  · exact fun s hs => hmax s (List.mem_append_left _ hs)
  · intro s hs hs'
    refine Nat.lt_of_le_of_ne
      (hmax s (List.mem_append_right _ (List.mem_cons_of_mem r hs)) hs') ?_
    -- a second rule of this length would be for the same area
    intro hsize
    have hsame : s.area = r.area := eq_of_covers hs' hcov hsize
    rw [List.map_append, List.map_cons] at hnodup
    have hfresh := (List.nodup_cons.mp (List.nodup_append.mp hnodup).2.1).1
    exact hfresh (hsame ▸ List.mem_map_of_mem hs)

theorem ruleFor?_of_perm {rules rules' : List AreaRule} (hnodup : (rules.map AreaRule.area).Nodup)
    (hperm : rules.Perm rules') (path : String) : ruleFor? rules' path = ruleFor? rules path := by
  have hnodup' : (rules'.map AreaRule.area).Nodup := (hperm.map _).nodup_iff.mp hnodup
  have hgoverning : governing? rules' path = governing? rules path := by
    refine Option.ext ?_
    intro r
    rw [governing?_eq_some_iff, governing?_eq_some_iff, governs_iff_of_nodup hnodup,
      governs_iff_of_nodup hnodup']
    simp only [hperm.mem_iff]
  rw [ruleFor?, hgoverning, ruleFor?]

/-- A rule that is added last has its way where its area is the most specific one. -/
theorem ruleFor?_concat {rules : List AreaRule} {area path : String} {rule : Rule} :
    (covers area path = true ∧ Unsurpassed rules area path →
        ruleFor? (rules ++ [⟨area, rule⟩]) path = some rule)
      ∧ (¬ (covers area path = true ∧ Unsurpassed rules area path) →
        ruleFor? (rules ++ [⟨area, rule⟩]) path = ruleFor? rules path) := by
  rw [ruleFor?, governing?_concat]
  refine ⟨?_, ?_⟩
  · rintro ⟨hcov, hunsurpassed⟩
    rw [if_pos (by rw [Bool.and_eq_true, gives_way_iff hcov]; exact ⟨hcov, hunsurpassed⟩)]
    rfl
  · intro hstays
    rw [if_neg]
    · rfl
    · rw [Bool.and_eq_true]
      exact fun h => hstays ⟨h.1, (gives_way_iff h.1).mp h.2⟩

/-! ## What is promised -/

/-- What is promised of the choice among rules. -/
structure MostSpecific (rules : List AreaRule) : Prop where
  /-- No rule is found only where there is none to find. -/
  unruled : ∀ path, ruleFor? rules path = none ↔ ∀ r ∈ rules, covers r.area path = false
  /-- The rule that is found is the last one for the longest area. -/
  ruled : ∀ path rule, ruleFor? rules path = some rule ↔
    ∃ r, Governs rules path r ∧ r.rule = rule
  /-- Areas that cover one path are starts of each other, so there is one of each length. -/
  nested : ∀ path area other, covers area path = true → covers other path = true →
    (area.toList.IsPrefix other.toList ∨ other.toList.IsPrefix area.toList)
      ∧ (area.utf8ByteSize = other.utf8ByteSize → area = other)
  /-- With one rule for each area, the order of the rules makes no difference. -/
  unordered : (rules.map AreaRule.area).Nodup → ∀ rules' : List AreaRule, rules.Perm rules' →
    ∀ path, ruleFor? rules' path = ruleFor? rules path
  /-- A rule that is added has its way where it covers the path and no longer area does. -/
  added : ∀ area rule path, covers area path = true ∧ Unsurpassed rules area path →
    ruleFor? (rules ++ [⟨area, rule⟩]) path = some rule
  /-- Elsewhere it changes nothing. -/
  kept : ∀ area rule path, ¬ (covers area path = true ∧ Unsurpassed rules area path) →
    ruleFor? (rules ++ [⟨area, rule⟩]) path = ruleFor? rules path

/-- **The most specific rule decides, whatever the order of the rules.** -/
theorem most_specific_decides (rules : List AreaRule) : MostSpecific rules where
  unruled _ := ruleFor?_eq_none_iff
  ruled _ _ := ruleFor?_eq_some_iff
  nested _ _ _ h hother := ⟨nested_of_covers h hother, eq_of_covers h hother⟩
  unordered hnodup _ hperm := ruleFor?_of_perm hnodup hperm
  added _ _ _ := ruleFor?_concat.1
  kept _ _ _ := ruleFor?_concat.2

/-- Rules in no order; the one for the café is for the longest area. -/
def strayRules : List AreaRule :=
  [⟨"/api/café", .denyAll⟩, ⟨"/", .permitAll⟩, ⟨"/api", .authenticated⟩]

/-- The same rule closes the café in the opposite order, and a rule for everything inside `/api/`
opens the rest and nothing else. -/
theorem most_specific_decides_stray :
    (strayRules.map AreaRule.area).Nodup
      ∧ ruleFor? strayRules.reverse "/api/café/1" = some .denyAll
      ∧ ruleFor? (strayRules ++ [⟨"/api/", .permitAll⟩]) "/api/tea" = some .permitAll
      ∧ ruleFor? (strayRules ++ [⟨"/api/", .permitAll⟩]) "/api/café/1" = some .denyAll
      ∧ ruleFor? (strayRules ++ [⟨"/api/", .permitAll⟩]) "/api" = some .authenticated := by
  have hstray := most_specific_decides strayRules
  have hnodup : (strayRules.map AreaRule.area).Nodup := by decide
  have hclosed : ruleFor? strayRules "/api/café/1" = some .denyAll := by decide
  have hlonger : ¬ (covers "/api/" "/api/café/1" = true
      ∧ Unsurpassed strayRules "/api/" "/api/café/1") := by
    rintro ⟨_, hunsurpassed⟩
    exact hunsurpassed ⟨"/api/café", .denyAll⟩ List.mem_cons_self (by decide) (by decide)
  have houtside : ¬ (covers "/api/" "/api" = true ∧ Unsurpassed strayRules "/api/" "/api") :=
    fun h => absurd h.1 (by decide)
  refine ⟨hnodup, ?_, ?_, ?_, ?_⟩
  · rw [hstray.unordered hnodup _ (List.reverse_perm _).symm, hclosed]
  · refine hstray.added "/api/" .permitAll "/api/tea" ⟨by decide, ?_⟩
    intro s hs
    simp only [strayRules, List.mem_cons, List.not_mem_nil, or_false] at hs
    rcases hs with rfl | rfl | rfl
    · exact fun hcov => absurd hcov (by decide)
    · exact fun _ => by decide
    · exact fun _ => by decide
  · rw [hstray.kept _ _ _ hlonger, hclosed]
  · rw [hstray.kept _ _ _ houtside]
    decide

end Gatehouse.Proofs

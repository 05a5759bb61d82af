import Gatehouse.Pipeline.Seal

/-!
# The order of a sealed pipeline

What sealing is relied upon for. The stages are the registrations, each of them
once (`inOrder_perm`), ascending by priority (`inOrder_sorted`), and registrations
of one priority stand as they were registered (`filter_inOrder`).

The rule that authentication comes first is about all pairs of guards, but only
the latest authentication and the earliest authorization are looked at.
`misplaced?_eq_none_iff` says that nothing is overlooked that way: every other
pair lies between these two.
-/

namespace Gatehouse

namespace Pipeline

/-! ## The order is a stable sort -/

theorem place_perm (r : Registration) (rs : List Registration) : (place r rs).Perm (r :: rs) := by
  induction rs with
  | nil => exact .refl _
  | cons s rest ih =>
    rw [place]
    split
    · exact .refl _
    · exact (ih.cons s).trans (.swap r s rest)

/-- Nothing is lost, repeated or changed. -/
theorem inOrder_perm (rs : List Registration) : (inOrder rs).Perm rs := by
  induction rs with
  | nil => exact .refl _
  | cons r rs ih => exact (place_perm r (inOrder rs)).trans (ih.cons r)

theorem place_sorted {r : Registration} {rs : List Registration}
    (h : rs.Pairwise (fun a b => a.priority ≤ b.priority)) :
    (place r rs).Pairwise (fun a b => a.priority ≤ b.priority) := by
  induction rs with
  | nil => exact List.pairwise_singleton _ r
  | cons s rest ih =>
    obtain ⟨hs, hrest⟩ := List.pairwise_cons.1 h
    rw [place]
    split
    · rename_i hr
      refine List.pairwise_cons.2 ⟨fun t ht => ?_, h⟩
      rcases List.mem_cons.1 ht with rfl | ht
      · exact hr
      · exact Priority.le_trans hr (hs t ht)
    · rename_i hr
      refine List.pairwise_cons.2 ⟨fun t ht => ?_, ih hrest⟩
      rcases List.mem_cons.1 ((place_perm r rest).mem_iff.1 ht) with rfl | ht
      · exact (Priority.le_total t.priority s.priority).resolve_left hr
      · exact hs t ht

/-- Priorities ascend. -/
theorem inOrder_sorted (rs : List Registration) :
    (inOrder rs).Pairwise (fun a b => a.priority ≤ b.priority) := by
  induction rs with
  | nil => exact .nil
  | cons r rs ih => exact place_sorted ih

theorem filter_place (p : Priority) (r : Registration) {rs : List Registration}
    (h : rs.Pairwise (fun a b => a.priority ≤ b.priority)) :
    (place r rs).filter (fun s => s.priority = p) = (r :: rs).filter (fun s => s.priority = p) := by
  induction rs with
  | nil => rfl
  | cons s rest ih =>
    rw [place]
    split
    · rfl
    · -- `s` runs earlier than `r`, so the two cannot share a priority
      rename_i hr
      have ih := ih (List.pairwise_cons.1 h).2
      have hne : s.priority ≠ r.priority := fun e => hr (e ▸ Int.le_refl _)
      by_cases hp : r.priority = p
      · have hs : s.priority ≠ p := hp ▸ hne
        simpa [List.filter_cons, hp, hs] using ih
      · have same : (place r rest).filter (fun t => t.priority = p)
            = rest.filter (fun t => t.priority = p) := by
          simpa [List.filter_cons, hp] using ih
        simp [List.filter_cons, hp, same]

/-- Registrations of one priority keep their order. -/
theorem filter_inOrder (p : Priority) (rs : List Registration) :
    (inOrder rs).filter (fun s => s.priority = p) = rs.filter (fun s => s.priority = p) := by
  induction rs with
  | nil => rfl
  | cons r rs ih =>
    have step := filter_place p r (inOrder_sorted rs)
    rw [inOrder, List.foldr_cons, ← inOrder, step, List.filter_cons, List.filter_cons, ih]

/-! ## The two extremes stand for all pairs -/

theorem latest?_eq_none_iff {rs : List Registration} : latest? rs = none ↔ rs = [] := by
  cases rs with
  | nil => simp [latest?]
  | cons r rs =>
    rw [latest?]
    split
    · split <;> simp
    · simp

/-- The latest registration is one of them, and none has a greater priority. -/
theorem le_latest {rs : List Registration} {s : Registration} (h : latest? rs = some s) :
    s ∈ rs ∧ ∀ r ∈ rs, r.priority ≤ s.priority := by
  induction rs generalizing s with
  | nil => simp [latest?] at h
  | cons r rs ih =>
    rw [latest?] at h
    split at h
    · rename_i t ht
      obtain ⟨hmem, hle⟩ := ih ht
      split at h
      · rename_i hr
        obtain rfl := Option.some.inj h
        refine ⟨List.mem_cons_of_mem _ hmem, fun q hq => ?_⟩
        rcases List.mem_cons.1 hq with rfl | hq
        · exact hr
        · exact hle q hq
      · rename_i hr
        obtain rfl := Option.some.inj h
        have htr := (Priority.le_total r.priority t.priority).resolve_left hr
        refine ⟨List.mem_cons_self, fun q hq => ?_⟩
        rcases List.mem_cons.1 hq with rfl | hq
        · exact Int.le_refl _
        · exact Priority.le_trans (hle q hq) htr
    · rename_i ht
      obtain rfl := Option.some.inj h
      obtain rfl := latest?_eq_none_iff.1 ht
      refine ⟨List.mem_cons_self, fun q hq => ?_⟩
      obtain rfl := List.mem_singleton.1 hq
      exact Int.le_refl _

theorem earliest?_eq_none_iff {rs : List Registration} : earliest? rs = none ↔ rs = [] := by
  cases rs with
  | nil => simp [earliest?]
  | cons r rs =>
    rw [earliest?]
    split
    · split <;> simp
    · simp

/-- The earliest registration is one of them, and none has a smaller priority. -/
theorem earliest_le {rs : List Registration} {s : Registration} (h : earliest? rs = some s) :
    s ∈ rs ∧ ∀ r ∈ rs, s.priority ≤ r.priority := by
  induction rs generalizing s with
  | nil => simp [earliest?] at h
  | cons r rs ih =>
    rw [earliest?] at h
    split at h
    · rename_i t ht
      obtain ⟨hmem, hle⟩ := ih ht
      split at h
      · rename_i hr
        obtain rfl := Option.some.inj h
        refine ⟨List.mem_cons_self, fun q hq => ?_⟩
        rcases List.mem_cons.1 hq with rfl | hq
        · exact Int.le_refl _
        · exact Priority.le_trans hr (hle q hq)
      · rename_i hr
        obtain rfl := Option.some.inj h
        have htr := (Priority.le_total r.priority t.priority).resolve_left hr
        refine ⟨List.mem_cons_of_mem _ hmem, fun q hq => ?_⟩
        rcases List.mem_cons.1 hq with rfl | hq
        · exact htr
        · exact hle q hq
    · rename_i ht
      obtain rfl := Option.some.inj h
      obtain rfl := earliest?_eq_none_iff.1 ht
      refine ⟨List.mem_cons_self, fun q hq => ?_⟩
      obtain rfl := List.mem_singleton.1 hq
      exact Int.le_refl _

theorem mem_ofKind {kind : Kind} {rs : List Registration} {r : Registration} :
    r ∈ ofKind kind rs ↔ r ∈ rs ∧ r.kind = kind := by
  simp [ofKind]

/-- No pair is out of order exactly when all authentication comes before all authorization. -/
theorem misplaced?_eq_none_iff {rs : List Registration} :
    misplaced? rs = none ↔
      ∀ a ∈ rs, ∀ z ∈ rs, a.kind = .authentication → z.kind = .authorization →
        a.priority < z.priority := by
  rw [misplaced?]
  split
  · rename_i a z ha hz
    obtain ⟨hamem, hale⟩ := le_latest ha
    obtain ⟨hzmem, hzle⟩ := earliest_le hz
    obtain ⟨hain, hakind⟩ := mem_ofKind.1 hamem
    obtain ⟨hzin, hzkind⟩ := mem_ofKind.1 hzmem
    split
    · rename_i hle
      simp only [reduceCtorEq, false_iff]
      intro hall
      exact Priority.not_le.2 (hall a hain z hzin hakind hzkind) hle
    · -- any other pair lies between the two extremes
      rename_i hle
      simp only [true_iff]
      intro b hb y hy hbkind hykind
      have h₁ := hale b (mem_ofKind.2 ⟨hb, hbkind⟩)
      have h₂ := hzle y (mem_ofKind.2 ⟨hy, hykind⟩)
      exact Int.lt_of_le_of_lt h₁ (Int.lt_of_lt_of_le (Priority.not_le.1 hle) h₂)
  · -- one of the two kinds is missing, so there is no pair
    rename_i hnone
    simp only [true_iff]
    intro b hb y hy hbkind hykind
    have hb := mem_ofKind.2 ⟨hb, hbkind⟩
    have hy := mem_ofKind.2 ⟨hy, hykind⟩
    cases ha : latest? (ofKind .authentication rs) with
    | none => rw [latest?_eq_none_iff.1 ha] at hb; exact absurd hb (by simp)
    | some a =>
      cases hz : earliest? (ofKind .authorization rs) with
      | none => rw [earliest?_eq_none_iff.1 hz] at hy; exact absurd hy (by simp)
      | some z => exact absurd hz (hnone a z ha)

/-- Registrations are sealed exactly when neither rule is broken, and then they are put in order. -/
theorem ofRegistrations_eq_ok_iff {rs : List Registration} {pipeline : Pipeline} :
    ofRegistrations rs = .ok pipeline ↔
      (∀ r ∈ rs, 0 ≤ r.priority.value) ∧ misplaced? rs = none ∧ pipeline.stages = inOrder rs := by
  have valid : rs.find? (fun r => !r.priority.isValid) = none ↔ ∀ r ∈ rs, 0 ≤ r.priority.value := by
    simp [Priority.isValid]
  rw [ofRegistrations, ← valid]
  cases rs.find? (fun r => !r.priority.isValid) with
  | some culprit => simp
  | none =>
    cases misplaced? rs with
    | some pair => simp
    | none =>
      obtain ⟨stages⟩ := pipeline
      simp [eq_comm]

end Pipeline

end Gatehouse

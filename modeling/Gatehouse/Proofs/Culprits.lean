import Gatehouse.Pipeline.Order
import Gatehouse.Pipeline.Script

/-!
# Whom a refusal to seal names

Registrations that cannot be sealed are refused with an error that names guards, and
the guards that it names are at fault. A negative priority is reported before anything
is said of the order, and of several the one that was registered first
(`find?_negative`).

Out of order there may be many pairs. The one that is reported is the worst of them:
the authentication guard of greatest priority and the authorization guard of least.
Where several guards share that priority, it is the last of the first kind and the
first of the second, because the one search keeps an equal that comes later and the
other one does not (`latest?_spec`, `earliest?_spec`). Both searches look at the guards
of one kind only, and what they find there has the same place among all registrations
(`split_of_ofKind`).
-/

namespace Gatehouse.Proofs

open Gatehouse Pipeline

/-! ## The two searches -/

/-- The latest registration comes after its equals. -/
theorem latest?_spec {rs : List Registration} {a : Registration} (h : latest? rs = some a) :
    ∃ before after, rs = before ++ a :: after
      ∧ (∀ r ∈ before, r.priority ≤ a.priority) ∧ ∀ r ∈ after, r.priority < a.priority := by
  induction rs generalizing a with
  | nil => exact nomatch h
  | cons first rest ih =>
      rw [latest?] at h
      split at h
      · rename_i found hfound
        split at h
        · rename_i hle
          obtain rfl := Option.some.inj h
          obtain ⟨before, after, rfl, hbefore, hafter⟩ := ih hfound
          exact ⟨first :: before, after, rfl, List.forall_mem_cons.mpr ⟨hle, hbefore⟩, hafter⟩
        · -- nothing behind the first one comes up to it
          rename_i hgt
          obtain rfl := Option.some.inj h
          refine ⟨[], rest, rfl, List.forall_mem_nil _, ?_⟩
          intro r hr
          exact Int.lt_of_le_of_lt ((le_latest hfound).2 r hr) (Priority.not_le.mp hgt)
      · rename_i hnone
        obtain rfl := Option.some.inj h
        obtain rfl := latest?_eq_none_iff.mp hnone
        exact ⟨[], [], rfl, List.forall_mem_nil _, List.forall_mem_nil _⟩

/-- The earliest registration comes before its equals. -/
theorem earliest?_spec {rs : List Registration} {z : Registration} (h : earliest? rs = some z) :
    ∃ before after, rs = before ++ z :: after
      ∧ (∀ r ∈ before, z.priority < r.priority) ∧ ∀ r ∈ after, z.priority ≤ r.priority := by
  induction rs generalizing z with
  | nil => exact nomatch h
  | cons first rest ih =>
      rw [earliest?] at h
      split at h
      · rename_i found hfound
        split at h
        · rename_i hle
          obtain rfl := Option.some.inj h
          refine ⟨[], rest, rfl, List.forall_mem_nil _, ?_⟩
          intro r hr
          exact Priority.le_trans hle ((earliest_le hfound).2 r hr)
        · -- the first one does not come before what is found behind it
          rename_i hgt
          obtain rfl := Option.some.inj h
          obtain ⟨before, after, rfl, hbefore, hafter⟩ := ih hfound
          exact ⟨first :: before, after, rfl,
            List.forall_mem_cons.mpr ⟨Priority.not_le.mp hgt, hbefore⟩, hafter⟩
      · rename_i hnone
        obtain rfl := Option.some.inj h
        obtain rfl := earliest?_eq_none_iff.mp hnone
        exact ⟨[], [], rfl, List.forall_mem_nil _, List.forall_mem_nil _⟩

/-- A guard that is found among those of its kind has the same place among all of them. -/
theorem split_of_ofKind {kind : Kind} {rs before after : List Registration} {s : Registration}
    (h : ofKind kind rs = before ++ s :: after) :
    s.kind = kind ∧ ∃ front back, rs = front ++ s :: back
      ∧ ofKind kind front = before ∧ ofKind kind back = after := by
  obtain ⟨front, rest, rfl, hfront, hrest⟩ := List.filter_eq_append_iff.mp h
  obtain ⟨between, back, rfl, hbetween, hkind, hback⟩ := List.filter_eq_cons_iff.mp hrest
  refine ⟨beq_iff_eq.mp hkind, front ++ between, back, by rw [List.append_assoc], ?_, hback⟩
  rw [ofKind, List.filter_append, hfront, List.filter_eq_nil_iff.mpr hbetween, List.append_nil]

/-! ## Who is at fault -/

/-- The first registration with a negative priority. -/
def FirstNegative (rs : List Registration) (r : Registration) : Prop :=
  r.priority.value < 0 ∧ ∃ before after, rs = before ++ r :: after
    ∧ ∀ s ∈ before, 0 ≤ s.priority.value

theorem FirstNegative.mem {rs : List Registration} {r : Registration} (h : FirstNegative rs r) :
    r ∈ rs := by
  obtain ⟨_, before, after, rfl, _⟩ := h
  exact List.mem_append_right before List.mem_cons_self

/-- Among the guards of this kind, `a` is the last one of the greatest priority. -/
def LastOfGreatest (kind : Kind) (rs : List Registration) (a : Registration) : Prop :=
  a.kind = kind ∧ ∃ before after, rs = before ++ a :: after
    ∧ (∀ r ∈ before, r.kind = kind → r.priority ≤ a.priority)
    ∧ ∀ r ∈ after, r.kind = kind → r.priority < a.priority

/-- Among the guards of this kind, `z` is the first one of the least priority. -/
def FirstOfLeast (kind : Kind) (rs : List Registration) (z : Registration) : Prop :=
  z.kind = kind ∧ ∃ before after, rs = before ++ z :: after
    ∧ (∀ r ∈ before, r.kind = kind → z.priority < r.priority)
    ∧ ∀ r ∈ after, r.kind = kind → z.priority ≤ r.priority

theorem lastOfGreatest_of_latest? {kind : Kind} {rs : List Registration} {a : Registration}
    (h : latest? (ofKind kind rs) = some a) : LastOfGreatest kind rs a := by
  obtain ⟨before, after, hsplit, hbefore, hafter⟩ := latest?_spec h
  obtain ⟨hkind, front, back, rfl, rfl, rfl⟩ := split_of_ofKind hsplit
  exact ⟨hkind, front, back, rfl, fun r hr hk => hbefore r (mem_ofKind.mpr ⟨hr, hk⟩),
    fun r hr hk => hafter r (mem_ofKind.mpr ⟨hr, hk⟩)⟩

theorem firstOfLeast_of_earliest? {kind : Kind} {rs : List Registration} {z : Registration}
    (h : earliest? (ofKind kind rs) = some z) : FirstOfLeast kind rs z := by
  obtain ⟨before, after, hsplit, hbefore, hafter⟩ := earliest?_spec h
  obtain ⟨hkind, front, back, rfl, rfl, rfl⟩ := split_of_ofKind hsplit
  exact ⟨hkind, front, back, rfl, fun r hr hk => hbefore r (mem_ofKind.mpr ⟨hr, hk⟩),
    fun r hr hk => hafter r (mem_ofKind.mpr ⟨hr, hk⟩)⟩

theorem find?_negative {rs : List Registration} {r : Registration}
    (h : rs.find? (fun r => !r.priority.isValid) = some r) : FirstNegative rs r := by
  obtain ⟨hr, before, after, rfl, hbefore⟩ := List.find?_eq_some_iff_append.mp h
  refine ⟨?_, before, after, rfl, ?_⟩
  · simpa [Priority.isValid] using hr
  · intro s hs
    simpa [Priority.isValid] using hbefore s hs

/-- A pair that is found out of order is the worst one. -/
theorem misplaced?_spec {rs : List Registration} {a z : Registration}
    (h : misplaced? rs = some (a, z)) :
    LastOfGreatest .authentication rs a ∧ FirstOfLeast .authorization rs z
      ∧ z.priority ≤ a.priority := by
  rw [misplaced?] at h
  split at h
  · rename_i a' z' ha hz
    split at h
    · rename_i hle
      obtain ⟨rfl, rfl⟩ := Prod.mk.inj (Option.some.inj h)
      exact ⟨lastOfGreatest_of_latest? ha, firstOfLeast_of_earliest? hz, hle⟩
    · exact absurd h (by simp)
  · exact absurd h (by simp)

/-- There are two ways to be refused, and the order of guards comes second. -/
theorem ofRegistrations_error {rs : List Registration} {error : SealError}
    (h : ofRegistrations rs = .error error) :
    (∃ r, FirstNegative rs r ∧ error = .negativePriority r)
      ∨ (∀ r ∈ rs, 0 ≤ r.priority.value)
        ∧ ∃ a z, misplaced? rs = some (a, z) ∧ error = .outOfOrder a z := by
  rw [ofRegistrations] at h
  split at h
  · rename_i r hr
    exact .inl ⟨r, find?_negative hr, (Except.error.inj h).symm⟩
  · rename_i hvalid
    split at h
    · rename_i a z hpair
      refine .inr ⟨?_, a, z, hpair, (Except.error.inj h).symm⟩
      simpa [Priority.isValid] using hvalid
    · exact absurd h (by simp)

/-! ## What is promised -/

/-- What is promised of the error that registrations are refused with. -/
structure Blames (rs : List Registration) (error : SealError) : Prop where
  /-- Where priorities are negative, the first of them is named, whatever else is wrong. -/
  negative : (∃ r ∈ rs, r.priority.value < 0) → ∃ r, FirstNegative rs r
    ∧ error = .negativePriority r
    ∧ error.toPipelineError.message = "invalid filter configuration: "
        ++ ("filter `" ++ r.name ++ "` has negative priority " ++ toString r.priority.value)
  /-- Otherwise two guards are named that are out of order, the latest and the earliest. -/
  misplaced : (∀ r ∈ rs, 0 ≤ r.priority.value) → ∃ a z,
    LastOfGreatest .authentication rs a ∧ FirstOfLeast .authorization rs z
      ∧ z.priority ≤ a.priority
      ∧ error = .outOfOrder a z
      ∧ error.toPipelineError.message = "invalid filter configuration: "
          ++ ("authentication filter `" ++ a.name ++ "` (" ++ a.priority.text
            ++ ") must run before "
            ++ ("authorization filter `" ++ z.name ++ "` (" ++ z.priority.text ++ ")"))

/-- **Registrations that are refused are refused for guards that are at fault.** -/
theorem refusal_blames {rs : List Registration} {error : SealError}
    (h : ofRegistrations rs = .error error) : Blames rs error := by
  constructor
  case negative =>
    rintro ⟨r, hr, hnegative⟩
    rcases ofRegistrations_error h with ⟨culprit, hculprit, rfl⟩ | ⟨hvalid, _⟩
    · exact ⟨culprit, hculprit, rfl, rfl⟩
    · exact absurd hnegative (Int.not_lt.mpr (hvalid r hr))
  case misplaced =>
    intro hvalid
    rcases ofRegistrations_error h with ⟨culprit, hculprit, _⟩ | ⟨_, a, z, hpair, rfl⟩
    · exact absurd hculprit.1 (Int.not_lt.mpr (hvalid culprit hculprit.mem))
    · obtain ⟨ha, hz, hle⟩ := misplaced?_spec hpair
      exact ⟨a, z, ha, hz, hle, rfl, rfl⟩

/-- Two guards of each kind at one priority, registered in turns. -/
def crossed : List Registration :=
  [⟨.scripted "early" .authorization .proceed, ⟨2000⟩⟩,
    ⟨.scripted "naming" .authentication .proceed, ⟨2000⟩⟩,
    ⟨.scripted "gate" .authorization .proceed, ⟨1500⟩⟩,
    ⟨.scripted "renaming" .authentication .proceed, ⟨2000⟩⟩,
    ⟨.scripted "wicket" .authorization .proceed, ⟨1500⟩⟩]

/-- The last of the one kind is held against the first of the other. -/
theorem refusal_blames_crossed :
    ∃ error, ofRegistrations crossed = .error error ∧ Blames crossed error
      ∧ error.problem = "authentication filter `renaming` (authorization(2000)) must run before "
          ++ "authorization filter `gate` (1500)" := by
  have hrefused : ∃ error, ofRegistrations crossed = .error error := ⟨_, rfl⟩
  obtain ⟨error, herror⟩ := hrefused
  refine ⟨error, herror, refusal_blames herror, ?_⟩
  obtain rfl := Except.error.inj herror
  rfl

end Gatehouse.Proofs

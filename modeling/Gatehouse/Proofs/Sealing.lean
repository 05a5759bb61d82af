import Gatehouse.Pipeline.Order
import Gatehouse.Pipeline.Script

/-!
# What sealing accepts, and what becomes of it

Two rules decide whether registrations can be sealed, and both are about the
registrations as a collection: no priority is negative, and every authentication
guard has a priority below that of every authorization guard (`Sealable`). In what
order the guards were registered plays no part in it.

For the pipeline the order of registration matters only among guards of one
priority. A list that ascends by priority is put together from what it holds of
each priority, lowest first, so two of them that hold the same of each priority
are the same list (`eq_of_ascending`). The stable order is therefore not one among
several that would do: it is the only one (`StableOrder.unique`).
-/

namespace Gatehouse.Proofs

open Gatehouse Pipeline

/-- The registrations of one priority. -/
def ofPriority (priority : Priority) (rs : List Registration) : List Registration :=
  rs.filter (fun r => r.priority = priority)

/-- Priorities ascend. -/
def Ascending (rs : List Registration) : Prop := rs.Pairwise (fun r s => r.priority ≤ s.priority)

/-! ## There is one stable order -/

theorem mem_ofPriority_self {r : Registration} {rs : List Registration} :
    r ∈ ofPriority r.priority rs ↔ r ∈ rs := by
  simp [ofPriority]

theorem ofPriority_cons_self (r : Registration) (rs : List Registration) :
    ofPriority r.priority (r :: rs) = r :: ofPriority r.priority rs :=
  List.filter_cons_of_pos (decide_eq_true rfl)

theorem ofPriority_cons_of_ne {priority : Priority} {r : Registration} (rs : List Registration)
    (h : r.priority ≠ priority) : ofPriority priority (r :: rs) = ofPriority priority rs :=
  List.filter_cons_of_neg (by simpa using h)

theorem Ascending.head_le {r s : Registration} {rs : List Registration} (h : Ascending (r :: rs))
    (hs : s ∈ r :: rs) : r.priority ≤ s.priority := by
  rcases List.mem_cons.mp hs with rfl | hs
  · exact Int.le_refl _
  · exact (List.pairwise_cons.mp h).1 s hs

theorem mem_iff_of_ofPriority_eq {rs others : List Registration}
    (h : ∀ priority, ofPriority priority rs = ofPriority priority others) (r : Registration) :
    r ∈ rs ↔ r ∈ others := by
  rw [← mem_ofPriority_self, h r.priority, mem_ofPriority_self]

/-- Ascending lists that hold the same of each priority are the same. -/
theorem eq_of_ascending {rs others : List Registration} (hrs : Ascending rs)
    (hothers : Ascending others)
    (h : ∀ priority, ofPriority priority rs = ofPriority priority others) : rs = others := by
  induction rs generalizing others with
  | nil =>
      cases others with
      | nil => rfl
      | cons o others =>
          exact absurd ((mem_iff_of_ofPriority_eq h o).mpr List.mem_cons_self) (by simp)
  | cons r rs ih =>
      cases others with
      | nil => exact absurd ((mem_iff_of_ofPriority_eq h r).mp List.mem_cons_self) (by simp)
      | cons o others =>
          -- each list holds the head of the other one, so both heads have the least priority
          have hro : r.priority ≤ o.priority :=
            hrs.head_le ((mem_iff_of_ofPriority_eq h o).mpr List.mem_cons_self)
          have hor : o.priority ≤ r.priority :=
            hothers.head_le ((mem_iff_of_ofPriority_eq h r).mp List.mem_cons_self)
          have hhead := h r.priority
          have hsame : r.priority = o.priority := Priority.le_antisymm hro hor
          rw [ofPriority_cons_self, hsame, ofPriority_cons_self] at hhead
          obtain ⟨rfl, _⟩ := List.cons.inj hhead
          refine congrArg (List.cons r) ?_
          refine ih (List.pairwise_cons.mp hrs).2 (List.pairwise_cons.mp hothers).2 ?_
          intro priority
          have hpriority := h priority
          by_cases hp : r.priority = priority
          · subst hp
            rw [ofPriority_cons_self, ofPriority_cons_self] at hpriority
            exact (List.cons.inj hpriority).2
          · rw [ofPriority_cons_of_ne _ hp, ofPriority_cons_of_ne _ hp] at hpriority
            exact hpriority

/-- `stages` are the registrations `rs` in their stable order. -/
structure StableOrder (rs stages : List Registration) : Prop where
  /-- Nothing is lost, repeated, or moved to another priority. -/
  perm : stages.Perm rs
  ascending : Ascending stages
  /-- Guards of one priority stand as they were registered. -/
  stable : ∀ priority, ofPriority priority stages = ofPriority priority rs

theorem StableOrder.unique {rs stages others : List Registration} (h : StableOrder rs stages)
    (h' : StableOrder rs others) : stages = others := by
  refine eq_of_ascending h.ascending h'.ascending ?_
  intro priority
  rw [h.stable, h'.stable]

theorem stableOrder_inOrder (rs : List Registration) : StableOrder rs (inOrder rs) :=
  ⟨inOrder_perm rs, inOrder_sorted rs, fun priority => filter_inOrder priority rs⟩

/-! ## What can be sealed -/

/-- No priority is negative, and all authentication comes before all authorization. -/
structure Sealable (rs : List Registration) : Prop where
  nonnegative : ∀ r ∈ rs, 0 ≤ r.priority.value
  authenticationFirst : ∀ a ∈ rs, ∀ z ∈ rs, a.kind = .authentication → z.kind = .authorization →
    a.priority < z.priority

theorem ofRegistrations_eq_ok_iff_sealable {rs : List Registration} {pipeline : Pipeline} :
    ofRegistrations rs = .ok pipeline ↔ Sealable rs ∧ StableOrder rs pipeline.stages := by
  rw [ofRegistrations_eq_ok_iff, misplaced?_eq_none_iff]
  constructor
  · intro h
    obtain ⟨hvalid, hfirst, hstages⟩ := h
    refine ⟨⟨hvalid, hfirst⟩, ?_⟩
    rw [hstages]
    exact stableOrder_inOrder rs
  · intro h
    obtain ⟨⟨hvalid, hfirst⟩, hstable⟩ := h
    exact ⟨hvalid, hfirst, hstable.unique (stableOrder_inOrder rs)⟩

theorem exists_sealed_iff {rs : List Registration} :
    (∃ pipeline, ofRegistrations rs = .ok pipeline) ↔ Sealable rs := by
  constructor
  · intro h
    obtain ⟨pipeline, h⟩ := h
    exact (ofRegistrations_eq_ok_iff_sealable.mp h).1
  · intro h
    exact ⟨⟨inOrder rs⟩, ofRegistrations_eq_ok_iff_sealable.mpr ⟨h, stableOrder_inOrder rs⟩⟩

/-! ## The order of registration -/

theorem Sealable.of_perm {rs others : List Registration} (hperm : others.Perm rs)
    (h : Sealable rs) : Sealable others := by
  constructor
  case nonnegative =>
    intro r hr
    exact h.nonnegative r (hperm.mem_iff.mp hr)
  case authenticationFirst =>
    intro a ha z hz
    exact h.authenticationFirst a (hperm.mem_iff.mp ha) z (hperm.mem_iff.mp hz)

/-- Neighbours of unequal priorities may change places. -/
theorem ofPriority_swap {r s : Registration} (rs : List Registration)
    (h : r.priority ≠ s.priority) (priority : Priority) :
    ofPriority priority (r :: s :: rs) = ofPriority priority (s :: r :: rs) := by
  by_cases hr : r.priority = priority
  · subst hr
    rw [ofPriority_cons_self, ofPriority_cons_of_ne _ h.symm, ofPriority_cons_of_ne _ h.symm,
      ofPriority_cons_self]
  · by_cases hs : s.priority = priority
    · subst hs
      rw [ofPriority_cons_of_ne _ hr, ofPriority_cons_self, ofPriority_cons_self,
        ofPriority_cons_of_ne _ hr]
    · rw [ofPriority_cons_of_ne _ hr, ofPriority_cons_of_ne _ hs, ofPriority_cons_of_ne _ hs,
        ofPriority_cons_of_ne _ hr]

/-- Where ties stand alike, so does all the rest. -/
theorem StableOrder.of_perm {rs others stages : List Registration} (hperm : others.Perm rs)
    (hties : ∀ priority, ofPriority priority others = ofPriority priority rs)
    (h : StableOrder rs stages) : StableOrder others stages :=
  ⟨h.perm.trans hperm.symm, h.ascending,
    fun priority => (h.stable priority).trans (hties priority).symm⟩

/-- **Sealing accepts what keeps the two rules, and puts it into its one stable order.** Other
orders of registration are accepted alike, and they come to the same pipeline if they differ in the
places of unequal priorities only. -/
theorem sealed_in_stable_order (rs : List Registration) :
    ((∃ pipeline, ofRegistrations rs = .ok pipeline) ↔ Sealable rs)
      ∧ (∀ pipeline, ofRegistrations rs = .ok pipeline →
          StableOrder rs pipeline.stages
            ∧ ∀ stages, StableOrder rs stages → stages = pipeline.stages)
      ∧ ∀ others : List Registration, others.Perm rs →
          ((∃ pipeline, ofRegistrations others = .ok pipeline) ↔
            ∃ pipeline, ofRegistrations rs = .ok pipeline)
          ∧ ((∀ priority, ofPriority priority others = ofPriority priority rs) →
              ∀ pipeline, ofRegistrations others = .ok pipeline ↔
                ofRegistrations rs = .ok pipeline) := by
  refine ⟨exists_sealed_iff, ?_, ?_⟩
  · intro pipeline h
    have hstable := (ofRegistrations_eq_ok_iff_sealable.mp h).2
    exact ⟨hstable, fun stages hstages => hstages.unique hstable⟩
  · intro others hperm
    refine ⟨?_, ?_⟩
    · rw [exists_sealed_iff, exists_sealed_iff]
      exact ⟨Sealable.of_perm hperm.symm, Sealable.of_perm hperm⟩
    · intro hties pipeline
      rw [ofRegistrations_eq_ok_iff_sealable, ofRegistrations_eq_ok_iff_sealable]
      constructor
      · intro h
        exact ⟨h.1.of_perm hperm.symm, h.2.of_perm hperm.symm (fun p => (hties p).symm)⟩
      · intro h
        exact ⟨h.1.of_perm hperm, h.2.of_perm hperm hties⟩

/-- Two guards of one priority, with one between them that runs before both. -/
def tied : List Registration :=
  [⟨.scripted "left" .general .proceed, ⟨20⟩⟩, ⟨.scripted "naming" .authentication .proceed, ⟨10⟩⟩,
    ⟨.scripted "right" .general .proceed, ⟨20⟩⟩]

/-- The same guards; the two of one priority are still in their order. -/
def tiedBehind : List Registration :=
  [⟨.scripted "naming" .authentication .proceed, ⟨10⟩⟩, ⟨.scripted "left" .general .proceed, ⟨20⟩⟩,
    ⟨.scripted "right" .general .proceed, ⟨20⟩⟩]

/-- Both orders of registration come to one pipeline. -/
theorem sealed_in_stable_order_tied :
    tiedBehind.Perm tied
      ∧ ∃ pipeline, ofRegistrations tied = .ok pipeline
        ∧ ofRegistrations tiedBehind = .ok pipeline
        ∧ StableOrder tied pipeline.stages
        ∧ pipeline.names = ["naming", "left", "right"] := by
  have hperm : tiedBehind.Perm tied := List.Perm.swap _ _ _
  have hties : ∀ priority, ofPriority priority tiedBehind = ofPriority priority tied :=
    ofPriority_swap _ (by decide)
  obtain ⟨_, hstable, hothers⟩ := sealed_in_stable_order tied
  have hsealed : ofRegistrations tied = .ok ⟨inOrder tied⟩ := rfl
  exact ⟨hperm, _, hsealed, ((hothers tiedBehind hperm).2 hties _).mpr hsealed,
    (hstable _ hsealed).1, rfl⟩

end Gatehouse.Proofs

import Gatehouse.Reply.Refusal

/-!
# Whether a challenge can be sent

A challenge is a text with the realm of the deployment in it, and a header field cannot hold
every text. Where it can hold this one, a refusal bears it, once; where it cannot, a refusal
bears no challenge at all, and says so in the log (`refusal_cases`). The names of the schemes
are harmless, so it is the realm that decides (`sendable_challengeText_iff`).
-/

namespace Gatehouse.Proofs

open Gatehouse Http Text

/-- A text that a header field can hold: there are no control characters in it but tabs. -/
def Sendable (text : String) : Prop :=
  ∀ c ∈ text.toList, c = '\t' ∨ (0x20 ≤ c.toNat ∧ c.toNat ≠ 0x7F)

/-- The challenges that a response bears. -/
def challengesOf (response : Response) : List String :=
  (response.headers.filter (fun field => field.name == "www-authenticate")).map Header.value

/-- One of the two wordings that there are for a refusal. -/
def Standard (challenger : Challenger) : Prop :=
  challenger = Refusal.plain ∨ challenger = Refusal.json

theorem isFieldChar_iff {c : Char} :
    isFieldChar c = true ↔ c = '\t' ∨ (0x20 ≤ c.toNat ∧ c.toNat ≠ 0x7F) := by
  simp only [isFieldChar, Bool.or_eq_true, Bool.and_eq_true, decide_eq_true_eq, beq_iff_eq]
  exact or_comm

theorem isFieldValue_iff {text : String} : isFieldValue text = true ↔ Sendable text := by
  rw [isFieldValue, List.all_eq_true]
  simp only [isFieldChar_iff]
  rfl

instance (text : String) : Decidable (Sendable text) := decidable_of_iff _ isFieldValue_iff

theorem toList_challengeText (scheme realm : String) :
    (challengeText scheme realm).toList =
      scheme.toList ++ " realm=\"".toList ++ realm.toList ++ ['"'] := by
  simp [challengeText]

/-- Around the realm there is nothing that could not be sent. -/
theorem sendable_challengeText_iff {scheme realm : String} (hscheme : Sendable scheme) :
    Sendable (challengeText scheme realm) ↔ Sendable realm := by
  have hname : Sendable " realm=\"" := by decide
  have hquote : Sendable "\"" := by decide
  unfold Sendable at hscheme hname hquote ⊢
  rw [toList_challengeText]
  simp only [List.forall_mem_append]
  exact ⟨fun h => h.1.2, fun h => ⟨⟨⟨hscheme, hname⟩, h⟩, hquote⟩⟩

/-- Both wordings are answers without a challenge, to which one is added. -/
theorem Standard.exists_answer {challenger : Challenger} (h : Standard challenger) :
    ∃ answer, challengesOf answer = [] ∧ challenger = Refusal.challenge answer := by
  rcases h with rfl | rfl
  · exact ⟨_, rfl, rfl⟩
  · exact ⟨_, rfl, rfl⟩

/-- A refusal bears its challenge and is silent, or it bears none and says why. -/
theorem refusal_cases {challenger : Challenger} (h : Standard challenger) (scheme realm : String) :
    (Sendable (challengeText scheme realm)
        ∧ (challenger scheme realm).events = []
        ∧ challengesOf (challenger scheme realm).response = [challengeText scheme realm])
      ∨ (¬ Sendable (challengeText scheme realm)
        ∧ (challenger scheme realm).events = [.challengeOmitted realm]
        ∧ challengesOf (challenger scheme realm).response = []) := by
  obtain ⟨answer, hnone, rfl⟩ := h.exists_answer
  rw [Refusal.challenge]
  split
  · rename_i hvalue
    refine .inl ⟨isFieldValue_iff.mp hvalue, rfl, ?_⟩
    have hone : challengesOf ⟨answer.status, answer.headers
        ++ [⟨"www-authenticate", challengeText scheme realm⟩], answer.body⟩ =
          challengesOf answer ++ [challengeText scheme realm] := by
      rw [challengesOf, List.filter_append, List.map_append]
      rfl
    exact hone.trans (by rw [hnone, List.nil_append])
  · rename_i hvalue
    exact .inr ⟨fun hsendable => hvalue (isFieldValue_iff.mpr hsendable), rfl, hnone⟩

end Gatehouse.Proofs

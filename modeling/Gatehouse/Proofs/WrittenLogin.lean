import Gatehouse.Credentials.Scheme
import Gatehouse.Proofs.Base64

/-!
# The written form of a login

A login is written as one word: its name, a colon and its password make a text, the
text is bytes in UTF-8, and the bytes are a text again in Base64. `IsWritten` says so
without a word on how any of the three is read or written here.

Reading takes one layer off after the other (`read?_eq_some_iff_layers`), so it finds the
login whose written form the text is. A text that is no written form fails at one of the
layers, and `Malformed` tells them apart.
-/

namespace Gatehouse.Proofs

open Gatehouse Text

/-- `encoded` is the written form of a login. The colon between name and password is the first. -/
def IsWritten (encoded : String) (login : Login) : Prop :=
  ':' ∉ login.username.toList
    ∧ IsBase64 encoded.toList (login.username ++ ":" ++ login.password).toUTF8.data.toList

/-- A text that is the written form of no login. -/
inductive Malformed (encoded : String) : Prop
  | garbled : Garbled encoded.toList → Malformed encoded
  /-- The bytes are no text in UTF-8. -/
  | noText {bytes : List UInt8} : IsBase64 encoded.toList bytes →
      (∀ text : String, text.toUTF8.data.toList ≠ bytes) → Malformed encoded
  /-- There is no colon for the name to end at. -/
  | noColon {text : String} : IsBase64 encoded.toList text.toUTF8.data.toList →
      ':' ∉ text.toList → Malformed encoded

theorem utf8_eq (text : String) : text.toUTF8.data.toList = Utf8.ofString text := by
  have hbytes : text.toUTF8 = text.toList.utf8Encode := String.utf8Encode_toList.symm
  rw [hbytes, List.utf8Encode, Utf8.ofString, Utf8.write]
  simp

theorem isWritten_iff {encoded : String} {login : Login} :
    IsWritten encoded login ↔ ':' ∉ login.username.toList ∧ encoded = login.write := by
  rw [IsWritten, utf8_eq, isBase64_iff, Login.write, ← String.toList_inj, String.toList_ofList]

theorem toList_joined (login : Login) : (login.username ++ ":" ++ login.password).toList =
    login.username.toList ++ ':' :: login.password.toList := by
  simp

/-- Reading takes one layer off after the other. -/
theorem read?_eq_some_iff_layers {encoded : String} {login : Login} :
    Login.read? encoded = some login ↔ ∃ bytes text, Base64.read? encoded.toList = some bytes
      ∧ Utf8.strict? bytes = some text
      ∧ cutFirst ':' text = some (login.username.toList, login.password.toList) := by
  simp only [Login.read?, Option.bind_eq_bind, Option.bind_eq_some_iff]
  refine ⟨?_, ?_⟩
  · intro h
    obtain ⟨bytes, hbytes, text, htext, ⟨username, password⟩, hcut, hlogin⟩ := h
    obtain rfl := Option.some.inj hlogin
    refine ⟨bytes, text, hbytes, htext, ?_⟩
    rw [String.toList_ofList, String.toList_ofList]
    exact hcut
  · intro h
    obtain ⟨bytes, text, hbytes, htext, hcut⟩ := h
    refine ⟨bytes, hbytes, text, htext, _, hcut, ?_⟩
    rw [String.ofList_toList, String.ofList_toList]
    rfl

/-- What is read is what is written. -/
theorem read?_eq_some_iff_write {encoded : String} {login : Login} :
    Login.read? encoded = some login ↔ ':' ∉ login.username.toList ∧ encoded = login.write := by
  rw [read?_eq_some_iff_layers, Login.write, Utf8.ofString, toList_joined]
  refine ⟨?_, ?_⟩
  · intro h
    obtain ⟨bytes, text, hbytes, htext, hcut⟩ := h
    obtain ⟨rfl, hcolon⟩ := cutFirst_eq_some_iff.mp hcut
    rw [← Utf8.strict_eq_some_iff.mp htext, ← Base64.read?_eq_some_iff.mp hbytes,
      String.ofList_toList]
    exact ⟨hcolon, rfl⟩
  · intro h
    obtain ⟨hcolon, rfl⟩ := h
    rw [String.toList_ofList]
    exact ⟨_, _, Base64.read?_write _, Utf8.strict_eq_some_iff.mpr rfl, cutFirst_append hcolon _⟩

theorem malformed_of_read? {encoded : String} (h : Login.read? encoded = none) :
    Malformed encoded := by
  rcases hbytes : Base64.read? encoded.toList with _ | bytes
  · exact .garbled (read?_eq_none_iff_garbled.mp hbytes)
  have hbase := isBase64_iff.mpr (Base64.read?_eq_some_iff.mp hbytes)
  rcases htext : Utf8.strict? bytes with _ | text
  · refine .noText hbase ?_
    intro text hsame
    rw [utf8_eq, Utf8.ofString] at hsame
    rw [Utf8.strict_eq_some_iff.mpr hsame.symm] at htext
    exact nomatch htext
  rcases hcut : cutFirst ':' text with _ | ⟨username, password⟩
  · have hwritten : (String.ofList text).toUTF8.data.toList = bytes := by
      rw [utf8_eq, Utf8.ofString, String.toList_ofList, ← Utf8.strict_eq_some_iff.mp htext]
    refine .noColon (hwritten ▸ hbase) ?_
    rw [String.toList_ofList]
    exact cutFirst_eq_none_iff.mp hcut
  · have hlogin := (@read?_eq_some_iff_layers encoded ⟨.ofList username, .ofList password⟩).mpr
      ⟨bytes, text, hbytes, htext, by simpa using hcut⟩
    exact nomatch h.symm.trans hlogin

/-- A malformed text is not the written form of a login. -/
theorem Malformed.not_isWritten {encoded : String} {login : Login} (h : Malformed encoded) :
    ¬ IsWritten encoded login := by
  intro hwritten
  obtain ⟨_, hbase⟩ := hwritten
  cases h with
  | garbled hgarbled => exact hgarbled.not_isBase64 hbase
  | noText hother hnone => exact hnone _ (hbase.bytes_unique hother)
  | @noColon text hother hcolon =>
      have hbytes := hbase.bytes_unique hother
      rw [utf8_eq, utf8_eq] at hbytes
      have htext := congrArg Utf8.lenient hbytes
      rw [Utf8.ofString, Utf8.ofString, Utf8.lenient_write, Utf8.lenient_write,
        toList_joined] at htext
      exact hcolon (htext ▸ List.mem_append_right _ List.mem_cons_self)

/-- What it means that logins are read as they are written. -/
structure ReadAsWritten : Prop where
  /-- A text is read as the login whose written form it is. -/
  reads : ∀ encoded login, Login.read? encoded = some login ↔ IsWritten encoded login
  /-- A name without a colon and any password make a login that has a written form. -/
  restores : ∀ username password, ':' ∉ username.toList →
    Login.read? (Login.write ⟨username, password⟩) = some ⟨username, password⟩
  /-- No two texts are read as the same login. -/
  apart : ∀ encoded other login, Login.read? encoded = some login →
    Login.read? other = some login → encoded = other
  /-- A text is refused if it is malformed, and for no other reason. -/
  refuses : ∀ encoded, Login.read? encoded = none ↔ Malformed encoded

/-- **Reading a login is the inverse of writing it.** -/
theorem login_read_as_written : ReadAsWritten where
  reads _ _ := read?_eq_some_iff_write.trans isWritten_iff.symm
  restores _ _ hcolon := read?_eq_some_iff_write.mpr ⟨hcolon, rfl⟩
  apart encoded other login h h' :=
    (read?_eq_some_iff_write.mp h).2.trans (read?_eq_some_iff_write.mp h').2.symm
  refuses encoded := by
    refine ⟨malformed_of_read?, ?_⟩
    intro h
    rw [Option.eq_none_iff_forall_ne_some]
    intro login hlogin
    exact h.not_isWritten (isWritten_iff.mpr (read?_eq_some_iff_write.mp hlogin))

end Gatehouse.Proofs

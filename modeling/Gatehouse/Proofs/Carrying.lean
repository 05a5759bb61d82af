import Gatehouse.Proofs.Listing
import Gatehouse.Proofs.Spelling

/-!
# What a request carries

Credentials stand in the authorization field. A field that is repeated counts once, by
its first value; `Carries` says which values carry something under a scheme, and what.
Only where there is no such field at all may a token stand in the query instead
(`FirstParameter`). Both are told without a word on how a request is read.

Reading agrees with them (`authorizationValue?_eq_some_iff`, `parameter?_eq_some_iff`).
So the field alone decides where there is one: a value that carries nothing, be it
illegible or meant for another scheme, still shuts out the query.
-/

namespace Gatehouse.Proofs

open Gatehouse Http Text

/-! ## The first field -/

/-- The first field of this name has this value. -/
def FirstField (headers : Headers) (name value : String) : Prop :=
  ∃ before after, headers = before ++ ⟨name, value⟩ :: after ∧ ∀ field ∈ before, field.name ≠ name

/-- No field has this name. -/
def Lacks (headers : Headers) (name : String) : Prop := ∀ field ∈ headers, field.name ≠ name

section Field

variable {headers : Headers} {name value : String}

/-- Names are kept in lower case, and `name` is one that is. -/
theorem value?_eq_some_iff (hname : lowerAscii name = name) :
    headers.value? name = some value ↔ FirstField headers name value := by
  unfold Headers.value?
  rw [hname, Option.map_eq_some_iff]
  refine ⟨?_, ?_⟩
  · intro h
    obtain ⟨field, hfound, rfl⟩ := h
    obtain ⟨hfield, before, after, rfl, hbefore⟩ := List.find?_eq_some_iff_append.mp hfound
    obtain rfl := beq_iff_eq.mp hfield
    exact ⟨before, after, rfl, fun other hother => by simpa using hbefore other hother⟩
  · intro h
    obtain ⟨before, after, rfl, hbefore⟩ := h
    refine ⟨⟨name, value⟩, List.find?_eq_some_iff_append.mpr ?_, rfl⟩
    exact ⟨beq_self_eq_true name, before, after, rfl, fun other hother => by
      simpa using hbefore other hother⟩

theorem value?_eq_none_iff (hname : lowerAscii name = name) :
    headers.value? name = none ↔ Lacks headers name := by
  unfold Headers.value? Lacks
  rw [hname, Option.map_eq_none_iff, List.find?_eq_none]
  simp only [beq_iff_eq]

end Field

/-! ## What it carries -/

/-- A field carries a value under a scheme. -/
structure Carries (scheme field value : String) : Prop where
  /-- All of the field is visible ASCII, spaces and tabs. -/
  legible : ∀ c ∈ field.toList, c = ' ' ∨ c = '\t' ∨ (0x21 ≤ c.toNat ∧ c.toNat ≤ 0x7E)
  /-- The first word is the name of the scheme, in letters of either case, and the value follows. -/
  words : ∃ word rest, Holds field.toList (word ++ ' ' :: rest) ∧ ' ' ∉ word
    ∧ word.map Char.toLower = scheme.toList.map Char.toLower ∧ Holds rest value.toList

theorem isVisibleAscii_iff {c : Char} :
    isVisibleAscii c = true ↔ c = ' ' ∨ c = '\t' ∨ (0x21 ≤ c.toNat ∧ c.toNat ≤ 0x7E) := by
  have hspace : c = ' ' ↔ c.toNat = 0x20 := Char.toNat_inj.symm
  have htab : c = '\t' ↔ c.toNat = 0x09 := Char.toNat_inj.symm
  simp only [isVisibleAscii, Bool.or_eq_true, Bool.and_eq_true, decide_eq_true_eq, beq_iff_eq]
  rw [hspace, htab]
  omega

theorem sameLetters_iff {word : List Char} {scheme : String} :
    sameLetters (String.ofList word) scheme = true ↔
      word.map Char.toLower = scheme.toList.map Char.toLower := by
  rw [sameLetters, beq_iff_eq, lowerAscii, lowerAscii, String.toList_ofList, ofList_eq_iff,
    String.toList_ofList]

theorem text?_eq_some_iff {headers : Headers} {name field : String} :
    headers.text? name = some field ↔ headers.value? name = some field
      ∧ ∀ c ∈ field.toList, c = ' ' ∨ c = '\t' ∨ (0x21 ≤ c.toNat ∧ c.toNat ≤ 0x7E) := by
  rw [Headers.text?, Option.filter_eq_some_iff, List.all_eq_true]
  simp only [isVisibleAscii_iff]

/-- What is read for a scheme is what the field carries under it. -/
theorem authorizationValue?_eq_some_iff {scheme value : String} {headers : Headers} :
    authorizationValue? scheme headers = some value ↔
      ∃ field, headers.value? authorizationField = some field ∧ Carries scheme field value := by
  unfold authorizationValue?
  simp only [Option.bind_eq_bind, Option.bind_eq_some_iff, text?_eq_some_iff]
  refine ⟨?_, ?_⟩
  · intro h
    obtain ⟨field, ⟨hfield, hlegible⟩, ⟨word, rest⟩, hcut, h⟩ := h
    obtain ⟨hsplit, hword⟩ := cutFirst_eq_some_iff.mp hcut
    split at h
    · rename_i hcond
      obtain ⟨hletters, hsome⟩ := Bool.and_eq_true_iff.mp hcond
      have hne : trim rest ≠ [] := by simpa using hsome
      have hvalue := ofList_eq_iff.mp (Option.some.inj h)
      refine ⟨field, hfield, hlegible, word, rest, ?_, hword, sameLetters_iff.mp hletters, ?_⟩
      · exact holds_iff.mpr ⟨hsplit, by simp⟩
      · exact holds_iff.mpr ⟨hvalue, hvalue ▸ hne⟩
    · exact nomatch h
  · intro h
    obtain ⟨field, hfield, hlegible, word, rest, hwords, hword, hletters, hvalue⟩ := h
    obtain ⟨hsplit, _⟩ := holds_iff.mp hwords
    obtain ⟨htrim, hne⟩ := holds_iff.mp hvalue
    refine ⟨field, ⟨hfield, hlegible⟩, (word, rest), hsplit ▸ cutFirst_append hword rest, ?_⟩
    dsimp only
    have hsome : (!(trim rest).isEmpty) = true := by simpa [htrim] using hne
    rw [sameLetters_iff.mpr hletters, hsome, htrim, String.ofList_toList]
    rfl

/-- A field carries something under one scheme only. -/
theorem Carries.one_scheme {scheme other field value value' : String}
    (h : Carries scheme field value) (h' : Carries other field value') :
    sameLetters scheme other = true := by
  obtain ⟨word, rest, hwords, hword, hletters, _⟩ := h.words
  obtain ⟨word', rest', hwords', hword', hletters', _⟩ := h'.words
  have hcut := cutFirst_append hword rest
  rw [← (holds_iff.mp hwords).1, (holds_iff.mp hwords').1, cutFirst_append hword' rest'] at hcut
  obtain ⟨rfl, _⟩ := Prod.mk.inj (Option.some.inj hcut)
  rw [← @String.ofList_toList scheme, sameLetters_iff]
  exact hletters.symm.trans hletters'

/-! ## The query -/

/-- The first pair of the query whose name is read as `name` has this value. -/
def FirstParameter (target : Target) (name value : String) : Prop :=
  ∃ query before key bytes after, target.query = some query
    ∧ SpellsPairs (Utf8.ofString query) (before ++ (key, bytes) :: after)
    ∧ (∀ pair ∈ before, textOf pair.1 ≠ name) ∧ textOf key = name ∧ textOf bytes = value

theorem lookup_read_iff {ps : List (List UInt8 × List UInt8)} {name value : String} :
    (ps.map (Prod.map textOf textOf)).lookup name = some value ↔
      ∃ before key bytes after, ps = before ++ (key, bytes) :: after
        ∧ (∀ pair ∈ before, textOf pair.1 ≠ name) ∧ textOf key = name ∧ textOf bytes = value := by
  rw [List.lookup_eq_some_iff]
  refine ⟨?_, ?_⟩
  · intro h
    obtain ⟨before, after, hsplit, hbefore⟩ := h
    obtain ⟨front, back, rfl, rfl, hback⟩ := List.map_eq_append_iff.mp hsplit
    obtain ⟨⟨key, bytes⟩, rest, rfl, hpair, rfl⟩ := List.map_eq_cons_iff.mp hback
    obtain ⟨rfl, rfl⟩ := Prod.mk.inj hpair
    refine ⟨front, key, bytes, rest, rfl, ?_, rfl, rfl⟩
    intro pair hpair hname
    have hfound := hbefore _ (List.mem_map_of_mem hpair)
    exact absurd hname.symm (by simpa using hfound)
  · intro h
    obtain ⟨before, key, bytes, after, rfl, hbefore, rfl, rfl⟩ := h
    refine ⟨before.map (Prod.map textOf textOf), after.map (Prod.map textOf textOf), by simp, ?_⟩
    intro pair hpair
    obtain ⟨origin, horigin, rfl⟩ := List.mem_map.mp hpair
    simpa using (hbefore origin horigin).symm

theorem parameter?_eq_some_iff {target : Target} {name value : String} :
    target.parameter? name = some value ↔ FirstParameter target name value := by
  unfold Target.parameter? FirstParameter
  rw [Option.bind_eq_some_iff]
  refine ⟨?_, ?_⟩
  · intro h
    obtain ⟨query, hquery, hlookup⟩ := h
    -- every query spells some pairs, so what is read of it is read of them
    obtain ⟨ps, hspells⟩ := exists_spellsPairs (Utf8.ofString query)
    rw [Form.lookup?, pairs_of_spells hspells, lookup_read_iff] at hlookup
    obtain ⟨before, key, bytes, after, rfl, hfirst⟩ := hlookup
    exact ⟨query, before, key, bytes, after, hquery, hspells, hfirst⟩
  · intro h
    obtain ⟨query, before, key, bytes, after, hquery, hspells, hfirst⟩ := h
    refine ⟨query, hquery, ?_⟩
    rw [Form.lookup?, pairs_of_spells hspells, lookup_read_iff]
    exact ⟨before, key, bytes, after, rfl, hfirst⟩

theorem ofQuery?_eq_some_iff {target : Target} {token : Token} :
    Token.ofQuery? target = some token ↔
      ∃ value, FirstParameter target Token.parameter value
        ∧ Holds value.toList token.text.toList := by
  unfold Token.ofQuery?
  simp only [Option.map_eq_some_iff, Option.filter_eq_some_iff, parameter?_eq_some_iff]
  refine ⟨?_, ?_⟩
  · intro h
    obtain ⟨text, ⟨⟨value, hvalue, rfl⟩, hsome⟩, rfl⟩ := h
    refine ⟨value, hvalue, holds_iff.mpr ?_⟩
    rw [trimString, String.toList_ofList]
    exact ⟨rfl, by simpa [trimString] using hsome⟩
  · intro h
    obtain ⟨value, hvalue, hheld⟩ := h
    obtain ⟨htrim, hne⟩ := holds_iff.mp hheld
    have htext : trimString value = token.text := ofList_eq_iff.mpr htrim
    exact ⟨token.text, ⟨⟨value, hvalue, htext⟩, by simpa using hne⟩, rfl⟩

/-! ## Both schemes -/

theorem authorizationField_lower : lowerAscii authorizationField = authorizationField := by decide

section Extracting

variable {request : Request} {field : String}

theorem authorizationValue?_of_first {scheme value : String}
    (h : FirstField request.headers "authorization" field) :
    authorizationValue? scheme request.headers = some value ↔ Carries scheme field value := by
  have hvalue : request.headers.value? authorizationField = some field :=
    (value?_eq_some_iff authorizationField_lower).mpr h
  rw [authorizationValue?_eq_some_iff, hvalue]
  simp

theorem has_iff : request.headers.has authorizationField = true ↔
    ∃ field, FirstField request.headers "authorization" field := by
  unfold Headers.has
  rw [Option.isSome_iff_exists]
  exact exists_congr fun _ => value?_eq_some_iff authorizationField_lower

theorem has_eq_false_iff : request.headers.has authorizationField = false ↔
    Lacks request.headers "authorization" := by
  unfold Headers.has
  rw [Option.isSome_eq_false_iff, Option.isNone_iff_eq_none]
  exact value?_eq_none_iff authorizationField_lower

theorem token_of_first (h : FirstField request.headers "authorization" field) {token : Token} :
    Scheme.bearer.extract request = some token ↔ Carries "Bearer" field token.text := by
  simp only [Scheme.bearer, has_iff.mpr ⟨field, h⟩, if_true, Option.map_eq_some_iff,
    authorizationValue?_of_first h]
  refine ⟨?_, ?_⟩
  · intro hcarries
    obtain ⟨text, hcarries, rfl⟩ := hcarries
    exact hcarries
  · intro hcarries
    exact ⟨token.text, hcarries, rfl⟩

theorem login_of_first (h : FirstField request.headers "authorization" field) {login : Login} :
    Scheme.basic.extract request = some login ↔
      ∃ value, Carries "Basic" field value ∧ Login.read? value = some login := by
  simp only [Scheme.basic, Option.bind_eq_some_iff, authorizationValue?_of_first h]

theorem token_of_lacks (h : Lacks request.headers "authorization") {token : Token} :
    Scheme.bearer.extract request = some token ↔
      ∃ value, FirstParameter request.target Token.parameter value
        ∧ Holds value.toList token.text.toList := by
  simp only [Scheme.bearer, has_eq_false_iff.mpr h, Bool.false_eq_true, if_false,
    ofQuery?_eq_some_iff]

theorem login_of_lacks (h : Lacks request.headers "authorization") :
    Scheme.basic.extract request = none := by
  rw [Option.eq_none_iff_forall_ne_some]
  intro login hlogin
  simp only [Scheme.basic, Option.bind_eq_some_iff, authorizationValue?_eq_some_iff] at hlogin
  obtain ⟨value, ⟨field, hfield, _⟩, _⟩ := hlogin
  rw [(value?_eq_none_iff authorizationField_lower).mpr h] at hfield
  exact nomatch hfield

end Extracting

/-- What is extracted is what the request carries. -/
structure ExtractsCarried (request : Request) : Prop where
  /-- A token is what the first authorization field carries under its scheme, -/
  tokenOfField : ∀ field, FirstField request.headers "authorization" field → ∀ token,
    Scheme.bearer.extract request = some token ↔ Carries "Bearer" field token.text
  /-- and a login is read from what the field carries under the other. -/
  loginOfField : ∀ field, FirstField request.headers "authorization" field → ∀ login,
    Scheme.basic.extract request = some login ↔
      ∃ value, Carries "Basic" field value ∧ Login.read? value = some login
  /-- Nothing else in the request makes a difference then. -/
  fieldAlone : ∀ field other, FirstField request.headers "authorization" field →
    FirstField other.headers "authorization" field →
    Scheme.bearer.extract request = Scheme.bearer.extract other
      ∧ Scheme.basic.extract request = Scheme.basic.extract other
  /-- Where there is no such field a token may stand in the query, with blanks around it, -/
  tokenOfQuery : Lacks request.headers "authorization" → ∀ token,
    Scheme.bearer.extract request = some token ↔
      ∃ value, FirstParameter request.target "access_token" value
        ∧ Holds value.toList token.text.toList
  /-- and there is no login. -/
  noLogin : Lacks request.headers "authorization" → Scheme.basic.extract request = none

/-- **A request is worth what it carries, and the field shuts out the query.** -/
theorem extracts_carried (request : Request) : ExtractsCarried request where
  tokenOfField _ h _ := token_of_first h
  loginOfField _ h _ := login_of_first h
  fieldAlone field other h h' := by
    refine ⟨Option.ext fun token => ?_, Option.ext fun login => ?_⟩
    · exact (token_of_first h).trans (token_of_first h').symm
    · exact (login_of_first h).trans (login_of_first h').symm
  tokenOfQuery h _ := token_of_lacks h
  noLogin h := login_of_lacks h

end Gatehouse.Proofs

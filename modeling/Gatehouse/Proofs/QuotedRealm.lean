import Gatehouse.Proofs.Challenge
import Gatehouse.Proofs.OneRefusal

/-!
# Reading the realm out of a challenge

A client that is asked for credentials finds the realm in a quoted string. Two characters cannot
stand there as they are, the quote and the backslash, and each of them has to be written with a
backslash before it. A client undoes that (`unquote?`), and so any realm that a header field can
hold could be told to it (`unquote?_quoted`).

The gate writes a realm as it is. That is the right way to write one without either character
(`challengeText_eq`), and then the client reads the realm of the settings; nothing is promised of
other realms but that there is one challenge. A realm with a control character has no right way
to be written, and there the gate asks for credentials without a challenge.
-/

namespace Gatehouse.Proofs

open Gatehouse Http Text

/-! ## Quoted strings -/

/-- The characters that do not stand for themselves between quotes. -/
def NeedsEscape (c : Char) : Prop := c = '"' ∨ c = '\\'

instance (c : Char) : Decidable (NeedsEscape c) := inferInstanceAs (Decidable (_ ∨ _))

/-- A text as it is written between quotes. -/
def escape (text : List Char) : List Char :=
  text.flatMap (fun c => if NeedsEscape c then ['\\', c] else [c])

/-- A text in quotes. -/
def quoted (text : String) : String :=
  String.ofList ('"' :: (escape text.toList ++ ['"']))

/-- What is read behind an opening quote, if the closing one is the last character; `escaped` says
whether a backslash has just been read. -/
def unescape? : (escaped : Bool) → List Char → Option (List Char)
  | _, [] => none
  | true, c :: rest => if isFieldChar c then (unescape? false rest).map (c :: ·) else none
  | false, c :: rest =>
    if c = '"' then if rest = [] then some [] else none
    else if c = '\\' then unescape? true rest
    else if isFieldChar c then (unescape? false rest).map (c :: ·) else none

/-- Reads a quoted string. -/
def unquote? : List Char → Option String
  | '"' :: rest => (unescape? false rest).map String.ofList
  | _ => none

theorem unescape?_escape {text : List Char} (h : ∀ c ∈ text, isFieldChar c = true) :
    unescape? false (escape text ++ ['"']) = some text := by
  induction text with
  | nil => rfl
  | cons c rest ih =>
      have hc := h c List.mem_cons_self
      have ih := ih (fun d hd => h d (List.mem_cons_of_mem c hd))
      rw [escape, List.flatMap_cons, ← escape, List.append_assoc]
      by_cases hescape : NeedsEscape c
      · -- the backslash is read, and whatever stands behind it
        rw [if_pos hescape]
        simp [unescape?, hc, ih]
      · obtain ⟨hquote, hbackslash⟩ := not_or.mp hescape
        rw [if_neg hescape]
        simp [unescape?, hquote, hbackslash, hc, ih]

/-- Whatever a header field can hold, it can hold in quotes. -/
theorem unquote?_quoted {text : String} (h : Sendable text) :
    unquote? (quoted text).toList = some text := by
  have hchars : ∀ c ∈ text.toList, isFieldChar c = true :=
    List.all_eq_true.mp (isFieldValue_iff.mpr h)
  rw [quoted, String.toList_ofList, unquote?, unescape?_escape hchars, Option.map_some,
    String.ofList_toList]

/-! ## Challenges -/

/-- Reads a challenge: the scheme, and the realm in its one parameter. -/
def readChallenge? (value : String) : Option (String × String) := do
  let (scheme, parameter) ← cutFirst ' ' value.toList
  let (name, text) ← cutFirst '=' parameter
  let realm ← unquote? text
  if isToken (String.ofList scheme) && sameLetters (String.ofList name) "realm" then
    some (String.ofList scheme, realm)
  else none

/-- A challenge as it should be written. -/
def properChallenge (scheme realm : String) : String := scheme ++ " realm=" ++ quoted realm

theorem readChallenge?_proper {scheme realm : String} (hscheme : isToken scheme = true)
    (hrealm : Sendable realm) :
    readChallenge? (properChallenge scheme realm) = some (scheme, realm) := by
  have hspace : ' ' ∉ scheme.toList := by
    intro hmem
    rw [isToken, Bool.and_eq_true, List.all_eq_true] at hscheme
    exact absurd (hscheme.2 _ hmem) (by decide)
  have hvalue : (properChallenge scheme realm).toList =
      scheme.toList ++ ' ' :: ("realm".toList ++ '=' :: (quoted realm).toList) := by
    simp [properChallenge]
  rw [readChallenge?, hvalue, cutFirst_append hspace]
  simp only [Option.bind_eq_bind, Option.bind_some]
  rw [cutFirst_append (by decide)]
  simp only [Option.bind_some, unquote?_quoted hrealm, String.ofList_toList, hscheme]
  rfl

/-- A text in which every character stands for itself. -/
def Plain (text : String) : Prop := ∀ c ∈ text.toList, ¬ NeedsEscape c

instance (text : String) : Decidable (Plain text) :=
  List.decidableBAll (fun c => ¬ NeedsEscape c) text.toList

theorem escape_of_plain {text : List Char} (h : ∀ c ∈ text, ¬ NeedsEscape c) :
    escape text = text := by
  rw [escape, List.flatMap_congr (fun c hc => if_neg (h c hc)), List.flatMap_singleton']

/-- Where nothing is to be escaped, a challenge is written as it should be. -/
theorem challengeText_eq (scheme : String) {realm : String} (h : Plain realm) :
    challengeText scheme realm = properChallenge scheme realm := by
  rw [← String.toList_inj, toList_challengeText, properChallenge, quoted, escape_of_plain h]
  simp

/-! ## On the way out -/

theorem challengesOf_ensure {name : String} (value : String) (answer : Response)
    (h : lowerAscii name ≠ "www-authenticate") :
    challengesOf { answer with headers := answer.headers.ensure name value } =
      challengesOf answer :=
  congrArg (List.map Header.value)
    (@filter_ensure_of_false (fun field => field.name == "www-authenticate") name value
      answer.headers (beq_false_of_ne h))

theorem challengesOf_measure (method : String) (answer : Response) :
    challengesOf (Service.measure method answer) = challengesOf answer :=
  challengesOf_ensure _ answer (by decide)

/-- No challenge is added to an answer on its way out, and none is taken from it. -/
theorem challengesOf_sentOut (fresh : String) (request : Request) (answer : Response) :
    challengesOf (sentOut fresh request answer) = challengesOf answer := by
  have hid : challengesOf (Service.bearId (Service.identified fresh request) answer) =
      challengesOf answer := by
    rw [Service.bearId]
    split
    · exact challengesOf_ensure _ answer (by decide)
    · rfl
  rw [sentOut, ← hid, Service.dress]
  split
  · rfl
  · split
    · exact challengesOf_measure _ _
    · rw [challengesOf_measure]
      exact challengesOf_ensure _ _ (by decide)

theorem firstScheme_cases (settings : Settings) :
    firstScheme settings = "Bearer" ∨ firstScheme settings = "Basic" := by
  rw [firstScheme]
  split
  · exact .inl rfl
  · exact .inr rfl

/-! ## What is promised -/

/-- What is promised of the challenges in a response that asks for credentials. -/
structure Challenging (settings : Settings) (response : Response) : Prop where
  /-- A realm that can be sent is sent once. -/
  once : Sendable settings.realm → ∃ value, challengesOf response = [value]
  /-- If there is nothing to escape in it, a client reads the first scheme and that realm. -/
  readable : Sendable settings.realm → Plain settings.realm →
    ∃ value, challengesOf response = [value]
      ∧ value = firstScheme settings ++ " realm=" ++ quoted settings.realm
      ∧ readChallenge? value = some (firstScheme settings, settings.realm)
  /-- A realm that cannot be sent is left out with its challenge. -/
  omitted : ¬ Sendable settings.realm → challengesOf response = []

theorem challenging_refusal (settings : Settings) :
    Challenging settings (refusal settings).response := by
  have hscheme : Sendable (firstScheme settings) ∧ isToken (firstScheme settings) = true := by
    rcases firstScheme_cases settings with h | h
    · rw [h]; decide
    · rw [h]; decide
  have hsendable := @sendable_challengeText_iff _ settings.realm hscheme.1
  rw [refusal_eq]
  rcases refusal_cases (.inr rfl) (firstScheme settings) settings.realm with
    ⟨hsent, -, hone⟩ | ⟨hlost, -, hnone⟩
  · constructor
    case once => exact fun _ => ⟨_, hone⟩
    case readable =>
      intro hrealm hplain
      refine ⟨_, hone, challengeText_eq _ hplain, ?_⟩
      rw [challengeText_eq _ hplain]
      exact readChallenge?_proper hscheme.2 hrealm
    case omitted => exact fun hrealm => absurd (hsendable.mp hsent) hrealm
  · have hrealm : ¬ Sendable settings.realm := fun hrealm => hlost (hsendable.mpr hrealm)
    constructor
    case once => exact fun hsent => absurd hsent hrealm
    case readable => exact fun hsent => absurd hsent hrealm
    case omitted => exact fun _ => hnone

/-- **Whoever is asked for credentials can read for which realm**, whatever page is asked for and
by whatever method, if the realm can be sent and has nothing to escape. -/
theorem challenge_reads_back {env : Environment} {settings : Settings}
    (h : Settings.read env = .ok settings) :
    ∃ service, settings.service = .ok service
      ∧ ∀ (fresh : String) (request : Request),
        (service.serve fresh request).response.status = .unauthorized →
        Challenging settings (service.serve fresh request).response := by
  refine ⟨_, service_eq settings, ?_⟩
  intro fresh request hstatus
  have hresponse := sentOut_of_unauthorized (distinct_of_read h) hstatus
  have hrefusal := challenging_refusal settings
  have hchallenges := challengesOf_sentOut fresh request (refusal settings).response
  rw [hresponse]
  constructor
  case once =>
    rw [hchallenges]
    exact hrefusal.once
  case readable =>
    rw [hchallenges]
    exact hrefusal.readable
  case omitted =>
    rw [hchallenges]
    exact hrefusal.omitted

/-- An environment with a user, and with a realm of this name. -/
def inRealm (realm : String) : Environment := fun key =>
  if key = "AUTH_REALM" then some realm
  else if key = "AUTH_BASIC_USERS" then some "bob:pa:ss:" else none

/-- The settings that are read from it. -/
def inRealmSettings (realm : String) : Settings :=
  ⟨3000, realm, .optional, [], [⟨"bob", "pa:ss", []⟩], 30, 1048576⟩

/-- A tab and an accent are read back, and blanks around a realm do not belong to it. -/
theorem challenge_reads_back_accented :
    Settings.read (inRealm " réalm\tone ") = .ok (inRealmSettings "réalm\tone")
      ∧ ∃ service, (inRealmSettings "réalm\tone").service = .ok service
        ∧ (service.serve "c0ffee" nobodysRequest).response.status = .unauthorized
        ∧ ∃ value, challengesOf (service.serve "c0ffee" nobodysRequest).response = [value]
          ∧ value = "Basic realm=\"réalm\tone\""
          ∧ readChallenge? value = some ("Basic", "réalm\tone") := by
  have hread : Settings.read (inRealm " réalm\tone ") = .ok (inRealmSettings "réalm\tone") := by
    decide +kernel
  obtain ⟨service, hservice, hback⟩ := challenge_reads_back hread
  have hstatus : (service.serve "c0ffee" nobodysRequest).response.status = .unauthorized := by
    obtain rfl := Except.ok.inj hservice
    decide +kernel
  obtain ⟨value, hone, hvalue, hreads⟩ :=
    (hback "c0ffee" nobodysRequest hstatus).readable (by decide) (by decide)
  exact ⟨hread, service, hservice, hstatus, value, hone, hvalue.trans (by decide +kernel), hreads⟩

/-- A realm of two lines is asked for without a challenge, and one with quotes in it with a
challenge that cannot be read. -/
theorem challenge_garbled :
    Settings.read (inRealm "two\nlines") = .ok (inRealmSettings "two\nlines")
      ∧ Settings.read (inRealm "say \"friend\"") = .ok (inRealmSettings "say \"friend\"")
      ∧ ∃ service service', (inRealmSettings "two\nlines").service = .ok service
        ∧ (inRealmSettings "say \"friend\"").service = .ok service'
        ∧ (service.serve "c0ffee" nobodysRequest).response.status = .unauthorized
        ∧ challengesOf (service.serve "c0ffee" nobodysRequest).response = []
        ∧ (service'.serve "c0ffee" nobodysRequest).response.status = .unauthorized
        ∧ challengesOf (service'.serve "c0ffee" nobodysRequest).response =
          ["Basic realm=\"say \"friend\"\""]
        ∧ readChallenge? "Basic realm=\"say \"friend\"\"" = none := by
  refine ⟨?_, ?_, _, _, service_eq _, service_eq _, ?_, ?_, ?_, ?_, ?_⟩
  · decide +kernel
  · decide +kernel
  · decide +kernel
  · decide +kernel
  · decide +kernel
  · decide +kernel
  · decide +kernel

end Gatehouse.Proofs

import Gatehouse.Proofs.Faithful
import Gatehouse.Proofs.OneRefusal

/-!
# What the mode of a deployment shows

A deployment can be switched between two modes without a change to its entries.
What a request stands for is a matter of the entries alone (`Stands.of_entries`), and
of the three standings only one leaves anything to the mode: that of a request
without credentials. Such a request is stopped in either mode on its way to a page
that needs an account, by one guard or by the other and in the same words. What is
left is the greeting, the one page that is there for everyone.

Too long a body is refused before anyone asks about credentials, so for a greeting
that announces one the mode does not show either (`greeting_too_long`).
-/

namespace Gatehouse.Proofs

open Gatehouse Http Text

/-! ## What a request stands for is a matter of the entries -/

section Entries

/-- Two deployments list the same entries. -/
structure SameEntries (settings settings' : Settings) : Prop where
  tokens : settings.tokens = settings'.tokens
  users : settings.users = settings'.users

theorem sameEntries_of_mode (settings : Settings) (mode : Mode) :
    SameEntries settings { settings with mode } := ⟨rfl, rfl⟩

variable {settings settings' : Settings} {request : Request}

theorem SameEntries.symm (h : SameEntries settings settings') : SameEntries settings' settings :=
  ⟨h.tokens.symm, h.users.symm⟩

theorem Presents.of_entries {scheme : String} (hsame : SameEntries settings settings')
    (h : Presents settings request scheme) : Presents settings' request scheme := by
  cases h with
  | token htakes hx =>
      rw [hsame.tokens, hsame.users] at htakes
      exact .token htakes hx
  | login htakes hx =>
      rw [hsame.users] at htakes
      exact .login htakes hx

theorem Resolves.of_entries {name scheme : String} {roles : List String}
    (hsame : SameEntries settings settings') (h : Resolves settings request name roles scheme) :
    Resolves settings' request name roles scheme := by
  cases h with
  | token hentry hx =>
      rw [hsame.tokens] at hentry
      exact .token hentry hx
  | login hentry hx =>
      rw [hsame.users] at hentry
      exact .login hentry hx

theorem Stands.of_entries {standing : Standing} (hsame : SameEntries settings settings')
    (h : Stands settings request standing) : Stands settings' request standing :=
  h.congr (fun _ => ⟨.of_entries hsame, .of_entries hsame.symm⟩)
    (fun _ _ _ => ⟨.of_entries hsame, .of_entries hsame.symm⟩)

end Entries

variable {settings : Settings} {page : Page} {fresh : String} {request : Request}
  {standing : Standing}

/-! ## The mode decides about requests without credentials only -/

theorem passes_of_mode (mode mode' : Mode) (h : NeedsAccount page ∨ standing ≠ .missing) :
    Passes mode page.address standing ↔ Passes mode' page.address standing := by
  cases standing with
  | resolved name roles scheme => exact Iff.rfl
  | invalid => exact Iff.rfl
  | missing =>
      rcases h with hneeds | hother
      · -- in neither mode does anyone get to such a page without an account
        have hstop : ∀ mode, ¬ Passes mode page.address .missing := by
          intro mode hpass
          obtain ⟨name, roles, scheme, hresolved⟩ := hneeds mode .missing hpass
          exact absurd hresolved (by simp)
        exact iff_of_false (hstop mode) (hstop mode')
      · exact absurd rfl hother

theorem replyTo_of_mode (settings : Settings) (mode : Mode)
    (h : NeedsAccount page ∨ standing ≠ .missing) :
    replyTo { settings with mode } page standing = replyTo settings page standing := by
  have hanswer : standing.answer { settings with mode } = standing.answer settings := by
    cases standing <;> rfl
  have hpasses := @passes_of_mode page standing mode settings.mode h
  by_cases hpass : Passes settings.mode page.address standing
  · rw [replyTo, replyTo, if_pos hpass, if_pos (hpasses.mpr hpass)]
  · rw [replyTo, replyTo, if_neg hpass, if_neg (fun hc => hpass (hpasses.mp hc)), hanswer]

/-! ## Two deployments that differ in the mode -/

/-- Two answers to one request that differ at most in an id that was made up for it. -/
structure SameAnswer (request : Request) (response other : Response) : Prop where
  alike : AlikeBut [Service.idField] response other
  /-- For a request that brings its id nothing is made up. -/
  equal : request.headers.has Service.idField = true → response = other

theorem idOf_of_has (fresh fresh' : String) (h : request.headers.has Service.idField = true) :
    idOf fresh request = idOf fresh' request := by
  obtain ⟨id, hid⟩ := Option.isSome_iff_exists.mp h
  rw [idOf, idOf, hid]
  rfl

theorem sameAnswer_labelled (fresh fresh' : String) (request : Request) (answer : Response) :
    SameAnswer request (labelled (idOf fresh request) answer)
      (labelled (idOf fresh' request) answer) := by
  refine ⟨labelled_alike _ _ answer, ?_⟩
  intro hown
  rw [idOf_of_has fresh fresh' hown]

/-- A request that is refused for its length, and whose credentials nobody looks at. -/
structure RefusedForLength (exchange : Exchange) : Prop where
  status : exchange.response.status = .payloadTooLarge
  /-- No guard has a turn. -/
  unasked : exchange.steps = []

theorem refusedForLength {service : Service} (haddress : request.target.path = page.address)
    (hlong : Service.tooLong service.limits request = true) :
    RefusedForLength (service.serve fresh request) := by
  rw [← tooLong_identified service.limits fresh] at hlong
  rw [serve_of_tooLong haddress hlong]
  refine ⟨?_, rfl⟩
  rw [Service.status_dress, status_bearId]
  rfl

/-- What the greeting says to a request without credentials. -/
structure GreetedByMode (settings : Settings) (id : String) (response : Response) : Prop where
  optional : settings.mode = .optional →
    response = labelled id (.json .ok (greetingBody "anonymous" false))
      ∧ Conveys response.body (greetingBody "anonymous" false)
  required : settings.mode = .required →
    response.status = .unauthorized ∧ response = labelled id (refusal settings).response

theorem greetedByMode (hd : Distinct settings) (hget : request.method = "GET")
    (haddress : request.target.path = Page.greeting.address)
    (hshort : Service.tooLong settings.limits request = false)
    (hmissing : Stands settings request .missing) :
    GreetedByMode settings (idOf fresh request)
      ((settings.serviceBehind ⟨settings.registrations⟩).serve fresh request).response := by
  rw [response_of_stands hd rfl hget haddress hmissing, answerTo, hshort,
    if_neg Bool.false_ne_true]
  constructor
  case optional =>
    intro hmode
    have hpass : Passes settings.mode Page.greeting.address .missing := ⟨hmode, .inr (by decide)⟩
    have hanswer : (replyTo settings .greeting .missing).response =
        .json .ok (greetingBody "anonymous" false) := by
      rw [replyTo, if_pos hpass]
      rfl
    rw [hanswer]
    exact ⟨rfl, conveys_render _⟩
  case required =>
    intro hmode
    have hstop : ¬ Passes settings.mode Page.greeting.address .missing := by
      rintro ⟨hoptional, -⟩
      rw [hmode] at hoptional
      exact absurd hoptional (by decide)
    have hanswer : (replyTo settings .greeting .missing).response = (refusal settings).response := by
      rw [replyTo, if_neg hstop]
      rfl
    rw [hanswer, labelled]
    exact ⟨status_refusal settings, rfl⟩

theorem sameAnswer_of_mode (hd : Distinct settings) (page : Page) (mode : Mode)
    (fresh fresh' : String) (hpage : page.isProtected = true) (hget : request.method = "GET")
    (haddress : request.target.path = page.address) (hstands : Stands settings request standing)
    (h : Service.tooLong settings.limits request = true ∨ NeedsAccount page
      ∨ standing ≠ .missing) :
    SameAnswer request
      ((settings.serviceBehind ⟨settings.registrations⟩).serve fresh request).response
      (({ settings with mode }.serviceBehind ⟨{ settings with mode }.registrations⟩).serve fresh'
        request).response := by
  have hstands' : Stands { settings with mode } request standing :=
    hstands.of_entries (sameEntries_of_mode settings mode)
  have hanswer : answerTo { settings with mode } page request standing =
      answerTo settings page request standing := by
    rcases h with hlong | hreply
    · rw [answerTo, answerTo, hlong, if_pos rfl]
      exact if_pos hlong
    · rw [answerTo, answerTo, replyTo_of_mode settings mode hreply]
      rfl
  rw [response_of_stands hd hpage hget haddress hstands,
    response_of_stands (hd.of_mode mode) hpage hget haddress hstands', hanswer]
  exact sameAnswer_labelled fresh fresh' request _

/-- **The mode shows in the greeting of those who present nothing, and nowhere else.** Two
deployments that differ in the mode alone answer every other `GET` for a page behind the gate
alike. A greeting without credentials is given by one and refused by the other, provided that it
does not announce too long a body; a request that does is refused for it by both. -/
theorem mode_shows_in_greeting {env env' : Environment} {settings settings' : Settings}
    (h : Settings.read env = .ok settings) (h' : Settings.read env' = .ok settings')
    (hmode : settings' = { settings with mode := settings'.mode }) :
    ∃ service service', settings.service = .ok service ∧ settings'.service = .ok service'
      ∧ ∀ (fresh fresh' : String) (request : Request), request.method = "GET" →
        (request.target.path = "/api/v1/me" ∨ request.target.path = "/api/v1/admin" →
          SameAnswer request (service.serve fresh request).response
            (service'.serve fresh' request).response)
        ∧ (request.target.path = "/api/v1/greeting" →
          ((∃ scheme, Presents settings request scheme)
              ∨ Service.tooLong settings.limits request = true →
            SameAnswer request (service.serve fresh request).response
              (service'.serve fresh' request).response)
          ∧ ((¬ ∃ scheme, Presents settings request scheme) →
              Service.tooLong settings.limits request = false →
            GreetedByMode settings (idOf fresh request) (service.serve fresh request).response
              ∧ GreetedByMode settings' (idOf fresh' request)
                (service'.serve fresh' request).response))
        ∧ ∀ page : Page, request.target.path = page.address →
          Service.tooLong settings.limits request = true →
            RefusedForLength (service.serve fresh request)
              ∧ RefusedForLength (service'.serve fresh' request) := by
  have hd := distinct_of_read h
  have hd' := distinct_of_read h'
  generalize settings'.mode = mode at hmode
  subst hmode
  refine ⟨_, _, service_eq settings, service_eq _, ?_⟩
  intro fresh fresh' request hget
  obtain ⟨standing, hstands⟩ := exists_stands settings request
  refine ⟨?_, ?_, ?_⟩
  · rintro (hpath | hpath)
    · exact sameAnswer_of_mode hd .me mode fresh fresh' rfl hget hpath hstands
        (.inr (.inl needsAccount_me))
    · exact sameAnswer_of_mode hd .admin mode fresh fresh' rfl hget hpath hstands
        (.inr (.inl needsAccount_admin))
  · intro hpath
    refine ⟨?_, ?_⟩
    · rintro (hpresents | hlong)
      · refine sameAnswer_of_mode hd .greeting mode fresh fresh' rfl hget hpath hstands
          (.inr (.inr ?_))
        rintro rfl
        exact hstands hpresents
      · exact sameAnswer_of_mode hd .greeting mode fresh fresh' rfl hget hpath hstands
          (.inl hlong)
    · intro hmissing hshort
      have hmissing' : Stands { settings with mode } request .missing :=
        Stands.of_entries (sameEntries_of_mode settings mode) hmissing
      exact ⟨greetedByMode hd hget hpath hshort hmissing,
        greetedByMode hd' hget hpath hshort hmissing'⟩
  · intro page haddress hlong
    exact ⟨refusedForLength haddress hlong, refusedForLength haddress hlong⟩

/-- The furnished environment in the other mode. -/
def strict : Environment := fun key =>
  if key = "AUTH_MODE" then some "required" else furnished key

def strictSettings : Settings := { furnishedSettings with mode := .required }

theorem read_strict : Settings.read strict = .ok strictSettings := by decide +kernel

/-- A request for the greeting without credentials. -/
def guestsRequest : Request := ⟨"GET", ⟨none, "/api/v1/greeting", none⟩, []⟩

theorem not_presents_of_extract (settings : Settings)
    (htoken : Scheme.bearer.extract request = none) (hlogin : Scheme.basic.extract request = none) :
    ¬ ∃ scheme, Presents settings request scheme := by
  rintro ⟨scheme, hpresents⟩
  cases hpresents with
  | token _ hx => rw [htoken] at hx; exact absurd hx (by simp)
  | login _ hx => rw [hlogin] at hx; exact absurd hx (by simp)

theorem mode_shows_in_greeting_furnished :
    Settings.read furnished = .ok furnishedSettings
      ∧ Settings.read strict = .ok strictSettings
      ∧ strictSettings = { furnishedSettings with mode := strictSettings.mode }
      ∧ guestsRequest.method = "GET"
      ∧ (¬ ∃ scheme, Presents furnishedSettings guestsRequest scheme)
      ∧ Service.tooLong furnishedSettings.limits guestsRequest = false
      ∧ ∃ service service', furnishedSettings.service = .ok service
        ∧ strictSettings.service = .ok service'
        ∧ GreetedByMode furnishedSettings (idOf "c0ffee" guestsRequest)
          (service.serve "c0ffee" guestsRequest).response
        ∧ GreetedByMode strictSettings (idOf "decaf" guestsRequest)
          (service'.serve "decaf" guestsRequest).response := by
  have hnothing : ¬ ∃ scheme, Presents furnishedSettings guestsRequest scheme :=
    not_presents_of_extract _ (by decide +kernel) (by decide +kernel)
  have hshort : Service.tooLong furnishedSettings.limits guestsRequest = false := by
    decide +kernel
  obtain ⟨service, service', hservice, hservice', hmodes⟩ :=
    mode_shows_in_greeting read_furnished read_strict rfl
  refine ⟨read_furnished, read_strict, rfl, rfl, hnothing, hshort, service, service', hservice,
    hservice', ?_⟩
  exact ((hmodes "c0ffee" "decaf" guestsRequest rfl).2.1 rfl).2 hnothing hshort

/-- The same request with the announcement of a body that is one byte too long. -/
def guestsLongRequest : Request :=
  { guestsRequest with headers := [⟨"content-length", "1048577"⟩] }

/-- Neither deployment greets it, and neither asks for credentials. -/
theorem greeting_too_long :
    Settings.read furnished = .ok furnishedSettings
      ∧ Settings.read strict = .ok strictSettings
      ∧ guestsLongRequest.method = "GET"
      ∧ guestsLongRequest.target.path = "/api/v1/greeting"
      ∧ (¬ ∃ scheme, Presents furnishedSettings guestsLongRequest scheme)
      ∧ ∃ service service', furnishedSettings.service = .ok service
        ∧ strictSettings.service = .ok service'
        ∧ (service.serve "c0ffee" guestsLongRequest).response.status = .payloadTooLarge
        ∧ (service'.serve "decaf" guestsLongRequest).response.status = .payloadTooLarge := by
  refine ⟨read_furnished, read_strict, rfl, rfl, ?_, _, _, service_eq _, service_eq _, ?_, ?_⟩
  · exact not_presents_of_extract _ (by decide +kernel) (by decide +kernel)
  · decide +kernel
  · decide +kernel

end Gatehouse.Proofs

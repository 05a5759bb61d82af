import Gatehouse.Proofs.AccessTable
import Gatehouse.Proofs.Rendering
import Gatehouse.Proofs.WrittenLogin

/-!
# Presenting what is listed

Whoever is listed in the settings can be recognised. A user presents the login in
its written form, in the authorization field; a token may stand in the query of a
request without that field, among other parameters and in any spelling. Both come
through to the table as they are listed: the Base64 text holds nothing that trimming
would take off and nothing that is not visible (`printed_base64`), the name ends at
the first colon because it holds none, and a token is free of blanks at its ends
before the query is trimmed. From there on the access table has the word.

A token may stand in the authorization field as well, but a field is read only if it is
visible ASCII throughout, and the settings ask no such thing of a token. One that
they list with a letter beyond ASCII is good in the query and worth nothing in the
field (`missing_of_not_visible`).
-/

namespace Gatehouse.Proofs

open Gatehouse Http Text

/-- A caller of this name, with exactly these roles, that this scheme vouches for. -/
structure KnownAs (name : String) (roles : List String) (scheme : String) (caller : Caller) :
    Prop where
  principal : caller.principal = some name
  roles : ∀ role, caller.roles.contains role = true ↔ role ∈ roles
  scheme : caller.scheme = some scheme

theorem Resolves.knownAs {settings : Settings} (hd : Distinct settings) {request : Request}
    {name scheme : String} {roles : List String} (h : Resolves settings request name roles scheme) :
    KnownAs name roles scheme (gateRun settings request).visit.caller := by
  rw [(gated_resolved hd h).visit]
  refine ⟨rfl, ?_, rfl⟩
  intro role
  exact List.contains_iff_mem.trans Roles.mem_ofList

/-! ## The authorization field -/

/-- A character that is visible and takes room. -/
def Shows (c : Char) : Prop := isVisibleAscii c = true ∧ isBlank c = false

instance (c : Char) : Decidable (Shows c) := inferInstanceAs (Decidable (_ ∧ _))

/-- There is something, and all of it shows. -/
structure Printed (cs : List Char) : Prop where
  nonempty : cs ≠ []
  shows : ∀ c ∈ cs, Shows c

theorem printed_iff {cs : List Char} :
    Printed cs ↔ cs ≠ [] ∧ cs.all (fun c => decide (Shows c)) = true := by
  rw [List.all_eq_true]
  simp only [decide_eq_true_eq]
  exact ⟨fun h => ⟨h.nonempty, h.shows⟩, fun h => ⟨h.1, h.2⟩⟩

instance (cs : List Char) : Decidable (Printed cs) := decidable_of_iff _ printed_iff.symm

theorem Printed.trimmed {cs : List Char} (h : Printed cs) : Trimmed cs :=
  ⟨fun c hc => (h.shows c (List.mem_of_head? hc)).2,
    fun c hc => (h.shows c (List.mem_of_getLast? hc)).2⟩

theorem Printed.no_space {cs : List Char} (h : Printed cs) : ' ' ∉ cs := by
  intro hmem
  exact absurd (h.shows ' ' hmem) (by decide)

theorem Printed.visible {cs : List Char} (h : Printed cs) : cs.all isVisibleAscii = true :=
  List.all_eq_true.mpr (fun c hc => (h.shows c hc).1)

/-- The name of a scheme and a value, joined by a space, carry the value if all of it is visible. -/
theorem carries_joined {scheme value : String} (hscheme : Printed scheme.toList)
    (htrimmed : Trimmed value.toList) (hne : value.toList ≠ [])
    (hvisible : value.toList.all isVisibleAscii = true) :
    Carries scheme (scheme ++ " " ++ value) value := by
  have hwords : (scheme ++ " " ++ value).toList = scheme.toList ++ ' ' :: value.toList := by
    simp
  have hall : (scheme.toList ++ ' ' :: value.toList).all isVisibleAscii = true := by
    rw [List.all_append, List.all_cons, hscheme.visible, hvisible]
    rfl
  have houter : Trimmed (scheme.toList ++ ' ' :: value.toList) := by
    refine ⟨?_, ?_⟩
    · rw [List.head?_append_of_ne_nil _ hscheme.nonempty]
      exact hscheme.trimmed.1
    · rw [List.getLast?_append_of_ne_nil _ (List.cons_ne_nil ' ' _),
        List.getLast?_cons_of_ne_nil hne]
      exact htrimmed.2
  refine ⟨?_, scheme.toList, value.toList, ?_, hscheme.no_space, rfl, ?_⟩
  · rw [hwords]
    exact fun c hc => isVisibleAscii_iff.mp (List.all_eq_true.mp hall c hc)
  · rw [hwords]
    exact holds_iff.mpr ⟨trim_of_trimmed houter, by simp⟩
  · exact holds_iff.mpr ⟨trim_of_trimmed htrimmed, hne⟩

theorem Carries.visible {scheme field value : String} (h : Carries scheme field value) :
    field.toList.all isVisibleAscii = true :=
  List.all_eq_true.mpr fun c hc => isVisibleAscii_iff.mpr (h.legible c hc)

theorem firstField_of_value? {request : Request} {field : String}
    (h : request.headers.value? authorizationField = some field) :
    FirstField request.headers "authorization" field :=
  (value?_eq_some_iff authorizationField_lower).mp h

/-! ## Logins -/

theorem shows_digit {n : Nat} (h : n < 64) : Shows (Base64.digit n) := by
  have all : ∀ k : Fin 64, Shows (Base64.digit k) := by decide
  exact all ⟨n, h⟩

theorem shows_base64 (bytes : List UInt8) : ∀ c ∈ Base64.write bytes, Shows c := by
  have hpad : Shows '=' := by decide
  fun_induction Base64.write bytes with
  | case1 => exact List.forall_mem_nil _
  | case2 a =>
      have ha := a.toNat_lt
      simp only [List.forall_mem_cons]
      exact ⟨shows_digit (by omega), shows_digit (by omega), hpad, hpad, List.forall_mem_nil _⟩
  | case3 a b =>
      have ha := a.toNat_lt
      have hb := b.toNat_lt
      simp only [List.forall_mem_cons]
      exact ⟨shows_digit (by omega), shows_digit (by omega), shows_digit (by omega), hpad,
        List.forall_mem_nil _⟩
  | case4 a b c rest ih =>
      have ha := a.toNat_lt
      have hb := b.toNat_lt
      have hc := c.toNat_lt
      simp only [List.forall_mem_cons]
      exact ⟨shows_digit (by omega), shows_digit (by omega), shows_digit (by omega),
        shows_digit (by omega), ih⟩

theorem printed_base64 {bytes : List UInt8} (h : bytes ≠ []) : Printed (Base64.write bytes) := by
  refine ⟨?_, shows_base64 bytes⟩
  rcases bytes with _ | ⟨a, _ | ⟨b, _ | ⟨c, rest⟩⟩⟩
  · exact absurd rfl h
  all_goals exact List.cons_ne_nil _ _

theorem extract_login {request : Request} {login : Login} (h : ':' ∉ login.username.toList)
    (hfield : request.headers.value? authorizationField = some ("Basic " ++ login.write)) :
    Scheme.basic.extract request = some login := by
  have hword : Printed "Basic".toList := by decide
  have hbytes : Utf8.ofString (login.username ++ ":" ++ login.password) ≠ [] := by
    -- the colon alone is a byte
    intro hnil
    have hempty : login.username ++ ":" ++ login.password = "" := by
      rw [← textOf_ofString (login.username ++ ":" ++ login.password), hnil]
      decide
    exact absurd (congrArg String.toList hempty) (by simp)
  have hlogin : Printed login.write.toList := by
    rw [Login.write, String.toList_ofList]
    exact printed_base64 hbytes
  have hcarries := carries_joined hword hlogin.trimmed hlogin.nonempty hlogin.visible
  exact (login_of_first (firstField_of_value? hfield)).mpr
    ⟨login.write, hcarries, read?_eq_some_iff_write.mpr ⟨h, rfl⟩⟩

/-! ## Tokens -/

theorem extract_token_of_field {request : Request} {token : String}
    (htrimmed : Trimmed token.toList) (hne : token.toList ≠ [])
    (hvisible : token.toList.all isVisibleAscii = true)
    (hfield : request.headers.value? authorizationField = some ("Bearer " ++ token)) :
    Scheme.bearer.extract request = some ⟨token⟩ := by
  have hword : Printed "Bearer".toList := by decide
  have hcarries := carries_joined hword htrimmed hne hvisible
  exact (token_of_first (firstField_of_value? hfield)).mpr hcarries

theorem extract_token_of_query {request : Request} {token query : String}
    {ps : List (List UInt8 × List UInt8)} (htrimmed : Trimmed token.toList)
    (hne : token.toList ≠ []) (hfield : request.headers.has authorizationField = false)
    (hquery : request.target.query = some query) (hspells : SpellsPairs (Utf8.ofString query) ps)
    (hfirst : ps.lookup (Utf8.ofString "access_token") = some (Utf8.ofString token)) :
    Scheme.bearer.extract request = some ⟨token⟩ := by
  have hparameter : request.target.parameter? Token.parameter = some token := by
    rw [Target.parameter?, hquery, Option.bind_some]
    exact lookup?_of_spells hspells (by decide) hfirst
  have htrim : trimString token = token := by
    rw [trimString, trim_of_trimmed htrimmed, String.ofList_toList]
  have hnonempty : token.isEmpty = false := by
    rw [← Bool.not_eq_true, String.isEmpty_iff]
    rintro rfl
    exact hne rfl
  simp only [Scheme.bearer, hfield, Token.ofQuery?, hparameter, Option.map_some, htrim,
    Option.filter_some, hnonempty]
  rfl

/-- A field that is not visible throughout shuts out the query and says nothing itself. -/
theorem missing_of_not_visible {request : Request} {field : String} (settings : Settings)
    (hfield : request.headers.value? authorizationField = some field)
    (h : field.toList.all isVisibleAscii = false) : Stands settings request .missing := by
  have hfirst := firstField_of_value? hfield
  have hnone : ∀ scheme value, ¬ Carries scheme field value := by
    intro scheme value hcarries
    exact absurd (h.symm.trans hcarries.visible) (by simp)
  intro hpresent
  obtain ⟨scheme, hpresents⟩ := hpresent
  cases hpresents with
  | token _ hx => exact hnone _ _ ((token_of_first hfirst).mp hx)
  | login _ hx =>
      obtain ⟨value, hcarries, _⟩ := (login_of_first hfirst).mp hx
      exact hnone _ value hcarries

/-! ## Everyone who is listed -/

variable {env : Environment} {settings : Settings}

/-- **Every user can log in.** Where the authorization field holds the login of a user who is
listed, the visit ends with that user as the caller, whatever else the request says. -/
theorem listed_user_logs_in (h : Settings.read env = .ok settings) :
    ∃ pipeline, settings.pipeline = .ok pipeline ∧
      ∀ entry ∈ settings.users, ∀ request : Request,
        request.headers.value? authorizationField = some ("Basic " ++ entry.login.write) →
        KnownAs entry.username entry.roles "Basic"
          (pipeline.run (.ofRequest request)).visit.caller := by
  have hd := distinct_of_read h
  refine ⟨_, pipeline_eq settings, ?_⟩
  intro entry hentry request hfield
  have hx : Scheme.basic.extract request = some entry.login :=
    extract_login (no_colon_of_read h hentry) hfield
  exact Resolves.knownAs hd (.login hentry hx)

/-- An environment with a token and a password that are not written as they are. -/
def outlandish : Environment := fun key =>
  if key = "AUTH_TOKENS" then some " t=0 &%+é :ada:admin|ops"
  else if key = "AUTH_BASIC_USERS" then some "zoë: p:w :ops" else none

/-- The settings that are read from it. -/
def outlandishSettings : Settings :=
  ⟨3000, "authchain", .optional, [⟨"t=0 &%+é", "ada", ["admin", "ops"]⟩],
    [⟨"zoë", " p:w ", ["ops"]⟩], 30, 1048576⟩

theorem read_outlandish : Settings.read outlandish = .ok outlandishSettings := by decide +kernel

/-- A request with a login. -/
def loginRequest : Request :=
  ⟨"GET", ⟨none, "/api/v1/me", some "access_token=other"⟩,
    [⟨"authorization", "Basic em/DqzogcDp3IA=="⟩]⟩

theorem listed_user_logs_in_outlandish :
    Settings.read outlandish = .ok outlandishSettings
      ∧ ∃ pipeline, outlandishSettings.pipeline = .ok pipeline
        ∧ KnownAs "zoë" ["ops"] "Basic" (pipeline.run (.ofRequest loginRequest)).visit.caller := by
  obtain ⟨pipeline, hpipeline, hlogin⟩ := listed_user_logs_in read_outlandish
  have hknown := hlogin ⟨"zoë", " p:w ", ["ops"]⟩ List.mem_cons_self loginRequest
    (by decide +kernel)
  exact ⟨read_outlandish, pipeline, hpipeline, hknown⟩

/-- **Every token can be presented in the query.** -/
theorem listed_token_in_query (h : Settings.read env = .ok settings) :
    ∃ pipeline, settings.pipeline = .ok pipeline ∧
      ∀ entry ∈ settings.tokens, ∀ (request : Request) (query : String)
        (ps : List (List UInt8 × List UInt8)),
        request.headers.has authorizationField = false → request.target.query = some query →
        SpellsPairs (Utf8.ofString query) ps →
        ps.lookup (Utf8.ofString "access_token") = some (Utf8.ofString entry.token) →
        KnownAs entry.name entry.roles "Bearer"
          (pipeline.run (.ofRequest request)).visit.caller := by
  have hd := distinct_of_read h
  refine ⟨_, pipeline_eq settings, ?_⟩
  intro entry hentry request query ps hfield hquery hspells hfirst
  obtain ⟨htrimmed, hne⟩ := trimmed_of_read h hentry
  have hx := extract_token_of_query htrimmed hne hfield hquery hspells hfirst
  exact Resolves.knownAs hd (.token hentry hx)

/-- A request with a token among other parameters. -/
def parameterRequest : Request :=
  ⟨"GET", ⟨none, "/api/v1/me",
    some "page=2&access_token=t%3D0+%26%25%2B%C3%A9&access_token=other"⟩, []⟩

theorem listed_token_in_query_outlandish :
    Settings.read outlandish = .ok outlandishSettings
      ∧ ∃ pipeline, outlandishSettings.pipeline = .ok pipeline
        ∧ KnownAs "ada" ["admin", "ops"] "Bearer"
          (pipeline.run (.ofRequest parameterRequest)).visit.caller := by
  obtain ⟨pipeline, hpipeline, htoken⟩ := listed_token_in_query read_outlandish
  have hwritten : Utf8.ofString "page=2&access_token=t%3D0+%26%25%2B%C3%A9&access_token=other" =
      Form.write [("page", "2"), ("access_token", "t=0 &%+é"), ("access_token", "other")] := by
    decide +kernel
  have hspells := spellsPairs_write
    [("page", "2"), ("access_token", "t=0 &%+é"), ("access_token", "other")]
  rw [← hwritten] at hspells
  have hknown := htoken ⟨"t=0 &%+é", "ada", ["admin", "ops"]⟩ List.mem_cons_self parameterRequest _ _
    rfl rfl hspells (by decide +kernel)
  exact ⟨read_outlandish, pipeline, hpipeline, hknown⟩

/-- What is promised of the token of `entry`, where `request` has it in the authorization field. -/
structure FieldToken (settings : Settings) (pipeline : Pipeline) (entry : TokenEntry)
    (request : Request) : Prop where
  /-- If all of it is visible, it makes its owner the caller. -/
  known : entry.token.toList.all isVisibleAscii = true →
    KnownAs entry.name entry.roles "Bearer" (pipeline.run (.ofRequest request)).visit.caller
  /-- It is then worth what it is worth in the query, on any way to the same page. -/
  asInQuery : entry.token.toList.all isVisibleAscii = true →
    ∀ (asked : Request) (query : String) (ps : List (List UInt8 × List UInt8)),
      asked.target.path = request.target.path →
      asked.headers.has authorizationField = false → asked.target.query = some query →
      SpellsPairs (Utf8.ofString query) ps →
      ps.lookup (Utf8.ofString "access_token") = some (Utf8.ofString entry.token) →
      (pipeline.run (.ofRequest request)).result = (pipeline.run (.ofRequest asked)).result
        ∧ (pipeline.run (.ofRequest request)).visit.caller =
          (pipeline.run (.ofRequest asked)).visit.caller
  /-- Otherwise the request is decided as one without credentials. -/
  unread : entry.token.toList.all isVisibleAscii = false →
    Decided settings request .missing (pipeline.run (.ofRequest request))

/-- **A token can be presented in the field if all of it is visible ASCII.** The settings do not ask
that of it, and a token that they list with another character in it is not read. -/
theorem listed_token_in_field (h : Settings.read env = .ok settings) :
    ∃ pipeline, settings.pipeline = .ok pipeline ∧
      ∀ entry ∈ settings.tokens, ∀ request : Request,
        request.headers.value? authorizationField = some ("Bearer " ++ entry.token) →
        FieldToken settings pipeline entry request := by
  have hd := distinct_of_read h
  refine ⟨_, pipeline_eq settings, ?_⟩
  intro entry hentry request hfield
  obtain ⟨htrimmed, hne⟩ := trimmed_of_read h hentry
  have hresolves : entry.token.toList.all isVisibleAscii = true →
      Resolves settings request entry.name entry.roles "Bearer" := fun hvisible =>
    .token hentry (extract_token_of_field htrimmed hne hvisible hfield)
  constructor
  case known =>
    intro hvisible
    exact (hresolves hvisible).knownAs hd
  case asInQuery =>
    intro hvisible asked query ps hpath hnone hquery hspells hfirst
    have hasked : Resolves settings asked entry.name entry.roles "Bearer" :=
      .token hentry (extract_token_of_query htrimmed hne hnone hquery hspells hfirst)
    have hrun := gated_resolved hd (hresolves hvisible)
    have hother := gated_resolved hd hasked
    refine ⟨?_, ?_⟩
    · exact hrun.result.trans (hpath ▸ hother.result.symm)
    · have hcaller := congrArg Visit.caller hother.visit
      exact (congrArg Visit.caller hrun.visit).trans hcaller.symm
  case unread =>
    intro hvisible
    have hwhole : ("Bearer " ++ entry.token).toList.all isVisibleAscii = false := by
      rw [String.toList_append, List.all_append, hvisible, Bool.and_false]
    exact (gated_missing (missing_of_not_visible settings hfield hwhole)).decided

/-- The administrator's token in the query. -/
def linkedRequest : Request :=
  ⟨"GET", ⟨none, "/api/v1/admin", some "access_token=%740p"⟩, []⟩

/-- The token of the administrator is known in the field, and worth as much as in the query. -/
theorem listed_token_in_field_furnished :
    Settings.read furnished = .ok furnishedSettings
      ∧ ∃ pipeline, furnishedSettings.pipeline = .ok pipeline
        ∧ KnownAs "ada" ["admin"] "Bearer"
          (pipeline.run (.ofRequest administratorRequest)).visit.caller
        ∧ (pipeline.run (.ofRequest administratorRequest)).result =
          (pipeline.run (.ofRequest linkedRequest)).result := by
  obtain ⟨pipeline, hpipeline, htoken⟩ := listed_token_in_field read_furnished
  have hfield := htoken ⟨"t0p", "ada", ["admin"]⟩ List.mem_cons_self administratorRequest
    (by decide +kernel)
  have hname : Spells (Utf8.ofString "access_token") (Utf8.ofString "access_token") :=
    spells_unescape (by decide)
  have hvalue : Spells (Utf8.ofString "%740p") (Utf8.ofString "t0p") := spells_unescape (by decide)
  have hspells : SpellsPairs (Utf8.ofString "access_token=%740p")
      [(Utf8.ofString "access_token", Utf8.ofString "t0p")] :=
    ⟨[Utf8.ofString "access_token=%740p"], by decide +kernel,
      .cons (.full (by decide) hname hvalue) .nil⟩
  have hquery := hfield.asInQuery (by decide) linkedRequest _ _ rfl rfl rfl hspells
    (by decide +kernel)
  exact ⟨read_furnished, pipeline, hpipeline, hfield.known (by decide), hquery.1⟩

/-- An environment with a token that is not ASCII. -/
def accented : Environment := fun key => if key = "AUTH_TOKENS" then some "café:ada:admin" else none

/-- The settings that are read from it. -/
def accentedSettings : Settings :=
  ⟨3000, "authchain", .optional, [⟨"café", "ada", ["admin"]⟩], [], 30, 1048576⟩

/-- A request with that token in the authorization field. -/
def accentedRequest : Request :=
  ⟨"GET", ⟨none, "/api/v1/me", none⟩, [⟨"authorization", "Bearer café"⟩]⟩

/-- A request with that token in the query. -/
def accentedLink : Request := ⟨"GET", ⟨none, "/api/v1/me", some "access_token=caf%C3%A9"⟩, []⟩

/-- A token that is listed and may stand in a field is known in the query and not in the field. -/
theorem accented_token_unknown_in_field :
    Settings.read accented = .ok accentedSettings
      ∧ accentedSettings.tokens = [⟨"café", "ada", ["admin"]⟩]
      ∧ isFieldValue "Bearer café" = true
      ∧ accentedRequest.headers.value? "authorization" = some "Bearer café"
      ∧ (gateRun accentedSettings accentedRequest).visit.caller = .anonymous
      ∧ (gateRun accentedSettings accentedLink).visit.caller =
          ⟨some "ada", .ofList ["admin"], some "Bearer"⟩ := by
  decide +kernel

end Gatehouse.Proofs

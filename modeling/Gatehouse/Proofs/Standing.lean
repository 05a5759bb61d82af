import Mathlib.Data.List.Nodup
import Gatehouse.Proofs.Carrying

/-!
# Where a request stands

Before any guard is asked, a request and the settings of a deployment settle what
its credentials are worth. They may be those of a configured entry, or be there and
be nobody's, or not be there at all; a scheme without entries does not take part,
so what is presented under it is not there. `Stands` says this by the entries alone.

Every request has exactly one standing (`stands_unique`, `exists_stands`). The one
thing to see is that no request presents a token and a login at once: both are read
from the same field, which begins with the name of one scheme
(`extract_login_eq_none`).
-/

namespace Gatehouse.Proofs

open Gatehouse Http Text

/-- A scheme that takes part in the deployment finds credentials in the request. -/
inductive Presents (settings : Settings) (request : Request) : (scheme : String) → Prop
  | token {token : Token} : settings.tokens ≠ [] ∨ settings.users = [] →
      Scheme.bearer.extract request = some token → Presents settings request "Bearer"
  | login {login : Login} : settings.users ≠ [] →
      Scheme.basic.extract request = some login → Presents settings request "Basic"

/-- The credentials in the request are those of an entry with this name and these roles. -/
inductive Resolves (settings : Settings) (request : Request) :
    (name : String) → (roles : List String) → (scheme : String) → Prop
  | token {entry : TokenEntry} : entry ∈ settings.tokens →
      Scheme.bearer.extract request = some ⟨entry.token⟩ →
      Resolves settings request entry.name entry.roles "Bearer"
  | login {entry : UserEntry} : entry ∈ settings.users →
      Scheme.basic.extract request = some entry.login →
      Resolves settings request entry.username entry.roles "Basic"

/-- What the credentials of a request are worth. -/
inductive Standing where
  /-- They are those of an entry; its roles are listed as they are written there. -/
  | resolved (name : String) (roles : List String) (scheme : String)
  /-- They are nobody's. -/
  | invalid
  /-- There are none. -/
  | missing
  deriving DecidableEq, Repr

/-- Where a request stands in a deployment. -/
def Stands (settings : Settings) (request : Request) : Standing → Prop
  | .resolved name roles scheme => Resolves settings request name roles scheme
  | .invalid => (∃ scheme, Presents settings request scheme)
      ∧ ¬ ∃ name roles scheme, Resolves settings request name roles scheme
  | .missing => ¬ ∃ scheme, Presents settings request scheme

/-! ## A request presents one kind of credentials -/

/-- A request that carries a token carries no login. -/
theorem extract_login_eq_none {request : Request} {token : Token}
    (h : Scheme.bearer.extract request = some token) : Scheme.basic.extract request = none := by
  cases hthere : request.headers.has authorizationField with
  -- without the field there is no login, whatever the query says
  | false => exact login_of_lacks (has_eq_false_iff.mp hthere)
  | true =>
      obtain ⟨field, hfirst⟩ := has_iff.mp hthere
      have hcarries := (token_of_first hfirst).mp h
      rw [Option.eq_none_iff_forall_ne_some]
      intro login hlogin
      obtain ⟨value, hcarries', _⟩ := (login_of_first hfirst).mp hlogin
      exact absurd (hcarries.one_scheme hcarries') (by decide)

/-! ## A request has one standing -/

theorem takesTokens_iff {settings : Settings} :
    settings.takesTokens = true ↔ settings.tokens ≠ [] ∨ settings.users = [] := by
  simp [Settings.takesTokens]

theorem takesLogins_iff {settings : Settings} :
    settings.takesLogins = true ↔ settings.users ≠ [] := by
  simp [Settings.takesLogins]

theorem Resolves.presents {settings : Settings} {request : Request} {name scheme : String}
    {roles : List String} (h : Resolves settings request name roles scheme) :
    Presents settings request scheme := by
  cases h with
  | token hentry hx => exact .token (.inl (List.ne_nil_of_mem hentry)) hx
  | login hentry hx => exact .login (List.ne_nil_of_mem hentry) hx

theorem resolves_unique {settings : Settings} (hd : Distinct settings) {request : Request}
    {name name' scheme scheme' : String} {roles roles' : List String}
    (h : Resolves settings request name roles scheme)
    (h' : Resolves settings request name' roles' scheme') :
    name = name' ∧ roles = roles' ∧ scheme = scheme' := by
  cases h with
  | token hentry hx =>
      cases h' with
      | token hentry' hx' =>
          have htoken := Token.mk.inj (Option.some.inj (hx.symm.trans hx'))
          have hsame := List.inj_on_of_nodup_map hd.tokens hentry hentry' htoken
          exact ⟨congrArg TokenEntry.name hsame, congrArg TokenEntry.roles hsame, rfl⟩
      | login _ hx' =>
          rw [extract_login_eq_none hx] at hx'
          exact absurd hx' (by simp)
  | login hentry hx =>
      cases h' with
      | token _ hx' =>
          rw [extract_login_eq_none hx'] at hx
          exact absurd hx (by simp)
      | login hentry' hx' =>
          have hlogin := Login.mk.inj (Option.some.inj (hx.symm.trans hx'))
          have hsame := List.inj_on_of_nodup_map hd.users hentry hentry' hlogin.1
          exact ⟨hlogin.1, congrArg UserEntry.roles hsame, rfl⟩

/-- A request has at most one standing. -/
theorem stands_unique {settings : Settings} (hd : Distinct settings) {request : Request}
    {standing other : Standing} (h : Stands settings request standing)
    (h' : Stands settings request other) : standing = other := by
  cases standing with
  | resolved name roles scheme =>
      cases other with
      | resolved name' roles' scheme' =>
          obtain ⟨rfl, rfl, rfl⟩ := resolves_unique hd h h'
          rfl
      | invalid => exact absurd ⟨_, _, _, h⟩ h'.2
      | missing => exact absurd ⟨_, Resolves.presents h⟩ h'
  | invalid =>
      cases other with
      | resolved name' roles' scheme' => exact absurd ⟨_, _, _, h'⟩ h.2
      | invalid => rfl
      | missing => exact absurd h.1 h'
  | missing =>
      cases other with
      | resolved name' roles' scheme' => exact absurd ⟨_, Resolves.presents h'⟩ h
      | invalid => exact absurd h'.1 h
      | missing => rfl

/-- A request has some standing. -/
theorem exists_stands (settings : Settings) (request : Request) :
    ∃ standing, Stands settings request standing := by
  by_cases hr : ∃ name roles scheme, Resolves settings request name roles scheme
  · obtain ⟨name, roles, scheme, h⟩ := hr
    exact ⟨.resolved name roles scheme, h⟩
  · by_cases hp : ∃ scheme, Presents settings request scheme
    · exact ⟨.invalid, hp, hr⟩
    · exact ⟨.missing, hp⟩

/-! ## A standing is about the credentials alone -/

/-- Two requests carry the same credentials under each scheme. -/
structure SameCredentials (request other : Request) : Prop where
  token : Scheme.bearer.extract request = Scheme.bearer.extract other
  login : Scheme.basic.extract request = Scheme.basic.extract other

theorem SameCredentials.symm {request other : Request} (h : SameCredentials request other) :
    SameCredentials other request := ⟨h.token.symm, h.login.symm⟩

theorem Presents.of_same {settings : Settings} {request other : Request} {scheme : String}
    (hsame : SameCredentials request other) (h : Presents settings request scheme) :
    Presents settings other scheme := by
  cases h with
  | token htakes hx => exact .token htakes (hsame.token.symm.trans hx)
  | login htakes hx => exact .login htakes (hsame.login.symm.trans hx)

theorem Resolves.of_same {settings : Settings} {request other : Request} {name scheme : String}
    {roles : List String} (hsame : SameCredentials request other)
    (h : Resolves settings request name roles scheme) :
    Resolves settings other name roles scheme := by
  cases h with
  | token hentry hx => exact .token hentry (hsame.token.symm.trans hx)
  | login hentry hx => exact .login hentry (hsame.login.symm.trans hx)

/-- A standing is settled by what is presented and by what that resolves to. -/
theorem Stands.congr {settings settings' : Settings} {request request' : Request}
    {standing : Standing}
    (hpresents : ∀ scheme, Presents settings request scheme ↔ Presents settings' request' scheme)
    (hresolves : ∀ name roles scheme, Resolves settings request name roles scheme ↔
      Resolves settings' request' name roles scheme)
    (h : Stands settings request standing) : Stands settings' request' standing := by
  have hsome : (∃ scheme, Presents settings request scheme) ↔
      ∃ scheme, Presents settings' request' scheme := exists_congr hpresents
  have hentry : (∃ name roles scheme, Resolves settings request name roles scheme) ↔
      ∃ name roles scheme, Resolves settings' request' name roles scheme :=
    exists_congr (fun name => exists_congr (fun roles => exists_congr (hresolves name roles)))
  cases standing with
  | resolved name roles scheme => exact (hresolves name roles scheme).mp h
  | invalid => exact ⟨hsome.mp h.1, fun hother => h.2 (hentry.mpr hother)⟩
  | missing => exact fun hother => h (hsome.mpr hother)

/-- Requests with the same credentials have the same standing. -/
theorem Stands.of_same {settings : Settings} {request other : Request} {standing : Standing}
    (hsame : SameCredentials request other) (h : Stands settings request standing) :
    Stands settings other standing :=
  h.congr (fun _ => ⟨.of_same hsame, .of_same hsame.symm⟩)
    (fun _ _ _ => ⟨.of_same hsame, .of_same hsame.symm⟩)

end Gatehouse.Proofs

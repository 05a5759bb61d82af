import Gatehouse.Proofs.Authorization
import Gatehouse.Proofs.Walk

/-!
# The access table of a deployment

Two guards decide about a request, and what they decide together is a table. Its
rows are the three standings that a request can have, its columns the kinds of
paths and the mode, and every cell says whether the request passes (`Passes`).
Where it does not, it is told why: a caller that is known is forbidden, everyone
else is asked for credentials. Whether it passes or not, the visit ends with the
caller that the credentials stand for and nobody else.

The table is the whole story for every deployment whose settings are accepted
(`gated`). Such a deployment always has a gate, and the gate never fails: it has a
check to ask, and neither a table nor a rule can be out of service.
-/

namespace Gatehouse.Proofs

open Gatehouse Http

/-! ## The table -/

/-- Whether a request of this standing passes the gate on its way to `path`. -/
def Passes (mode : Mode) (path : String) : Standing → Prop
  | .resolved _ roles _ => Beneath "/api/v1/admin" path → "admin" ∈ roles
  | .invalid => False
  | .missing => mode = .optional ∧ (¬ Beneath "/api/v1" path ∨ Beneath "/api/v1/greeting" path)

instance (mode : Mode) (path : String) (standing : Standing) :
    Decidable (Passes mode path standing) :=
  match standing with
  | .resolved _ roles _ =>
    inferInstanceAs (Decidable (Beneath "/api/v1/admin" path → "admin" ∈ roles))
  | .invalid => inferInstanceAs (Decidable False)
  | .missing =>
    inferInstanceAs (Decidable
      (mode = .optional ∧ (¬ Beneath "/api/v1" path ∨ Beneath "/api/v1/greeting" path)))

namespace Standing

/-- Who the caller turns out to be. -/
def caller : Standing → Caller
  | resolved name roles scheme => ⟨some name, Roles.ofList roles, some scheme⟩
  | _ => .anonymous

/-- What a request that does not pass is told. -/
def status : Standing → Status
  | resolved .. => .forbidden
  | _ => .unauthorized

/-- The answer to a request that does not pass. -/
def answer (settings : Settings) : Standing → Response
  | resolved .. => ErrorReply.forbidden.response
  | _ => (refusal settings).response

end Standing

theorem status_refusal (settings : Settings) :
    (refusal settings).response.status = .unauthorized := by
  rw [refusal, Refusal.json, Refusal.challenge]
  split
  · rfl
  · rfl

theorem status_answer (settings : Settings) (standing : Standing) :
    (standing.answer settings).status = standing.status := by
  cases standing with
  | resolved name roles scheme => rfl
  | invalid => exact status_refusal settings
  | missing => exact status_refusal settings

/-! ## The run of a gate -/

/-- The guards of a deployment are always in order, so it has a gate. -/
theorem pipeline_eq (settings : Settings) : settings.pipeline = .ok ⟨settings.registrations⟩ := rfl

/-- The run of the gate of a deployment for a request. -/
def gateRun (settings : Settings) (request : Request) : Run :=
  (Pipeline.mk settings.registrations).run (.ofRequest request)

theorem gateRun_steps (settings : Settings) (request : Request) :
    (gateRun settings request).steps = walk settings.registrations (.ofRequest request) := by
  rw [gateRun, run_of_running ⟨settings.registrations⟩ rfl]

/-- What a run of the gate comes to for a request of this standing. -/
structure Gated (settings : Settings) (request : Request) (standing : Standing) (run : Run) :
    Prop where
  result : run.result = .ok (if Passes settings.mode request.target.path standing then none
    else some (standing.answer settings))
  visit : run.visit = ⟨request, standing.caller, request.target.isSecure, .terminated⟩

variable {settings : Settings} {request : Request}

theorem Gated.of_passes {standing : Standing} {run : Run}
    (hpass : Passes settings.mode request.target.path standing) (hresult : run.result = .ok none)
    (hvisit : run.visit = ⟨request, standing.caller, request.target.isSecure, .terminated⟩) :
    Gated settings request standing run := by
  refine ⟨?_, hvisit⟩
  rw [if_pos hpass]
  exact hresult

theorem Gated.of_stopped {standing : Standing} {run : Run}
    (hstop : ¬ Passes settings.mode request.target.path standing)
    (hresult : run.result = .ok (some (standing.answer settings)))
    (hvisit : run.visit = ⟨request, standing.caller, request.target.isSecure, .terminated⟩) :
    Gated settings request standing run := by
  refine ⟨?_, hvisit⟩
  rw [if_neg hstop]
  exact hresult

theorem gated_resolved (hd : Distinct settings) {name scheme : String} {roles : List String}
    (h : Resolves settings request name roles scheme) :
    Gated settings request (.resolved name roles scheme) (gateRun settings request) := by
  -- the first guard names the caller, whatever the path and the mode
  have hfirst : (Guard.ofChecks settings.checks settings.mode).react (.ofRequest request) =
      .proceed ((Visit.ofRequest request).withCaller ⟨some name, Roles.ofList roles, some scheme⟩)
        [.authenticated name scheme] :=
    react_of_resolves hd h
  by_cases hlacks : Beneath "/api/v1/admin" request.target.path ∧ "admin" ∉ roles
  · have hstop : ¬ Passes settings.mode request.target.path (.resolved name roles scheme) :=
      fun hpass => hlacks.2 (hpass hlacks.1)
    have hsecond : settings.policy.guard.react
        ((Visit.ofRequest request).withCaller ⟨some name, Roles.ofList roles, some scheme⟩) = _ :=
      (authorize_named rfl).trans (if_pos hlacks)
    rw [gateRun, Settings.registrations, run_of_proceed rfl hfirst hsecond]
    exact .of_stopped hstop rfl rfl
  · have hpass : Passes settings.mode request.target.path (.resolved name roles scheme) := by
      intro hadmin
      exact Decidable.not_not.mp (fun hrole => hlacks ⟨hadmin, hrole⟩)
    have hsecond : settings.policy.guard.react
        ((Visit.ofRequest request).withCaller ⟨some name, Roles.ofList roles, some scheme⟩) = _ :=
      (authorize_named rfl).trans (if_neg hlacks)
    rw [gateRun, Settings.registrations, run_of_proceed rfl hfirst hsecond]
    exact .of_passes hpass rfl rfl

theorem gated_invalid (hd : Distinct settings) (h : Stands settings request .invalid) :
    Gated settings request .invalid (gateRun settings request) := by
  obtain ⟨⟨scheme, hpresents⟩, hno⟩ := h
  have hfirst := @react_of_invalid settings (.ofRequest request) hd scheme hpresents hno
  rw [Guard.refuse] at hfirst
  rw [gateRun, Settings.registrations, run_of_answer rfl hfirst]
  exact .of_stopped (fun hpass => hpass) rfl rfl

theorem gated_missing (h : Stands settings request .missing) :
    Gated settings request .missing (gateRun settings request) := by
  have hfirst := @react_of_missing settings (.ofRequest request) h
  by_cases hmode : settings.mode = .optional
  · -- nobody is named, so the second guard decides by the path alone
    rw [if_pos hmode] at hfirst
    by_cases hopen : ¬ Beneath "/api/v1" request.target.path
        ∨ Beneath "/api/v1/greeting" request.target.path
    · have hsecond : settings.policy.guard.react (.ofRequest request) = _ :=
        (authorize_unnamed rfl).trans (if_pos hopen)
      rw [gateRun, Settings.registrations, run_of_proceed rfl hfirst hsecond]
      exact .of_passes ⟨hmode, hopen⟩ rfl rfl
    · have hsecond : settings.policy.guard.react (.ofRequest request) = _ :=
        (authorize_unnamed rfl).trans (if_neg hopen)
      rw [gateRun, Settings.registrations, run_of_proceed rfl hfirst hsecond]
      exact .of_stopped (fun hpass => hopen hpass.2) rfl rfl
  · -- the first guard refuses already, and the second is not asked
    rw [if_neg hmode, Guard.refuse] at hfirst
    rw [gateRun, Settings.registrations, run_of_answer rfl hfirst]
    exact .of_stopped (fun hpass => hmode hpass.1) rfl rfl

/-- The gate does what the table says. -/
theorem gated (hd : Distinct settings) {standing : Standing}
    (h : Stands settings request standing) :
    Gated settings request standing (gateRun settings request) := by
  cases standing with
  | resolved name roles scheme => exact gated_resolved hd h
  | invalid => exact gated_invalid hd h
  | missing => exact gated_missing h

/-! ## The table holds -/

/-- What is promised of a run for a request of this standing, as the client and the pages see it. -/
structure Decided (settings : Settings) (request : Request) (standing : Standing) (run : Run) :
    Prop where
  /-- A request that passes goes on to its page. -/
  passes : Passes settings.mode request.target.path standing → run.result = .ok none
  /-- Any other is answered by the gate. -/
  stopped : ¬ Passes settings.mode request.target.path standing →
    ∃ response, run.result = .ok (some response) ∧ response.status = standing.status
  /-- The caller is whom the credentials stand for, also where the request does not pass. -/
  visit : run.visit = ⟨request, standing.caller, request.target.isSecure, .terminated⟩

theorem Gated.decided {standing : Standing} {run : Run}
    (h : Gated settings request standing run) : Decided settings request standing run := by
  obtain ⟨hresult, hvisit⟩ := h
  constructor
  case passes => intro hpass; rw [hresult, if_pos hpass]
  case stopped =>
    intro hstop
    rw [if_neg hstop] at hresult
    exact ⟨_, hresult, status_answer settings standing⟩
  case visit => exact hvisit

/-- **The gate of every deployment does what the table says.** With settings that are accepted
there is a gate, every request has one standing, and the run is decided by it. -/
theorem access_table {env : Environment} {settings : Settings}
    (h : Settings.read env = .ok settings) :
    ∃ pipeline, settings.pipeline = .ok pipeline ∧ ∀ request : Request,
      (∃! standing, Stands settings request standing)
        ∧ ∀ standing, Stands settings request standing →
          Decided settings request standing (pipeline.run (.ofRequest request)) := by
  have hd := distinct_of_read h
  refine ⟨_, pipeline_eq settings, ?_⟩
  intro request
  refine ⟨?_, ?_⟩
  · obtain ⟨standing, hstands⟩ := exists_stands settings request
    exact ⟨standing, hstands, fun other hother => stands_unique hd hother hstands⟩
  · intro standing hstands
    exact (gated hd hstands).decided

/-- An environment with a token of an administrator and a user without roles. -/
def furnished : Environment := fun key =>
  if key = "AUTH_TOKENS" then some "t0p:ada:admin"
  else if key = "AUTH_BASIC_USERS" then some "bob:pa:ss:" else none

/-- The settings that are read from it. -/
def furnishedSettings : Settings :=
  ⟨3000, "authchain", .optional, [⟨"t0p", "ada", ["admin"]⟩], [⟨"bob", "pa:ss", []⟩], 30, 1048576⟩

/-- A request of the administrator. -/
def administratorRequest : Request :=
  ⟨"GET", ⟨none, "/api/v1/admin", none⟩, [⟨"authorization", "Bearer t0p"⟩]⟩

theorem read_furnished : Settings.read furnished = .ok furnishedSettings := by decide +kernel

theorem resolves_administratorRequest :
    Resolves furnishedSettings administratorRequest "ada" ["admin"] "Bearer" :=
  @Resolves.token furnishedSettings administratorRequest ⟨"t0p", "ada", ["admin"]⟩
    List.mem_cons_self (by decide +kernel)

theorem access_table_furnished :
    Settings.read furnished = .ok furnishedSettings
      ∧ Stands furnishedSettings administratorRequest (.resolved "ada" ["admin"] "Bearer")
      ∧ ∃ pipeline, furnishedSettings.pipeline = .ok pipeline
        ∧ (∃! standing, Stands furnishedSettings administratorRequest standing)
        ∧ Decided furnishedSettings administratorRequest (.resolved "ada" ["admin"] "Bearer")
          (pipeline.run (.ofRequest administratorRequest)) := by
  refine ⟨read_furnished, resolves_administratorRequest, ?_⟩
  obtain ⟨pipeline, hpipeline, htable⟩ := access_table read_furnished
  obtain ⟨hone, hdecided⟩ := htable administratorRequest
  exact ⟨pipeline, hpipeline, hone, hdecided _ resolves_administratorRequest⟩

end Gatehouse.Proofs

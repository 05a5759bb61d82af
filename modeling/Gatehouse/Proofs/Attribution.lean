import Gatehouse.Access.Policy
import Gatehouse.Proofs.AccessTable
import Gatehouse.Proofs.Session

/-!
# What a caller is credited with

There are two calls that say who the caller is. One of them grants: it brings roles
and the name of the scheme that vouched for them. The other one brings a name and
nothing else, and it takes nothing away either. So the name of a caller is that of the
last call, while its roles and its scheme are those of the last call that granted any
(`callAll_eq`). As long as the two are the same call, or nothing has been granted
before, all that a caller is credited with is its own; otherwise it answers to one name
and has the roles of another (`credited_callAll`).

Guards make the same calls, and as long as they touch the caller in no other way (`Speaks`),
all the guards of a run, and whoever holds the visit between two runs, add to one row of
calls. What a visit shows is what that row has come to: after each operation
(`performAll_caller`) and in front of each guard (`seen_caller`).
-/

namespace Gatehouse.Proofs

open Gatehouse Http

/-- A call that says who the caller is. -/
inductive Call where
  | setPrincipal (name : String)
  | authenticate (identity : Identity) (scheme : String)
  deriving DecidableEq

namespace Call

def apply : Call → Caller → Caller
  | setPrincipal name, caller => caller.setPrincipal name
  | authenticate identity scheme, caller => caller.authenticate identity scheme

/-- The name of the principal. -/
def name : Call → String
  | setPrincipal name => name
  | authenticate identity _ => identity.name

/-- What the principal is granted, and by which scheme. -/
def grant? : Call → Option (Roles × String)
  | setPrincipal _ => none
  | authenticate identity scheme => some (identity.roles, scheme)

end Call

/-- The caller after calls that were made one after another. -/
def callAll (calls : List Call) (caller : Caller) : Caller :=
  calls.foldl (fun c call => call.apply c) caller

/-- The last grant in a row of calls. -/
def lastGrant? (calls : List Call) : Option (Roles × String) := calls.reverse.findSome? Call.grant?

/-- The roles of a grant; without one there are none. -/
def rolesOf (grant : Option (Roles × String)) : Roles := (grant.map Prod.fst).getD .empty

/-- A caller goes by this name, and is credited with the roles and the scheme of this grant. -/
structure ShownAs (name : String) (grant : Option (Roles × String)) (caller : Caller) : Prop where
  hasRole : ∀ role, caller.hasRole role = (rolesOf grant).contains role
  account : caller.account? = some ⟨name, (rolesOf grant).names, grant.map Prod.snd⟩

/-- All that a caller is credited with comes from this call. -/
def Attributed (call : Call) (caller : Caller) : Prop := ShownAs call.name call.grant? caller

theorem shownAs_iff {name : String} {grant : Option (Roles × String)} {caller : Caller} :
    ShownAs name grant caller ↔ caller = ⟨some name, rolesOf grant, grant.map Prod.snd⟩ := by
  refine ⟨?_, ?_⟩
  · intro h
    obtain ⟨principal, ⟨names, ascending⟩, scheme⟩ := caller
    obtain ⟨shown, rfl, haccount⟩ := Option.map_eq_some_iff.mp h.account
    obtain ⟨rfl, rfl, rfl⟩ := Account.mk.inj haccount
    rfl
  · rintro rfl
    exact ⟨fun _ => rfl, rfl⟩

/-! ## A row of calls -/

theorem lastGrant?_concat (calls : List Call) (call : Call) :
    lastGrant? (calls ++ [call]) = call.grant?.or (lastGrant? calls) := by
  rw [lastGrant?, List.reverse_append, List.reverse_singleton, List.singleton_append,
    List.findSome?_cons]
  cases call.grant? <;> rfl

theorem lastGrant?_eq_none_iff {calls : List Call} :
    lastGrant? calls = none ↔ ∀ call ∈ calls, call.grant? = none := by
  rw [lastGrant?, List.findSome?_eq_none_iff]
  simp only [List.mem_reverse]

/-- The name is that of the last call, the rest is that of the last grant. -/
theorem callAll_eq (calls : List Call) :
    callAll calls .anonymous =
      ⟨calls.getLast?.map Call.name, rolesOf (lastGrant? calls),
        (lastGrant? calls).map Prod.snd⟩ := by
  induction calls using List.reverseRecOn with
  | nil => rfl
  | append_singleton calls call ih =>
      have hstep : callAll (calls ++ [call]) .anonymous = call.apply (callAll calls .anonymous) :=
        List.foldl_concat ..
      rw [hstep, ih, lastGrant?_concat, List.getLast?_concat]
      cases call with
      | setPrincipal name => rfl
      | authenticate identity scheme => rfl

/-! ## Who makes the calls -/

/-- A guard touches the caller by the calls that it makes and not otherwise. -/
def Speaks (speech : Guard → Visit → List Call) (guard : Guard) : Prop :=
  ∀ visit, (guard.react visit).left.caller = callAll (speech guard visit) visit.caller

/-- The calls that are made during some turns. -/
def stepCalls (speech : Guard → Visit → List Call) (steps : List Step) : List Call :=
  steps.flatMap (fun step => speech step.stage.guard step.seen)

/-- The calls that come of an operation. -/
def Operation.calls (speech : Guard → Visit → List Call) : Operation → Visit → List Call
  | run pipeline, visit => stepCalls speech (pipeline.run visit).steps
  | setPrincipal name, _ => [.setPrincipal name]
  | authenticate identity scheme, _ => [.authenticate identity scheme]
  | read, _ => []

/-- All calls that are made in the course of operations, in order. -/
def allCalls (speech : Guard → Visit → List Call) : List Operation → Visit → List Call
  | [], _ => []
  | operation :: rest, visit =>
    operation.calls speech visit ++ allCalls speech rest (operation.perform visit)

variable {speech : Guard → Visit → List Call}

theorem callAll_append (calls more : List Call) (caller : Caller) :
    callAll (calls ++ more) caller = callAll more (callAll calls caller) := List.foldl_append ..

theorem final_caller {steps : List Step} {visit : Visit} (h : Linked visit steps)
    (hspeaks : ∀ step ∈ steps, Speaks speech step.stage.guard) :
    (Walk.final visit steps).caller = callAll (stepCalls speech steps) visit.caller := by
  induction steps generalizing visit with
  | nil => rfl
  | cons step steps ih =>
      obtain ⟨hseen, hreaction, hrest⟩ := h
      have hstep : step.left.caller = callAll (speech step.stage.guard step.seen) visit.caller := by
        rw [Step.left, hreaction, hseen]
        exact hspeaks step List.mem_cons_self visit
      have hcalls : stepCalls speech (step :: steps) =
          speech step.stage.guard step.seen ++ stepCalls speech steps := List.flatMap_cons
      rw [final_cons, ih hrest (fun s hs => hspeaks s (List.mem_cons_of_mem step hs)), hstep,
        hcalls, callAll_append]

section Runs

variable {pipeline : Pipeline} (hspeaks : ∀ stage ∈ pipeline.stages, Speaks speech stage.guard)

include hspeaks

theorem walk_speaks (visit : Visit) :
    ∀ step ∈ walk pipeline.stages visit, Speaks speech step.stage.guard := by
  intro step hstep
  exact hspeaks step.stage ((walk_isPrefix pipeline.stages visit).mem (List.mem_map_of_mem hstep))

/-- The caller after a run is the one that the guards have made of it, each in its turn. -/
theorem run_caller (visit : Visit) :
    (pipeline.run visit).visit.caller =
      callAll (stepCalls speech (pipeline.run visit).steps) visit.caller := by
  cases h : visit.state with
  | terminated =>
      rw [pipeline.run_of_terminated (by rw [Visit.isTerminated, h]; rfl)]
      rfl
  | running =>
      rw [run_of_running pipeline h]
      exact final_caller (walk_linked pipeline.stages visit) (walk_speaks hspeaks visit)

/-- A guard is shown the caller that the guards before it have made. -/
theorem seen_caller {visit : Visit} {before after : List Step} {step : Step}
    (h : (pipeline.run visit).steps = before ++ step :: after) :
    step.seen.caller = callAll (stepCalls speech before) visit.caller := by
  have hwalk : walk pipeline.stages visit = before ++ step :: after := by
    rcases run_steps pipeline visit with hs | hs
    · exact hs.symm.trans h
    · exact absurd (hs.symm.trans h) (by simp)
  have hlinked := walk_linked pipeline.stages visit
  rw [hwalk] at hlinked
  obtain ⟨hbefore, hseen⟩ := linked_before hlinked
  have hspeaks := walk_speaks hspeaks visit
  rw [hwalk] at hspeaks
  rw [hseen]
  exact final_caller hbefore (fun s hs => hspeaks s (List.mem_append_left _ hs))

end Runs

/-- Every guard of a pipeline that is run in the course of operations speaks. -/
def AllSpeak (speech : Guard → Visit → List Call) (operations : List Operation) : Prop :=
  ∀ pipeline, .run pipeline ∈ operations → ∀ stage ∈ pipeline.stages, Speaks speech stage.guard

theorem perform_caller {operation : Operation} (h : AllSpeak speech [operation]) (visit : Visit) :
    (operation.perform visit).caller = callAll (operation.calls speech visit) visit.caller := by
  cases operation with
  | run pipeline => exact run_caller (h pipeline List.mem_cons_self) visit
  | setPrincipal name => rfl
  | authenticate identity scheme => rfl
  | read => rfl

theorem performAll_caller {operations : List Operation} (h : AllSpeak speech operations)
    (visit : Visit) :
    (performAll operations visit).caller =
      callAll (allCalls speech operations visit) visit.caller := by
  induction operations generalizing visit with
  | nil => rfl
  | cons operation rest ih =>
      have hfirst : AllSpeak speech [operation] := by
        intro pipeline hmem
        obtain rfl := List.mem_singleton.mp hmem
        exact h pipeline List.mem_cons_self
      have hrest : AllSpeak speech rest :=
        fun pipeline hmem => h pipeline (List.mem_cons_of_mem operation hmem)
      rw [performAll, List.foldl_cons, ← performAll, ih hrest, perform_caller hfirst, allCalls,
        callAll_append]

/-! ## Whose roles a caller has -/

/-- What is promised of the caller that `call` leaves, after the calls `before`. -/
structure Credited (before : List Call) (call : Call) (caller : Caller) : Prop where
  /-- It goes by the name of the call, with what was granted last, up to this call. -/
  shown : ShownAs call.name (lastGrant? (before ++ [call])) caller
  /-- That comes from the call itself, unless it renames a caller who has been granted something. -/
  own : Attributed call caller ↔ call.grant? ≠ none ∨ ∀ earlier ∈ before, earlier.grant? = none

theorem credited_callAll (before : List Call) (call : Call) :
    Credited before call (callAll (before ++ [call]) .anonymous) := by
  have hcaller := callAll_eq (before ++ [call])
  rw [List.getLast?_concat, Option.map_some] at hcaller
  have hshown := shownAs_iff.mpr hcaller
  refine ⟨hshown, ?_⟩
  rw [lastGrant?_concat] at hshown
  cases hgrant : call.grant? with
  | some grant =>
      rw [hgrant, Option.some_or] at hshown
      exact ⟨fun _ => .inl (by simp), fun _ => by rw [Attributed, hgrant]; exact hshown⟩
  | none =>
      rw [hgrant, Option.none_or] at hshown
      rw [Attributed, hgrant, ← lastGrant?_eq_none_iff]
      refine ⟨?_, ?_⟩
      · intro hown
        -- the schemes tell an earlier grant from none
        have hscheme := (shownAs_iff.mp hshown).symm.trans (shownAs_iff.mp hown)
        exact .inr (Option.map_eq_none_iff.mp (Caller.mk.inj hscheme).2.2)
      · rintro (hsome | hnone)
        · exact absurd rfl hsome
        · rw [hnone] at hshown
          exact hshown

/-- **A caller has the roles of the last grant.** After each call the caller goes by the name of
that call, and is credited with what was granted last; that is its own unless the call renames a
caller who has been granted something. And a visit, between two operations and in front of every
guard, shows the caller that the calls so far have made, whoever made them. -/
theorem credited_with_last_grant {operations : List Operation} (h : AllSpeak speech operations)
    (request : Request) :
    (∀ before call, Credited before call (callAll (before ++ [call]) .anonymous))
      ∧ (performAll operations (.ofRequest request)).caller =
        callAll (allCalls speech operations (.ofRequest request)) .anonymous
      ∧ ∀ earlier pipeline later, operations = earlier ++ .run pipeline :: later →
        ∀ before step after,
          (pipeline.run (performAll earlier (.ofRequest request))).steps =
            before ++ step :: after →
          step.seen.caller =
            callAll (allCalls speech earlier (.ofRequest request) ++ stepCalls speech before)
              .anonymous := by
  refine ⟨credited_callAll, performAll_caller h _, ?_⟩
  rintro earlier pipeline later rfl before step after hsteps
  have hearlier : AllSpeak speech earlier :=
    fun other hmem => h other (List.mem_append_left _ hmem)
  have hspeaks : ∀ stage ∈ pipeline.stages, Speaks speech stage.guard :=
    h pipeline (List.mem_append_right _ List.mem_cons_self)
  rw [seen_caller hspeaks hsteps, performAll_caller hearlier, callAll_append]
  rfl

/-- What the guards below say, by their names. -/
def rehearsed (guard : Guard) (_visit : Visit) : List Call :=
  if guard.name = "naming" then [.setPrincipal "bob"]
  else if guard.name = "login" then [.authenticate (.ofList "eve" ["ops"]) "Basic"]
  else []

/-- A renaming, a login, and a guard that looks at the roles. -/
def rehearsal : Pipeline :=
  ⟨[⟨.scripted "naming" .authentication (.setPrincipal "bob"), ⟨10⟩⟩,
    ⟨.scripted "login" .authentication (.authenticate (.ofList "eve" ["ops"]) "Basic"), ⟨20⟩⟩,
    ⟨.scripted "gate" .general (.answerIfRole "admin" (.empty .forbidden)), ⟨30⟩⟩]⟩

/-- An administrator who is renamed and then replaced in the course of a run. -/
def replacement : List Operation :=
  [.authenticate (.ofList "ada" ["admin"]) "Bearer", .run rehearsal]

/-- Bob is taken for an administrator, and Eve, who is shown to the last guard, is not. -/
theorem credited_with_last_grant_replacement :
    AllSpeak rehearsed replacement
      ∧ ShownAs "bob" (some (.ofList ["admin"], "Bearer")) (callAll
        [.authenticate (.ofList "ada" ["admin"]) "Bearer", .setPrincipal "bob"] .anonymous)
      ∧ Attributed (.authenticate (.ofList "eve" ["ops"]) "Basic")
        (performAll replacement (plainVisit "/")).caller
      ∧ ∀ last ∈ (rehearsal.run (performAll (replacement.take 1) (plainVisit "/"))).steps.getLast?,
        last.seen.caller = ⟨some "eve", .ofList ["ops"], some "Basic"⟩ := by
  have hspeak : AllSpeak rehearsed replacement := by
    intro pipeline hmem
    obtain rfl : pipeline = rehearsal := by simpa [replacement] using hmem
    intro stage hstage
    simp only [rehearsal, List.mem_cons, List.not_mem_nil, or_false] at hstage
    rcases hstage with rfl | rfl | rfl
    · exact fun _ => rfl
    · exact fun _ => rfl
    · intro visit
      simp only [rehearsed, Guard.scripted, Action.react]
      split
      · rfl
      · rfl
  obtain ⟨hcredited, hcaller, hseen⟩ :=
    credited_with_last_grant hspeak ⟨"GET", ⟨none, "/", none⟩, []⟩
  have hbob := hcredited [.authenticate (.ofList "ada" ["admin"]) "Bearer"] (.setPrincipal "bob")
  have heve := hcredited
    [.authenticate (.ofList "ada" ["admin"]) "Bearer", .setPrincipal "bob"]
    (.authenticate (.ofList "eve" ["ops"]) "Basic")
  have hown := heve.own.mpr (.inl (by simp [Call.grant?]))
  refine ⟨hspeak, hbob.shown, ?_, ?_⟩
  · have hrow : allCalls rehearsed replacement (plainVisit "/") =
        [.authenticate (.ofList "ada" ["admin"]) "Bearer", .setPrincipal "bob",
          .authenticate (.ofList "eve" ["ops"]) "Basic"] := rfl
    rw [plainVisit] at hrow ⊢
    rw [hcaller, hrow]
    exact hown
  · intro last hlast
    exact hseen [.authenticate (.ofList "ada" ["admin"]) "Bearer"] rehearsal [] rfl _ last []
      (List.dropLast_append_getLast? last hlast).symm

/-- An administrator who is renamed. -/
def promotion : List Operation :=
  [.authenticate (.ofList "ada" ["admin"]) "Bearer", .setPrincipal "bob"]

/-- A caller who was granted nothing has the roles and the scheme of the one before, and is let
through to the page that asks for one of them. -/
theorem renamed_keeps_roles :
    (Call.setPrincipal "bob").grant? = none
      ∧ (performAll promotion (plainVisit "/api/v1/admin")).caller =
          callAll [.authenticate (.ofList "ada" ["admin"]) "Bearer", .setPrincipal "bob"] .anonymous
      ∧ (performAll promotion (plainVisit "/api/v1/admin")).caller.hasRole "admin" = true
      ∧ (performAll promotion (plainVisit "/api/v1/admin")).caller.account? =
          some ⟨"bob", ["admin"], some "Bearer"⟩
      ∧ (furnishedSettings.policy.guard.react
          (performAll promotion (plainVisit "/api/v1/admin"))).outcome = .ok .proceed :=
  ⟨rfl, rfl, rfl, rfl, rfl⟩

end Gatehouse.Proofs

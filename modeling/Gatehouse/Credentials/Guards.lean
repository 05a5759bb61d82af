import Gatehouse.Credentials.Check

/-!
# Authentication guards

A guard is made of one check or of several. Several are consulted in order, and
the first that finds an identity settles the matter, whatever the ones before it
rejected; a check that fails ends the survey with its fault. If no check finds an
identity, the request goes on anonymously only when none rejected anything and
credentials are optional. Otherwise it is refused in the name of the first check.
-/

namespace Gatehouse

open Text

namespace Guard

/-- The visit goes on with an accepted identity, which is noted in the log. -/
def welcome (visit : Visit) (events : List Event) (identity : Identity) (scheme : String) :
    Reaction :=
  .proceed (visit.withCaller (visit.caller.authenticate identity scheme))
    (events ++ [.authenticated identity.name scheme])

/-- The answer to a request that is refused. -/
def refuse (visit : Visit) (events : List Event) (refusal : Reply) : Reaction :=
  .answer visit (events ++ refusal.events) refusal.response

/-- A guard that relies on one check. -/
def ofCheck (check : Check) (mode : Mode) : Guard where
  name := lowerAscii check.scheme ++ "-auth"
  kind := .authentication
  react visit :=
    let consultation := check.consult visit
    match consultation.finding, mode with
    | .error fault, _ => .fail visit consultation.events fault
    | .ok (.accepted identity), _ => welcome visit consultation.events identity check.scheme
    | .ok .missing, .optional => .proceed visit consultation.events
    | .ok .missing, .required => refuse visit consultation.events check.challenge
    | .ok .rejected, _ => refuse visit consultation.events check.challenge

end Guard

/-- What consulting several checks comes to. -/
structure Survey where
  events : List Event
  /-- Whether a consulted check rejected credentials. -/
  rejected : Bool
  /-- The identity that was found, with its scheme, unless a check failed. -/
  found : Except Fault (Option (Identity × String))

/-- Consults checks in order until one settles the matter. -/
def Survey.take (visit : Visit) : List Check → Survey
  | [] => ⟨[], false, .ok none⟩
  | check :: rest =>
    let consultation := check.consult visit
    match consultation.finding with
    | .error fault => ⟨consultation.events, false, .error fault⟩
    | .ok (.accepted identity) => ⟨consultation.events, false, .ok (some (identity, check.scheme))⟩
    | .ok .missing =>
      let later := take visit rest
      ⟨consultation.events ++ later.events, later.rejected, later.found⟩
    | .ok .rejected =>
      let later := take visit rest
      ⟨consultation.events ++ later.events, true, later.found⟩

/-- The fault of a guard that has nothing to authenticate with. -/
def noSchemes : Fault := ⟨"chained auth filter has no credential schemes", none⟩

/-- A guard that relies on several checks. -/
def Guard.ofChecks (checks : List Check) (mode : Mode) : Guard where
  name := "chained-auth["
    ++ String.intercalate "," (checks.map (fun check => lowerAscii check.scheme)) ++ "]"
  kind := .authentication
  react visit :=
    let survey := Survey.take visit checks
    match survey.found with
    | .error fault => .fail visit survey.events fault
    | .ok (some (identity, scheme)) => welcome visit survey.events identity scheme
    | .ok none =>
      if !survey.rejected && mode == .optional then .proceed visit survey.events
      else
        match checks with
        | first :: _ => refuse visit survey.events first.challenge
        | [] => .fail visit survey.events noSchemes

/-- A guard of several checks has four things to say, whatever the checks are. -/
theorem Guard.ofChecks_reacts (checks : List Check) (mode : Mode) (visit : Visit) :
    (∃ events fault, (ofChecks checks mode).react visit = .fail visit events fault)
      ∨ (∃ events identity scheme,
        (ofChecks checks mode).react visit = welcome visit events identity scheme)
      ∨ (∃ events, (ofChecks checks mode).react visit = .proceed visit events)
      ∨ ∃ events refusal, (ofChecks checks mode).react visit = refuse visit events refusal := by
  simp only [ofChecks]
  split
  · exact .inl ⟨_, _, rfl⟩
  · exact .inr (.inl ⟨_, _, _, rfl⟩)
  · split
    · exact .inr (.inr (.inl ⟨_, rfl⟩))
    · split
      · exact .inr (.inr (.inr ⟨_, _, rfl⟩))
      · exact .inl ⟨_, _, rfl⟩

end Gatehouse

import Gatehouse.Proofs.Authentication
import Gatehouse.Proofs.Chaining
import Gatehouse.Proofs.Challenge
import Gatehouse.Proofs.Enforcement
import Gatehouse.Proofs.Session

/-!
# The log tells what happened

Each guard that has a turn is announced, then it has the word, and one line at the end of the
log says how the run ended, if it was not by exhaustion (`Concluded`). Only the last turn of a
walk can end it, so the line of an ending comes last in the whole log and never between two
turns (`events_of_proceeds`).

What a guard of credentials says in its turn is told apart from how it is programmed. The
schemes that have a say are those up to the first one that settles the matter (`heard`), and the
log names those among them that rejected credentials. What comes behind that is one line with
the name of the caller, the lines of a refusal, or nothing (`Upshot`). The survey of a guard is
followed along `heard` once (`surveyed`), and a guard of one scheme is a chain that has no other.
-/

namespace Gatehouse.Proofs

open Gatehouse Http

/-- An event as it is written. -/
structure Line where
  level : Level
  message : String
  fields : List (String × String)
  deriving DecidableEq

def lineOf (event : Event) : Line := ⟨event.level, event.message, event.fields⟩

/-! ## Turns and endings -/

/-- What is written before a guard has the word. -/
def announcement (stage : Registration) : Line :=
  ⟨.debug, "applying request filter", [("filter", stage.name), ("priority", stage.priority.text)]⟩

/-- What is written during the turn of a guard: the announcement, and its own words. -/
def turnLines (step : Step) : List Line :=
  announcement step.stage :: step.reaction.events.map lineOf

/-- What is written at the end of a run, by how it ended. -/
inductive Concluded (run : Run) : List Line → Prop
  | exhausted : (∀ step ∈ run.steps, step.reaction.outcome = .ok .proceed) →
      run.result = .ok none → Concluded run []
  /-- The last guard that had a turn answered; the request is shown as that guard left it. -/
  | answered {before : List Step} {last : Step} {response : Response} :
      run.steps = before ++ [last] → last.reaction.outcome = .ok (.answer response) →
      run.result = .ok (some response) →
      Concluded run [⟨.info, "request aborted by filter",
        [("filter", last.stage.name), ("status", toString response.status.code),
          ("method", last.left.method), ("path", last.left.path)]⟩]
  /-- The last guard that had a turn failed. -/
  | failed {before : List Step} {last : Step} {fault : Fault} :
      run.steps = before ++ [last] → last.reaction.outcome = .error fault →
      run.result = .error (.guardFailed last.stage.name fault) →
      Concluded run [⟨.error, "request filter failed",
        [("filter", last.stage.name), ("error", fault.message)]⟩]

theorem closing_of_proceed {step : Step} (h : step.reaction.outcome = .ok .proceed) :
    step.closing = [] := by
  rw [Step.closing, Step.ending, h]

theorem lines_of_step (step : Step) :
    step.events.map lineOf = turnLines step ++ step.closing.map lineOf := by
  rw [Step.events, List.map_cons, List.map_append]
  rfl

/-- Turns that let the request go on leave nothing in the log but themselves. -/
theorem events_of_proceeds {steps : List Step}
    (h : ∀ step ∈ steps, step.reaction.outcome = .ok .proceed) :
    (Walk.events steps).map lineOf = steps.flatMap turnLines := by
  rw [Walk.events, List.map_flatMap]
  refine List.flatMap_congr ?_
  intro step hstep
  rw [lines_of_step, closing_of_proceed (h step hstep), List.map_nil, List.append_nil]

theorem concluded_of_last {pipeline : Pipeline} {visit : Visit} {before : List Step} {last : Step}
    (h : visit.state = .running) (hsteps : (pipeline.run visit).steps = before ++ [last]) :
    Concluded (pipeline.run visit) (last.closing.map lineOf) := by
  have hlast : last ∈ (pipeline.run visit).steps.getLast? := by
    rw [hsteps]
    exact List.getLast?_concat
  have hwalk : walk pipeline.stages visit = before ++ [last] := by
    rw [← hsteps, run_of_running pipeline h]
  have hresult := (run_last h hlast).1
  cases houtcome : last.reaction.outcome with
  | error fault =>
      have hending : last.ending = .failed last.stage.name fault := by rw [Step.ending, houtcome]
      rw [hending] at hresult
      rw [Step.closing, hending]
      exact .failed hsteps houtcome hresult
  | ok verdict =>
      cases verdict with
      | proceed =>
          have hending : last.ending = .exhausted := by rw [Step.ending, houtcome]
          have hproceeds := walk_proceeds pipeline.stages visit
          rw [hwalk, List.dropLast_concat] at hproceeds
          rw [hending] at hresult
          rw [closing_of_proceed houtcome]
          refine .exhausted ?_ hresult
          rw [hsteps]
          exact List.forall_mem_append.mpr ⟨hproceeds, List.forall_mem_singleton.mpr houtcome⟩
      | answer response =>
          have hending : last.ending = .answered response := by rw [Step.ending, houtcome]
          rw [hending] at hresult
          rw [Step.closing, hending]
          exact .answered hsteps houtcome hresult

/-- The line at the end is that of the last turn, and tells what the run reports. -/
theorem concluded (pipeline : Pipeline) {visit : Visit} (h : visit.state = .running) :
    ∃ closing, (pipeline.run visit).events.map lineOf =
        (pipeline.run visit).steps.flatMap turnLines ++ closing
      ∧ Concluded (pipeline.run visit) closing := by
  have hrun := run_of_running pipeline h
  rcases List.eq_nil_or_concat (walk pipeline.stages visit) with hwalk | ⟨before, last, hwalk⟩
  · rw [hwalk] at hrun
    rw [hrun]
    exact ⟨[], rfl, .exhausted (List.forall_mem_nil _) rfl⟩
  · rw [List.concat_eq_append] at hwalk
    have hsteps : (pipeline.run visit).steps = before ++ [last] := by rw [hrun, hwalk]
    have hproceeds := walk_proceeds pipeline.stages visit
    rw [hwalk, List.dropLast_concat] at hproceeds
    refine ⟨last.closing.map lineOf, ?_, concluded_of_last h hsteps⟩
    rw [Run.events, hsteps, Walk.events, List.flatMap_append, List.map_append, ← Walk.events,
      events_of_proceeds hproceeds, List.flatMap_append, List.flatMap_singleton,
      List.flatMap_singleton, lines_of_step, List.append_assoc]

/-! ## Schemes that have a say -/

/-- The members that have a say: they are consulted up to the first one that settles the matter. -/
def heard (visit : Visit) : List SchemeGuard → List SchemeGuard
  | [] => []
  | member :: rest =>
    match (member.check.consult visit).finding with
    | .ok .missing | .ok .rejected => member :: heard visit rest
    | _ => [member]

/-- The credentials of a visit that were rejected, scheme by scheme. -/
def rejections (visit : Visit) (members : List SchemeGuard) : List Line :=
  ((heard visit members).filter (fun member => rejects visit member.check)).map
    (fun member => ⟨.warn, "credentials rejected",
      [("scheme", member.scheme.name), ("path", visit.path)]⟩)

/-- None of the members that have a say knows the caller. -/
def NobodyAccepts (visit : Visit) (members : List SchemeGuard) : Prop :=
  ∀ member ∈ heard visit members, ∀ identity,
    (member.check.consult visit).finding ≠ .ok (.accepted identity)

/-- The last of the members that have a say knows the caller. -/
def LastAccepts (visit : Visit) (members : List SchemeGuard) (last : SchemeGuard)
    (identity : Identity) : Prop :=
  (∃ before, heard visit members = before ++ [last])
    ∧ (last.check.consult visit).finding = .ok (.accepted identity)

section Heard

variable {visit : Visit} {member : SchemeGuard} {rest : List SchemeGuard}

theorem heard_of_undecided (h : Undecided visit member.check) :
    heard visit (member :: rest) = member :: heard visit rest := by
  rcases h with h | h
  · simp only [heard, h]
  · simp only [heard, h]

theorem heard_of_decided (h : ¬ Undecided visit member.check) :
    heard visit (member :: rest) = [member] := by
  rcases accepts_or_fails h with ⟨identity, h⟩ | ⟨fault, h⟩
  · simp only [heard, h]
  · simp only [heard, h]

theorem rejects_of_decided (h : ¬ Undecided visit member.check) :
    rejects visit member.check = false := by
  rw [← Bool.not_eq_true, rejects_iff]
  exact fun hrejected => h (.inr hrejected)

/-- A check has a line in the log if it rejects, and no other. -/
theorem lines_of_consult (visit : Visit) (member : SchemeGuard) :
    (member.check.consult visit).events.map lineOf =
      if rejects visit member.check then [⟨.warn, "credentials rejected",
        [("scheme", member.scheme.name), ("path", visit.path)]⟩] else [] := by
  have hevents : (member.check.consult visit).events =
      if (member.check.consult visit).finding = .ok .rejected
      then [.rejected member.scheme.name visit.path] else [] :=
    congrArg Consultation.events (consult_eq visit)
  by_cases hrejects : rejects visit member.check = true
  · rw [hevents, if_pos (rejects_iff.mp hrejects), if_pos hrejects]
    rfl
  · rw [hevents, if_neg (fun hfinding => hrejects (rejects_iff.mpr hfinding)), if_neg hrejects]
    rfl

theorem rejections_of_undecided (h : Undecided visit member.check) :
    rejections visit (member :: rest) =
      (member.check.consult visit).events.map lineOf ++ rejections visit rest := by
  rw [rejections, heard_of_undecided h, List.filter_cons, lines_of_consult]
  split
  · rfl
  · rfl

theorem rejections_of_decided (h : ¬ Undecided visit member.check) :
    rejections visit (member :: rest) = []
      ∧ (member.check.consult visit).events.map lineOf = [] := by
  rw [rejections, heard_of_decided h, lines_of_consult, List.filter_singleton,
    rejects_of_decided h]
  exact ⟨rfl, rfl⟩

theorem nobodyAccepts_of_undecided (h : Undecided visit member.check) :
    NobodyAccepts visit (member :: rest) ↔ NobodyAccepts visit rest := by
  have hmember : ∀ identity, (member.check.consult visit).finding ≠ .ok (.accepted identity) := by
    intro identity haccepts
    rcases h with hfinding | hfinding
    · exact nomatch haccepts.symm.trans hfinding
    · exact nomatch haccepts.symm.trans hfinding
  rw [NobodyAccepts, heard_of_undecided h, List.forall_mem_cons]
  exact and_iff_right hmember

theorem take_of_undecided_member (h : Undecided visit member.check) :
    Survey.take visit ((member :: rest).map SchemeGuard.check) =
      let later := Survey.take visit (rest.map SchemeGuard.check)
      ⟨(member.check.consult visit).events ++ later.events,
        rejects visit member.check || later.rejected, later.found⟩ := by
  have htake := take_append (List.forall_mem_singleton.mpr h) (rest.map SchemeGuard.check)
  rw [consultEvents_singleton, List.any_cons, List.any_nil, Bool.or_false] at htake
  exact htake

end Heard

/-- A survey writes down the rejections. -/
theorem events_surveyed (visit : Visit) (members : List SchemeGuard) :
    (Survey.take visit (members.map SchemeGuard.check)).events.map lineOf =
      rejections visit members := by
  induction members with
  | nil => rfl
  | cons member rest ih =>
      by_cases h : Undecided visit member.check
      · rw [take_of_undecided_member h, List.map_append, ih, rejections_of_undecided h]
      · obtain ⟨hnone, hsilent⟩ := rejections_of_decided h
        rw [hnone, List.map_cons, Survey.take]
        rcases accepts_or_fails h with ⟨identity, hfinding⟩ | ⟨fault, hfinding⟩
        · simp only [hfinding, hsilent]
        · simp only [hfinding, hsilent]

/-- What a survey comes to, told along the members that have a say. -/
inductive Surveyed (visit : Visit) (members : List SchemeGuard) :
    Except Fault (Option (Identity × String)) → Prop
  | found {last : SchemeGuard} {identity : Identity} : LastAccepts visit members last identity →
      Surveyed visit members (.ok (some (identity, last.scheme.name)))
  | nothing : NobodyAccepts visit members → Surveyed visit members (.ok none)
  | outage {fault : Fault} : NobodyAccepts visit members → Surveyed visit members (.error fault)

theorem surveyed (visit : Visit) (members : List SchemeGuard) :
    Surveyed visit members (Survey.take visit (members.map SchemeGuard.check)).found := by
  induction members with
  | nil => exact .nothing (List.forall_mem_nil _)
  | cons member rest ih =>
      by_cases h : Undecided visit member.check
      · rw [take_of_undecided_member h]
        dsimp only
        generalize (Survey.take visit (rest.map SchemeGuard.check)).found = found at ih
        cases ih with
        | found hlast =>
            obtain ⟨⟨before, hheard⟩, haccepts⟩ := hlast
            refine .found ⟨⟨member :: before, ?_⟩, haccepts⟩
            rw [heard_of_undecided h, hheard, List.cons_append]
        | nothing hnobody => exact .nothing ((nobodyAccepts_of_undecided h).mpr hnobody)
        | outage hnobody => exact .outage ((nobodyAccepts_of_undecided h).mpr hnobody)
      · have hheard : heard visit (member :: rest) = [member] := heard_of_decided h
        rw [List.map_cons, Survey.take]
        rcases accepts_or_fails h with ⟨identity, hfinding⟩ | ⟨fault, hfinding⟩
        · simp only [hfinding]
          exact .found ⟨⟨[], hheard⟩, hfinding⟩
        · simp only [hfinding]
          refine .outage ?_
          rw [NobodyAccepts, hheard]
          refine List.forall_mem_singleton.mpr ?_
          intro identity haccepts
          rw [hfinding] at haccepts
          exact absurd haccepts (by simp)

/-! ## What a guard of credentials says -/

/-- How a challenge goes out, and what is written about it. -/
inductive Challenged (scheme realm : String) (response : Response) : List Line → Prop
  | sent : Sendable (challengeText scheme realm) →
      challengesOf response = [challengeText scheme realm] → Challenged scheme realm response []
  /-- No header field can hold it, so it is dropped. -/
  | omitted : ¬ Sendable (challengeText scheme realm) → challengesOf response = [] →
      Challenged scheme realm response
        [⟨.warn, "realm is not a valid header value; challenge omitted", [("realm", realm)]⟩]

theorem challenged_of_standard {challenger : Challenger} (h : Standard challenger)
    (scheme realm : String) :
    Challenged scheme realm (challenger scheme realm).response
      ((challenger scheme realm).events.map lineOf) := by
  rcases refusal_cases h scheme realm with ⟨hsendable, hevents, hone⟩ | ⟨hsendable, hevents, hnone⟩
  · rw [hevents]
    exact .sent hsendable hone
  · rw [hevents]
    exact .omitted hsendable hnone

/-- A guard answers with a refusal, and writes what the refusal has to say. -/
structure Refuses (challenger : Challenger) (scheme realm : String) (reaction : Reaction)
    (lines : List Line) : Prop where
  answers : reaction.outcome = .ok (.answer (challenger scheme realm).response)
  writes : lines = (challenger scheme realm).events.map lineOf
  /-- In either of the standard wordings that is nothing, or one line for a lost challenge. -/
  challenged : Standard challenger →
    Challenged scheme realm (challenger scheme realm).response lines

/-- What a guard of credentials writes behind the rejections, by how it reacts. -/
inductive Upshot (members : List SchemeGuard) (visit : Visit) (reaction : Reaction) :
    List Line → Prop
  | identified {last : SchemeGuard} {identity : Identity} :
      LastAccepts visit members last identity → reaction.outcome = .ok .proceed →
      reaction.left = visit.withCaller (visit.caller.authenticate identity last.scheme.name) →
      Upshot members visit reaction [⟨.debug, "authenticated",
        [("principal", identity.name), ("scheme", last.scheme.name)]⟩]
  | anonymous : NobodyAccepts visit members → reaction.outcome = .ok .proceed →
      reaction.left = visit → Upshot members visit reaction []
  | refused {first : SchemeGuard} {rest : List SchemeGuard} {lines : List Line} :
      NobodyAccepts visit members → members = first :: rest → reaction.left = visit →
      Refuses first.challenger first.scheme.name first.realm reaction lines →
      Upshot members visit reaction lines
  | failed {fault : Fault} : NobodyAccepts visit members → reaction.outcome = .error fault →
      reaction.left = visit → Upshot members visit reaction []

/-- The log of a guard of credentials in its turn. -/
def TellsUpshot (members : List SchemeGuard) (visit : Visit) (reaction : Reaction) : Prop :=
  ∃ upshot, reaction.events.map lineOf = rejections visit members ++ upshot
    ∧ Upshot members visit reaction upshot

theorem chained_tells (members : List SchemeGuard) (mode : Mode) (visit : Visit) :
    TellsUpshot members visit ((chained members mode).react visit) := by
  have hevents := events_surveyed visit members
  have hsurveyed := surveyed visit members
  simp only [chained, Guard.ofChecks]
  generalize Survey.take visit (members.map SchemeGuard.check) = survey at hevents hsurveyed
  generalize survey.found = found at hsurveyed
  cases hsurveyed with
  | @found last identity hlast =>
      refine ⟨_, ?_, .identified hlast rfl rfl⟩
      simp only [Guard.welcome, Reaction.proceed, List.map_append, hevents]
      rfl
  | @outage fault hnobody =>
      exact ⟨[], hevents.trans (List.append_nil _).symm, .failed hnobody rfl rfl⟩
  | nothing hnobody =>
      dsimp only
      split
      · exact ⟨[], hevents.trans (List.append_nil _).symm, .anonymous hnobody rfl rfl⟩
      · cases members with
        | nil => exact ⟨[], hevents.trans (List.append_nil _).symm, .failed hnobody rfl rfl⟩
        | cons first rest =>
            refine ⟨(first.challenger first.scheme.name first.realm).events.map lineOf, ?_,
              .refused hnobody rfl rfl ⟨rfl, rfl, fun h => challenged_of_standard h _ _⟩⟩
            simp only [List.map_cons, Guard.refuse, Reaction.answer, List.map_append, hevents]
            rfl

/-- The guards that decide by credentials, with the schemes they know. -/
inductive Authenticates : Guard → List SchemeGuard → Prop
  | alone (member : SchemeGuard) : Authenticates member.guard [member]
  | chained (members : List SchemeGuard) (mode : Mode) :
      Authenticates (chained members mode) members

theorem Authenticates.tells {guard : Guard} {members : List SchemeGuard}
    (h : Authenticates guard members) (visit : Visit) :
    TellsUpshot members visit (guard.react visit) := by
  cases h with
  | alone member =>
      rw [SchemeGuard.guard, ← react_ofChecks_singleton]
      exact chained_tells [member] member.mode visit
  | chained _ mode => exact chained_tells members mode visit

theorem policy_refuses {policy : Policy} {visit : Visit}
    (h : WantsName visit (policy.ruleFor? visit.path)) :
    Refuses policy.challenger policy.scheme policy.realm (policy.guard.react visit)
      ((policy.guard.react visit).events.map lineOf) := by
  rw [react_of_wantsName h]
  exact ⟨rfl, rfl, fun h => challenged_of_standard h _ _⟩

/-! ## What the log of a run tells -/

/-- What is promised of the log of a run of `pipeline` on `visit`. -/
structure Told (pipeline : Pipeline) (visit : Visit) (run : Run) : Prop where
  /-- The turns are those of the guards at the front, each shown what the one before it left. -/
  invoked : (run.steps.map Step.stage).IsPrefix pipeline.stages ∧ Linked visit run.steps
  /-- The log is that of the turns, one after another, and what the ending adds to it. -/
  lines : ∃ closing, run.events.map lineOf = run.steps.flatMap turnLines ++ closing
    ∧ Concluded run closing
  /-- All of it is about the request of the visit, as long as guards hand on the request that they
  are shown. -/
  request : (∀ step ∈ run.steps, SameRequest step.seen step.left) →
    ∀ step ∈ run.steps, step.seen.method = visit.method ∧ step.seen.path = visit.path
      ∧ step.left.method = visit.method ∧ step.left.path = visit.path
  /-- A guard that decides by credentials tells what it made of them. -/
  authentication : ∀ step ∈ run.steps, ∀ members, Authenticates step.stage.guard members →
    TellsUpshot members step.seen step.reaction
  /-- A guard that enforces a policy asks for credentials in the same way. -/
  authorization : ∀ step ∈ run.steps, ∀ policy : Policy, step.stage.guard = policy.guard →
    WantsName step.seen (policy.ruleFor? step.seen.path) →
    Refuses policy.challenger policy.scheme policy.realm step.reaction
      (step.reaction.events.map lineOf)

/-- **The log of a run tells what happened in it.** The turns of the guards are in it one after
another, each announced, and only the last line tells of an ending. -/
theorem run_told (pipeline : Pipeline) (visit : Visit) (h : visit.state = .running) :
    Told pipeline visit (pipeline.run visit) := by
  have hsteps : (pipeline.run visit).steps = walk pipeline.stages visit := by
    rw [run_of_running pipeline h]
  have hlinked := walk_linked pipeline.stages visit
  constructor
  case invoked =>
    rw [hsteps]
    exact ⟨walk_isPrefix pipeline.stages visit, hlinked⟩
  case lines => exact concluded pipeline h
  case request =>
    intro hsame step hstep
    rw [hsteps] at hsame hstep
    obtain ⟨hseen, hleft⟩ := sameRequest_of_linked hlinked hsame step hstep
    exact ⟨hseen.method, hseen.path, hleft.method, hleft.path⟩
  case authentication =>
    intro step hstep members hmembers
    rw [hsteps] at hstep
    rw [linked_step hlinked step hstep]
    exact hmembers.tells step.seen
  case authorization =>
    intro step hstep policy hpolicy hasks
    rw [hsteps] at hstep
    rw [linked_step hlinked step hstep, hpolicy]
    exact policy_refuses hasks

/-- Tokens and logins, in a realm that goes over two lines. -/
def garbledPipeline : Pipeline :=
  ⟨[⟨chained [{ strictTokens with realm := "two\nlines" }, lostLogins] .required, .authentication⟩,
    ⟨nestedPolicy.guard, .authorization⟩]⟩

/-- A token is rejected and there is no login, so the first scheme asks for credentials, without a
challenge. The policy has no turn. -/
theorem run_told_garbled :
    tokenVisit.state = .running
      ∧ Told garbledPipeline tokenVisit (garbledPipeline.run tokenVisit)
      ∧ (garbledPipeline.run tokenVisit).events.map lineOf =
        [⟨.debug, "applying request filter",
            [("filter", "chained-auth[bearer,basic]"), ("priority", "authentication(1000)")]⟩,
          ⟨.warn, "credentials rejected", [("scheme", "Bearer"), ("path", "/")]⟩,
          ⟨.warn, "realm is not a valid header value; challenge omitted",
            [("realm", "two\nlines")]⟩,
          ⟨.info, "request aborted by filter", [("filter", "chained-auth[bearer,basic]"),
            ("status", "401"), ("method", "GET"), ("path", "/")]⟩] :=
  ⟨rfl, run_told garbledPipeline tokenVisit rfl, by decide⟩

end Gatehouse.Proofs

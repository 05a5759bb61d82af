import Gatehouse.Proofs.Faithful

/-!
# One deadline for all guards

The guards of a gate share one span of time, and what counts is when a guard is
done, not how long it took. So a walk is cut at one place only: after the last guard
that was done in time. `progress_cut` says where that is, and all else follows from it.

What stands behind the cut is without effect, and that is more than can be seen in
one exchange. So it is said of other services. The guard at the cut can be replaced by
any other that does not make it either, whatever that one would have said, and the
guards behind it by any others (`Timed.cancelled`). And as before, any handler can
stand in the place of the page (`Timed.idle`).

A deadline is measured by a timer, so it is the span of the timer that counts and not
what the timer is set for. The two differ from thirty years on (`decades_cut_short`).
-/

namespace Gatehouse.Proofs

open Gatehouse Http

/-! ## What is done in time -/

/-- No guard is done at the very moment of the deadline. -/
def NoTie (limit : Nat) (steps : List Step) : Prop :=
  ∀ k < steps.length, timeOf (steps.take (k + 1)) ≠ limit

instance (limit : Nat) (steps : List Step) : Decidable (NoTie limit steps) :=
  inferInstanceAs (Decidable (∀ k < steps.length, timeOf (steps.take (k + 1)) ≠ limit))

theorem NoTie.ne {limit : Nat} {start rest : List Step} (h : NoTie limit (start ++ rest))
    (hne : start ≠ []) : timeOf start ≠ limit := by
  obtain ⟨k, hk⟩ := Nat.exists_eq_succ_of_ne_zero (mt List.eq_nil_of_length_eq_zero hne)
  have hlt : k < (start ++ rest).length := by rw [List.length_append]; omega
  have hstart : (start ++ rest).take (k + 1) = start := by
    rw [← Nat.succ_eq_add_one, ← hk, List.take_left]
  have hcut := h k hlt
  rwa [hstart] at hcut

/-- What is done within `limit`: the longest start of `steps` that takes less time than that. -/
structure LongestWithin (limit : Nat) (steps finished : List Step) : Prop where
  start : finished <+: steps
  within : finished ≠ [] → timeOf finished < limit
  longest : ∀ other, other <+: steps → timeOf other < limit → other <+: finished

theorem timeOf_le_of_isPrefix {start steps : List Step} (h : start <+: steps) :
    timeOf start ≤ timeOf steps := by
  obtain ⟨rest, rfl⟩ := h
  rw [timeOf_append]
  exact Nat.le_add_right _ _

theorem longestWithin_cut {limit : Nat} {before after : List Step} {step : Step}
    (hties : NoTie limit (before ++ step :: after)) (hbefore : timeOf before ≤ limit)
    (hstep : limit < timeOf before + step.reaction.delay) :
    LongestWithin limit (before ++ step :: after) before := by
  constructor
  case start => exact List.prefix_append before _
  case within => exact fun hne => Nat.lt_of_le_of_ne hbefore (hties.ne hne)
  case longest =>
    intro other hother htime
    have hwhole : before ++ [step] <+: before ++ step :: after :=
      (List.prefix_append_right_inj before).mpr ⟨after, rfl⟩
    -- of two starts one goes on where the other ends, and a longer one would contain the turn
    by_cases hlength : (before ++ [step]).length ≤ other.length
    · have hpast := timeOf_le_of_isPrefix
        (List.prefix_of_prefix_length_le hwhole hother hlength)
      rw [timeOf_append, timeOf_cons, timeOf_nil] at hpast
      omega
    · rw [List.length_append, List.length_singleton] at hlength
      exact List.prefix_of_prefix_length_le hother (List.prefix_append before _) (by omega)

/-! ## From a deadline to its exchange -/

/-- The answer to a request that took too long. -/
def missed : Response := ⟨.requestTimeout, [⟨lengthField, "0"⟩], ""⟩

/-- The exchange that follows from a run within `limit`, with `handler` in the place of the
page. -/
def exchangeWithin (limit : Nat) (handler : Option Account → Reply) (id : String) (run : Run) :
    Exchange :=
  let progress := progress limit run.steps
  match progress.interrupted with
  | some _ => ⟨missed, progress.finished, progress.events⟩
  | none => exchangeWith handler id run

theorem exchangeWithin_of_le {limit : Nat} {run : Run} (h : timeOf run.steps ≤ limit)
    (handler : Option Account → Reply) (id : String) :
    exchangeWithin limit handler id run = exchangeWith handler id run := by
  rw [exchangeWithin, not_interrupted_of_le h]

theorem exchangeWithin_of_cut {limit : Nat} {run : Run} {before after : List Step} {step : Step}
    (hsteps : run.steps = before ++ step :: after) (hbefore : timeOf before ≤ limit)
    (hstep : limit < timeOf before + step.reaction.delay) (handler : Option Account → Reply)
    (id : String) :
    exchangeWithin limit handler id run =
      ⟨missed, before, Walk.events before ++ [step.opening]⟩ := by
  rw [exchangeWithin, hsteps, progress_cut hbefore hstep]
  rfl

/-- A run that is late is cut during one turn, and no handler has a say. -/
theorem exchangeWithin_of_lt {limit : Nat} {run : Run} (h : limit < timeOf run.steps) :
    ∃ before step after, run.steps = before ++ step :: after ∧ timeOf before ≤ limit
      ∧ limit < timeOf before + step.reaction.delay
      ∧ ∀ handler id, exchangeWithin limit handler id run =
        ⟨missed, before, Walk.events before ++ [step.opening]⟩ := by
  obtain ⟨before, step, after, hsteps, hbefore, hstep⟩ := exists_cut h
  exact ⟨before, step, after, hsteps, hbefore, hstep, exchangeWithin_of_cut hsteps hbefore hstep⟩

section Serving

variable {service : Service} {page : Page} {fresh : String} {request : Request}

theorem serve_within (hpage : page.isProtected = true) (hget : request.method = "GET")
    (haddress : request.target.path = page.address)
    (hlength : ∀ n, Service.announcedLength? request = some n → n ≤ service.limits.body) :
    service.serve fresh request =
      exchangeWithin (Timer.span service.limits.time) page.reply (idOf fresh request)
        (visitGate service fresh request) := by
  rw [exchangeWithin]
  cases hcut : (progress (Timer.span service.limits.time)
      (visitGate service fresh request).steps).interrupted with
  | none => exact serve_get hpage hget haddress hlength hcut
  | some step =>
      rw [serve_late hpage haddress (short_identified fresh hlength) hcut, hget]
      rfl

theorem visitGate_steps (service : Service) (fresh : String) (request : Request) :
    (visitGate service fresh request).steps =
      walk service.gate.stages (.ofRequest (Service.identified fresh request)) := by
  rw [visitGate, run_of_running _ rfl]

/-- The service with other guards behind those that had these turns. -/
def followedBy (service : Service) (turns : List Step) (others : List Registration) : Service :=
  { service with gate := ⟨turns.map Step.stage ++ others⟩ }

@[simp] theorem limits_followedBy (service : Service) (turns : List Step)
    (others : List Registration) : (followedBy service turns others).limits = service.limits := rfl

/-- What comes behind a turn can be replaced together with it. -/
theorem visitGate_followedBy {before after : List Step} {step : Step}
    (h : (visitGate service fresh request).steps = before ++ step :: after) (other : Registration)
    (others : List Registration) :
    ∃ later, (visitGate (followedBy service before (other :: others)) fresh request).steps =
      before ++ ⟨other, step.seen, other.guard.react step.seen⟩ :: later := by
  rw [visitGate_steps] at h ⊢
  have hwalk := walk_linked service.gate.stages (.ofRequest (Service.identified fresh request))
  rw [h] at hwalk
  obtain ⟨hlinked, hseen⟩ := linked_before hwalk
  obtain ⟨later, hlater⟩ := walk_cons other others step.seen
  refine ⟨later, ?_⟩
  rw [followedBy, walk_again hlinked (walk_proceeds_before h), ← hseen, hlater]

end Serving

/-- What is promised of an exchange about `page` within `limit`, held against the run that the
gate would take without a deadline. -/
structure Timed (service : Service) (page : Page) (fresh : String) (request : Request)
    (limit : Nat) (exchange : Exchange) : Prop where
  /-- If the run is over in time, nothing is noticed of the deadline. -/
  inTime : timeOf (visitGate service fresh request).steps < limit →
    exchange = exchangeWith page.reply (idOf fresh request) (visitGate service fresh request)
  /-- So whatever a guard has made of the request by then is what comes of it. -/
  decided : timeOf (visitGate service fresh request).steps < limit →
    Faithful page (idOf fresh request) (visitGate service fresh request) exchange
  /-- Nothing would be noticed of a longer one either. -/
  patient : timeOf (visitGate service fresh request).steps < limit → ∀ longer,
    limit ≤ Timer.span longer →
    { service with limits := ⟨longer, service.limits.body⟩ }.serve fresh request = exchange
  /-- If not, then only those turns count that were over in time, one after the other. -/
  late : limit < timeOf (visitGate service fresh request).steps →
    exchange.response = missed
      ∧ LongestWithin limit (visitGate service fresh request).steps exchange.steps
  /-- The next guard was announced and is not heard any more, and the guards behind it have no
  turn: others in their places would not be noticed. -/
  cancelled : limit < timeOf (visitGate service fresh request).steps →
    ∃ interrupted after,
      (visitGate service fresh request).steps = exchange.steps ++ interrupted :: after
        ∧ exchange.events = Walk.events exchange.steps ++ [interrupted.opening]
        ∧ ∀ (other : Registration) (others : List Registration),
          other.name = interrupted.stage.name → other.priority = interrupted.stage.priority →
          limit < timeOf exchange.steps + (other.guard.react interrupted.seen).delay →
          (followedBy service exchange.steps (other :: others)).serve fresh request = exchange
  /-- Nor has the page a turn: another handler in its place would not be noticed either. -/
  idle : limit < timeOf (visitGate service fresh request).steps → ∀ handler,
    exchange = exchangeWithin limit handler (idOf fresh request) (visitGate service fresh request)

/-- **All guards have one deadline together.** A run that is over before the deadline is served
as if there were none, whether it let the request go on, answered it or failed. Any other is cut
at the last guard that was done by then, and nothing that stands behind the cut has an effect. -/
theorem deadline_for_all_guards (service : Service) (page : Page) (fresh : String)
    (request : Request) (hpage : page.isProtected = true) (hget : request.method = "GET")
    (haddress : request.target.path = page.address)
    (hlength : ∀ n, Service.announcedLength? request = some n → n ≤ service.limits.body)
    (hties : NoTie (Timer.span service.limits.time) (visitGate service fresh request).steps) :
    Timed service page fresh request (Timer.span service.limits.time)
      (service.serve fresh request) := by
  have hserve := @serve_within service page fresh request hpage hget haddress hlength
  constructor
  case inTime =>
    intro htime
    rw [hserve, exchangeWithin_of_le (Nat.le_of_lt htime)]
  case decided =>
    intro htime
    rw [hserve, exchangeWithin_of_le (Nat.le_of_lt htime)]
    exact faithful_exchangeWith hpage _ _
  case patient =>
    intro htime longer hlonger
    have hinTime := Nat.le_trans (Nat.le_of_lt htime) hlonger
    rw [hserve, exchangeWithin_of_le (Nat.le_of_lt htime)]
    exact (@serve_within { service with limits := ⟨longer, service.limits.body⟩ } page fresh request
      hpage hget haddress hlength).trans (exchangeWithin_of_le hinTime page.reply _)
  case late =>
    intro hlate
    obtain ⟨before, step, after, hsteps, hbefore, hstep, hcut⟩ := exchangeWithin_of_lt hlate
    rw [hserve, hcut]
    rw [hsteps] at hties ⊢
    exact ⟨rfl, longestWithin_cut hties hbefore hstep⟩
  case cancelled =>
    intro hlate
    obtain ⟨before, step, after, hsteps, hbefore, hstep, hcut⟩ := exchangeWithin_of_lt hlate
    rw [hserve, hcut]
    refine ⟨step, after, hsteps, rfl, ?_⟩
    intro other others hname hpriority hother
    obtain ⟨later, hlater⟩ := visitGate_followedBy hsteps other others
    rw [@serve_within (followedBy service before (other :: others)) page fresh request hpage hget
      haddress hlength, limits_followedBy, exchangeWithin_of_cut hlater hbefore hother]
    -- of the guard at the cut the log shows its name and its place
    rw [Step.opening, Step.opening, hname, hpriority]
  case idle =>
    intro hlate handler
    obtain ⟨_, _, _, _, _, _, hcut⟩ := exchangeWithin_of_lt hlate
    rw [hserve, hcut, hcut]

/-- A request for the greeting. -/
def greetingRequest : Request := ⟨"GET", ⟨none, "/api/v1/greeting", none⟩, []⟩

/-- A service with a second for all guards, of whom each takes less. -/
def pacedService : Service :=
  ⟨⟨[⟨.scripted "first" .general (.wait 400), ⟨10⟩⟩,
    ⟨.scripted "second" .general (.wait 700), ⟨20⟩⟩,
    ⟨.scripted "third" .general (.answer (.empty ⟨418⟩)), ⟨30⟩⟩]⟩, ⟨1000, 1048576⟩⟩

/-- Two of the guards take too long together, so the third cannot answer. -/
theorem deadline_for_all_guards_paced :
    Page.greeting.isProtected = true
      ∧ greetingRequest.method = "GET"
      ∧ greetingRequest.target.path = Page.greeting.address
      ∧ Service.announcedLength? greetingRequest = none
      ∧ NoTie (Timer.span 1000) (visitGate pacedService "c0ffee" greetingRequest).steps
      ∧ (visitGate pacedService "c0ffee" greetingRequest).steps.map
          (fun step => step.reaction.delay) = [400, 700, 0]
      ∧ Timed pacedService .greeting "c0ffee" greetingRequest (Timer.span 1000)
          (pacedService.serve "c0ffee" greetingRequest)
      ∧ (pacedService.serve "c0ffee" greetingRequest).response = missed
      ∧ (pacedService.serve "c0ffee" greetingRequest).steps.map Step.summary =
          ["first=Continue"] := by
  have hlength : Service.announcedLength? greetingRequest = none := by decide +kernel
  have hties : NoTie (Timer.span 1000) (visitGate pacedService "c0ffee" greetingRequest).steps := by
    decide +kernel
  have htimed := deadline_for_all_guards pacedService .greeting "c0ffee" greetingRequest rfl rfl rfl
    (by rw [hlength]; simp) hties
  exact ⟨rfl, rfl, rfl, hlength, hties, rfl, htimed, (htimed.late (by decide +kernel)).1,
    by decide +kernel⟩

/-- A service with a second more than thirty years for its guards, who take half a second more. -/
def decadesService : Service :=
  ⟨⟨[⟨.scripted "first" .general (.wait 946079999000), ⟨1⟩⟩,
    ⟨.scripted "second" .general (.wait 1500), ⟨2⟩⟩]⟩, ⟨946080001000, 1048576⟩⟩

/-- The guards are done by the time that the timer is set for, but it has run out before. -/
theorem decades_cut_short :
    Page.greeting.isProtected = true
      ∧ greetingRequest.method = "GET"
      ∧ greetingRequest.target.path = Page.greeting.address
      ∧ Service.announcedLength? greetingRequest = none
      ∧ NoTie decadesService.limits.time
          (visitGate decadesService "c0ffee" greetingRequest).steps
      ∧ timeOf (visitGate decadesService "c0ffee" greetingRequest).steps <
          decadesService.limits.time
      ∧ (exchangeWith Page.greeting.reply "c0ffee"
          (visitGate decadesService "c0ffee" greetingRequest)).response.status = .ok
      ∧ (decadesService.serve "c0ffee" greetingRequest).response = missed := by
  decide +kernel

end Gatehouse.Proofs

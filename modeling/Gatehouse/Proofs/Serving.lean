import Gatehouse.Proofs.AccessTable
import Gatehouse.Proofs.Nesting
import Gatehouse.Settings.Deployment

/-!
# How a protected page is served

Between a request and the gate stand the layers of the service, and the mount point
that shortens its path. None of them has a part in who may pass: the id is a field of
its own and no credential (`sameCredentials_identified`), a length that is within the
limit changes nothing, and the gate is shown the target as it was sent
(`serve_protected`). The deadline is the last thing that could come between, but the
guards of a deployment answer at once (`gate_in_time`).
-/

namespace Gatehouse.Proofs

open Gatehouse Http Text

/-! ## The id of a request is a field of its own -/

theorem value?_ensure_of_ne {headers : Headers} {name other : String} (value : String)
    (h : lowerAscii name ≠ lowerAscii other) :
    (headers.ensure name value).value? other = headers.value? other := by
  rw [Headers.ensure]
  split
  · rfl
  · have hnone : Headers.value? [⟨lowerAscii name, value⟩] other = none := by
      simp [Headers.value?, h]
    rw [Headers.value?_append, hnone, Option.or_none]

theorem value?_identified (fresh : String) {request : Request} {name : String}
    (h : lowerAscii Service.idField ≠ lowerAscii name) :
    (Service.identified fresh request).headers.value? name = request.headers.value? name :=
  value?_ensure_of_ne fresh h

theorem announcedLength?_identified (fresh : String) (request : Request) :
    Service.announcedLength? (Service.identified fresh request) =
      Service.announcedLength? request := by
  rw [Service.announcedLength?, Service.announcedLength?, Headers.text?, Headers.text?,
    value?_identified fresh (by decide)]

/-- An id is no credential. -/
theorem sameCredentials_identified (fresh : String) (request : Request) :
    SameCredentials request (Service.identified fresh request) := by
  have hfield := @value?_identified fresh request authorizationField (by decide)
  constructor
  case token =>
    simp only [Scheme.bearer, authorizationValue?, Headers.has, Headers.text?, hfield]
    rfl
  case login => simp only [Scheme.basic, authorizationValue?, Headers.text?, hfield]

/-! ## The guards of a deployment answer at once -/

/-- A guard that takes no time, whatever it is shown. -/
def Instant (guard : Guard) : Prop := ∀ visit, (guard.react visit).delay = 0

theorem instant_ofChecks (checks : List Check) (mode : Mode) :
    Instant (Guard.ofChecks checks mode) := by
  intro visit
  rcases Guard.ofChecks_reacts checks mode visit with
    ⟨events, fault, hreact⟩ | ⟨events, identity, scheme, hreact⟩ | ⟨events, hreact⟩
      | ⟨events, refusal, hreact⟩
  · rw [hreact]; rfl
  · rw [hreact]; rfl
  · rw [hreact]; rfl
  · rw [hreact]; rfl

theorem instant_guard (policy : Policy) : Instant policy.guard := by
  intro visit
  rcases reacts_in_three_ways policy visit with hreact | hreact | ⟨events, hreact, _⟩
  · rw [hreact]; rfl
  · rw [hreact]; rfl
  · rw [hreact]; rfl

theorem timeOf_eq_zero {steps : List Step} (h : ∀ step ∈ steps, step.reaction.delay = 0) :
    timeOf steps = 0 := by
  induction steps with
  | nil => rfl
  | cons step rest ih =>
      rw [timeOf_cons, h step List.mem_cons_self,
        ih (fun later hlater => h later (List.mem_cons_of_mem step hlater))]

theorem in_time_of_instant {pipeline : Pipeline}
    (h : ∀ stage ∈ pipeline.stages, Instant stage.guard) (visit : Visit) (limit : Nat) :
    (progress limit (pipeline.run visit).steps).interrupted = none := by
  rcases run_steps pipeline visit with hsteps | hsteps
  · -- each turn is the reaction of a guard of the pipeline
    rw [hsteps]
    refine not_interrupted_of_le (le_of_eq_of_le (timeOf_eq_zero ?_) (Nat.zero_le limit))
    intro step hstep
    have hreaction := linked_step (walk_linked pipeline.stages visit) step hstep
    have hstage : step.stage ∈ pipeline.stages :=
      (walk_isPrefix pipeline.stages visit).subset (List.mem_map_of_mem hstep)
    rw [hreaction]
    exact h step.stage hstage step.seen
  · rw [hsteps]; rfl

/-- The gate of a deployment never misses a deadline. -/
theorem gate_in_time (settings : Settings) (request : Request) (limit : Nat) :
    (progress limit (gateRun settings request).steps).interrupted = none := by
  refine in_time_of_instant ?_ _ limit
  intro stage hstage
  rcases List.mem_cons.mp hstage with rfl | hstage
  · exact instant_ofChecks settings.checks settings.mode
  · obtain rfl := List.mem_singleton.mp hstage
    exact instant_guard settings.policy

/-! ## From the request to the page and back -/

/-- Behind the mount point stands the page of that address. -/
theorem route?_address {page : Page} {request : Request} (h : request.target.path = page.address) :
    Service.route? request = some page := by
  cases page <;> simp only [Service.route?, Target.below?, h] <;> rfl

/-- A page is found at its address, and nowhere else. -/
theorem address_of_route? {page : Page} {request : Request}
    (h : Service.route? request = some page) : request.target.path = page.address := by
  simp only [Service.route?, Option.bind_eq_bind, Option.bind_eq_some_iff] at h
  obtain ⟨target, hbelow, hfind⟩ := h
  have hpath : page.path = target.path := by simpa using List.find?_some hfind
  rw [Target.below?] at hbelow
  split at hbelow
  · rename_i hprefix
    obtain rfl := Option.some.inj hbelow
    obtain ⟨rest, hrest⟩ := List.isPrefixOf_iff_prefix.mp hprefix
    have hrest' : page.path.toList = rest := by
      rw [hpath, ← hrest, ← String.length_toList, List.drop_left]
      exact String.toList_ofList
    rw [← String.toList_inj, Page.address, String.toList_append, hrest', hrest]
  · exact nomatch hbelow

/-- The path is shortened on the way to a page, but the visit is about the target that is handed
over with it. -/
theorem ofForwarded_forward (request : Request) :
    Visit.ofForwarded (Service.forward request) = .ofRequest request := rfl

theorem passGate_eq (service : Service) (page : Page) (request : Request) :
    service.passGate page request =
      let run := service.gate.run (.ofRequest request)
      let reply := Service.afterRun page request.method run
      ⟨some reply.response, run.steps, run.events ++ reply.events⟩ := by
  rw [Service.passGate, ofForwarded_forward]

section Layers

variable (service : Service) (fresh : String) (handler : Handler) (request : Request)

/-- The layers inside of the one that puts the id on a response. -/
def innerLayers : List Layer :=
  [Service.limitLength service.limits, Service.deadline (Timer.span service.limits.time)]

/-- What is answered inside bears the id of its request, which it was given outside. -/
theorem passLayers_eq :
    service.passLayers fresh handler request =
      Service.answerErrors (borneBy (Service.identified fresh request)
        (stacked (innerLayers service) handler (Service.identified fresh request))) :=
  congrArg Service.answerErrors (@stacked_nested [Service.setId fresh] (innerLayers service)
    (List.forall_mem_singleton.mpr (handsBack_setId fresh)) handler request)

variable {service fresh handler request}

theorem inside_of_tooLong {seen : Request} (h : Service.tooLong service.limits seen = true) :
    stacked (innerLayers service) handler seen = .answer Service.lengthRefused := by
  have hinward : (Service.limitLength service.limits).inward seen =
      .error Service.lengthRefused := by
    simp only [Service.limitLength, h, if_true]
  rw [innerLayers, stacked_cons, Layer.around_of_answered hinward]

theorem inside_of_short {seen : Request} (h : Service.tooLong service.limits seen = false) :
    stacked (innerLayers service) handler seen =
      (Service.deadline (Timer.span service.limits.time)).outward seen (handler seen) := by
  have hinward : (Service.limitLength service.limits).inward seen = .ok seen := by
    simp only [Service.limitLength, h, Bool.false_eq_true, if_false]
  rw [innerLayers, stacked_cons, Layer.around_of_passed hinward]
  rfl

theorem passLayers_of_tooLong
    (h : Service.tooLong service.limits (Service.identified fresh request) = true) :
    service.passLayers fresh handler request =
      ⟨Service.bearId (Service.identified fresh request) Service.lengthRefused, [], []⟩ := by
  rw [passLayers_eq, inside_of_tooLong h]
  rfl

/-- A handler that is in time is not disturbed, whether it answers or not. -/
theorem passLayers_in_time
    (h : Service.tooLong service.limits (Service.identified fresh request) = false)
    (htime : (progress (Timer.span service.limits.time)
      (handler (Service.identified fresh request)).steps).interrupted = none) :
    service.passLayers fresh handler request =
      Service.answerErrors (borneBy (Service.identified fresh request)
        (handler (Service.identified fresh request))) := by
  rw [passLayers_eq, inside_of_short h]
  simp only [Service.deadline, htime]

/-- What the deadline breaks off is answered outside, and comes to nothing inside. -/
theorem passLayers_late
    (h : Service.tooLong service.limits (Service.identified fresh request) = false) {step : Step}
    (hlate : (progress (Timer.span service.limits.time)
      (handler (Service.identified fresh request)).steps).interrupted = some step) :
    service.passLayers fresh handler request =
      let progress := progress (Timer.span service.limits.time)
        (handler (Service.identified fresh request)).steps
      ⟨.empty .requestTimeout, progress.finished, progress.events⟩ := by
  rw [passLayers_eq, inside_of_short h]
  simp only [Service.deadline, hlate]
  rfl

end Layers

/-- A page is served through the layers, and its response leaves in the form that they all take. -/
theorem serve_address {service : Service} {page : Page} {fresh : String} {request : Request}
    (haddress : request.target.path = page.address) :
    service.serve fresh request =
      let exchange := service.passLayers fresh (service.servePage page) request
      { exchange with response := Service.dress request.method exchange.response } := by
  simp only [Service.serve, route?_address haddress]

/-- **The gate is shown the request as it was sent, but for its id.** What it lets through is
answered by the page, and either answer leaves in the form that responses of a page take. -/
theorem serve_protected {service : Service} {page : Page} {fresh : String} {request : Request}
    (hpage : page.isProtected = true) (haddress : request.target.path = page.address)
    (hlength : Service.tooLong service.limits (Service.identified fresh request) = false)
    (htime : (progress (Timer.span service.limits.time)
      (service.gate.run (.ofRequest (Service.identified fresh request))).steps).interrupted
        = none) :
    service.serve fresh request =
      let seen := Service.identified fresh request
      let run := service.gate.run (.ofRequest seen)
      let reply := Service.afterRun page request.method run
      ⟨Service.dress request.method (Service.bearId seen reply.response), run.steps,
        run.events ++ reply.events⟩ := by
  have hhandler : service.servePage page = service.passGate page := if_pos hpage
  rw [serve_address haddress, hhandler, passLayers_in_time hlength htime, passGate_eq]
  rfl

/-- A body that is announced as too long is refused before anyone inside is asked. -/
theorem serve_of_tooLong {service : Service} {page : Page} {fresh : String} {request : Request}
    (haddress : request.target.path = page.address)
    (hlong : Service.tooLong service.limits (Service.identified fresh request) = true) :
    service.serve fresh request =
      ⟨Service.dress request.method
        (Service.bearId (Service.identified fresh request) Service.lengthRefused), [], []⟩ := by
  rw [serve_address haddress, passLayers_of_tooLong hlong]

/-- A page that is open to everyone is asked without the gate, and there is no deadline to miss. -/
theorem serve_open {service : Service} {page : Page} {fresh : String} {request : Request}
    (hpage : page.isProtected = false) (haddress : request.target.path = page.address)
    (hlength : Service.tooLong service.limits (Service.identified fresh request) = false) :
    service.serve fresh request =
      let reply := Service.visitPage page request.method none
      ⟨Service.dress request.method (Service.bearId (Service.identified fresh request)
        reply.response), [], reply.events⟩ := by
  have hhandler : service.servePage page = Service.openPage page := by
    rw [Service.servePage, hpage, if_neg Bool.false_ne_true]
  rw [serve_address haddress, hhandler, passLayers_in_time hlength rfl]
  rfl

/-- **What the deadline breaks off comes to nothing.** Nothing is left of a guard that is
interrupted but the line that announced it. -/
theorem serve_late {service : Service} {page : Page} {fresh : String} {request : Request}
    (hpage : page.isProtected = true) (haddress : request.target.path = page.address)
    (hlength : Service.tooLong service.limits (Service.identified fresh request) = false)
    {step : Step}
    (hlate : (progress (Timer.span service.limits.time)
      (service.gate.run (.ofRequest (Service.identified fresh request))).steps).interrupted
        = some step) :
    service.serve fresh request =
      let progress := progress (Timer.span service.limits.time)
        (service.gate.run (.ofRequest (Service.identified fresh request))).steps
      ⟨Service.dress request.method (.empty .requestTimeout), progress.finished,
        progress.events⟩ := by
  have hhandler : service.servePage page = service.passGate page := if_pos hpage
  rw [serve_address haddress, hhandler, passLayers_late hlength hlate]
  rfl

/-- An id does not add to the length of a body. -/
theorem tooLong_identified (limits : Limits) (fresh : String) (request : Request) :
    Service.tooLong limits (Service.identified fresh request) = Service.tooLong limits request := by
  rw [Service.tooLong, Service.tooLong, announcedLength?_identified]

/-- Not too long is a length within the limit, or none at all. -/
theorem tooLong_eq_false_iff {limits : Limits} {request : Request} :
    Service.tooLong limits request = false ↔
      ∀ n, Service.announcedLength? request = some n → n ≤ limits.body := by
  rw [Service.tooLong]
  cases Service.announcedLength? request with
  | none => simp
  | some n => simp

theorem short_identified {limits : Limits} {request : Request} (fresh : String)
    (h : ∀ n, Service.announcedLength? request = some n → n ≤ limits.body) :
    Service.tooLong limits (Service.identified fresh request) = false :=
  (tooLong_identified limits fresh request).trans (tooLong_eq_false_iff.mpr h)

end Gatehouse.Proofs

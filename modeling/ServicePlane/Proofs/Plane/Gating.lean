import ServicePlane.Plane.Public
import ServicePlane.Proofs.Availability.Rejection
import ServicePlane.Proofs.Http.Routing
import ServicePlane.Proofs.Operator.AvailabilityViews

/-!
# One verdict of the gate

Three parties act on the verdict of the gate: who asks for it, the readiness probe, and the guard in
front of other routes. This file follows each of them from the verdict to what it answers, and shows
that in every plane they act on the same list of missing services.

* `checkGate_of_nil`, `checkGate_of_ne_nil` — the verdict, and what is told with it;
* `servePublic_ready`, `serveGuarded_of_ok`, `serveGuarded_of_error` — who answers a request;
* `gate_users_agree` — verdict, counters, probe and guard, for all lists and times;
* `not_refused_with_body_of_head` — a refusal of a HEAD request is one without its content.
-/

namespace ServicePlane

namespace Plane

open Http AvailabilityRegistry

variable {p : Plane} {gate : Gate} {services : List Service} {request : Request}

/-! ## The verdict -/

theorem checkGate_of_nil (h : p.registry.unavailable services = []) :
    p.checkGate gate services = (.ok (), p) := by
  have htold : p.tell [] = p := by
    rw [tell, List.append_nil]
  rw [checkGate, Gate.check_of_nil h]
  exact Prod.ext rfl htold

theorem checkGate_of_ne_nil (h : p.registry.unavailable services ≠ []) :
    p.checkGate gate services =
      (.error ⟨p.registry.unavailable services, gate.retryAfterSeconds⟩,
        p.tell (gate.check p.registry services).2) :=
  Prod.ext (Gate.check_of_ne_nil h) rfl

/-! ## Who answers -/

/-- A request for readiness. -/
structure AsksReadiness (request : Request) : Prop where
  path_eq : request.path = "/health/ready"
  method_eq : request.method = "GET" ∨ request.method = "HEAD"

/-- The readiness probe answers a request for readiness. -/
theorem servePublic_ready (h : AsksReadiness request) (p : Plane) (gate : Gate)
    (services : List Service) :
    p.servePublic gate services request =
      Router.finish request (ready gate services request [] p) := by
  have hparts : Route.partsOf request.path = ["", "health", "ready"] := by
    rw [h.path_eq]
    decide
  have hserves : Route.serves
      (⟨"GET", [.exactly "", .exactly "health", .exactly "ready"], ready gate services⟩ :
        Route Plane) request.method = true := by
    rcases h.method_eq with hmethod | hmethod
    · simp [Route.serves, hmethod]
    · simp [Route.serves, hmethod]
  have hroute : (publicRoutes gate services).respond request p =
      ready gate services request [] p := by
    simp [Router.respond, publicRoutes, Route.captures?, hparts, Route.matchParts, hserves]
  rw [servePublic, hroute]

theorem ready_of_nil (h : p.registry.unavailable services = []) :
    ready gate services request [] p = (probeStatus "ready", p) := by
  rw [ready, checkGate_of_nil h]

theorem ready_of_ne_nil (h : p.registry.unavailable services ≠ []) :
    ready gate services request [] p =
      (ServiceUnavailable.response ⟨p.registry.unavailable services, gate.retryAfterSeconds⟩,
        (p.checkGate gate services).2) := by
  rw [ready, checkGate_of_ne_nil h]

/-- A guard that misses nothing leaves the answer to the routes behind it. -/
theorem serveGuarded_of_nil (h : p.registry.unavailable services = []) (routes : Router Plane) :
    p.serveGuarded gate services routes request =
      Router.finish request (routes.respond request p) := by
  rw [serveGuarded, checkGate_of_nil h]

/-- A guard that misses something refuses by itself. The routes behind it have no part in that. -/
theorem serveGuarded_of_ne_nil (h : p.registry.unavailable services ≠ [])
    (routes : Router Plane) :
    p.serveGuarded gate services routes request =
      Router.finish request
        (ServiceUnavailable.response ⟨p.registry.unavailable services, gate.retryAfterSeconds⟩,
          (p.checkGate gate services).2) := by
  rw [serveGuarded, checkGate_of_ne_nil h]

/-! ## One verdict -/

/-- In every plane and for every list of services, the verdict, the counters of rejections, the
readiness probe and a guard follow from the same list of missing services. A request passes exactly
when none is missing. Otherwise each of the three names the missing services and the time to wait;
only the answers to HEAD requests leave the content out. -/
theorem gate_users_agree (network : Network) (failure recovery : UInt32)
    (settings : MonitorSettings) (calls : List PlaneCall) (gate : Gate) (services : List Service) :
    let p := (new network (.ofConfigured failure recovery) settings).performAll calls
    let available (s : Service) : Bool := (p.registry.status s).isAvailable
    let missing := services.filter fun s => !available s
    let seconds := max 1 (gate.retryAfter / 1000)
    let verdict := (p.checkGate gate services).1
    let checked := (p.checkGate gate services).2
    let refusal : Response := ⟨503, some (toString seconds), .json (.object
      [("unavailableServices", .array (missing.map fun s => .text s.name)),
        ("retryAfterSeconds", .nat seconds)])⟩
    let refused (request : Request) : Response :=
      if request.method = "HEAD" then { refusal with body := .empty } else refusal
    ((verdict = .ok () ↔ ∀ s ∈ services, available s = true) ∧
      (verdict ≠ .ok () → verdict = .error ⟨missing, seconds⟩)) ∧
    (checked = { p with telemetry := checked.telemetry } ∧
      ∀ s, checked.telemetry.counter (.gateRejections s) =
        p.telemetry.counter (.gateRejections s) + missing.count s) ∧
    (∀ request, AsksReadiness request →
      ((p.servePublic gate services request).1.status = 200 ↔ verdict = .ok ()) ∧
      (verdict = .ok () → (p.servePublic gate services request).2 = p) ∧
      (verdict ≠ .ok () → p.servePublic gate services request = (refused request, checked))) ∧
    ∀ routes request,
      (verdict = .ok () → p.serveGuarded gate services routes request =
        Router.finish request (routes.respond request p)) ∧
      (verdict ≠ .ok () → p.serveGuarded gate services routes request =
        (refused request, checked)) := by
  intro p available missing seconds verdict checked refusal refused
  have hpublished : p.registry.Published :=
    published_performAll network (.ofConfigured failure recovery) settings calls
  have havailable : ∀ s, p.registry.isAvailable s = available s := hpublished
  have hmissing : p.registry.unavailable services = missing := by
    simp only [AvailabilityRegistry.unavailable, havailable, missing]
  have hseconds : gate.retryAfterSeconds = seconds := Nat.max_comm _ _
  have hverdict : verdict = .ok () ↔ ∀ s ∈ services, available s = true := by
    have hcheck : verdict = .ok () ↔ ∀ s ∈ services, p.registry.isAvailable s = true :=
      Gate.check_eq_ok_iff
    simpa only [havailable] using hcheck
  have hok : verdict = .ok () ↔ p.registry.unavailable services = [] := by
    rw [hverdict, unavailable_eq_nil_iff]
    simp only [havailable]
  have hrejects : verdict ≠ .ok () → p.registry.unavailable services ≠ [] :=
    fun hrejected hnone => hrejected (hok.2 hnone)
  have hrefusal : ServiceUnavailable.response
      ⟨p.registry.unavailable services, gate.retryAfterSeconds⟩ = refusal := by
    rw [hmissing, hseconds]
    rfl
  have hfinish : ∀ request, Router.finish request (refusal, checked) =
      (refused request, checked) := by
    intro request
    simp only [Router.finish, refused, Response.withoutBody]
    split <;> rfl
  refine ⟨⟨hverdict, ?_⟩, ⟨rfl, ?_⟩, ?_, ?_⟩
  · intro hrejected
    have hcheck : verdict = .error ⟨p.registry.unavailable services, gate.retryAfterSeconds⟩ :=
      Gate.check_of_ne_nil (hrejects hrejected)
    rw [hcheck, hmissing, hseconds]
  · intro s
    rw [← hmissing]
    exact Gate.counter_append_check p.telemetry s
  · intro request hasks
    have hready := servePublic_ready hasks p gate services
    refine ⟨?_, ?_, ?_⟩
    · rw [hready, Router.status_finish, hok]
      by_cases hnone : p.registry.unavailable services = []
      · simp [ready_of_nil hnone, hnone, probeStatus, Response.ofJson]
      · simp [ready_of_ne_nil hnone, hnone, ServiceUnavailable.response]
    · intro hpasses
      rw [hready, Router.finish_snd, ready_of_nil (hok.1 hpasses)]
    · intro hrejected
      rw [hready, ready_of_ne_nil (hrejects hrejected), hrefusal]
      exact hfinish request
  · intro routes request
    refine ⟨fun hpasses => serveGuarded_of_nil (hok.1 hpasses) routes, ?_⟩
    intro hrejected
    rw [serveGuarded_of_ne_nil (hrejects hrejected), hrefusal]
    exact hfinish request

/-- With half a second to wait and the cache listed twice, authentication passes by its override,
the other services are named in order, and the time to wait is a whole second. -/
theorem gate_users_agree_mixed :
    let p := (new .empty (.ofConfigured 1 1) .standard).performAll mixedAvailability
    let services := [.cache, .auth, .database, .cache]
    let checked := (p.checkGate ⟨500⟩ services).2
    let refusal : Response := ⟨503, some "1", .json (.object
      [("unavailableServices", .array [.text "cache", .text "database", .text "cache"]),
        ("retryAfterSeconds", .nat 1)])⟩
    let asking : Request := ⟨"GET", "/health/ready?verbose", [], []⟩
    AsksReadiness asking ∧
      (p.checkGate ⟨500⟩ services).1 = .error ⟨[.cache, .database, .cache], 1⟩ ∧
      checked.telemetry.counter (.gateRejections .cache) =
        p.telemetry.counter (.gateRejections .cache) + 2 ∧
      p.servePublic ⟨500⟩ services asking = (refusal, checked) ∧
      p.serveGuarded ⟨500⟩ services [] asking = (refusal, checked) := by
  intro p services checked refusal asking
  have hasks : AsksReadiness asking := ⟨by decide, .inl rfl⟩
  obtain ⟨⟨hpasses, hverdict⟩, ⟨_, hcounters⟩, hprobe, hguard⟩ :=
    gate_users_agree .empty 1 1 .standard mixedAvailability ⟨500⟩ services
  have hrejected : ¬ (p.checkGate ⟨500⟩ services).1 = .ok () := by
    intro hok
    have hcache := hpasses.1 hok .cache (by simp [services])
    revert hcache
    decide +kernel
  -- What is missing in this plane, and in which order, is found by evaluation.
  exact ⟨hasks, hverdict hrejected, hcounters .cache, (hprobe asking hasks).2.2 hrejected,
    (hguard [] asking).2 hrejected⟩

/-- One route, which answers requests for orders. -/
def orderRoutes : Router Plane :=
  [⟨"GET", [.exactly "", .exactly "orders"], fun _ _ p => (.ofText "ok", p)⟩]

/-- Not every refusal names the missing services: the answer to a HEAD request has no content. -/
theorem not_refused_with_body_of_head :
    ¬ ∀ (network : Network) (failure recovery : UInt32) (settings : MonitorSettings)
        (calls : List PlaneCall) (gate : Gate) (services : List Service) (routes : Router Plane)
        (request : Request) (u : ServiceUnavailable),
        let p := (new network (.ofConfigured failure recovery) settings).performAll calls
        (p.checkGate gate services).1 = .error u →
          (p.serveGuarded gate services routes request).1 =
            ⟨503, some (toString u.retryAfterSeconds), .json (.object
              [("unavailableServices", .array (u.services.map fun s => .text s.name)),
                ("retryAfterSeconds", .nat u.retryAfterSeconds)])⟩ := by
  intro hall
  have hrefused := hall .empty 2 1 .standard [] .standard [.database] orderRoutes
    ⟨"HEAD", "/orders", [], []⟩ ⟨[.database], 30⟩ (by decide +kernel)
  have hempty := congrArg Response.body hrefused
  cases hempty

end Plane

end ServicePlane

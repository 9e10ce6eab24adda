import Mathlib.Data.List.Forall2
import ServicePlane.Operator.Interface
import ServicePlane.Proofs.Availability.Publication
import ServicePlane.Proofs.Plane.RegistryCalls

/-!
# One availability in all views

A request is let pass by the published flags, an operator sees statuses in the list of services and
flags in the summary. This file follows the two reading requests of an operator down to the values
they are answered with, and shows that all of them tell the same.

* `serveOperator_services`, `serveOperator_status` — the answers to the two requests;
* `published_performAll` — the flags are right in every plane;
* `availability_views_agree` — flag, status, list of what is missing, list of services and summary.
-/

namespace ServicePlane

namespace Plane

open Http AvailabilityRegistry

variable {p : Plane} {key : String} {request : Request} {s : Service}

/-! ## Answers -/

/-- A request of an operator with this key that reads this path. -/
structure OperatorReads (key path : String) (request : Request) : Prop where
  method_eq : request.method = "GET"
  path_eq : request.path = path
  authorized : isAuthorized key request = true

theorem OperatorReads.serveOperator_eq {path : String} (h : OperatorReads key path request)
    (p : Plane) : p.serveOperator key request = operatorRoutes.respond request p := by
  have hbody : ¬ request.method = "HEAD" := by
    rw [h.method_eq]
    decide
  rw [serveOperator, if_pos h.authorized, Router.finish, if_neg hbody]

theorem serveOperator_services (h : OperatorReads key "/admin/services" request) (p : Plane) :
    p.serveOperator key request =
      (.ofJson (.array (Service.all.map fun s => (p.view s).toJson)), p) := by
  have hparts : Route.partsOf request.path = ["", "admin", "services"] := by
    rw [h.path_eq]
    decide
  have hroute : operatorRoutes.respond request p = getServices request [] p := by
    simp [Router.respond, operatorRoutes, Route.captures?, hparts, Route.matchParts, Route.serves,
      h.method_eq]
  rw [h.serveOperator_eq, hroute, getServices, views, List.map_map]
  rfl

theorem serveOperator_status (h : OperatorReads key "/admin/status" request) (p : Plane) :
    p.serveOperator key request = (.ofJson p.systemStatus.toJson, p) := by
  have hparts : Route.partsOf request.path = ["", "admin", "status"] := by
    rw [h.path_eq]
    decide
  have hroute : operatorRoutes.respond request p = getStatus request [] p := by
    simp [Router.respond, operatorRoutes, Route.captures?, hparts, Route.matchParts, Route.serves,
      h.method_eq]
  rw [h.serveOperator_eq, hroute, getStatus]

/-! ## What the answers show -/

/-- Whether an entry of the list of services shows its service as available. -/
def showsAvailable (entry : Json) : Bool :=
  match entry.member? "available" with
  | some (.bool available) => available
  | _ => false

theorem member?_service_view : (p.view s).toJson.member? "service" = some (.text s.name) :=
  rfl

theorem member?_available_view :
    (p.view s).toJson.member? "available" = some (.bool (p.registry.status s).isAvailable) :=
  rfl

theorem published_performAll (network : Network) (t : Thresholds) (settings : MonitorSettings)
    (calls : List PlaneCall) : ((new network t settings).performAll calls).registry.Published := by
  rcases reaches_performAll (new network t settings) calls with ⟨registryCalls, hreached⟩
  rw [← hreached]
  exact (Published.new t).performAll registryCalls

/-- The summary counts the entries that show their service as available. -/
theorem countP_showsAvailable (h : p.registry.Published) :
    (Service.all.map fun s => (p.view s).toJson).countP showsAvailable =
      p.systemStatus.available := by
  have hentry : ∀ s, showsAvailable (p.view s).toJson = p.registry.isAvailable s := by
    intro s
    rw [showsAvailable, member?_available_view, h s]
  calc
    (Service.all.map fun s => (p.view s).toJson).countP showsAvailable
        = Service.all.countP fun s => showsAvailable (p.view s).toJson := List.countP_map
    _ = Service.all.countP fun s => p.registry.isAvailable s := by simp only [hentry]
    _ = p.systemStatus.available := rfl

theorem available_add_unavailable :
    p.systemStatus.available + p.systemStatus.unavailable = Service.all.length := by
  have hle : p.registry.availableCount ≤ Service.all.length := List.countP_le_length
  exact Nat.add_sub_cancel' hle

/-- Whatever happened to a plane, its flags, its statuses, the services it reports missing and both
answers to an operator tell the same availability of every service. -/
theorem availability_views_agree (network : Network) (failure recovery : UInt32)
    (settings : MonitorSettings) (calls : List PlaneCall) {services status : Request}
    (hservices : OperatorReads key "/admin/services" services)
    (hstatus : OperatorReads key "/admin/status" status) :
    let p := (new network (.ofConfigured failure recovery) settings).performAll calls
    (∀ s, p.registry.isAvailable s = (p.registry.status s).isAvailable ∧
      (p.registry.status s).isAvailable =
        (match (p.registry.status s).override with
          | .forceEnable => true
          | .forceDisable => false
          | .noOverride => (p.registry.status s).healthy)) ∧
    (∀ s L, s ∈ p.registry.unavailable L ↔ s ∈ L ∧ p.registry.isAvailable s = false) ∧
    ∃ entries : List Json,
      p.serveOperator key services = (.ofJson (.array entries), p) ∧
      List.Forall₂ (fun s entry => entry.member? "service" = some (.text s.name) ∧
        entry.member? "available" = some (.bool (p.registry.isAvailable s))) Service.all entries ∧
      ∃ (summary : Json) (available unavailable : Nat),
        p.serveOperator key status = (.ofJson summary, p) ∧
        summary.member? "available" = some (.nat available) ∧
        summary.member? "unavailable" = some (.nat unavailable) ∧
        available = entries.countP showsAvailable ∧
        available + unavailable = Service.all.length := by
  intro p
  have hpublished : p.registry.Published :=
    published_performAll network (.ofConfigured failure recovery) settings calls
  refine ⟨?_, fun s L => mem_unavailable, _, serveOperator_services hservices p, ?_,
    _, p.systemStatus.available, p.systemStatus.unavailable, serveOperator_status hstatus p,
    rfl, rfl, (countP_showsAvailable hpublished).symm, available_add_unavailable⟩
  · intro s
    refine ⟨hpublished s, ?_⟩
    cases hmode : (p.registry.status s).override <;>
      simp [Status.isAvailable, Status.effective, hmode]
  · rw [List.forall₂_map_right_iff]
    refine List.forall₂_same.2 ?_
    intro s _
    refine ⟨member?_service_view, ?_⟩
    rw [member?_available_view, hpublished s]

/-- A check recovers the database and then hangs; the cache is marked and taken away by an override,
and authentication is forced to count as available. -/
def mixedAvailability : List PlaneCall :=
  [.registerCheck .database (.scripted [.ends 10 .healthy, .hangs] 0),
    .start,
    .markAvailable [.cache, .broker],
    .setOverride .cache .forceDisable,
    .setOverride .auth .forceEnable,
    .advance 40000]

/-- A request that reads a path with the key `secret`. -/
def readingRequest (path : String) : Request :=
  ⟨"GET", path, [("Authorization", Text.bytes "Bearer secret")], []⟩

theorem availability_views_agree_mixed :
    let p := (new .empty (.ofConfigured 1 1) .standard).performAll mixedAvailability
    OperatorReads "secret" "/admin/services" (readingRequest "/admin/services") ∧
    OperatorReads "secret" "/admin/status" (readingRequest "/admin/status") ∧
    p.registry.isAvailable .database = false ∧ p.registry.isAvailable .auth = true ∧
    .cache ∈ p.registry.unavailable [.cache, .broker] ∧
    ∃ entries : List Json,
      p.serveOperator "secret" (readingRequest "/admin/services") =
        (.ofJson (.array entries), p) ∧
      List.Forall₂ (fun s entry => entry.member? "service" = some (.text s.name) ∧
          entry.member? "available" = some (.bool (p.registry.isAvailable s)))
        Service.all entries := by
  have hservices : OperatorReads "secret" "/admin/services" (readingRequest "/admin/services") :=
    ⟨rfl, by decide, by decide +kernel⟩
  have hstatus : OperatorReads "secret" "/admin/status" (readingRequest "/admin/status") :=
    ⟨rfl, by decide, by decide +kernel⟩
  obtain ⟨hflags, hmissing, entries, hanswer, hentries, _⟩ :=
    availability_views_agree .empty 1 1 .standard mixedAvailability hservices hstatus
  refine ⟨hservices, hstatus, (hflags .database).1.trans ?_, (hflags .auth).1.trans ?_,
    (hmissing .cache _).2 ⟨by simp, (hflags .cache).1.trans ?_⟩, entries, hanswer, hentries⟩
  · decide +kernel
  · decide +kernel
  · decide +kernel

end Plane

end ServicePlane

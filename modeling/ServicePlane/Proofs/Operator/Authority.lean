import Mathlib.Data.List.Basic
import ServicePlane.Operator.Interface
import ServicePlane.Proofs.Http.Headers
import ServicePlane.Proofs.Http.Routing

/-!
# What a request to the operator interface can do

A request without the key is refused before anything is looked at, and of those with the key two
kinds can change the plane: one sets an override, the other runs a check cycle. Both are described
here by the request itself, without the router and the handlers.

* `HasKey`, `DeclaresJson`, `SetsOverride`, `AsksForCheck` — the requests in question;
* `Plane.Undisturbed` — nothing has happened between two planes but that a log line was written;
* `serveOperator_of_override`, `serveOperator_of_check`, `serveOperator_of_other` — the answer to a
  request with the key, by what it asks for;
* `serveOperator_authority` — all of it, for any plane, key and request.
-/

namespace ServicePlane

open Http

/-! ## Requests -/

/-- The first `Authorization` header of the request says `Bearer`, a blank and the key, and it holds
nothing but printable ASCII, blanks and tabs. -/
def HasKey (key : String) (request : Request) : Prop :=
  request.Says "authorization" ("Bearer " ++ key)

/-- The first `Content-Type` header of the request says a type whose subtype or suffix is JSON. -/
def DeclaresJson (request : Request) : Prop :=
  ∃ text type, request.Says "content-type" text ∧ MediaType.parse? text = some type ∧
    type.type = "application" ∧ (type.subtype = "json" ∨ type.suffix = some "json")

/-- The request puts a mode, in JSON that is declared as such and not too long, to the path of the
override of a service. -/
structure SetsOverride (s : Service) (mode : OverrideMode) (request : Request) : Prop where
  method_eq : request.method = "PUT"
  path_eq : ∃ part, request.path = "/admin/services/" ++ part ++ "/override" ∧
    '/' ∉ part.toList ∧ percentDecoded? part = some s.name
  json : DeclaresJson request
  length_le : request.body.length ≤ Plane.contentLimit
  mode_eq : Json.decodeBytes OverrideRequest.ofDocument request.body = .ok ⟨mode⟩

/-- The request posts to the path of the check cycle. -/
structure AsksForCheck (request : Request) : Prop where
  method_eq : request.method = "POST"
  path_eq : request.path = "/admin/health/check"

/-- Where every entry is found by its name, nothing else is found by it. -/
theorem find?_name_eq_some_iff {α : Type} {entries : List α} {name : α → String} {text : String}
    {a : α} (ha : entries.find? (fun b => name b == name a) = some a) :
    entries.find? (fun b => name b == text) = some a ↔ text = name a := by
  constructor
  · intro h
    have hname := List.find?_some h
    simpa using (beq_iff_eq.1 hname).symm
  · rintro rfl
    exact ha

theorem Service.ofName?_eq_some_iff {text : String} {s : Service} :
    Service.ofName? text = some s ↔ text = s.name :=
  find?_name_eq_some_iff (Service.ofName?_name s)

theorem OverrideMode.ofName?_eq_some_iff {text : String} {mode : OverrideMode} :
    OverrideMode.ofName? text = some mode ↔ text = mode.name :=
  find?_name_eq_some_iff (OverrideMode.ofName?_name mode)

namespace Plane

variable {p q : Plane} {key : String} {request : Request} {s : Service} {mode : OverrideMode}
  {part : String}

theorem isAuthorized_iff : isAuthorized key request = true ↔ HasKey key request := by
  rw [isAuthorized, beq_iff_eq, HasKey, Request.says_iff]

theorem hasJsonBody_iff : hasJsonBody request = true ↔ DeclaresJson request := by
  have hjson : ∀ type : MediaType, type.isJson = true ↔
      type.type = "application" ∧ (type.subtype = "json" ∨ type.suffix = some "json") := by
    simp [MediaType.isJson]
  simp only [hasJsonBody, DeclaresJson, Request.says_iff, ← hjson]
  cases request.headerText? "content-type" with
  | none =>
      simp
  | some text =>
      simp only [Option.bind_some, Option.some.injEq, exists_and_left, exists_eq_left']
      cases MediaType.parse? text <;> simp

theorem serviceOfPart?_eq_some_iff :
    serviceOfPart? part = some s ↔ percentDecoded? part = some s.name := by
  rw [serviceOfPart?, Option.bind_eq_some_iff]
  constructor
  · rintro ⟨text, htext, hs⟩
    rw [htext, Service.ofName?_eq_some_iff.1 hs]
  · intro h
    exact ⟨s.name, h, Service.ofName?_name s⟩

theorem requestedMode_eq_ok_iff :
    requestedMode request = .ok mode ↔
      DeclaresJson request ∧ request.body.length ≤ contentLimit ∧
        Json.decodeBytes OverrideRequest.ofDocument request.body = .ok ⟨mode⟩ := by
  rw [requestedMode, ← hasJsonBody_iff]
  cases hjson : hasJsonBody request with
  | false =>
      simp
  | true =>
      by_cases hlong : contentLimit < request.body.length
      · simp [hlong, Nat.not_le.2 hlong]
      · have hshort := Nat.not_lt.1 hlong
        cases hdecoded : Json.decodeBytes OverrideRequest.ofDocument request.body with
        | error e =>
            simp [hlong]
        | ok r =>
            rcases r with ⟨mode'⟩
            simp [hlong, hshort]

/-! ## Paths -/

theorem partsOf_override_iff :
    Route.partsOf request.path = ["", "admin", "services", part, "override"] ↔
      request.path = "/admin/services/" ++ part ++ "/override" ∧ '/' ∉ part.toList := by
  rw [Route.partsOf_eq_iff, ← String.toList_inj]
  simpa [List.intercalate, List.intersperse] using and_comm

theorem partsOf_check_iff :
    Route.partsOf request.path = ["", "admin", "health", "check"] ↔
      request.path = "/admin/health/check" := by
  rw [Route.partsOf_eq_iff, ← String.toList_inj]
  simp [List.intercalate, List.intersperse]

/-! ## Planes -/

/-- Nothing has happened but that log lines were written: registry, events, metrics, monitor and
calls of checks are what they were. -/
structure Undisturbed (p q : Plane) : Prop where
  eq : q = { p with telemetry := q.telemetry }
  measurements_eq : q.telemetry.measurements = p.telemetry.measurements

namespace Undisturbed

theorem refl (p : Plane) : p.Undisturbed p :=
  ⟨rfl, rfl⟩

theorem tell_log (p : Plane) (level : LogLevel) (target message : String)
    (fields : List (LogField × String)) :
    p.Undisturbed (p.tell [operatorLog level target message fields]) where
  eq := rfl
  measurements_eq := by
    simp [tell, operatorLog, Telemetry.measurements]

theorem view_eq (h : p.Undisturbed q) (s : Service) : q.view s = p.view s := by
  rw [h.eq]
  rfl

end Undisturbed

/-! ## The answers -/

/-- Without the key a request is refused, whatever it asks for. -/
theorem serveOperator_of_not_hasKey (p : Plane) (h : ¬ HasKey key request) :
    (p.serveOperator key request).1 = .ofStatus 401 ∧
      p.Undisturbed (p.serveOperator key request).2 := by
  have hrefused : ¬ isAuthorized key request = true := mt isAuthorized_iff.1 h
  rw [serveOperator, if_neg hrefused, Router.finish]
  split <;> exact ⟨rfl, .tell_log p _ _ _ _⟩

theorem serveOperator_of_hasKey (p : Plane) (h : HasKey key request) :
    p.serveOperator key request = Router.finish request (operatorRoutes.respond request p) := by
  rw [serveOperator, if_pos (isAuthorized_iff.2 h)]

theorem putOverride_of_ok (p : Plane) (hs : serviceOfPart? part = some s)
    (hmode : requestedMode request = .ok mode) :
    (putOverride request [part] p).1 = .ofJson ((p.setOverride s mode).2.view s).toJson ∧
      (p.setOverride s mode).2.Undisturbed (putOverride request [part] p).2 := by
  have hput : putOverride request [part] p =
      let q := if (p.setOverride s mode).1 then
          (p.setOverride s mode).2.tell [operatorLog .info "handlers"
            "Override applied via admin API" [(.service, s.name)]]
        else (p.setOverride s mode).2
      (.ofJson (q.view s).toJson, q) := by
    simp only [putOverride, List.headD_cons, hs, hmode]
  rw [hput]
  split
  · have hlog := Undisturbed.tell_log (p.setOverride s mode).2 .info "handlers"
      "Override applied via admin API" [(.service, s.name)]
    exact ⟨congrArg (fun view => Response.ofJson view.toJson) (hlog.view_eq s), hlog⟩
  · exact ⟨rfl, .refl _⟩

theorem putOverride_of_refused (p : Plane)
    (h : ∀ s mode, serviceOfPart? part = some s → requestedMode request ≠ .ok mode) :
    (putOverride request [part] p).2 = p := by
  simp only [putOverride, List.headD_cons]
  cases hs : serviceOfPart? part with
  | none =>
      rfl
  | some s =>
      cases hmode : requestedMode request with
      | error status =>
          rfl
      | ok mode =>
          exact absurd hmode (h s mode hs)

theorem serveOperator_of_override (p : Plane) (hkey : HasKey key request)
    (h : SetsOverride s mode request) :
    (p.serveOperator key request).1 = .ofJson ((p.setOverride s mode).2.view s).toJson ∧
      (p.setOverride s mode).2.Undisturbed (p.serveOperator key request).2 := by
  rcases h.path_eq with ⟨part, hpath, hslash, hpart⟩
  have hparts := partsOf_override_iff.2 ⟨hpath, hslash⟩
  have hroute : operatorRoutes.respond request p = putOverride request [part] p := by
    simp [Router.respond, operatorRoutes, Route.captures?, hparts, Route.matchParts, Route.serves,
      h.method_eq]
  have hbody : request.method ≠ "HEAD" := by
    rw [h.method_eq]
    decide
  rw [serveOperator_of_hasKey p hkey, hroute, Router.finish_of_not_head hbody]
  exact putOverride_of_ok p (serviceOfPart?_eq_some_iff.2 hpart)
    (requestedMode_eq_ok_iff.2 ⟨h.json, h.length_le, h.mode_eq⟩)

theorem serveOperator_of_check (p : Plane) (hkey : HasKey key request)
    (h : AsksForCheck request) :
    p.serveOperator key request =
      (.ofJson (.array (p.triggerCheck.1.map CheckResult.toJson)), p.triggerCheck.2) := by
  have hparts := partsOf_check_iff.2 h.path_eq
  have hroute : operatorRoutes.respond request p = postCheck request [] p := by
    simp [Router.respond, operatorRoutes, Route.captures?, hparts, Route.matchParts, Route.serves,
      h.method_eq]
  have hbody : request.method ≠ "HEAD" := by
    rw [h.method_eq]
    decide
  rw [serveOperator_of_hasKey p hkey, hroute, Router.finish_of_not_head hbody, postCheck]

/-- A put to the path of an override that sets none names no service, or its content is at fault. -/
theorem refused_of_captures {texts : List String} (hput : request.method = "PUT")
    (htexts : Route.matchParts [.exactly "", .exactly "admin", .exactly "services", .anything,
      .exactly "override"] (Route.partsOf request.path) = some texts)
    (hoverride : ∀ s mode, ¬ SetsOverride s mode request) :
    ∃ part, texts = [part] ∧
      ∀ s mode, serviceOfPart? part = some s → requestedMode request ≠ .ok mode := by
  simp only [Route.matchParts_exactly_iff, Route.matchParts_anything_iff,
    Route.matchParts_nil_iff] at htexts
  obtain ⟨_, hparts, _, rfl, _, rfl, part, _, _, rfl, rfl, _, rfl, rfl, rfl⟩ := htexts
  rcases partsOf_override_iff.1 hparts with ⟨hpath, hslash⟩
  refine ⟨part, rfl, ?_⟩
  intro s mode hs hmode
  rcases requestedMode_eq_ok_iff.1 hmode with ⟨hjson, hlength, hdecoded⟩
  exact hoverride s mode ⟨hput, ⟨part, hpath, hslash, serviceOfPart?_eq_some_iff.1 hs⟩, hjson,
    hlength, hdecoded⟩

/-- Any other request with the key only reads, or is refused. -/
theorem serveOperator_of_other (p : Plane) (hkey : HasKey key request)
    (hoverride : ∀ s mode, ¬ SetsOverride s mode request) (hcheck : ¬ AsksForCheck request) :
    (p.serveOperator key request).2 = p := by
  rw [serveOperator_of_hasKey p hkey, Router.finish_snd]
  rcases Router.respond_cases operatorRoutes request p with
    ⟨r, hr, texts, htexts, hserves, heq⟩ | ⟨_, status, _, heq⟩
  · rw [heq]
    simp only [operatorRoutes, List.mem_cons, List.not_mem_nil, or_false] at hr
    -- Two routes only read; the other two are for the requests excluded here.
    rcases hr with rfl | rfl | rfl | rfl
    · rfl
    · rfl
    · have hmethod : request.method = "PUT" := Route.method_eq_of_serves (by decide) hserves
      rcases refused_of_captures hmethod htexts hoverride with ⟨part, rfl, hrefused⟩
      exact putOverride_of_refused p hrefused
    · simp only [Route.captures?, Route.matchParts_exactly_iff, Route.matchParts_nil_iff] at htexts
      obtain ⟨_, hparts, _, rfl, _, rfl, _, rfl, rfl, rfl⟩ := htexts
      have hmethod : request.method = "POST" := Route.method_eq_of_serves (by decide) hserves
      exact absurd ⟨hmethod, partsOf_check_iff.1 hparts⟩ hcheck
  · rw [heq]

/-- Whatever a plane has been through, a request without the key is answered with 401 and does
nothing, and with the key only two kinds of request do anything: those that set an override, with
the effect of setting it and the view of the service as it is then, and those that ask for a check
cycle, with the effect of triggering one. Every answer but 200 leaves the plane as it is. -/
theorem serveOperator_authority (p : Plane) (key : String) (request : Request) :
    let answer := (p.serveOperator key request).1
    let q := (p.serveOperator key request).2
    (¬ HasKey key request → answer = .ofStatus 401 ∧ p.Undisturbed q) ∧
    (HasKey key request →
      (∀ s mode, SetsOverride s mode request →
        answer = .ofJson ((p.setOverride s mode).2.view s).toJson ∧
          (p.setOverride s mode).2.Undisturbed q) ∧
      (AsksForCheck request →
        answer = .ofJson (.array (p.triggerCheck.1.map CheckResult.toJson)) ∧
          q = p.triggerCheck.2) ∧
      ((∀ s mode, ¬ SetsOverride s mode request) → ¬ AsksForCheck request → q = p)) ∧
    (answer.status ≠ 200 → p.Undisturbed q) := by
  intro answer q
  have hwithout : ¬ HasKey key request → answer = .ofStatus 401 ∧ p.Undisturbed q :=
    serveOperator_of_not_hasKey p
  refine ⟨hwithout, ?_, ?_⟩
  · intro hkey
    refine ⟨fun s mode => serveOperator_of_override p hkey, ?_, serveOperator_of_other p hkey⟩
    intro h
    have heq := serveOperator_of_check p hkey h
    exact ⟨congrArg Prod.fst heq, congrArg Prod.snd heq⟩
  · intro hstatus
    by_cases hkey : HasKey key request
    · -- What changes the plane is answered with 200.
      have hoverride : ∀ s mode, ¬ SetsOverride s mode request := by
        intro s mode h
        have hanswer : answer.status = 200 := by
          rw [show answer = _ from (serveOperator_of_override p hkey h).1]
          rfl
        exact hstatus hanswer
      have hcheck : ¬ AsksForCheck request := by
        intro h
        have hanswer : answer.status = 200 := by
          rw [show answer = _ from congrArg Prod.fst (serveOperator_of_check p hkey h)]
          rfl
        exact hstatus hanswer
      have hsame : q = p := serveOperator_of_other p hkey hoverride hcheck
      rw [hsame]
      exact .refl p
    · exact (hwithout hkey).2

/-- A request with the key `secret` that forces the cache to count as available. A field that nobody
reads holds a byte that is part of no text. -/
def forcingRequest : Request where
  method := "PUT"
  target := "/admin/services/c%61che/override?by=hand"
  headers := [("authorization", Text.bytes "Bearer secret"),
    ("Content-Type", Text.bytes "application/json"), ("X-From", [0xFF]),
    ("Authorization", Text.bytes "Bearer other")]
  body := Text.bytes "\x7b \"mode\": \"force_enable\", \"from\": \"" ++ [0xFF] ++
    Text.bytes "\" \x7d"

/-- The request does what it says under its key, although its content is no text, and nothing under
another key. -/
theorem serveOperator_authority_forcing :
    let p := new .empty (.ofConfigured 2 1) .standard
    (∀ text, forcingRequest.body ≠ Text.bytes text) ∧
      HasKey "secret" forcingRequest ∧ ¬ HasKey "other" forcingRequest ∧
      SetsOverride .cache .forceEnable forcingRequest ∧
      (p.serveOperator "secret" forcingRequest).2.registry.isAvailable .cache = true ∧
      (p.serveOperator "other" forcingRequest).1 = .ofStatus 401 ∧
      (p.serveOperator "other" forcingRequest).2.registry.isAvailable .cache = false := by
  intro p
  have hstray : Letter.stray ∈ Letter.ofBytes forcingRequest.body := by
    decide +kernel
  have hkey : HasKey "secret" forcingRequest := isAuthorized_iff.1 (by decide +kernel)
  have hother : ¬ HasKey "other" forcingRequest := by
    rw [← isAuthorized_iff]
    decide +kernel
  have hmode : requestedMode forcingRequest = .ok .forceEnable := by
    decide +kernel
  obtain ⟨hjson, hlength, hdecoded⟩ := requestedMode_eq_ok_iff.1 hmode
  have hforces : SetsOverride .cache .forceEnable forcingRequest :=
    ⟨rfl, ⟨"c%61che", by decide +kernel, by decide, by decide +kernel⟩, hjson, hlength, hdecoded⟩
  obtain ⟨_, hwith, _⟩ := serveOperator_authority p "secret" forcingRequest
  obtain ⟨hrefused, _, _⟩ := serveOperator_authority p "other" forcingRequest
  rcases hwith hkey with ⟨hsets, _⟩
  refine ⟨Letter.stray_mem_ofBytes_iff.1 hstray, hkey, hother, hforces, ?_,
    (hrefused hother).1, ?_⟩
  · rw [(hsets .cache .forceEnable hforces).2.eq]
    decide +kernel
  · rw [(hrefused hother).2.eq]
    decide +kernel

end Plane

end ServicePlane

import ServicePlane.Proofs.Config.RoundTrip
import ServicePlane.Proofs.Operator.Authority

/-!
# What a put to the operator interface comes to

A put either sets an override or is refused and does nothing. Of the puts that the operator's
program sends, those set an override whose target leads to a service and whose content names a mode.

* `overrideRequest` — a put with a word as its mode;
* `OverrideRequest.decodeBytes_eq_ok_iff` — the word is read as a mode exactly when it is its name;
* `Plane.setsOverride_overrideRequest_iff` — when such a put sets an override;
* `Plane.serveOperator_put_cases` — the answer to any put.
-/

namespace ServicePlane

open Http

theorem OverrideRequest.ofDocument_mode (φ : Dialect) (m : String) :
    ofDocument φ (Json.object [("mode", .text m)]).toDocument =
      (OverrideMode.ofDocument φ (.text m)).map .mk := by
  cases h : OverrideMode.ofDocument φ (.text m) <;>
    simp [ofDocument, Json.toDocument, Json.toEntries, readRecord, fields, Field.of, readEntries,
      readFieldKey, h, endWith, missingField?, bind, Except.bind, pure, Except.pure, Except.map]

/-- A word is read as a mode exactly when it is the name of the mode. -/
theorem OverrideRequest.decodeBytes_eq_ok_iff {m : String} {mode : OverrideMode} :
    Json.decodeBytes ofDocument (Text.bytes (Json.object [("mode", .text m)]).render) =
        .ok ⟨mode⟩ ↔
      m = mode.name := by
  have hexact : (Json.object [("mode", .text m)]).Exact := by
    simp
  rw [Json.decodeBytes_bytes, Json.decodeText_render ofDocument hexact, ofDocument_mode,
    OverrideMode.ofDocument, readVariant, readWord, ← OverrideMode.ofName?_eq_some_iff]
  cases OverrideMode.ofName? m <;> simp [Except.map]

/-- A put to a target, with a word as its mode. -/
def overrideRequest (key target m : String) : Request where
  method := "PUT"
  target := target
  headers := [("authorization", Text.bytes ("Bearer " ++ key)),
    ("content-type", Text.bytes "application/json")]
  body := Text.bytes (Json.object [("mode", .text m)]).render

theorem Http.Response.isSuccess_ofStatus {status : Nat} (h : 400 ≤ status) :
    (ofStatus status).isSuccess = false := by
  have hnot : ¬ status < 300 := by
    omega
  simp [ofStatus, isSuccess, hnot]

namespace Plane

variable {key target m : String} {request : Request} {s : Service} {mode : OverrideMode}

theorem header?_overrideRequest :
    (overrideRequest key target m).header? "authorization" =
        some (Text.bytes ("Bearer " ++ key)) ∧
      (overrideRequest key target m).header? "content-type" =
        some (Text.bytes "application/json") := by
  have hkey : "authorization".toLower = "authorization" := by
    decide +kernel
  have htype : "content-type".toLower = "content-type" := by
    decide +kernel
  simp [Request.header?, overrideRequest, hkey, htype]

theorem hasKey_overrideRequest_iff :
    HasKey key (overrideRequest key target m) ↔
      ∀ c ∈ key.toList, c = '\t' ∨ 0x20 ≤ c.toNat ∧ c.toNat < 0x7F := by
  have hbearer : ∀ c ∈ "Bearer ".toList, c = '\t' ∨ 0x20 ≤ c.toNat ∧ c.toNat < 0x7F := by
    simp
  simp only [HasKey, Request.Says, header?_overrideRequest.1, Option.some.injEq, exists_eq_left', and_true,
    forall_visible_bytes_iff, String.toList_append, List.forall_mem_append]
  exact and_iff_right hbearer

theorem setsOverride_overrideRequest_iff :
    SetsOverride s mode (overrideRequest key target m) ↔
      (∃ part, (overrideRequest key target m).path = "/admin/services/" ++ part ++ "/override" ∧
        '/' ∉ part.toList ∧ percentDecoded? part = some s.name) ∧ m = mode.name := by
  constructor
  · intro h
    exact ⟨h.path_eq, OverrideRequest.decodeBytes_eq_ok_iff.1 h.mode_eq⟩
  · rintro ⟨hpath, rfl⟩
    -- Type and length of the content do not depend on where it is put.
    refine ⟨rfl, hpath, ?_, ?_, OverrideRequest.decodeBytes_eq_ok_iff.2 rfl⟩
    · rw [← hasJsonBody_iff, hasJsonBody, Request.headerText?, header?_overrideRequest.2]
      decide +kernel
    · have hlength : ∀ mode : OverrideMode,
          (Json.object [("mode", .text mode.name)]).render.utf8ByteSize ≤ contentLimit := by
        intro mode
        cases mode <;> decide +kernel
      rw [overrideRequest, Text.length_bytes]
      exact hlength mode

/-! ## The answer to a put -/

theorem le_of_requestedMode_eq_error {status : Nat} (h : requestedMode request = .error status) :
    400 ≤ status := by
  have hrefusal : ∀ e, 400 ≤ refusalStatus e := by
    intro e
    unfold refusalStatus
    split <;> decide
  rw [requestedMode] at h
  split at h
  · cases h
    decide
  · split at h
    · cases h
      decide
    · split at h <;> cases h
      exact hrefusal _

theorem isSuccess_putOverride_of_refused (p : Plane) {part : String}
    (h : ∀ s mode, serviceOfPart? part = some s → requestedMode request ≠ .ok mode) :
    (putOverride request [part] p).1.isSuccess = false := by
  simp only [putOverride, List.headD_cons]
  cases hs : serviceOfPart? part with
  | none =>
      rfl
  | some s =>
      cases hmode : requestedMode request with
      | error status =>
          exact Response.isSuccess_ofStatus (le_of_requestedMode_eq_error hmode)
      | ok mode =>
          exact absurd hmode (h s mode hs)

/-- A put that has the key and sets no override is refused. -/
theorem isSuccess_serveOperator_of_put (p : Plane) (hput : request.method = "PUT")
    (hkey : HasKey key request) (hoverride : ∀ s mode, ¬ SetsOverride s mode request) :
    (p.serveOperator key request).1.isSuccess = false := by
  have hbody : request.method ≠ "HEAD" := by
    rw [hput]
    decide
  rw [serveOperator_of_hasKey p hkey, Router.finish_of_not_head hbody]
  rcases Router.respond_cases operatorRoutes request p with
    ⟨r, hr, texts, htexts, hserves, heq⟩ | ⟨_, status, hstatus, heq⟩
  · rw [heq]
    have hmethod := Route.method_eq_of_not_head hbody hserves
    rw [hput] at hmethod
    simp only [operatorRoutes, List.mem_cons, List.not_mem_nil, or_false] at hr
    -- Only the route of overrides is for a put.
    rcases hr with rfl | rfl | rfl | rfl
    · exact absurd hmethod (by decide)
    · exact absurd hmethod (by decide)
    · rcases refused_of_captures hput htexts hoverride with ⟨part, rfl, hrefused⟩
      exact isSuccess_putOverride_of_refused p hrefused
    · exact absurd hmethod (by decide)
  · rw [heq]
    refine Response.isSuccess_ofStatus ?_
    omega

/-- A put is answered by setting an override, or it is refused and does nothing. -/
theorem serveOperator_put_cases (p : Plane) (key : String) (hput : request.method = "PUT") :
    (∃ s mode, SetsOverride s mode request ∧
      (p.serveOperator key request).1 = .ofJson ((p.setOverride s mode).2.view s).toJson ∧
      (p.setOverride s mode).2.Undisturbed (p.serveOperator key request).2) ∨
    (p.serveOperator key request).1.isSuccess = false ∧
      p.Undisturbed (p.serveOperator key request).2 := by
  by_cases hkey : HasKey key request
  · by_cases hset : ∃ s mode, SetsOverride s mode request
    · rcases hset with ⟨s, mode, hset⟩
      exact .inl ⟨s, mode, hset, p.serveOperator_of_override hkey hset⟩
    · simp only [not_exists] at hset
      have hcheck : ¬ AsksForCheck request := by
        intro h
        exact absurd (hput.symm.trans h.method_eq) (by decide)
      rw [p.serveOperator_of_other hkey hset hcheck]
      exact .inr ⟨p.isSuccess_serveOperator_of_put hput hkey hset, .refl p⟩
  · rcases p.serveOperator_of_not_hasKey hkey with ⟨hanswer, hstate⟩
    rw [hanswer]
    exact .inr ⟨rfl, hstate⟩

end Plane

end ServicePlane

import ServicePlane.Application.Context
import ServicePlane.Proofs.Availability.Publication
import ServicePlane.Proofs.Lifecycle.Attempts
import ServicePlane.Proofs.Monitor.Dropping

/-!
# What the startup hooks of services do

The effect of the startup hooks of services on a context whose network does not change.

* `ServiceConfig.Reachable` — one of the addresses that the address of a service stands for takes
  connections, and `reachable_iff` — that is, an attempt to connect is successful;
* `ServiceConfig.probeResult` — what the hook of a service returns, which depends on the network
  alone;
* `AvailabilityRegistry.Probed` — what the hooks of some services leave in the registry: a failure
  of each optional one that cannot be reached, and nothing else;
* `Context.Prepared` — what they leave behind altogether: a stopped monitor with a check for each of
  them, and such a registry;
* `Prepared.snoc` — the hook of a further service keeps this up.
-/

namespace ServicePlane

/-- One of some addresses takes a connection exactly if one does before which all others fail. -/
theorem Network.isEstablished_connectFirst_iff {n : Network} {addresses : List SocketAddress} :
    (n.connectFirst addresses).isEstablished = true ↔
      ∃ before a after, addresses = before ++ a :: after ∧
        (∀ b ∈ before, ∃ error, n.connectTo b = .failed error) ∧
        (n.connectTo a).isEstablished = true := by
  induction addresses with
  | nil =>
      simp [connectFirst, Connection.isEstablished]
  | cons a rest ih =>
      -- Either the first address takes the connection, or it fails and a later one does.
      have hfirst : (∃ before b after, a :: rest = before ++ b :: after ∧
            (∀ d ∈ before, ∃ error, n.connectTo d = .failed error) ∧
            (n.connectTo b).isEstablished = true) ↔
          (n.connectTo a).isEstablished = true ∨ (∃ error, n.connectTo a = .failed error) ∧
            (n.connectFirst rest).isEstablished = true := by
        rw [ih]
        constructor
        · rintro ⟨before, b, after, heq, hfail, hb⟩
          cases before with
          | nil =>
              cases heq
              exact .inl hb
          | cons d before =>
              cases heq
              exact .inr ⟨hfail a (by simp), before, b, after, rfl,
                fun d hd => hfail d (List.mem_cons_of_mem _ hd), hb⟩
        · rintro (ha | ⟨hfailed, before, b, after, rfl, hfail, hb⟩)
          · exact ⟨[], a, rest, rfl, by simp, ha⟩
          · exact ⟨a :: before, b, after, rfl, List.forall_mem_cons.2 ⟨hfailed, hfail⟩, hb⟩
      rw [hfirst]
      cases rest with
      | nil =>
          simp [connectFirst, Connection.isEstablished]
      | cons b rest =>
          rw [connectFirst]
          · cases n.connectTo a <;> simp [Connection.isEstablished]
          · exact nofun

namespace ServiceConfig

variable {e : ServiceConfig} {entries : List ServiceConfig} {n : Network} {s : Service}

theorem not_mem_names_concat :
    s ∉ (entries ++ [e]).map (·.name) ↔ s ∉ entries.map (·.name) ∧ s ≠ e.name := by
  simp [not_or]

theorem name_ne_of_not_mem (h : e.name ∉ entries.map (·.name)) :
    ∀ e' ∈ entries, e'.name ≠ e.name := by
  intro e' he' hname
  exact h (hname ▸ List.mem_map_of_mem he')

/-- Connections to the address of the service are accepted: the text stands for some addresses, and
one of them takes a connection, while those before it fail at once. What a host name stands for is
for the system to say. -/
def Reachable (e : ServiceConfig) (n : Network) : Prop :=
  ∃ addresses, n.resolve e.address = .ok addresses ∧
    ∃ before a after, addresses = before ++ a :: after ∧
      (∀ b ∈ before, ∃ error, n.connectTo b = .failed error) ∧
      (n.connectTo a).isEstablished = true

theorem reachable_iff : e.Reachable n ↔ (n.connect e.address).isEstablished = true := by
  rw [Reachable, Network.connect]
  cases n.resolve e.address with
  | error error =>
      simp [Connection.isEstablished]
  | ok addresses =>
      simp only [Except.ok.injEq, exists_eq_left', Network.isEstablished_connectFirst_iff]

instance : Decidable (e.Reachable n) :=
  decidable_of_iff _ reachable_iff.symm

theorem probe_of_reachable (h : e.Reachable n) (timeout : Nat) :
    probe n e.address timeout = ⟨.ok (), 0⟩ := by
  rw [reachable_iff] at h
  rw [probe]
  cases hc : n.connect e.address with
  | established peer =>
      rfl
  | failed error =>
      rw [hc] at h
      cases h
  | unanswered =>
      rw [hc] at h
      cases h

theorem exists_error_of_not_reachable (h : ¬ e.Reachable n) (timeout : Nat) :
    ∃ error, (probe n e.address timeout).outcome = .error error := by
  rw [reachable_iff] at h
  rw [probe]
  cases hc : n.connect e.address with
  | established peer =>
      rw [hc] at h
      exact absurd rfl h
  | failed error =>
      exact ⟨_, rfl⟩
  | unanswered =>
      exact ⟨_, rfl⟩

/-- What the startup hook of a service returns on a network. -/
def probeResult (e : ServiceConfig) (n : Network) : HookResult :=
  match (probe n e.address (e.connectTimeoutSecs.toNat * 1000)).outcome with
  | .ok () => .reported .started
  | .error error => .reported (.failed e.required error)

theorem isFatal_probeResult :
    (e.probeResult n).isFatal = true ↔ e.required = true ∧ ¬ e.Reachable n := by
  by_cases h : e.Reachable n
  · simp [probeResult, probe_of_reachable h, HookResult.isFatal, h]
  · rcases exists_error_of_not_reachable h (e.connectTimeoutSecs.toNat * 1000) with ⟨error, herror⟩
    simp [probeResult, herror, HookResult.isFatal, h]

theorem failure?_probeResult {error : String}
    (h : (probe n e.address (e.connectTimeoutSecs.toNat * 1000)).outcome = .error error) :
    (e.probeResult n).failure? = some error := by
  rw [probeResult, h]
  rfl

/-- The health check of a service. -/
def check (e : ServiceConfig) (c : PlaneConfig) : Check :=
  .tcp e.address (c.health.timeoutSecs.toNat * 1000)

theorem error?_call_check_of_reachable {c : PlaneConfig} (h : e.Reachable n) (timeout : Nat) :
    ((e.check c).call n).1.error? timeout = none := by
  simp [check, Check.call, probe_of_reachable h, Behaviour.error?, Verdict.error?]

theorem error?_call_check_of_not_reachable {c : PlaneConfig} (h : ¬ e.Reachable n)
    (timeout : Nat) : ∃ error, ((e.check c).call n).1.error? timeout = some error := by
  rcases exists_error_of_not_reachable h (c.health.timeoutSecs.toNat * 1000) with ⟨error, herror⟩
  simp only [check, Check.call, herror, Behaviour.error?]
  -- The check fails by itself, or it is given up.
  split <;> exact ⟨_, rfl⟩

end ServiceConfig

/-- A failure of an unhealthy service is counted, and changes nothing else that matters. -/
theorem Status.recorded_failure {st : Status} (h : st.healthy = false) (t : Thresholds) (now : Nat)
    (error : Option String) :
    st.recorded t now false error =
      { st with
        lastCheck := some now
        lastError := error
        successes := 0
        failures := countUp st.failures } := by
  have hflips : (st.counted now false error).flips t false = false := by
    simp [flips, counted_healthy, h]
  rw [recorded, hflips]
  rfl

theorem countUp_ne_zero (n : Nat) : countUp n ≠ 0 := by
  simp [countUp, counterLimit]

namespace Context

open AvailabilityRegistry

variable {c : PlaneConfig} {n : Network} {entries : List ServiceConfig} {e : ServiceConfig}
  {w : Context} {s : Service}

/-! ## The hook of a service -/

theorem startService_fst (e : ServiceConfig) (w : Context) :
    (startService e w).1 = e.probeResult w.plane.network := by
  rw [startService, ServiceConfig.probeResult]
  cases (probe w.plane.network e.address (e.connectTimeoutSecs.toNat * 1000)).outcome with
  | ok _ =>
      rfl
  | error error =>
      cases e.required <;> rfl

/-- The hook of a service registers its check, and tells the registry of a failure that the startup
can go on with. -/
theorem startService_snd (hrest : w.plane.monitor.AtRest)
    (hstopped : w.plane.monitor.running = false) (e : ServiceConfig) :
    ∃ now error, (startService e w).2 = { w with
      plane := { w.plane with
        now := now
        telemetry := (startService e w).2.plane.telemetry
        monitor := { w.plane.monitor with
          checks := w.plane.monitor.checks.set e.name (some (e.check w.config)) }
        registry :=
          if e.Reachable w.plane.network ∨ e.required = true then w.plane.registry
          else w.plane.registry.perform (.updateHealth now e.name false (some error)) } } := by
  let timeout := e.connectTimeoutSecs.toNat * 1000
  let probed := w.plane.now + (probe w.plane.network e.address timeout).duration
  by_cases hreach : e.Reachable w.plane.network
  · refine ⟨probed, "", ?_⟩
    have hprobe := ServiceConfig.probe_of_reachable hreach timeout
    simp only [timeout, probed] at hprobe ⊢
    rw [if_pos (.inl hreach), startService, hprobe]
    dsimp only
    rw [Plane.advance_of_stopped hrest hstopped]
    rfl
  · rcases ServiceConfig.exists_error_of_not_reachable hreach timeout with ⟨error, herror⟩
    refine ⟨probed, error, ?_⟩
    simp only [timeout, probed] at herror ⊢
    rw [startService, herror]
    dsimp only
    rw [Plane.advance_of_stopped hrest hstopped]
    by_cases hrequired : e.required = true
    · rw [if_pos hrequired, if_pos (Or.inr hrequired)]
      rfl
    · rw [if_neg hrequired, if_neg (not_or.2 ⟨hreach, hrequired⟩)]
      rfl

end Context

/-! ## The registry -/

namespace AvailabilityRegistry

variable {t : Thresholds} {n : Network} {entries : List ServiceConfig} {e : ServiceConfig}
  {r : AvailabilityRegistry}

/-- What a registry knows after probes of some services: no service is healthy, and a failure has
been counted for each of them that the startup can go on without. -/
structure Probed (t : Thresholds) (n : Network) (entries : List ServiceConfig)
    (r : AvailabilityRegistry) : Prop where
  thresholds_eq : r.thresholds = t
  published : r.Published
  unhealthy : ∀ s, (r.status s).healthy = false
  no_override : ∀ s, (r.status s).override = .noOverride
  no_success : ∀ s, (r.status s).successes = 0
  failures_eq_zero_iff : ∀ e ∈ entries,
    (r.status e.name).failures = 0 ↔ e.Reachable n ∨ e.required = true
  no_failure : ∀ s, s ∉ entries.map (·.name) → (r.status s).failures = 0

namespace Probed

theorem new (t : Thresholds) (n : Network) : Probed t n [] (.new t) where
  thresholds_eq := rfl
  published := .new t
  unhealthy := fun _ => congrArg Status.healthy (status_new t)
  no_override := fun _ => congrArg Status.override (status_new t)
  no_success := fun _ => congrArg Status.successes (status_new t)
  failures_eq_zero_iff := by simp
  no_failure := fun _ _ => congrArg Status.failures (status_new t)

/-- A service that is reachable or required adds nothing. -/
theorem quiet (h : Probed t n entries r) (hnew : e.name ∉ entries.map (·.name))
    (hquiet : e.Reachable n ∨ e.required = true) : Probed t n (entries ++ [e]) r where
  thresholds_eq := h.thresholds_eq
  published := h.published
  unhealthy := h.unhealthy
  no_override := h.no_override
  no_success := h.no_success
  failures_eq_zero_iff := by
    intro e' he'
    rcases List.mem_append.1 he' with he' | he'
    · exact h.failures_eq_zero_iff e' he'
    · rw [List.mem_singleton.1 he']
      exact iff_of_true (h.no_failure e.name hnew) hquiet
  no_failure := by
    intro s hs
    exact h.no_failure s (ServiceConfig.not_mem_names_concat.1 hs).1

/-- Any other service adds a failure of its own. -/
theorem failed (h : Probed t n entries r) (hnew : e.name ∉ entries.map (·.name))
    (hloud : ¬ (e.Reachable n ∨ e.required = true)) (now : Nat) (error : Option String) :
    Probed t n (entries ++ [e]) (r.perform (.updateHealth now e.name false error)) := by
  have hstatus : ∀ s, (r.perform (.updateHealth now e.name false error)).status s =
      if s = e.name then
        { r.status s with
          lastCheck := some now
          lastError := error
          successes := 0
          failures := countUp (r.status s).failures }
      else r.status s := by
    intro s
    rw [perform, status_updateHealth, Status.recorded_failure (h.unhealthy e.name)]
    by_cases hs : s = e.name <;> simp [hs]
  have hother := ServiceConfig.name_ne_of_not_mem hnew
  exact {
    thresholds_eq := (thresholds_perform r _).trans h.thresholds_eq
    published := h.published.perform _
    unhealthy := by
      intro s
      rw [hstatus]
      split <;> exact h.unhealthy s
    no_override := by
      intro s
      rw [hstatus]
      split <;> exact h.no_override s
    no_success := by
      intro s
      rw [hstatus]
      split
      · rfl
      · exact h.no_success s
    failures_eq_zero_iff := by
      intro e' he'
      rw [hstatus]
      rcases List.mem_append.1 he' with he' | he'
      · rw [if_neg (hother e' he')]
        exact h.failures_eq_zero_iff e' he'
      · rw [List.mem_singleton.1 he', if_pos rfl]
        exact iff_of_false (countUp_ne_zero _) hloud
    no_failure := by
      intro s hs
      have hs' := ServiceConfig.not_mem_names_concat.1 hs
      rw [hstatus, if_neg hs'.2]
      exact h.no_failure s hs'.1 }

end Probed

end AvailabilityRegistry

namespace Context

open AvailabilityRegistry

variable {c : PlaneConfig} {n : Network} {entries : List ServiceConfig} {e : ServiceConfig}
  {w : Context} {s : Service}

/-! ## The hooks of some services -/

/-- What the hooks of some services leave behind. -/
structure Prepared (c : PlaneConfig) (n : Network) (entries : List ServiceConfig) (w : Context) :
    Prop where
  config_eq : w.config = c
  network_eq : w.plane.network = n
  atRest : w.plane.monitor.AtRest
  stopped : w.plane.monitor.running = false
  check_eq : ∀ e ∈ entries, w.plane.monitor.checks.get e.name = some (e.check c)
  no_check : ∀ s, s ∉ entries.map (·.name) → w.plane.monitor.checks.get s = none
  probed : Probed c.health.thresholds n entries w.plane.registry

namespace Prepared

theorem new (c : PlaneConfig) (n : Network) : Prepared c n [] (Context.new c n) where
  config_eq := rfl
  network_eq := rfl
  atRest := .new _
  stopped := rfl
  check_eq := by simp
  no_check := fun s _ => PerService.get_ofFn _ s
  probed := .new _ n

/-- The hook of a further service leaves all other services as they are. -/
theorem snoc (h : Prepared c n entries w) (hnew : e.name ∉ entries.map (·.name)) :
    Prepared c n (entries ++ [e]) (startService e w).2 := by
  rcases startService_snd h.atRest h.stopped e with ⟨now, error, heq⟩
  rw [h.config_eq, h.network_eq] at heq
  have hchecks : ∀ s, (startService e w).2.plane.monitor.checks.get s =
      if s = e.name then some (e.check c) else w.plane.monitor.checks.get s := by
    intro s
    rw [heq]
    exact PerService.get_set _ _ _ _
  have hregistry : (startService e w).2.plane.registry =
      if e.Reachable n ∨ e.required = true then w.plane.registry
      else w.plane.registry.perform (.updateHealth now e.name false (some error)) :=
    congrArg (·.plane.registry) heq
  exact {
    config_eq := by
      rw [heq]
    network_eq := by
      rw [heq]
      exact h.network_eq
    atRest := by
      rw [heq]
      exact h.atRest.with_checks _
    stopped := by
      rw [heq]
      exact h.stopped
    check_eq := by
      intro e' he'
      rcases List.mem_append.1 he' with he' | he'
      · have hne := ServiceConfig.name_ne_of_not_mem hnew e' he'
        rw [hchecks, if_neg hne, h.check_eq e' he']
      · rw [List.mem_singleton.1 he', hchecks, if_pos rfl]
    no_check := by
      intro s hs
      have hs' := ServiceConfig.not_mem_names_concat.1 hs
      rw [hchecks, if_neg hs'.2, h.no_check s hs'.1]
    probed := by
      rw [hregistry]
      split
      · rename_i hquiet
        exact h.probed.quiet hnew hquiet
      · rename_i hloud
        exact h.probed.failed hnew hloud now _ }

theorem mem_registered_iff (h : Prepared c n entries w) :
    s ∈ w.plane.monitor.registered ↔ s ∈ entries.map (·.name) := by
  rw [Monitor.mem_registered]
  constructor
  · intro hsome
    by_contra hs
    rw [h.no_check s hs] at hsome
    cases hsome
  · intro hs
    rcases List.mem_map.1 hs with ⟨e, he, rfl⟩
    rw [h.check_eq e he]
    rfl

end Prepared

end Context

end ServicePlane

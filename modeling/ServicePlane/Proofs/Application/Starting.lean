import ServicePlane.Proofs.Application.Preparing
import ServicePlane.Proofs.Monitor.Isolation

/-!
# What the startup hook of the health monitor does

Behind the hooks of the services, the health monitor takes services to be available if the
configuration asks for it, and runs its first cycle. A service that has failed before is left out of
the first step, so that the second does not have to take anything back.

* `Plane.isAvailable_cycled` — after a cycle a service is as available as its own result makes it;
* `Prepared.running_startMonitor`, `Prepared.mem_registered_startMonitor_iff` — the monitor is
  running, and checks the prepared services;
* `Prepared.isAvailable_startMonitor` and its companion for other services — what is available then.
-/

namespace ServicePlane

/-! ## The first cycle -/

/-- When one entry of a list alone has a value, the values of the list are that one. -/
theorem filterMap_eq_toList {α β : Type} {l : List α} {a : α} {f : α → Option β} (hl : l.Nodup)
    (ha : a ∈ l) (hother : ∀ b, b ≠ a → f b = none) : l.filterMap f = (f a).toList := by
  rcases List.append_of_mem ha with ⟨front, back, rfl⟩
  have hdistinct := List.nodup_append.1 hl
  have hfront : front.filterMap f = [] := by
    refine List.filterMap_eq_nil_iff.2 fun b hb => hother b ?_
    exact hdistinct.2.2 b hb a (by simp)
  have hback : back.filterMap f = [] := by
    refine List.filterMap_eq_nil_iff.2 fun b hb => hother b ?_
    rintro rfl
    exact (List.nodup_cons.1 hdistinct.2.1).1 hb
  rw [List.filterMap_append, hfront, List.filterMap_cons, hback]
  cases f a <;> rfl

namespace Status

variable {st : Status}

theorem isAvailable_of_noOverride (h : st.override = .noOverride) :
    st.isAvailable = st.healthy := by
  rw [isAvailable, h]
  rfl

end Status

namespace Plane

open AvailabilityRegistry

variable {p : Plane} {s : Service}

theorem filter_cycleResults (p : Plane) (s : Service) :
    p.cycleResults.filter (·.service = s) =
      ((p.behaviour? s).map fun b => ⟨s, b.error? p.monitor.settings.timeout⟩).toList := by
  have hother : ∀ u, u ≠ s →
      (((p.behaviour? u).map fun b => (⟨u, b.error? p.monitor.settings.timeout⟩ :
        CheckResult)).filter fun x => x.service = s) = none := by
    intro u hu
    cases p.behaviour? u <;> simp [Option.filter, hu]
  rw [cycleResults, List.filter_filterMap,
    filterMap_eq_toList (by decide) (Service.mem_all s) hother]
  cases p.behaviour? s <;> simp [Option.filter]

/-- After a cycle a service is as available as its own result makes it, if there is one. -/
theorem isAvailable_cycled (h : p.registry.Published) (s : Service) :
    p.cycled.registry.isAvailable s =
      match p.behaviour? s with
      | none => p.registry.isAvailable s
      | some b =>
          let error := b.error? p.monitor.settings.timeout
          ((p.registry.status s).recorded p.registry.thresholds 0 error.isNone
            error).isAvailable := by
  -- Results of other services do not matter here, and neither does the time of its own.
  have hown := filter_cycleResults p s
  rw [cycled_eq]
  cases hb : p.behaviour? s with
  | none =>
      have hempty : p.cycleResults.filter (·.service = s) =
          ([] : List CheckResult).filter (·.service = s) := by
        rw [hown, hb]
        rfl
      exact (alike_results p.registry (p.now + p.cycleTime) 0 hempty).isAvailable_eq
  | some b =>
      let x : CheckResult := ⟨s, b.error? p.monitor.settings.timeout⟩
      have hsingle : p.cycleResults.filter (·.service = s) = [x].filter (·.service = s) := by
        rw [hown, hb]
        simp [x]
      have halike := alike_results p.registry (p.now + p.cycleTime) 0 hsingle
      have hpublished : (p.registry.perform (x.update 0)).Published := h.perform _
      refine halike.isAvailable_eq.trans ((hpublished s).trans ?_)
      simp [CheckResult.update, AvailabilityRegistry.perform, status_updateHealth, x,
        CheckResult.healthy]

end Plane

namespace Context

open AvailabilityRegistry

variable {c : PlaneConfig} {n : Network} {entries : List ServiceConfig} {e : ServiceConfig}
  {w : Context} {s : Service}

/-! ## The hook of the health monitor -/

/-- The plane when the services without a failure are taken to be available, if the configuration
asks for it. -/
def presumed (w : Context) : Plane :=
  if w.config.health.optimisticBoot then
    w.plane.markAvailable (unfailedServices w.plane.registry)
  else w.plane

theorem startMonitor_snd (w : Context) : (startMonitor w).2.plane = w.presumed.start :=
  rfl

theorem monitor_presumed (w : Context) : w.presumed.monitor = w.plane.monitor := by
  rw [presumed]
  split <;> rfl

theorem network_presumed (w : Context) : w.presumed.network = w.plane.network := by
  rw [presumed]
  split <;> rfl

theorem thresholds_presumed (w : Context) :
    w.presumed.registry.thresholds = w.plane.registry.thresholds := by
  rw [presumed]
  split
  · exact thresholds_markAvailable _
  · rfl

theorem published_presumed (h : w.plane.registry.Published) : w.presumed.registry.Published := by
  rw [presumed]
  split
  · exact h.markAvailable _
  · exact h

theorem status_presumed (w : Context) (s : Service) :
    w.presumed.registry.status s =
      if w.config.health.optimisticBoot = true ∧ (w.plane.registry.status s).failures = 0 then
        (w.plane.registry.status s).presumed
      else w.plane.registry.status s := by
  rw [presumed]
  split
  · rename_i hoptimistic
    have hmem : s ∈ unfailedServices w.plane.registry ↔
        (w.plane.registry.status s).failures = 0 := by
      simp [unfailedServices, Service.mem_all]
    refine (status_markAvailable _).trans ?_
    simp [hmem, hoptimistic]
  · rename_i hpessimistic
    simp [hpessimistic]

namespace Prepared

theorem start_presumed (h : Prepared c n entries w) :
    (startMonitor w).2.plane = w.presumed.announced.cycled.launched := by
  have hrest : w.presumed.monitor.AtRest := by
    rw [monitor_presumed]
    exact h.atRest
  have hstopped : w.presumed.monitor.running = false := by
    rw [monitor_presumed]
    exact h.stopped
  rw [startMonitor_snd, Plane.start_eq_of_stopped hrest hstopped]

theorem running_startMonitor (h : Prepared c n entries w) :
    (startMonitor w).2.plane.monitor.running = true := by
  rw [h.start_presumed]
  rfl

theorem mem_registered_startMonitor_iff (h : Prepared c n entries w) :
    s ∈ (startMonitor w).2.plane.monitor.registered ↔ s ∈ entries.map (·.name) := by
  have hchecks : (startMonitor w).2.plane.monitor.checks = w.presumed.announced.calledChecks := by
    rw [h.start_presumed, Plane.launched, Plane.cycled_eq]
  have hsame : w.presumed.announced.monitor.checks = w.plane.monitor.checks :=
    congrArg Monitor.checks (monitor_presumed w)
  rw [← h.mem_registered_iff, Monitor.mem_registered, Monitor.mem_registered, hchecks,
    Plane.calledChecks, PerService.get_ofFn, hsame, Option.isSome_map]

/-- Once the monitor is started, the availability of a service is what the first cycle has made
of it. -/
theorem isAvailable_startMonitor_eq (h : Prepared c n entries w) (s : Service) :
    (startMonitor w).2.plane.registry.isAvailable s =
      match w.presumed.announced.behaviour? s with
      | none => (w.presumed.registry.status s).isAvailable
      | some b =>
          let error := b.error? w.presumed.monitor.settings.timeout
          ((w.presumed.registry.status s).recorded c.health.thresholds 0 error.isNone
            error).isAvailable := by
  have hpublished : w.presumed.announced.registry.Published := published_presumed h.probed.published
  have hthresholds : w.presumed.announced.registry.thresholds = c.health.thresholds :=
    (thresholds_presumed w).trans h.probed.thresholds_eq
  rw [h.start_presumed]
  refine (Plane.isAvailable_cycled hpublished s).trans ?_
  cases w.presumed.announced.behaviour? s with
  | none =>
      exact hpublished s
  | some b =>
      rw [hthresholds]
      rfl

theorem behaviour?_presumed (h : Prepared c n entries w) (he : e ∈ entries) :
    w.presumed.announced.behaviour? e.name = some ((e.check c).call n).1 := by
  have hchecks : w.presumed.announced.monitor.checks = w.plane.monitor.checks :=
    congrArg Monitor.checks (monitor_presumed w)
  have hnetwork : w.presumed.announced.network = n := (network_presumed w).trans h.network_eq
  rw [Plane.behaviour?, hchecks, hnetwork, h.check_eq e he]
  rfl

theorem behaviour?_presumed_of_not_mem (h : Prepared c n entries w)
    (hs : s ∉ entries.map (·.name)) : w.presumed.announced.behaviour? s = none := by
  have hchecks : w.presumed.announced.monitor.checks = w.plane.monitor.checks :=
    congrArg Monitor.checks (monitor_presumed w)
  rw [Plane.behaviour?, hchecks, h.no_check s hs]
  rfl

theorem override_presumed (h : Prepared c n entries w) (s : Service) :
    (w.presumed.registry.status s).override = .noOverride := by
  rw [status_presumed]
  split <;> exact h.probed.no_override s

/-- A service without an entry is available when it is taken to be. -/
theorem isAvailable_startMonitor_of_not_mem (h : Prepared c n entries w)
    (hs : s ∉ entries.map (·.name)) :
    (startMonitor w).2.plane.registry.isAvailable s = c.health.optimisticBoot := by
  rw [h.isAvailable_startMonitor_eq, h.behaviour?_presumed_of_not_mem hs]
  dsimp only
  rw [Status.isAvailable_of_noOverride (h.override_presumed s), status_presumed, h.config_eq,
    h.probed.no_failure s hs]
  cases c.health.optimisticBoot with
  | true =>
      rfl
  | false =>
      exact h.probed.unhealthy s

/-- A service that cannot be reached has failed before, so it is not taken to be available, and its
first result does not make it so. -/
theorem isAvailable_startMonitor_of_not_reachable (h : Prepared c n entries w) (he : e ∈ entries)
    (hreach : ¬ e.Reachable n) (hoptional : e.required = false) :
    (startMonitor w).2.plane.registry.isAvailable e.name = false := by
  have hfailed : (w.plane.registry.status e.name).failures ≠ 0 := by
    rw [ne_eq, h.probed.failures_eq_zero_iff e he]
    simp [hreach, hoptional]
  -- With this failure the service is left out when services are taken to be available.
  have hstatus : w.presumed.registry.status e.name = w.plane.registry.status e.name := by
    rw [status_presumed, if_neg (by simp [hfailed])]
  rcases ServiceConfig.error?_call_check_of_not_reachable (c := c) hreach
    w.presumed.monitor.settings.timeout with ⟨error, herror⟩
  rw [h.isAvailable_startMonitor_eq, h.behaviour?_presumed he]
  dsimp only
  rw [herror, hstatus, Option.isNone_some, Status.recorded_failure (h.probed.unhealthy e.name)]
  exact (Status.isAvailable_of_noOverride (h.probed.no_override e.name)).trans
    (h.probed.unhealthy e.name)

/-- A service that can be reached is available when it is taken to be, or when its first success
suffices. -/
theorem isAvailable_startMonitor_of_reachable (h : Prepared c n entries w) (he : e ∈ entries)
    (hreach : e.Reachable n) (hrecovery : c.health.recoveryThreshold.toNat ≠ 0) :
    (startMonitor w).2.plane.registry.isAvailable e.name =
      (c.health.optimisticBoot || decide (c.health.recoveryThreshold = 1)) := by
  have hclean : (w.plane.registry.status e.name).failures = 0 :=
    (h.probed.failures_eq_zero_iff e he).2 (.inl hreach)
  have hone : c.health.thresholds.recovery ≤ 1 ↔ c.health.recoveryThreshold = 1 := by
    rw [← UInt32.toNat_inj, UInt32.toNat_one]
    simp only [HealthConfig.thresholds, Thresholds.ofConfigured]
    omega
  rw [h.isAvailable_startMonitor_eq, h.behaviour?_presumed he]
  dsimp only
  rw [ServiceConfig.error?_call_check_of_reachable hreach, Option.isNone_none,
    Status.isAvailable_of_noOverride
      (Status.recorded_override.trans (h.override_presumed e.name)),
    Status.recorded_healthy, status_presumed, h.config_eq, hclean]
  cases c.health.optimisticBoot with
  | true =>
      simp [Status.presumed, Status.flips, Status.counted]
  | false =>
      simp [Status.flips, Status.counted, h.probed.unhealthy, h.probed.no_success, countUp,
        counterLimit, hone]

/-- Once the monitor is started, an entry that did not end the startup tells the availability of
its service. -/
theorem isAvailable_startMonitor (h : Prepared c n entries w) (he : e ∈ entries)
    (hgo : e.required = true → e.Reachable n) (hrecovery : c.health.recoveryThreshold.toNat ≠ 0) :
    (startMonitor w).2.plane.registry.isAvailable e.name =
      (decide (e.Reachable n) &&
        (c.health.optimisticBoot || decide (c.health.recoveryThreshold = 1))) := by
  by_cases hreach : e.Reachable n
  · simp [h.isAvailable_startMonitor_of_reachable he hreach hrecovery, hreach]
  · have hoptional : e.required = false := by
      simpa using mt hgo hreach
    simp [h.isAvailable_startMonitor_of_not_reachable he hreach hoptional, hreach]

end Prepared

end Context

end ServicePlane

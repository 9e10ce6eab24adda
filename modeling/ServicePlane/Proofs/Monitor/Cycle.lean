import Mathlib.Data.List.Nodup
import ServicePlane.Plane.Clock
import ServicePlane.Proofs.Availability.Calls

/-!
# One cycle

What a cycle does to a plane, in one equation for each part of it.

* `Plane.behaviour?`, `cycleResults`, `cycleTime` — what the checks will do, and what the next cycle
  will find and how long it will take;
* `beginCycle_eq` — a cycle calls each registered check once, and is in flight then;
* `recordResults_eq`, `land_eq` — a cycle that is over gives the registry its results and nothing
  else, and its owner goes on.
-/

namespace ServicePlane

namespace Monitor

theorem mem_registered {m : Monitor} {s : Service} :
    s ∈ m.registered ↔ (m.checks.get s).isSome = true := by
  simp [registered, Service.mem_all]

theorem registered_nodup (m : Monitor) : m.registered.Nodup :=
  List.Nodup.filter _ (by decide)

/-- The monitor after a cycle of its has landed. -/
def landed (m : Monitor) (f : CycleInFlight) (now : Nat) : Monitor :=
  match f.owner with
  | .caller ticket => { m with flight := none, delivered := m.delivered ++ [(ticket, f.results)] }
  | .loop id =>
      { m with flight := none }.mapLoop id fun l =>
        { l with phase := .sleeping (now + m.settings.interval) }

end Monitor

/-- The call by which the registry learns a result. -/
def CheckResult.update (now : Nat) (x : CheckResult) : AvailabilityCall :=
  .updateHealth now x.service x.healthy x.error

namespace Plane

variable {p : Plane} {s u : Service}

/-! ## Calling the checks -/

/-- What the next call of the check of a service does. -/
def behaviour? (p : Plane) (s : Service) : Option Behaviour :=
  (p.monitor.checks.get s).map fun check => (check.call p.network).1

/-- What a cycle that begins now finds, in the order of the services. -/
def cycleResults (p : Plane) : List CheckResult :=
  Service.all.filterMap fun s =>
    (p.behaviour? s).map fun b => ⟨s, b.error? p.monitor.settings.timeout⟩

/-- How long a cycle takes that begins now. -/
def cycleTime (p : Plane) : Nat :=
  ((Service.all.filterMap p.behaviour?).map (Behaviour.duration p.monitor.settings.timeout)).foldl
    max 0

def cycle (p : Plane) (owner : CycleOwner) : CycleInFlight where
  owner := owner
  begun := p.now
  endsAt := p.now + p.cycleTime
  results := p.cycleResults

/-- The checks after each of them has been called once more. -/
def calledChecks (p : Plane) : PerService (Option Check) :=
  .ofFn fun s => (p.monitor.checks.get s).map fun check => (check.call p.network).2

/-- The numbers of calls after each registered check has been called once more. -/
def calledOnce (p : Plane) : PerService Nat :=
  .ofFn fun s => p.calls.get s + if s ∈ p.monitor.registered then 1 else 0

/-- The plane after the check of a service has been called. -/
def callCheck (p : Plane) (s : Service) (check : Check) : Plane :=
  { p with
    monitor := { p.monitor with checks := p.monitor.checks.set s (some (check.call p.network).2) }
    calls := p.calls.set s (p.calls.get s + 1) }

theorem callChecks_cons_some {rest : List Service} {check : Check}
    (h : p.monitor.checks.get s = some check) :
    p.callChecks (s :: rest) =
      ((s, (check.call p.network).1) :: ((p.callCheck s check).callChecks rest).1,
        ((p.callCheck s check).callChecks rest).2) := by
  rw [callChecks, h]
  rfl

theorem callChecks_cons_none {rest : List Service} (h : p.monitor.checks.get s = none) :
    p.callChecks (s :: rest) = p.callChecks rest := by
  rw [callChecks, h]

/-- Calls change the checks and count themselves; nothing else sees them. -/
theorem callChecks_frame (p : Plane) (services : List Service) :
    (p.callChecks services).2 = { p with
      monitor := { p.monitor with checks := (p.callChecks services).2.monitor.checks }
      calls := (p.callChecks services).2.calls } := by
  induction services generalizing p with
  | nil =>
      rfl
  | cons s rest ih =>
      cases hcheck : p.monitor.checks.get s with
      | none =>
          rw [callChecks_cons_none hcheck]
          exact ih p
      | some check =>
          rw [callChecks_cons_some hcheck]
          exact ih (p.callCheck s check)

theorem checks_callCheck {check : Check} (h : u ≠ s) :
    (p.callCheck s check).monitor.checks.get u = p.monitor.checks.get u := by
  simp [callCheck, PerService.get_set, h]

theorem called_callChecks {services : List Service} (hnodup : services.Nodup) :
    (p.callChecks services).1 =
      services.filterMap fun s => (p.behaviour? s).map fun b => (s, b) := by
  induction services generalizing p with
  | nil =>
      rfl
  | cons s rest ih =>
      rcases List.nodup_cons.1 hnodup with ⟨hnot, hrest⟩
      cases hcheck : p.monitor.checks.get s with
      | none =>
          simp [callChecks_cons_none hcheck, ih hrest, behaviour?, hcheck]
      | some check =>
          -- A call uses up an entry of its own script only, so the other checks still do the same.
          have hother : ∀ u ∈ rest, (p.callCheck s check).behaviour? u = p.behaviour? u := by
            intro u hu
            have hne : u ≠ s := fun h => hnot (h ▸ hu)
            rw [behaviour?, behaviour?, checks_callCheck hne]
            rfl
          have hlater : (rest.filterMap fun u =>
              ((p.callCheck s check).behaviour? u).map fun b => (u, b)) =
              rest.filterMap fun u => (p.behaviour? u).map fun b => (u, b) := by
            apply List.filterMap_congr
            intro u hu
            rw [hother u hu]
          have hself : p.behaviour? s = some (check.call p.network).1 := by
            rw [behaviour?, hcheck, Option.map_some]
          simp [callChecks_cons_some hcheck, ih hrest, hlater, hself]

theorem checks_callChecks {services : List Service} (hnodup : services.Nodup) :
    (p.callChecks services).2.monitor.checks.get u =
      if u ∈ services then (p.monitor.checks.get u).map fun check => (check.call p.network).2
      else p.monitor.checks.get u := by
  induction services generalizing p with
  | nil =>
      rfl
  | cons s rest ih =>
      rcases List.nodup_cons.1 hnodup with ⟨hnot, hrest⟩
      cases hcheck : p.monitor.checks.get s with
      | none =>
          rw [callChecks_cons_none hcheck, ih hrest]
          by_cases hu : u = s
          · subst hu
            simp [hnot, hcheck]
          · simp [hu]
      | some check =>
          rw [callChecks_cons_some hcheck]
          refine (ih hrest).trans ?_
          -- No service is called twice, so its check is not touched again later.
          by_cases hu : u = s
          · subst hu
            simp [hnot, callCheck, hcheck]
          · rw [checks_callCheck hu]
            simp [hu, callCheck]

theorem calls_callChecks {services : List Service} (hnodup : services.Nodup) :
    (p.callChecks services).2.calls.get u =
      p.calls.get u + if u ∈ services ∧ (p.monitor.checks.get u).isSome then 1 else 0 := by
  induction services generalizing p with
  | nil =>
      simp [callChecks]
  | cons s rest ih =>
      rcases List.nodup_cons.1 hnodup with ⟨hnot, hrest⟩
      cases hcheck : p.monitor.checks.get s with
      | none =>
          rw [callChecks_cons_none hcheck, ih hrest]
          by_cases hu : u = s
          · subst hu
            simp [hcheck]
          · simp [hu]
      | some check =>
          rw [callChecks_cons_some hcheck]
          refine (ih hrest).trans ?_
          by_cases hu : u = s
          · subst hu
            simp [hnot, callCheck, hcheck]
          · rw [checks_callCheck hu]
            simp [hu, callCheck, PerService.get_set]

/-! ## Beginning a cycle -/

/-- Services without a check have no behaviour, so it does not matter that they are not asked. -/
theorem filterMap_registered {α : Type} (f : Service → Behaviour → α) (p : Plane) :
    (p.monitor.registered.filterMap fun s => (p.behaviour? s).map (f s)) =
      Service.all.filterMap fun s => (p.behaviour? s).map (f s) := by
  rw [Monitor.registered, List.filterMap_filter]
  apply List.filterMap_congr
  intro s _
  cases hcheck : p.monitor.checks.get s <;> simp [behaviour?, hcheck]

theorem calledChecks_eq (p : Plane) :
    (p.callChecks p.monitor.registered).2.monitor.checks = p.calledChecks := by
  apply PerService.ext_get
  intro u
  rw [checks_callChecks p.monitor.registered_nodup, calledChecks, PerService.get_ofFn]
  split
  · rfl
  · rename_i hnot
    have hnone : p.monitor.checks.get u = none := by
      simpa [Monitor.mem_registered] using hnot
    rw [hnone]
    rfl

/-- A call of the checks leaves the same services with a check. -/
theorem registered_of_calledChecks {m : Monitor} (h : m.checks = p.calledChecks) :
    m.registered = p.monitor.registered := by
  apply List.filter_congr
  intro s _
  rw [h, calledChecks, PerService.get_ofFn, Option.isSome_map]

theorem calledOnce_eq (p : Plane) :
    (p.callChecks p.monitor.registered).2.calls = p.calledOnce := by
  apply PerService.ext_get
  intro u
  rw [calls_callChecks p.monitor.registered_nodup, calledOnce, PerService.get_ofFn]
  simp [Monitor.mem_registered]

/-- A cycle that begins calls each registered check once, and is in flight. -/
theorem beginCycle_eq (p : Plane) (owner : CycleOwner) :
    p.beginCycle owner = { p with
      monitor := { p.monitor with checks := p.calledChecks, flight := some (p.cycle owner) }
      calls := p.calledOnce } := by
  have hcalled : (p.callChecks p.monitor.registered).1 =
      Service.all.filterMap fun s => (p.behaviour? s).map fun b => (s, b) :=
    (called_callChecks p.monitor.registered_nodup).trans (filterMap_registered Prod.mk p)
  have hresults : ((p.callChecks p.monitor.registered).1.map fun c =>
      (⟨c.1, c.2.error? p.monitor.settings.timeout⟩ : CheckResult)) = p.cycleResults := by
    rw [hcalled, List.map_filterMap, cycleResults]
    simp [Function.comp_def]
  have htimes : ((p.callChecks p.monitor.registered).1.map fun c =>
      c.2.duration p.monitor.settings.timeout).foldl max 0 = p.cycleTime := by
    rw [hcalled, cycleTime, List.map_filterMap, List.map_filterMap]
    simp [Function.comp_def]
  have hframe := p.callChecks_frame p.monitor.registered
  rw [calledChecks_eq, calledOnce_eq] at hframe
  simp only [beginCycle, hresults, htimes]
  rw [hframe]
  rfl

/-- There is one result for each registered service. -/
theorem service_cycleResults (p : Plane) :
    p.cycleResults.map CheckResult.service = p.monitor.registered := by
  rw [cycleResults, List.map_filterMap, Monitor.registered, ← List.filterMap_eq_filter]
  apply List.filterMap_congr
  intro s _
  cases hcheck : p.monitor.checks.get s <;> simp [behaviour?, hcheck, Option.guard]

/-- Recording gives the registry each result, in order, and tells about it. -/
theorem recordResults_eq (p : Plane) (results : List CheckResult) :
    p.recordResults results = { p with
      registry := p.registry.performAll (results.map (CheckResult.update p.now))
      telemetry := (p.recordResults results).telemetry } := by
  -- The plane is general here: the registry goes on from result to result.
  have hfold : ∀ q : Plane, results.foldl recordResult q = { q with
      registry := q.registry.performAll (results.map (CheckResult.update q.now))
      telemetry := (results.foldl recordResult q).telemetry } := by
    induction results with
    | nil =>
        intro q
        rfl
    | cons x rest ih =>
        intro q
        exact ih (q.recordResult x)
  rw [recordResults]
  split
  · exact hfold p
  · rw [hfold p]
    rfl

/-- A cycle that lands gives the registry its results at this instant, and lets its owner go on. -/
theorem land_eq (p : Plane) (f : CycleInFlight) :
    p.land f = { p with
      registry := p.registry.performAll (f.results.map (CheckResult.update p.now))
      monitor := p.monitor.landed f p.now
      telemetry := (p.recordResults f.results).telemetry } := by
  have hrecorded := p.recordResults_eq f.results
  rw [land, Monitor.landed]
  cases f.owner with
  | caller ticket =>
      rw [hrecorded]
  | loop id =>
      rw [hrecorded]

end Plane

end ServicePlane

import ServicePlane.Proofs.Availability.Announcements
import ServicePlane.Proofs.Availability.Interleaving
import ServicePlane.Proofs.Plane.RegistryCalls

/-!
# Metrics that agree with the registry

What a plane measures about the availability of a service is told with each change, and much else is
told in between. This file follows the agreement of `AvailabilityRegistry.Reconciled` through all
operations of a plane and through everything that happens to it by itself.

* `Reconciled.setOverride`, … — the operations on the registry keep the agreement;
* `Reconciled.lasting` — it lasts, so cycles and the clock keep it as well;
* `Reconciled.performAll` — and so do all calls but a reset, which tells nothing;
* `metrics_reconcile` — gauge, health transitions and override transitions of a service, after any
  calls.
-/

namespace ServicePlane

namespace Plane

open AvailabilityRegistry

variable {p : Plane} {s : Service} {changes : Nat}

/-- What a plane has told about a service agrees with its registry. -/
def Reconciled (p : Plane) (s : Service) (changes : Nat) : Prop :=
  p.registry.Reconciled p.telemetry s changes

namespace Reconciled

theorem tell_log (h : p.Reconciled s changes) (record : LogRecord) :
    (p.tell [.logged record]).Reconciled s changes := by
  -- A log record has no measurements.
  refine AvailabilityRegistry.Reconciled.unrelated h fun x hx => ?_
  cases hx

/-! ## Operations on the registry -/

theorem updateHealth (h : p.Reconciled s changes) (u : Service) (healthy : Bool)
    (error : Option String) : (p.updateHealth u healthy error).2.Reconciled s changes := by
  have hannounced := AvailabilityRegistry.Reconciled.announces h
    (announces_updateHealth p.registry p.now u healthy error)
    (h.published.updateHealth p.now u healthy error)
  have hmode : ((p.registry.updateHealth p.now u healthy error).1.status s).override =
      (p.registry.status s).override := by
    rw [status_updateHealth]
    split
    · rename_i hs
      rw [Status.recorded_override, hs]
    · rfl
  rw [if_pos hmode] at hannounced
  exact hannounced

theorem markAvailable (h : p.Reconciled s changes) (services : List Service) :
    (p.markAvailable services).Reconciled s changes := by
  have hannounced := AvailabilityRegistry.Reconciled.announces h
    (announces_markAvailable p.registry services) (h.published.markAvailable services)
  have hmode : ((p.registry.markAvailable services).1.status s).override =
      (p.registry.status s).override := by
    rw [status_markAvailable]
    split <;> rfl
  rw [if_pos hmode] at hannounced
  exact hannounced

end Reconciled

/-- What a call returns, if it sets the override of this service. -/
def overrideReply (s : Service) (p : Plane) : PlaneCall → List Bool
  | .setOverride u mode => if u = s then [(p.setOverride u mode).1] else []
  | _ => []

namespace Reconciled

/-- An override that returns that it has changed is counted, and no other one. -/
theorem setOverride (h : p.Reconciled s changes) (u : Service) (mode : OverrideMode) :
    (p.setOverride u mode).2.Reconciled s
      (changes + (overrideReply s p (.setOverride u mode)).count true) := by
  have hannounced := AvailabilityRegistry.Reconciled.announces h
    (announces_setOverride p.registry u mode) (h.published.setOverride u mode)
  -- The call returns whether the mode was another one, which is whether the status shows a change.
  have hcount : (if ((p.registry.setOverride u mode).1.status s).override =
        (p.registry.status s).override then 0 else 1) =
      (overrideReply s p (.setOverride u mode)).count true := by
    have hreply : (p.setOverride u mode).1 = decide ((p.registry.status u).override ≠ mode) :=
      setOverride_changed p.registry u mode
    rw [status_setOverride, overrideReply, hreply]
    by_cases hu : u = s
    · subst hu
      by_cases hmode : (p.registry.status u).override = mode
      · simp [hmode]
      · simp [hmode, Ne.symm hmode]
    · simp [hu, Ne.symm hu]
  rw [hcount] at hannounced
  exact hannounced

/-! ## Cycles -/

theorem recordResult (h : p.Reconciled s changes) (x : CheckResult) :
    (p.recordResult x).Reconciled s changes := by
  -- Time and failure of the check are told before the registry learns the result.
  refine updateHealth ?_ x.service x.healthy x.error
  refine AvailabilityRegistry.Reconciled.unrelated h ?_
  cases x.error with
  | none =>
      intro y hy
      rw [List.mem_singleton.1 hy]
      rfl
  | some error =>
      intro y hy
      have hparts : y = .sample (.checkDuration x.service) ∨
          y = .count (.checkFailures x.service) := by
        simpa [monitorLog] using hy
      rcases hparts with rfl | rfl
      · rfl
      · rfl

theorem foldl_recordResult (h : p.Reconciled s changes) (results : List CheckResult) :
    (results.foldl Plane.recordResult p).Reconciled s changes := by
  induction results generalizing p with
  | nil =>
      exact h
  | cons x rest ih =>
      exact ih (h.recordResult x)

/-- Cycles change health only, and what the log tells does not matter. -/
theorem lasting (s : Service) (changes : Nat) : Lasting fun p => p.Reconciled s changes where
  of_eq := by
    intro p q h hregistry htelemetry
    rw [Plane.Reconciled, hregistry, htelemetry]
    exact h
  tell_log := fun h record => h.tell_log record
  land := by
    intro p h f
    have hrecorded : (p.recordResults f.results).Reconciled s changes := by
      rw [recordResults]
      split
      · exact h.foldl_recordResult f.results
      · exact (h.foldl_recordResult f.results).tell_log _
    rw [land]
    cases f.owner with
    | caller ticket =>
        exact hrecorded
    | loop id =>
        exact hrecorded

/-! ## Calls -/

/-- Every call but a reset keeps the agreement, with one more change if it returns one. -/
theorem perform (h : p.Reconciled s changes) {call : PlaneCall} (hcall : call ≠ .reset) :
    (p.perform call).Reconciled s (changes + (overrideReply s p call).count true) := by
  cases call with
  | updateHealth u healthy error =>
      exact h.updateHealth u healthy error
  | setOverride u mode =>
      exact h.setOverride u mode
  | markAvailable services =>
      exact h.markAvailable services
  | markAllAvailable =>
      exact h.markAvailable Service.all
  | reset =>
      exact absurd rfl hcall
  | _ =>
      -- The other operations set no override, so their replies count none.
      exact (lasting s changes).perform h rfl

theorem performAll (h : p.Reconciled s changes) {calls : List PlaneCall}
    (hcalls : ∀ call ∈ calls, call ≠ .reset) :
    (p.performAll calls).Reconciled s
      (changes + (outputs Plane.perform (overrideReply s) p calls).count true) := by
  induction calls generalizing p changes with
  | nil =>
      exact h
  | cons call rest ih =>
      have hlater := ih (h.perform (hcalls call (by simp)))
        fun later hlater => hcalls later (by simp [hlater])
      rw [outputs, List.count_append, ← Nat.add_assoc]
      exact hlater

end Reconciled

/-- After any calls but resets, on a plane that has told nothing yet, the gauge of a service shows
its availability, and a service without a gauge is not available. Its health transitions to true are
one more than those to false if the health signal is up, and as many if not. Its override
transitions are the overrides that returned a change. -/
theorem metrics_reconcile (network : Network) (failure recovery : UInt32)
    (settings : MonitorSettings) {calls : List PlaneCall} (hcalls : ∀ call ∈ calls, call ≠ .reset)
    (s : Service) :
    let fresh := new network (.ofConfigured failure recovery) settings
    let p := fresh.performAll calls
    let counted (cause : TransitionCause) (available : Bool) : Nat :=
      p.telemetry.counter (.serviceTransitions s cause available)
    ((∀ value, p.telemetry.valueOf? (.serviceAvailable s) = some value →
        value = if p.registry.isAvailable s then 1 else 0) ∧
      (p.telemetry.valueOf? (.serviceAvailable s) = none → p.registry.isAvailable s = false)) ∧
    (counted .health true : Int) - counted .health false =
      (if (p.registry.status s).healthy then 1 else 0) ∧
    counted .override true + counted .override false =
      (outputs perform (overrideReply s) fresh calls).count true := by
  intro fresh p counted
  have hfresh : fresh.Reconciled s 0 := .new (.ofConfigured failure recovery) s
  have hp := hfresh.performAll hcalls
  refine ⟨⟨?_, ?_⟩, ?_, ?_⟩
  · intro value hvalue
    rcases hp.gauge_eq with hgauge | ⟨hnone, _⟩
    · exact Option.some.inj (hvalue.symm.trans hgauge)
    · cases hvalue.symm.trans hnone
  · intro hnone
    rcases hp.gauge_eq with hgauge | ⟨_, hunavailable⟩
    · cases hnone.symm.trans hgauge
    · exact hunavailable
  · have hhealth : counted .health true =
        counted .health false + (p.registry.status s).healthy.toNat := hp.health_eq
    cases hsignal : (p.registry.status s).healthy with
    | true =>
        rw [hsignal, Bool.toNat_true] at hhealth
        rw [if_pos rfl]
        omega
    | false =>
        rw [hsignal, Bool.toNat_false] at hhealth
        rw [if_neg Bool.false_ne_true]
        omega
  · have hoverrides := hp.overrides_eq
    rw [Nat.zero_add] at hoverrides
    exact hoverrides

/-- The database is marked and forced to count as available, twice, and its check hangs meanwhile;
the cache is forced to count as unavailable and marked. -/
def maskedChanges : List PlaneCall :=
  [.registerCheck .database (.scripted [.hangs] 0),
    .markAvailable [.database],
    .setOverride .cache .forceDisable,
    .setOverride .database .forceEnable,
    .setOverride .database .forceEnable,
    .runCycles 2,
    .markAllAvailable,
    .runCycles 2,
    .setOverride .database .noOverride]

/-- The failures of the database flip its health twice under the override, and the gauge shows them
only when the override is gone. -/
theorem metrics_reconcile_masked :
    let fresh := new .empty (.ofConfigured 2 1) .standard
    let p := fresh.performAll maskedChanges
    (∀ call ∈ maskedChanges, call ≠ .reset) ∧
      p.telemetry.valueOf? (.serviceAvailable .database) = some 0 ∧
      p.registry.isAvailable .database = false ∧
      p.telemetry.counter (.serviceTransitions .database .health true) = 2 ∧
      (p.telemetry.counter (.serviceTransitions .database .health true) : Int) -
        p.telemetry.counter (.serviceTransitions .database .health false) = 0 ∧
      p.telemetry.counter (.serviceTransitions .database .override true) +
        p.telemetry.counter (.serviceTransitions .database .override false) = 2 := by
  intro fresh p
  have hcalls : ∀ call ∈ maskedChanges, call ≠ .reset := by
    simp [maskedChanges]
  obtain ⟨⟨hgauge, _⟩, hhealth, hoverrides⟩ :=
    metrics_reconcile .empty 2 1 .standard hcalls .database
  have hshown : p.telemetry.valueOf? (.serviceAvailable .database) = some 0 := by
    decide +kernel
  have hsignal : (p.registry.status .database).healthy = false := by
    decide +kernel
  have hreplies : outputs perform (overrideReply .database) fresh maskedChanges =
      [true, false, true] := by
    decide +kernel
  refine ⟨hcalls, hshown, ?_, by decide +kernel, ?_, ?_⟩
  · have hvalue : 0 = if p.registry.isAvailable .database then 1 else 0 := hgauge 0 hshown
    cases havailable : p.registry.isAvailable .database with
    | false =>
        rfl
    | true =>
        rw [havailable] at hvalue
        cases hvalue
  · exact hhealth.trans (if_neg (Bool.eq_false_iff.1 hsignal))
  · exact hoverrides.trans (congrArg (List.count true) hreplies)

end Plane

end ServicePlane

import Mathlib.Data.List.Count
import ServicePlane.Availability.Gate
import ServicePlane.Proofs.Availability.Publication
import ServicePlane.Proofs.Telemetry.Series

/-!
# What a gate rejects

A gate lets a request pass when the registry reports nothing missing of what the request depends on.
Here is what a verdict says about the registry, and what is counted with it.

* `check_eq_ok_iff`, `check_eq_error_iff` — when a request passes, and what it is rejected with;
* `measurements_check`, `counter_append_check` — every missing service is counted, as often as it is
  listed.
-/

namespace ServicePlane

namespace AvailabilityRegistry

theorem unavailable_eq_nil_iff {r : AvailabilityRegistry} {services : List Service} :
    r.unavailable services = [] ↔ ∀ s ∈ services, r.isAvailable s = true := by
  simp [unavailable, List.filter_eq_nil_iff]

end AvailabilityRegistry

namespace Gate

variable {g : Gate} {r : AvailabilityRegistry} {required : List Service} {u : ServiceUnavailable}

/-- A request that misses nothing passes, and nothing is told. -/
theorem check_of_nil (h : r.unavailable required = []) : g.check r required = (.ok (), []) := by
  rw [check, h]

theorem check_of_ne_nil (h : r.unavailable required ≠ []) :
    (g.check r required).1 = .error ⟨r.unavailable required, g.retryAfterSeconds⟩ := by
  rw [check]
  split
  · exact absurd ‹_› h
  · rename_i s rest hmissing
    rw [hmissing]

theorem check_eq_ok_iff :
    (g.check r required).1 = .ok () ↔ ∀ s ∈ required, r.isAvailable s = true := by
  rw [← AvailabilityRegistry.unavailable_eq_nil_iff]
  by_cases hmissing : r.unavailable required = []
  · simp [check_of_nil hmissing, hmissing]
  · simp [check_of_ne_nil hmissing, hmissing]

theorem check_eq_error_iff :
    (g.check r required).1 = .error u ↔
      r.unavailable required ≠ [] ∧ u = ⟨r.unavailable required, g.retryAfterSeconds⟩ := by
  by_cases hmissing : r.unavailable required = []
  · simp [check_of_nil hmissing, hmissing]
  · simp [check_of_ne_nil hmissing, hmissing, eq_comm]

/-- The measurement of a service for which a request is rejected. -/
def rejection (s : Service) : Measurement :=
  .count (.gateRejections s)

theorem rejection_injective : Function.Injective rejection := by
  intro s u h
  injection h with hmetric
  injection hmetric

theorem measurements_check :
    Telemetry.measurements (g.check r required).2 = (r.unavailable required).map rejection := by
  have hcounts : ∀ missing : List Service,
      Telemetry.measurements (missing.map fun s => Notice.measured (rejection s)) =
        missing.map rejection := by
    intro missing
    have hrecorded := Telemetry.measurements_map_measured (missing.map rejection)
    rwa [List.map_map] at hrecorded
  rw [check]
  split
  · rename_i hmissing
    rw [hmissing]
    rfl
  · rename_i s rest hmissing
    -- The log record behind the counts has no part in the measurements.
    rw [hmissing, Telemetry.measurements_append]
    exact (List.append_nil _).trans (hcounts (s :: rest))

/-- The rejections of a service grow by its occurrences among what is missing. -/
theorem counter_append_check (t : Telemetry) (s : Service) :
    Telemetry.counter (t ++ (g.check r required).2) (.gateRejections s) =
      t.counter (.gateRejections s) + (r.unavailable required).count s := by
  have hown : ∀ x ∈ Telemetry.measurements (g.check r required).2,
      x.metric = .gateRejections s → x = rejection s := by
    intro x hx hmetric
    rw [measurements_check] at hx
    rcases List.mem_map.1 hx with ⟨u, _, rfl⟩
    exact congrArg Measurement.count hmetric
  calc
    Telemetry.counter (t ++ (g.check r required).2) (.gateRejections s)
        = t.counter (.gateRejections s) +
            (Telemetry.measurements (g.check r required).2).count (rejection s) :=
          Telemetry.counter_append hown
    _ = t.counter (.gateRejections s) +
          ((r.unavailable required).map rejection).count (rejection s) := by
          rw [measurements_check]
    _ = t.counter (.gateRejections s) + (r.unavailable required).count s := by
          rw [List.count_map_of_injective _ _ rejection_injective s]

end Gate

end ServicePlane

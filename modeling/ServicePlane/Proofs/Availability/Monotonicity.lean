import Mathlib.Data.List.Basic
import ServicePlane.Proofs.Availability.Rejection

/-!
# Stricter thresholds

Of two registries that take the same calls, the one that fails a service earlier and recovers it
later never shows more as available. The two need not flip a service at the same call, and may be at
odds about it for any number of calls; they still agree in everything but the health signal.

* `Thresholds.Stricter`, `Status.Below` — how thresholds and statuses compare;
* `Status.Below.recorded` — a health result keeps a status below another;
* `AvailabilityRegistry.Below.performAll` — and so do all calls on two registries;
* `availability_monotone` — the counters are equal, and availability and what is missing compare.
-/

namespace ServicePlane

/-- The first thresholds take no more failures to fail a service, and no fewer successes to recover
it. -/
structure Thresholds.Stricter (t u : Thresholds) : Prop where
  failure_le : t.failure ≤ u.failure
  recovery_le : u.recovery ≤ t.recovery

theorem Thresholds.stricter_ofConfigured {failure failure' recovery recovery' : UInt32}
    (hfailure : failure ≤ failure') (hrecovery : recovery' ≤ recovery) :
    (ofConfigured failure recovery).Stricter (ofConfigured failure' recovery') := by
  have hfailures : failure.toNat ≤ failure'.toNat := UInt32.le_iff_toNat_le.1 hfailure
  have hrecoveries : recovery'.toNat ≤ recovery.toNat := UInt32.le_iff_toNat_le.1 hrecovery
  refine ⟨?_, ?_⟩
  · simp only [ofConfigured]
    omega
  · simp only [ofConfigured]
    omega

namespace Status

/-- A service is healthy after a success if it was, or if the success is one of enough. -/
theorem recorded_success_iff {x : Status} {t : Thresholds} {now : Nat} {error : Option String} :
    (x.recorded t now true error).healthy = true ↔
      x.healthy = true ∨ t.recovery ≤ countUp x.successes := by
  rw [recorded_healthy]
  cases hx : x.healthy <;> simp [flips, Status.counted, hx]

/-- A service is healthy after a failure if it was and there are not enough of them. -/
theorem recorded_failure_iff {x : Status} {t : Thresholds} {now : Nat} {error : Option String} :
    (x.recorded t now false error).healthy = true ↔
      x.healthy = true ∧ countUp x.failures < t.failure := by
  rw [recorded_healthy]
  cases hx : x.healthy <;> simp [flips, Status.counted, hx]

/-- Two statuses that agree in all but the health signal, which the first has only if the second
has it. -/
structure Below (x y : Status) : Prop where
  eq_of_healthy : y = { x with healthy := y.healthy }
  healthy_le : x.healthy = true → y.healthy = true

namespace Below

variable {x y : Status} {t u : Thresholds}

theorem refl (x : Status) : x.Below x where
  eq_of_healthy := rfl
  healthy_le := id

theorem isAvailable_le (h : x.Below y) (hx : x.isAvailable = true) : y.isAvailable = true := by
  have hmode : y.override = x.override := by
    rw [h.eq_of_healthy]
  rw [isAvailable] at hx ⊢
  rw [hmode]
  cases hoverride : x.override with
  | noOverride =>
      rw [hoverride] at hx
      exact h.healthy_le hx
  | forceEnable =>
      rfl
  | forceDisable =>
      rw [hoverride] at hx
      exact hx

theorem failures_eq (h : x.Below y) : x.failures = y.failures := by
  rw [h.eq_of_healthy]

theorem successes_eq (h : x.Below y) : x.successes = y.successes := by
  rw [h.eq_of_healthy]

/-- A success recovers the first only if it recovers the second, and a failure fails the second only
if it fails the first. -/
theorem recorded (h : x.Below y) (ht : t.Stricter u) (now : Nat) (healthy : Bool)
    (error : Option String) :
    (x.recorded t now healthy error).Below (y.recorded u now healthy error) := by
  refine ⟨?_, ?_⟩
  · rw [recorded_eq, recorded_eq]
    rw [h.eq_of_healthy]
    cases healthy <;> rfl
  · cases healthy with
    | true =>
        rw [recorded_success_iff, recorded_success_iff, ← h.successes_eq]
        exact Or.imp h.healthy_le (Nat.le_trans ht.recovery_le)
    | false =>
        rw [recorded_failure_iff, recorded_failure_iff, ← h.failures_eq]
        exact And.imp h.healthy_le fun hfew => Nat.lt_of_lt_of_le hfew ht.failure_le

theorem presumed (h : x.Below y) : x.presumed.Below y.presumed where
  eq_of_healthy := by
    rw [h.eq_of_healthy]
    rfl
  healthy_le := fun _ => rfl

theorem override (h : x.Below y) (mode : OverrideMode) :
    Below { x with override := mode } { y with override := mode } where
  eq_of_healthy := by
    rw [h.eq_of_healthy]
  healthy_le := h.healthy_le

end Below

end Status

namespace AvailabilityRegistry

variable {r r' : AvailabilityRegistry}

/-- The first registry has stricter thresholds, and every service of it is below that of the
second. -/
structure Below (r r' : AvailabilityRegistry) : Prop where
  stricter : r.thresholds.Stricter r'.thresholds
  status_below : ∀ s, (r.status s).Below (r'.status s)

namespace Below

theorem new {t u : Thresholds} (h : t.Stricter u) :
    (AvailabilityRegistry.new t).Below (AvailabilityRegistry.new u) where
  stricter := h
  status_below := by
    intro s
    rw [status_new, status_new]
    exact .refl .initial

theorem markAvailable (h : r.Below r') (services : List Service) (s : Service) :
    ((r.markAvailable services).1.status s).Below ((r'.markAvailable services).1.status s) := by
  rw [status_markAvailable, status_markAvailable]
  split
  · exact (h.status_below s).presumed
  · exact h.status_below s

theorem perform (h : r.Below r') (call : AvailabilityCall) :
    (r.perform call).Below (r'.perform call) := by
  refine ⟨?_, ?_⟩
  · rw [thresholds_perform, thresholds_perform]
    exact h.stricter
  · intro s
    cases call with
    | updateHealth now u healthy error =>
        simp only [AvailabilityRegistry.perform, status_updateHealth]
        split
        · exact (h.status_below u).recorded h.stricter now healthy error
        · exact h.status_below s
    | setOverride u mode =>
        simp only [AvailabilityRegistry.perform, status_setOverride]
        split
        · exact (h.status_below u).override mode
        · exact h.status_below s
    | markAvailable services =>
        exact h.markAvailable services s
    | markAllAvailable =>
        exact h.markAvailable Service.all s
    | reset =>
        simp only [AvailabilityRegistry.perform, status_reset]
        exact .refl .initial

theorem performAll (h : r.Below r') (calls : List AvailabilityCall) :
    (r.performAll calls).Below (r'.performAll calls) := by
  induction calls generalizing r r' with
  | nil =>
      exact h
  | cons call rest ih =>
      exact ih (h.perform call)

/-- What requests read of the registries compares as their statuses do. -/
theorem isAvailable_le (h : r.Below r') (hr : r.Published) (hr' : r'.Published) {s : Service}
    (hs : r.isAvailable s = true) : r'.isAvailable s = true := by
  rw [hr] at hs
  rw [hr']
  exact (h.status_below s).isAvailable_le hs

end Below

/-- What shows more as available misses less. -/
theorem unavailable_sublist (h : ∀ s, r.isAvailable s = true → r'.isAvailable s = true)
    (services : List Service) :
    (r'.unavailable services).Sublist (r.unavailable services) := by
  refine List.monotone_filter_right services fun s hs => ?_
  rw [Bool.not_eq_true', Bool.eq_false_iff] at hs ⊢
  exact fun havailable => hs (h s havailable)

/-- After any calls on two registries, of which the first fails a service no later and recovers it
no earlier, the counters of both are the same, what is available in the first is available in the
second, and the second misses nothing that the first does not miss, in the same order. A gate of the
second rejects a request only if one of the first rejects it. -/
theorem availability_monotone (failure failure' recovery recovery' : UInt32)
    (hfailure : failure ≤ failure') (hrecovery : recovery' ≤ recovery)
    (calls : List AvailabilityCall) :
    let strict := (new (.ofConfigured failure recovery)).performAll calls
    let lenient := (new (.ofConfigured failure' recovery')).performAll calls
    (∀ s, (strict.status s).failures = (lenient.status s).failures ∧
      (strict.status s).successes = (lenient.status s).successes) ∧
    (∀ s, strict.isAvailable s = true → lenient.isAvailable s = true) ∧
    ∀ services, (lenient.unavailable services).Sublist (strict.unavailable services) ∧
      ∀ (g g' : Gate) u', (g'.check lenient services).1 = .error u' →
        ∃ u, (g.check strict services).1 = .error u ∧ u'.services.Sublist u.services := by
  intro strict lenient
  have hbelow : strict.Below lenient :=
    (Below.new (Thresholds.stricter_ofConfigured hfailure hrecovery)).performAll calls
  have hmore : ∀ s, strict.isAvailable s = true → lenient.isAvailable s = true := by
    intro s hs
    exact hbelow.isAvailable_le ((Published.new _).performAll calls)
      ((Published.new _).performAll calls) hs
  refine ⟨fun s => ⟨(hbelow.status_below s).failures_eq, (hbelow.status_below s).successes_eq⟩,
    hmore, ?_⟩
  intro services
  have hsublist := unavailable_sublist hmore services
  refine ⟨hsublist, ?_⟩
  intro g g' u' hrejected
  obtain ⟨hmissing, rfl⟩ := Gate.check_eq_error_iff.1 hrejected
  refine ⟨_, Gate.check_of_ne_nil ?_, hsublist⟩
  intro hnone
  rw [hnone] at hsublist
  exact hmissing (List.sublist_nil.1 hsublist)

/-- The database fails twice and recovers once, the cache is marked and then fails, and the broker
is forced to count as available while it fails. -/
def degrading : List AvailabilityCall :=
  [.markAvailable [.database, .cache],
    .setOverride .broker .forceEnable,
    .updateHealth 10 .database false (some "refused"),
    .updateHealth 10 .cache false (some "refused"),
    .updateHealth 10 .broker false (some "refused"),
    .updateHealth 20 .database false (some "refused"),
    .updateHealth 30 .database true none]

/-- With one failure for two and two successes for one, the first registry has lost the cache and
has not recovered the database. -/
theorem availability_monotone_degrading :
    let strict := (new (.ofConfigured 1 2)).performAll degrading
    let lenient := (new (.ofConfigured 2 1)).performAll degrading
    strict.unavailable [.cache, .database, .broker] = [.cache, .database] ∧
      (strict.status .database).successes = (lenient.status .database).successes ∧
      strict.isAvailable .broker = true ∧ lenient.isAvailable .broker = true ∧
      (lenient.unavailable [.cache, .database, .broker]).Sublist [.cache, .database] := by
  intro strict lenient
  obtain ⟨hcounters, hmore, hless⟩ :=
    availability_monotone 1 2 2 1 (by decide) (by decide) degrading
  have hbroker : strict.isAvailable .broker = true := by
    decide +kernel
  have hmissing : strict.unavailable [.cache, .database, .broker] = [.cache, .database] := by
    decide +kernel
  refine ⟨hmissing, (hcounters .database).2, hbroker, hmore .broker hbroker, ?_⟩
  rw [← hmissing]
  exact (hless _).1

end AvailabilityRegistry

end ServicePlane

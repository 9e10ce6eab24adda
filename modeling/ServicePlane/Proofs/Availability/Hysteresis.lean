import Mathlib.Algebra.Group.Nat.Defs
import Mathlib.Data.List.DropRight
import Mathlib.Data.Nat.Basic
import ServicePlane.Proofs.Availability.Calls

/-!
# Hysteresis as a statement about the history

The registry follows the health of a service by two counters and a signal. Read off the list of all
results that were recorded for the service, they say the following.

* `trailingRun healthy results` — how many results at the end of the list all say `healthy`; the
  counters are these numbers, up to the value at which they stop;
* `HealthyBy t results` — at some position enough results in a row were healthy, and at no later one
  enough were unhealthy; this is the signal;
* `Status.Follows t results` — counters, signal and error of a status are those of the results;
* `hysteresis_of_results` — they are, for every service and after all health results and overrides
  of any services, and a result returns an event exactly when it changes the signal.
-/

namespace ServicePlane

/-! ## Health results -/

/-- What one health result says of a service. -/
structure HealthResult where
  healthy : Bool
  error : Option String
  deriving DecidableEq, Repr

namespace HealthResult

/-- The error that a result leaves behind. -/
def error? (x : HealthResult) : Option String :=
  if x.healthy then none else x.error

end HealthResult

/-- How many results at the end of a list all say the same about health. -/
def trailingRun (healthy : Bool) (results : List HealthResult) : Nat :=
  (results.rtakeWhile fun x => x.healthy == healthy).length

section TrailingRun

variable {healthy : Bool} {results : List HealthResult} {x : HealthResult}

@[simp]
theorem trailingRun_nil : trailingRun healthy [] = 0 := by
  simp [trailingRun]

theorem trailingRun_concat_same (h : x.healthy = healthy) :
    trailingRun healthy (results ++ [x]) = trailingRun healthy results + 1 := by
  have hx : (x.healthy == healthy) = true := by
    simpa using h
  rw [trailingRun, trailingRun, List.rtakeWhile_concat, if_pos hx, List.length_append,
    List.length_singleton]

theorem trailingRun_concat_other (h : x.healthy ≠ healthy) :
    trailingRun healthy (results ++ [x]) = 0 := by
  have hx : ¬ (x.healthy == healthy) = true := by
    simpa using h
  rw [trailingRun, List.rtakeWhile_concat, if_neg hx, List.length_nil]

end TrailingRun

/-- At some position the results had recovered the service, and at no later one had they failed
it. -/
def HealthyBy (t : Thresholds) (results : List HealthResult) : Prop :=
  ∃ i ≤ results.length, t.recovery ≤ trailingRun true (results.take i) ∧
    ∀ j ≤ results.length, i < j → trailingRun false (results.take j) < t.failure

instance (t : Thresholds) (results : List HealthResult) : Decidable (HealthyBy t results) :=
  inferInstanceAs (Decidable (∃ i ≤ results.length, t.recovery ≤ trailingRun true (results.take i) ∧
    ∀ j ≤ results.length, i < j → trailingRun false (results.take j) < t.failure))

section HealthyBy

variable {t : Thresholds} {results : List HealthResult} {x : HealthResult}

theorem not_healthyBy_nil (h : 0 < t.recovery) : ¬ HealthyBy t [] := by
  rintro ⟨i, _, hrecovered, _⟩
  have hnone : t.recovery ≤ 0 := by
    simpa using hrecovered
  omega

/-- One more result: the service was healthy and the result does not fail it, or the result recovers
it. -/
theorem healthyBy_concat :
    HealthyBy t (results ++ [x]) ↔
      (HealthyBy t results ∧ trailingRun false (results ++ [x]) < t.failure) ∨
        t.recovery ≤ trailingRun true (results ++ [x]) := by
  have hlength : (results ++ [x]).length = results.length + 1 := by
    simp
  have hall : (results ++ [x]).take (results.length + 1) = results ++ [x] := by
    rw [← hlength, List.take_length]
  have hbefore : ∀ i ≤ results.length, (results ++ [x]).take i = results.take i := by
    intro i hi
    exact List.take_append_of_le_length hi
  constructor
  · rintro ⟨i, hi, hrecovered, hkept⟩
    rw [hlength] at hi hkept
    -- The service recovered either by an earlier result, and was kept, or by the last one.
    rcases Nat.le_or_eq_of_le_succ hi with hold | hnew
    · left
      refine ⟨⟨i, hold, ?_, ?_⟩, ?_⟩
      · rw [← hbefore i hold]
        exact hrecovered
      · intro j hj hij
        rw [← hbefore j hj]
        exact hkept j (by omega) hij
      · rw [← hall]
        exact hkept _ le_rfl (by omega)
    · right
      rw [hnew, Nat.succ_eq_add_one, hall] at hrecovered
      exact hrecovered
  · rintro (⟨⟨i, hi, hrecovered, hkept⟩, hlast⟩ | hrecovered)
    · refine ⟨i, by omega, ?_, ?_⟩
      · rw [hbefore i hi]
        exact hrecovered
      · intro j hj hij
        rw [hlength] at hj
        rcases Nat.le_or_eq_of_le_succ hj with hold | hnew
        · rw [hbefore j hold]
          exact hkept j hold hij
        · rw [hnew, hall]
          exact hlast
    · refine ⟨results.length + 1, by omega, ?_, ?_⟩
      · rw [hall]
        exact hrecovered
      · intro j hj hij
        omega

end HealthyBy

/-! ## A status and its results -/

/-- Thresholds that take at least one result and that the counters can reach. -/
structure Thresholds.Reachable (t : Thresholds) : Prop where
  failure_pos : 0 < t.failure
  recovery_pos : 0 < t.recovery
  failure_le : t.failure ≤ counterLimit
  recovery_le : t.recovery ≤ counterLimit

theorem Thresholds.reachable_ofConfigured (failure recovery : UInt32) :
    (Thresholds.ofConfigured failure recovery).Reachable := by
  have hfailure := failure.toNat_lt
  have hrecovery := recovery.toNat_lt
  constructor <;> simp only [ofConfigured, counterLimit] <;> omega

theorem countUp_min (n : Nat) : countUp (min n counterLimit) = min (n + 1) counterLimit := by
  rw [countUp]
  omega

/-- A status says what follows from these results. -/
structure Status.Follows (t : Thresholds) (results : List HealthResult) (s : Status) : Prop where
  failures_eq : s.failures = min (trailingRun false results) counterLimit
  successes_eq : s.successes = min (trailingRun true results) counterLimit
  healthy_iff : s.healthy = true ↔ HealthyBy t results
  lastError_eq : s.lastError = results.getLast?.bind HealthResult.error?

namespace Status.Follows

variable {t : Thresholds} {results : List HealthResult} {s : Status}

theorem initial (ht : t.Reachable) : Status.initial.Follows t [] where
  failures_eq := by
    simp [Status.initial]
  successes_eq := by
    simp [Status.initial]
  healthy_iff := by
    have hnot := not_healthyBy_nil ht.recovery_pos
    simp [Status.initial, hnot]
  lastError_eq := rfl

/-- A healthy result ends the unhealthy run, and recovers the service if the healthy run is long
enough now. -/
theorem healthy_result (h : s.Follows t results) (ht : t.Reachable) (now : Nat)
    (error : Option String) :
    (s.recorded t now true error).Follows t (results ++ [⟨true, error⟩]) := by
  have hsame : trailingRun true (results ++ [⟨true, error⟩]) = trailingRun true results + 1 :=
    trailingRun_concat_same rfl
  have hother : trailingRun false (results ++ [⟨true, error⟩]) = 0 :=
    trailingRun_concat_other (by simp)
  have hcounted : (s.counted now true error).successes =
      min (trailingRun true results + 1) counterLimit := by
    simp only [counted, if_true, h.successes_eq, countUp_min]
  -- A counter that has stopped lies beyond every threshold, so stopping changes no comparison.
  have hreached : t.recovery ≤ (s.counted now true error).successes ↔
      t.recovery ≤ trailingRun true results + 1 := by
    have hlimit := ht.recovery_le
    rw [hcounted]
    omega
  constructor
  · rw [hother, recorded_failures]
    rfl
  · rw [hsame, recorded_successes, hcounted]
  · rw [recorded_healthy, healthyBy_concat, hsame, hother, ← h.healthy_iff, ← hreached]
    have hpos := ht.failure_pos
    cases hsignal : s.healthy <;> simp [flips, hpos, counted_healthy, hsignal]
  · rw [recorded_lastError]
    simp [HealthResult.error?]

/-- An unhealthy result ends the healthy run, and fails the service if the unhealthy run is long
enough now. -/
theorem unhealthy_result (h : s.Follows t results) (ht : t.Reachable) (now : Nat)
    (error : Option String) :
    (s.recorded t now false error).Follows t (results ++ [⟨false, error⟩]) := by
  have hsame : trailingRun false (results ++ [⟨false, error⟩]) = trailingRun false results + 1 :=
    trailingRun_concat_same rfl
  have hother : trailingRun true (results ++ [⟨false, error⟩]) = 0 :=
    trailingRun_concat_other (by simp)
  have hcounted : (s.counted now false error).failures =
      min (trailingRun false results + 1) counterLimit := by
    simp only [counted, Bool.false_eq_true, if_false, h.failures_eq, countUp_min]
  have hreached : t.failure ≤ (s.counted now false error).failures ↔
      ¬ trailingRun false results + 1 < t.failure := by
    have hlimit := ht.failure_le
    rw [hcounted]
    omega
  -- Were the recovery threshold zero, an unhealthy result would recover the service.
  have hpos : ¬ t.recovery ≤ 0 := by
    have := ht.recovery_pos
    omega
  constructor
  · rw [hsame, recorded_failures, hcounted]
  · rw [hother, recorded_successes]
    rfl
  · rw [recorded_healthy, healthyBy_concat, hsame, hother, ← h.healthy_iff, or_iff_left hpos]
    cases hsignal : s.healthy <;> simp [flips, counted_healthy, hsignal, hreached]
  · rw [recorded_lastError]
    simp [HealthResult.error?]

theorem recorded (h : s.Follows t results) (ht : t.Reachable) (now : Nat) (healthy : Bool)
    (error : Option String) :
    (s.recorded t now healthy error).Follows t (results ++ [⟨healthy, error⟩]) := by
  cases healthy with
  | true =>
      exact h.healthy_result ht now error
  | false =>
      exact h.unhealthy_result ht now error

/-- An override is no result. -/
theorem override (h : s.Follows t results) (mode : OverrideMode) :
    ({ s with override := mode } : Status).Follows t results where
  failures_eq := h.failures_eq
  successes_eq := h.successes_eq
  healthy_iff := h.healthy_iff
  lastError_eq := h.lastError_eq

end Status.Follows

/-! ## Histories -/

namespace AvailabilityCall

/-- The result that a call gives for a service, if it gives one. -/
def result? (s : Service) : AvailabilityCall → Option HealthResult
  | .updateHealth _ t healthy error => if t = s then some ⟨healthy, error⟩ else none
  | _ => none

/-- Whether a call records a health result or sets an override. -/
def isSignal : AvailabilityCall → Bool
  | .updateHealth .. => true
  | .setOverride .. => true
  | _ => false

end AvailabilityCall

/-- The results that some calls give for a service, in order. -/
def healthResults (s : Service) (calls : List AvailabilityCall) : List HealthResult :=
  calls.filterMap (AvailabilityCall.result? s)

theorem healthResults_concat (s : Service) (calls : List AvailabilityCall)
    (call : AvailabilityCall) :
    healthResults s (calls ++ [call]) = healthResults s calls ++ (call.result? s).toList := by
  cases hresult : call.result? s <;> simp [healthResults, hresult]

/-- A registry with these thresholds that is new or has just been reset. -/
inductive AvailabilityRegistry.Fresh (t : Thresholds) : AvailabilityRegistry → Prop
  | new : Fresh t (.new t)
  | reset {r : AvailabilityRegistry} (h : r.thresholds = t) : Fresh t r.reset

namespace AvailabilityRegistry

variable {t : Thresholds} {start : AvailabilityRegistry} {calls : List AvailabilityCall}

namespace Fresh

theorem thresholds_eq (h : start.Fresh t) : start.thresholds = t := by
  cases h with
  | new =>
      rfl
  | reset h =>
      exact h

theorem status_eq (h : start.Fresh t) (s : Service) : start.status s = .initial := by
  cases h with
  | new =>
      exact status_new t
  | reset h =>
      exact status_reset

end Fresh

/-- From a fresh registry on, every status follows from the results for its service. -/
theorem follows_performAll (hstart : start.Fresh t) (ht : t.Reachable)
    (hcalls : ∀ call ∈ calls, call.isSignal = true) (s : Service) :
    ((start.performAll calls).status s).Follows t (healthResults s calls) := by
  induction calls using List.reverseRecOn with
  | nil =>
      have hinitial : (start.performAll []).status s = .initial := hstart.status_eq s
      rw [hinitial]
      exact Status.Follows.initial ht
  | append_singleton calls call ih =>
      have hbefore := ih fun c hc => hcalls c (by simp [hc])
      have hthresholds : (start.performAll calls).thresholds = t :=
        (thresholds_performAll start calls).trans hstart.thresholds_eq
      rw [performAll_concat, healthResults_concat]
      cases call with
      | updateHealth now u healthy error =>
          simp only [perform, status_updateHealth, hthresholds, AvailabilityCall.result?]
          by_cases hu : u = s
          · subst hu
            simpa using hbefore.recorded ht now healthy error
          · have hus : ¬ s = u := fun h => hu h.symm
            simpa [hu, hus] using hbefore
      | setOverride u mode =>
          simp only [perform, status_setOverride, AvailabilityCall.result?, Option.toList_none,
            List.append_nil]
          by_cases hu : s = u
          · subst hu
            simpa using hbefore.override mode
          · simpa [hu] using hbefore
      | markAvailable services =>
          cases hcalls _ (List.mem_concat_self)
      | markAllAvailable =>
          cases hcalls _ (List.mem_concat_self)
      | reset =>
          cases hcalls _ (List.mem_concat_self)

/-- Whatever health results and overrides came in, for any services and in any order: of each
service the counters are the runs at the end of its own results, its signal is up exactly when its
results recovered it and did not fail it since, its error is that of its last result, and one more
result returns an event exactly when it changes the signal. -/
theorem hysteresis_of_results (failure recovery : UInt32)
    (hstart : start.Fresh (.ofConfigured failure recovery))
    (hcalls : ∀ call ∈ calls, call.isSignal = true) (s : Service) :
    let r := start.performAll calls
    let results := healthResults s calls
    (r.status s).failures = min (trailingRun false results) (2 ^ 32 - 1) ∧
      (r.status s).successes = min (trailingRun true results) (2 ^ 32 - 1) ∧
      ((r.status s).healthy = true ↔
        ∃ i ≤ results.length, max recovery.toNat 1 ≤ trailingRun true (results.take i) ∧
          ∀ j ≤ results.length, i < j → trailingRun false (results.take j) < max failure.toNat 1) ∧
      (r.status s).lastError =
        (match results.getLast? with
          | some last => if last.healthy then none else last.error
          | none => none) ∧
      ∀ (now : Nat) (healthy : Bool) (error : Option String),
        (r.updateHealth now s healthy error).2.2 =
          let after := (r.updateHealth now s healthy error).1.status s
          if after.healthy = (r.status s).healthy then none
          else some (.healthChanged s after.healthy after.lastError) := by
  intro r results
  have h : (r.status s).Follows (.ofConfigured failure recovery) results :=
    follows_performAll hstart (Thresholds.reachable_ofConfigured failure recovery) hcalls s
  refine ⟨h.failures_eq, h.successes_eq, h.healthy_iff, ?_, ?_⟩
  · rw [h.lastError_eq]
    cases results.getLast? <;> rfl
  · intro now healthy error
    exact updateHealth_event

/-- The database recovers and fails once, while others are seen and overridden. -/
def flappingDatabase : List AvailabilityCall :=
  [.updateHealth 1 .database false (some "refused"),
    .updateHealth 2 .database true none,
    .setOverride .database .forceDisable,
    .updateHealth 3 .cache false (some "refused"),
    .updateHealth 4 .database false (some "timed out")]

/-- One failure is not enough after a reset with thresholds of two and, for the recovery, none; a
second one in a row is. -/
theorem hysteresis_of_results_flapping :
    let start := (new (.ofConfigured 2 0)).markAllAvailable.1.reset
    let r := start.performAll flappingDatabase
    start.Fresh (.ofConfigured 2 0) ∧ (r.status .database).failures = 1 ∧
      (r.status .database).successes = 0 ∧ (r.status .database).healthy = true ∧
      (r.status .database).lastError = some "timed out" ∧
      (r.updateHealth 5 .database false none).2.2 =
        some (.healthChanged .database false none) := by
  have hfresh : (new (.ofConfigured 2 0)).markAllAvailable.1.reset.Fresh (.ofConfigured 2 0) :=
    .reset (thresholds_markAvailable Service.all)
  have hcalls : ∀ call ∈ flappingDatabase, call.isSignal = true := by
    decide
  obtain ⟨hfailures, hsuccesses, hsignal, herror, hevent⟩ :=
    hysteresis_of_results 2 0 hfresh hcalls .database
  refine ⟨hfresh, hfailures.trans (by decide), hsuccesses.trans (by decide),
    hsignal.2 (by decide), herror.trans (by decide), ?_⟩
  exact (hevent 5 false none).trans (by decide +kernel)

end AvailabilityRegistry

end ServicePlane

import ServicePlane.Proofs.Availability.Hysteresis
import ServicePlane.Proofs.Availability.Publication

/-!
# How long a mark lasts

A mark takes a service to be healthy, but it is no result: the failures that have been counted stay
counted. What a marked service has left is therefore what the failure threshold has left beyond
them, and never less than one failure.

* `failures_performAll` — after all calls, marks among them, the failure counter is the run of
  unhealthy results since the last reset;
* `Status.grace` — how many failures in a row a healthy service has left;
* `Status.Failing` — a status after so many failures and no other result, kept call by call;
* `healthy_iff_of_marked` — a marked service becomes unhealthy exactly with the last failure of its
  grace; `not_full_grace_of_marked` says that this is not always the whole threshold.
-/

namespace ServicePlane

/-! ## Calls since the last reset -/

namespace AvailabilityCall

def isReset : AvailabilityCall → Bool
  | reset => true
  | _ => false

/-- Whether a call takes a service to be healthy. -/
def marks (s : Service) : AvailabilityCall → Bool
  | markAvailable services => decide (s ∈ services)
  | markAllAvailable => true
  | _ => false

/-- Whether a call leaves the health of a service alone, or gives it an unhealthy result. -/
def onlyFails (s : Service) : AvailabilityCall → Bool
  | updateHealth _ u healthy _ => decide (u = s → healthy = false)
  | setOverride _ _ => true
  | markAvailable services => decide (s ∉ services)
  | markAllAvailable => false
  | reset => false

end AvailabilityCall

def sinceReset (calls : List AvailabilityCall) : List AvailabilityCall :=
  calls.rtakeWhile fun call => !call.isReset

theorem sinceReset_concat (calls : List AvailabilityCall) (call : AvailabilityCall) :
    sinceReset (calls ++ [call]) = if call.isReset then [] else sinceReset calls ++ [call] := by
  cases hreset : call.isReset <;> simp [sinceReset, hreset]

namespace AvailabilityRegistry

variable {t : Thresholds}

/-- The failure counter of a service is the run of unhealthy results at the end of those since the
last reset, whatever else was called. -/
theorem failures_performAll (t : Thresholds) (calls : List AvailabilityCall) (s : Service) :
    (((new t).performAll calls).status s).failures =
      min (trailingRun false (healthResults s (sinceReset calls))) counterLimit := by
  induction calls using List.reverseRecOn with
  | nil =>
      simp [performAll, Status.initial, sinceReset, healthResults]
  | append_singleton calls call ih =>
      rw [performAll_concat, sinceReset_concat]
      cases call with
      | updateHealth now u healthy error =>
          simp only [perform, status_updateHealth, AvailabilityCall.isReset, Bool.false_eq_true,
            if_false, healthResults_concat, AvailabilityCall.result?]
          by_cases hu : u = s
          · subst hu
            simp only [if_true, Option.toList_some, Status.recorded_failures]
            cases healthy with
            | true =>
                have hended : trailingRun false (healthResults u (sinceReset calls) ++
                    [⟨true, error⟩]) = 0 := trailingRun_concat_other (by simp)
                rw [hended]
                rfl
            | false =>
                have hlonger : trailingRun false (healthResults u (sinceReset calls) ++
                    [⟨false, error⟩]) = trailingRun false (healthResults u (sinceReset calls)) + 1 :=
                  trailingRun_concat_same rfl
                rw [hlonger, ← countUp_min, ← ih]
                rfl
          · have hus : ¬ s = u := fun h => hu h.symm
            simpa [hu, hus] using ih
      | setOverride u mode =>
          simp only [perform, status_setOverride, AvailabilityCall.isReset, Bool.false_eq_true,
            if_false, healthResults_concat, AvailabilityCall.result?, Option.toList_none,
            List.append_nil]
          by_cases hu : s = u
          · subst hu
            simpa using ih
          · simpa [hu] using ih
      | markAvailable services =>
          -- A mark counts no failure and forgets none.
          simp only [perform, status_markAvailable, AvailabilityCall.isReset, Bool.false_eq_true,
            if_false, healthResults_concat, AvailabilityCall.result?, Option.toList_none,
            List.append_nil]
          split
          · exact ih
          · exact ih
      | markAllAvailable =>
          simp only [perform, markAllAvailable, status_markAvailable, AvailabilityCall.isReset,
            Bool.false_eq_true, if_false, healthResults_concat, AvailabilityCall.result?,
            Option.toList_none, List.append_nil, if_pos (Service.mem_all s)]
          exact ih
      | reset =>
          simp [perform, Status.initial, AvailabilityCall.isReset, healthResults]

end AvailabilityRegistry

/-! ## Failures in a row -/

namespace Status

/-- How many failures in a row a healthy service has left until it becomes unhealthy. -/
def grace (s : Status) (t : Thresholds) : Nat :=
  max (t.failure - s.failures) 1

/-- A status after so many failures of a healthy service and no other result. -/
structure Failing (t : Thresholds) (healthy : Status) (failed : Nat) (s : Status) : Prop where
  failures_eq : s.failures = min (healthy.failures + failed) counterLimit
  healthy_iff : s.healthy = true ↔ failed < healthy.grace t

namespace Failing

variable {t : Thresholds} {marked s : Status} {failed : Nat}

theorem start (hhealthy : s.healthy = true) (hcounted : s.failures ≤ counterLimit) :
    Failing t s 0 s where
  failures_eq := by
    rw [Nat.add_zero, Nat.min_eq_left hcounted]
  healthy_iff := by
    have hsome : 0 < s.grace t := by
      rw [grace]
      omega
    exact ⟨fun _ => hsome, fun _ => hhealthy⟩

theorem failure (h : Failing t marked failed s) (ht : t.Reachable) (now : Nat)
    (error : Option String) : Failing t marked (failed + 1) (s.recorded t now false error) where
  failures_eq := by
    rw [recorded_failures, ← Nat.add_assoc, ← countUp_min, ← h.failures_eq]
    rfl
  healthy_iff := by
    have hcounted : (s.counted now false error).failures =
        min (marked.failures + failed + 1) counterLimit := by
      rw [← countUp_min, ← h.failures_eq]
      rfl
    -- The counter stops beyond every threshold, so it flips the signal when the grace is used up.
    have hflips : (s.counted now false error).flips t false = true ↔
        s.healthy = true ∧ t.failure ≤ marked.failures + failed + 1 := by
      have hreached : t.failure ≤ min (marked.failures + failed + 1) counterLimit ↔
          t.failure ≤ marked.failures + failed + 1 := by
        have hlimit := ht.failure_le
        omega
      simp only [flips, Bool.false_eq_true, if_false, Bool.and_eq_true, decide_eq_true_eq,
        counted_healthy, hcounted, hreached]
    have hkept : (s.recorded t now false error).healthy = true ↔
        s.healthy = true ∧ ¬ t.failure ≤ marked.failures + failed + 1 := by
      rw [recorded_healthy]
      split
      · rename_i hflipped
        simp [(hflips.1 hflipped).2]
      · rename_i hnot
        constructor
        · intro hhealthy
          exact ⟨hhealthy, fun hreached => hnot (hflips.2 ⟨hhealthy, hreached⟩)⟩
        · exact And.left
    rw [hkept, h.healthy_iff, grace]
    omega

/-- An override is no result. -/
theorem override (h : Failing t marked failed s) (mode : OverrideMode) :
    Failing t marked failed { s with override := mode } where
  failures_eq := h.failures_eq
  healthy_iff := h.healthy_iff

end Failing

end Status

/-! ## Marked services -/

namespace AvailabilityRegistry

variable {r : AvailabilityRegistry} {s : Service}

/-- As long as calls give a healthy service nothing but failures, its status is that of their
number. -/
theorem failing_performAll (ht : r.thresholds.Reachable) (hhealthy : (r.status s).healthy = true)
    (hcounted : (r.status s).failures ≤ counterLimit) {later : List AvailabilityCall}
    (hlater : ∀ call ∈ later, call.onlyFails s = true) :
    ((r.status s).Failing r.thresholds) (healthResults s later).length
      ((r.performAll later).status s) := by
  induction later using List.reverseRecOn with
  | nil =>
      exact .start hhealthy hcounted
  | append_singleton later call ih =>
      have hbefore := ih fun c hc => hlater c (List.mem_append_left _ hc)
      have honly := hlater call List.mem_concat_self
      have hthresholds := thresholds_performAll r later
      rw [performAll_concat, healthResults_concat]
      cases call with
      | updateHealth now u healthy error =>
          simp only [perform, status_updateHealth, AvailabilityCall.result?, hthresholds]
          by_cases hu : u = s
          · have hfailed : healthy = false := by
              simpa [AvailabilityCall.onlyFails, hu] using honly
            subst hu
            subst hfailed
            simpa using hbefore.failure ht now error
          · have hus : ¬ s = u := fun h => hu h.symm
            simpa [hu, hus] using hbefore
      | setOverride u mode =>
          simp only [perform, status_setOverride, AvailabilityCall.result?, Option.toList_none,
            List.append_nil]
          by_cases hu : s = u
          · subst hu
            simpa using hbefore.override mode
          · simpa [hu] using hbefore
      | markAvailable services =>
          have hnot : s ∉ services := by
            simpa [AvailabilityCall.onlyFails] using honly
          simpa [perform, status_markAvailable, hnot, AvailabilityCall.result?] using hbefore
      | markAllAvailable =>
          cases honly
      | reset =>
          cases honly

/-- A mark makes the service healthy and leaves everything else that decides about it. -/
theorem status_of_marks {mark : AvailabilityCall} (hmark : mark.marks s = true) :
    (r.perform mark).status s = (r.status s).presumed := by
  cases mark with
  | markAvailable services =>
      have hmem : s ∈ services := by
        simpa [AvailabilityCall.marks] using hmark
      simp [perform, status_markAvailable, hmem]
  | markAllAvailable =>
      simp [perform, markAllAvailable, status_markAvailable, Service.mem_all s]
  | updateHealth now u healthy error =>
      cases hmark
  | setOverride u mode =>
      cases hmark
  | reset =>
      cases hmark

/-- Whatever was called before, a marked service that gets nothing but failures then is healthy as
long as they are fewer than its grace: what the failures in a row that were recorded before the mark
leave of the threshold, but at least one. Unless an override decides, it is available as long. -/
theorem healthy_iff_of_marked (failure recovery : UInt32) (calls later : List AvailabilityCall)
    (mark : AvailabilityCall) (s : Service) (hmark : mark.marks s = true)
    (hlater : ∀ call ∈ later, call.onlyFails s = true) :
    let before := (new (.ofConfigured failure recovery)).performAll calls
    let after := (before.perform mark).performAll later
    let recorded := trailingRun false (healthResults s (sinceReset calls))
    let grace := max (max failure.toNat 1 - recorded) 1
    let failed := (healthResults s later).length
    ((after.status s).healthy = true ↔ failed < grace) ∧
      after.isAvailable s =
        Status.effective (after.status s).override (decide (failed < grace)) := by
  intro before after recorded grace failed
  have ht := Thresholds.reachable_ofConfigured failure recovery
  have hthresholds : (before.perform mark).thresholds = .ofConfigured failure recovery :=
    (thresholds_perform before mark).trans (thresholds_performAll _ calls)
  have hmarked : (before.perform mark).status s = (before.status s).presumed :=
    status_of_marks hmark
  have hfailures : ((before.perform mark).status s).failures = min recorded counterLimit := by
    rw [hmarked]
    exact failures_performAll _ calls s
  have hfailing : ((before.perform mark).status s).Failing (before.perform mark).thresholds failed
      (after.status s) := by
    refine failing_performAll ?_ ?_ ?_ hlater
    · rw [hthresholds]
      exact ht
    · rw [hmarked]
      rfl
    · rw [hfailures]
      exact Nat.min_le_right _ _
  have hgrace : ((before.perform mark).status s).grace (before.perform mark).thresholds = grace := by
    have hlimit := ht.failure_le
    rw [Status.grace, hfailures, hthresholds]
    simp only [Thresholds.ofConfigured] at hlimit ⊢
    omega
  have hhealthy : (after.status s).healthy = true ↔ failed < grace := by
    rw [hfailing.healthy_iff, hgrace]
  refine ⟨hhealthy, ?_⟩
  have hpublished : after.Published :=
    ((Published.new (.ofConfigured failure recovery)).performAll calls |>.perform mark).performAll
      later
  have hsignal : (after.status s).healthy = decide (failed < grace) := by
    rw [Bool.eq_iff_iff, hhealthy, decide_eq_true_eq]
  rw [hpublished s, Status.isAvailable, hsignal]

/-- With a threshold of three and one recorded failure, the first failure after the mark is
survived and the second one is not; results of others and overrides do not count. -/
theorem healthy_iff_of_marked_once :
    let before := (new (.ofConfigured 3 1)).performAll
      [.reset, .updateHealth 1 .cache true none, .updateHealth 2 .cache false none]
    let marked := before.perform (.markAvailable [.cache, .broker])
    let once := marked.performAll [.updateHealth 3 .database true none,
      .updateHealth 4 .cache false none, .setOverride .cache .noOverride]
    let twice := marked.performAll [.updateHealth 4 .cache false none,
      .updateHealth 5 .cache false none]
    once.isAvailable .cache = true ∧ ¬ (twice.status .cache).healthy = true := by
  intro before marked once twice
  have hafter := healthy_iff_of_marked 3 1
    [.reset, .updateHealth 1 .cache true none, .updateHealth 2 .cache false none]
  constructor
  · refine (hafter _ (.markAvailable [.cache, .broker]) .cache (by decide) (by decide)).2.trans ?_
    decide +kernel
  · rw [(hafter _ (.markAvailable [.cache, .broker]) .cache (by decide) (by decide)).1]
    decide +kernel

/-- The grace of a marked service is not always the whole threshold. -/
theorem not_full_grace_of_marked :
    ¬ ∀ (failure recovery : UInt32) (calls later : List AvailabilityCall) (mark : AvailabilityCall)
        (s : Service), mark.marks s = true → (∀ call ∈ later, call.onlyFails s = true) →
        let before := (new (.ofConfigured failure recovery)).performAll calls
        let after := (before.perform mark).performAll later
        (after.status s).healthy = true ↔ (healthResults s later).length < max failure.toNat 1 := by
  intro hall
  have hfull := hall 2 1 [.updateHealth 1 .database false none]
    [.updateHealth 2 .database false none] (.markAvailable [.database]) .database (by decide)
    (by decide)
  have hunhealthy :
      let before := (new (.ofConfigured 2 1)).performAll [.updateHealth 1 .database false none]
      let after := (before.perform (.markAvailable [.database])).performAll
        [.updateHealth 2 .database false none]
      ¬ (after.status .database).healthy = true := by
    decide +kernel
  exact hunhealthy (hfull.2 (by decide))

end AvailabilityRegistry

end ServicePlane

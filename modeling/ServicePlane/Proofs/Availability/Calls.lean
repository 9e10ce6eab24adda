import ServicePlane.Availability.Registry

/-!
# Calls on the availability registry

What each operation does to what a registry shows of a service: its status, its published flag, and
the thresholds that all services share.

* `Status.recorded` — the status after a health result, flip included;
* `status_updateHealth`, `isAvailable_updateHealth`, … — one equation an operation and view;
* `AvailabilityCall`, `AvailabilityRegistry.performAll` — sequences of operations.
-/

namespace ServicePlane

namespace Status

variable {s : Status} {t : Thresholds} {now : Nat} {healthy : Bool} {error : Option String}

/-- The status after a health result. -/
def recorded (s : Status) (t : Thresholds) (now : Nat) (healthy : Bool) (error : Option String) :
    Status :=
  let c := s.counted now healthy error
  if c.flips t healthy then { c with healthy := healthy } else c

theorem counted_healthy : (s.counted now healthy error).healthy = s.healthy := by
  cases healthy <;> rfl

theorem counted_override : (s.counted now healthy error).override = s.override := by
  cases healthy <;> rfl

/-- A result that flips the health signal says the opposite of it. -/
theorem healthy_of_flips (h : s.flips t healthy = true) : s.healthy = !healthy := by
  cases healthy with
  | true =>
      have hboth : s.healthy = false ∧ t.recovery ≤ s.successes := by
        simpa [flips] using h
      exact hboth.1
  | false =>
      have hboth : s.healthy = true ∧ t.failure ≤ s.failures := by
        simpa [flips] using h
      exact hboth.1

/-- A result is counted, and nothing but the health signal depends on whether it flips. -/
theorem recorded_eq :
    s.recorded t now healthy error =
      { s.counted now healthy error with
        healthy :=
          if (s.counted now healthy error).flips t healthy then healthy else s.healthy } := by
  rw [recorded]
  split
  · rfl
  · rw [← @counted_healthy s now healthy error]

theorem recorded_healthy :
    (s.recorded t now healthy error).healthy =
      if (s.counted now healthy error).flips t healthy then healthy else s.healthy := by
  rw [recorded_eq]

theorem recorded_failures :
    (s.recorded t now healthy error).failures = (s.counted now healthy error).failures := by
  rw [recorded_eq]

theorem recorded_successes :
    (s.recorded t now healthy error).successes = (s.counted now healthy error).successes := by
  rw [recorded_eq]

theorem recorded_lastError :
    (s.recorded t now healthy error).lastError = if healthy then none else error := by
  rw [recorded_eq]
  cases healthy <;> rfl

theorem recorded_override : (s.recorded t now healthy error).override = s.override := by
  rw [recorded_eq]
  exact counted_override

/-- The health signal changes exactly when the result flips it. -/
theorem recorded_healthy_ne_iff :
    (s.recorded t now healthy error).healthy ≠ s.healthy ↔
      (s.counted now healthy error).flips t healthy = true := by
  rw [recorded_healthy]
  cases hflips : (s.counted now healthy error).flips t healthy with
  | true =>
      have hopposite : s.healthy = !healthy := by
        rw [← @counted_healthy s now healthy error]
        exact healthy_of_flips hflips
      simp [hopposite]
  | false =>
      simp

/-- A result that does not flip the health signal leaves the availability as it is. -/
theorem recorded_isAvailable_of_not_flips
    (h : (s.counted now healthy error).flips t healthy = false) :
    (s.recorded t now healthy error).isAvailable = s.isAvailable := by
  have hhealthy : (s.recorded t now healthy error).healthy = s.healthy := by
    simp [recorded_healthy, h]
  rw [isAvailable, isAvailable, hhealthy, recorded_override]

end Status

namespace AvailabilityRegistry

variable {r : AvailabilityRegistry} {s u : Service}

/-! ## Notification -/

/-- Notifying publishes on the feed and changes nothing else. -/
theorem notifyAll_eq (r : AvailabilityRegistry) (events : List AvailabilityEvent) :
    (r.notifyAll events).1 = { r with feed := events.foldl Feed.publish r.feed } := by
  induction events generalizing r with
  | nil =>
      rfl
  | cons e rest ih =>
      exact ih (r.notify e).1

/-! ## Health results -/

section UpdateHealth

variable {now : Nat} {healthy : Bool} {error : Option String}

/-- A health result is recorded, and published when it flips the health signal. -/
theorem updateHealth_cases (r : AvailabilityRegistry) (now : Nat) (s : Service) (healthy : Bool)
    (error : Option String) :
    let recorded := r.setStatus s ((r.status s).recorded r.thresholds now healthy error)
    let event := AvailabilityEvent.healthChanged s healthy
      ((r.status s).recorded r.thresholds now healthy error).lastError
    (((r.status s).counted now healthy error).flips r.thresholds healthy = true ∧
      (r.updateHealth now s healthy error).1 = ((recorded.publish s).notify event).1 ∧
      (r.updateHealth now s healthy error).2.2 = some event) ∨
    (((r.status s).counted now healthy error).flips r.thresholds healthy = false ∧
      (r.updateHealth now s healthy error).1 = recorded ∧
      (r.updateHealth now s healthy error).2.2 = none) := by
  intro recorded event
  cases hflips : ((r.status s).counted now healthy error).flips r.thresholds healthy with
  | true =>
      left
      refine ⟨rfl, ?_, ?_⟩ <;> simp [updateHealth, Status.recorded, hflips, recorded, event]
  | false =>
      right
      refine ⟨rfl, ?_, ?_⟩ <;> simp [updateHealth, Status.recorded, hflips, recorded]

theorem thresholds_updateHealth :
    (r.updateHealth now s healthy error).1.thresholds = r.thresholds := by
  rcases updateHealth_cases r now s healthy error with ⟨_, hregistry, _⟩ | ⟨_, hregistry, _⟩
  · rw [hregistry]
    rfl
  · rw [hregistry]
    rfl

theorem status_updateHealth :
    (r.updateHealth now s healthy error).1.status u =
      if u = s then (r.status s).recorded r.thresholds now healthy error else r.status u := by
  rcases updateHealth_cases r now s healthy error with ⟨_, hregistry, _⟩ | ⟨_, hregistry, _⟩
  · rw [hregistry]
    exact status_setStatus r s u _
  · rw [hregistry]
    exact status_setStatus r s u _

theorem isAvailable_updateHealth :
    (r.updateHealth now s healthy error).1.isAvailable u =
      if u = s ∧ ((r.status s).counted now healthy error).flips r.thresholds healthy = true then
        ((r.status s).recorded r.thresholds now healthy error).isAvailable
      else r.isAvailable u := by
  rcases updateHealth_cases r now s healthy error with
    ⟨hflips, hregistry, _⟩ | ⟨hflips, hregistry, _⟩
  · rw [hregistry]
    refine (isAvailable_publish _ s u).trans ?_
    simp [hflips]
  · rw [hregistry]
    simp [hflips]

/-- A health result returns an event exactly when it changes the health signal of its service, and
the event tells the new signal and the recorded error. -/
theorem updateHealth_event :
    (r.updateHealth now s healthy error).2.2 =
      let after := (r.updateHealth now s healthy error).1.status s
      if after.healthy = (r.status s).healthy then none
      else some (.healthChanged s after.healthy after.lastError) := by
  have hafter : (r.updateHealth now s healthy error).1.status s =
      (r.status s).recorded r.thresholds now healthy error := by
    simp [status_updateHealth]
  have hchanged := @Status.recorded_healthy_ne_iff (r.status s) r.thresholds now healthy error
  have hsignal := @Status.recorded_healthy (r.status s) r.thresholds now healthy error
  rw [hafter]
  rcases updateHealth_cases r now s healthy error with
    ⟨hflips, _, hevent⟩ | ⟨hflips, _, hevent⟩
  · rw [if_pos hflips] at hsignal
    rw [hevent, if_neg (hchanged.2 hflips), hsignal]
  · rw [if_neg (Bool.eq_false_iff.1 hflips)] at hsignal
    rw [hevent, if_pos hsignal]

end UpdateHealth

/-! ## Overrides -/

section SetOverride

variable {mode : OverrideMode}

theorem thresholds_setOverride : (r.setOverride s mode).1.thresholds = r.thresholds := by
  rw [setOverride]
  split <;> rfl

theorem status_setOverride :
    (r.setOverride s mode).1.status u =
      if u = s then { r.status s with override := mode } else r.status u := by
  rw [setOverride]
  split
  · rename_i hsame
    by_cases hu : u = s
    · simp [hu, ← hsame]
    · simp [hu]
  · exact status_setStatus r s u _

theorem isAvailable_setOverride :
    (r.setOverride s mode).1.isAvailable u =
      if u = s ∧ (r.status s).override ≠ mode then
        ({ r.status s with override := mode } : Status).isAvailable
      else r.isAvailable u := by
  rw [setOverride]
  split
  · rename_i hsame
    simp [hsame]
  · rename_i hother
    refine (isAvailable_publish _ s u).trans ?_
    simp [hother]

end SetOverride

/-! ## Taking services to be healthy -/

theorem thresholds_presume (services : List Service) :
    (r.presume services).1.thresholds = r.thresholds := by
  induction services generalizing r with
  | nil =>
      rfl
  | cons s rest ih =>
      exact ih (r := (r.setStatus s (r.status s).presumed).publish s)

theorem status_presume (services : List Service) :
    (r.presume services).1.status u =
      if u ∈ services then (r.status u).presumed else r.status u := by
  induction services generalizing r with
  | nil =>
      rfl
  | cons s rest ih =>
      have hrest := ih (r := (r.setStatus s (r.status s).presumed).publish s)
      simp only [presume, hrest, status_publish, status_setStatus, List.mem_cons]
      by_cases hu : u = s
      · -- A second mark of one service adds nothing.
        simp [hu, Status.presumed]
      · simp [hu]

theorem isAvailable_presume (services : List Service) :
    (r.presume services).1.isAvailable u =
      if u ∈ services then (r.status u).presumed.isAvailable else r.isAvailable u := by
  induction services generalizing r with
  | nil =>
      rfl
  | cons s rest ih =>
      have hrest := ih (r := (r.setStatus s (r.status s).presumed).publish s)
      simp only [presume, hrest, status_publish, status_setStatus, isAvailable_publish,
        List.mem_cons, isAvailable_setStatus]
      by_cases hu : u = s
      · simp [hu, Status.presumed]
      · simp [hu]

theorem markAvailable_eq (services : List Service) :
    (r.markAvailable services).1 =
      { (r.presume services).1 with
        feed := (r.presume services).2.foldl Feed.publish (r.presume services).1.feed } :=
  notifyAll_eq (r.presume services).1 (r.presume services).2

theorem thresholds_markAvailable (services : List Service) :
    (r.markAvailable services).1.thresholds = r.thresholds := by
  rw [markAvailable_eq]
  exact thresholds_presume services

theorem status_markAvailable (services : List Service) :
    (r.markAvailable services).1.status u =
      if u ∈ services then (r.status u).presumed else r.status u := by
  rw [markAvailable_eq]
  exact status_presume services

theorem isAvailable_markAvailable (services : List Service) :
    (r.markAvailable services).1.isAvailable u =
      if u ∈ services then (r.status u).presumed.isAvailable else r.isAvailable u := by
  rw [markAvailable_eq]
  exact isAvailable_presume services

/-! ## Reset -/

@[simp]
theorem status_new (t : Thresholds) : (new t).status s = .initial :=
  PerService.get_ofFn _ s

@[simp]
theorem isAvailable_new (t : Thresholds) : (new t).isAvailable s = false :=
  PerService.get_ofFn _ s

@[simp]
theorem status_reset : r.reset.status s = .initial :=
  PerService.get_ofFn _ s

@[simp]
theorem isAvailable_reset : r.reset.isAvailable s = Status.initial.isAvailable :=
  PerService.get_ofFn _ s

end AvailabilityRegistry

/-! ## Sequences of operations -/

/-- An operation on the availability registry. A health result comes in at some time. -/
inductive AvailabilityCall where
  | updateHealth (now : Nat) (service : Service) (healthy : Bool) (error : Option String)
  | setOverride (service : Service) (mode : OverrideMode)
  | markAvailable (services : List Service)
  | markAllAvailable
  | reset
  deriving DecidableEq, Repr

namespace AvailabilityRegistry

/-- Take one call. -/
def perform (r : AvailabilityRegistry) : AvailabilityCall → AvailabilityRegistry
  | .updateHealth now s healthy error => (r.updateHealth now s healthy error).1
  | .setOverride s mode => (r.setOverride s mode).1
  | .markAvailable services => (r.markAvailable services).1
  | .markAllAvailable => r.markAllAvailable.1
  | .reset => r.reset

/-- Take some calls, one after the other. -/
def performAll (r : AvailabilityRegistry) (calls : List AvailabilityCall) : AvailabilityRegistry :=
  calls.foldl perform r

@[simp]
theorem performAll_concat (r : AvailabilityRegistry) (calls : List AvailabilityCall)
    (call : AvailabilityCall) :
    r.performAll (calls ++ [call]) = (r.performAll calls).perform call := by
  simp [performAll]

@[simp]
theorem performAll_append (r : AvailabilityRegistry) (left right : List AvailabilityCall) :
    r.performAll (left ++ right) = (r.performAll left).performAll right :=
  List.foldl_append

theorem thresholds_perform (r : AvailabilityRegistry) (call : AvailabilityCall) :
    (r.perform call).thresholds = r.thresholds := by
  cases call with
  | updateHealth now s healthy error =>
      exact thresholds_updateHealth
  | setOverride s mode =>
      exact thresholds_setOverride
  | markAvailable services =>
      exact thresholds_markAvailable services
  | markAllAvailable =>
      exact thresholds_markAvailable Service.all
  | reset =>
      rfl

theorem thresholds_performAll (r : AvailabilityRegistry) (calls : List AvailabilityCall) :
    (r.performAll calls).thresholds = r.thresholds := by
  induction calls generalizing r with
  | nil =>
      rfl
  | cons call rest ih =>
      exact (ih (r.perform call)).trans (thresholds_perform r call)

end AvailabilityRegistry

end ServicePlane

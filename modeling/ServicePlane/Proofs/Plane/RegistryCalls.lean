import ServicePlane.Proofs.Plane.Lasting

/-!
# What the operations of a plane do to its registry

A plane takes calls of its users, and its monitor records health results meanwhile. Whatever comes
of it, the registry of availability only ever takes calls of its own: `reaches_performAll`. So what
holds of a registry after all sequences of its own calls holds in all planes.

* `AvailabilityRegistry.Reaches` — some calls lead from one registry to another;
* `PlaneCall`, `Plane.performAll` — sequences of operations on a plane;
* `Lasting.perform` — what lasts is kept by every operation that is not one on the registry;
* `lasting_reaches` — the clock and the cycles use the registry by its calls only.
-/

namespace ServicePlane

/-! ## Reaching a registry -/

/-- Some calls lead from one registry to the other. -/
def AvailabilityRegistry.Reaches (r r' : AvailabilityRegistry) : Prop :=
  ∃ calls, r.performAll calls = r'

namespace AvailabilityRegistry.Reaches

variable {r r' r'' : AvailabilityRegistry}

theorem refl (r : AvailabilityRegistry) : r.Reaches r :=
  ⟨[], rfl⟩

theorem single (call : AvailabilityCall) : r.Reaches (r.perform call) :=
  ⟨[call], rfl⟩

theorem trans (h : r.Reaches r') (h' : r'.Reaches r'') : r.Reaches r'' := by
  rcases h with ⟨calls, rfl⟩
  rcases h' with ⟨calls', rfl⟩
  exact ⟨calls ++ calls', performAll_append r calls calls'⟩

end AvailabilityRegistry.Reaches

/-! ## Sequences of operations -/

/-- An operation on a plane: on its registry, on its monitor, on the clock, or on the network around
it. -/
inductive PlaneCall where
  | updateHealth (service : Service) (healthy : Bool) (error : Option String)
  | setOverride (service : Service) (mode : OverrideMode)
  | markAvailable (services : List Service)
  | markAllAvailable
  | reset
  | registerCheck (service : Service) (check : Check)
  | runCycles (count : Nat)
  | triggerCheck
  | start
  | stop
  | replaceMonitor
  | settle
  | advance (milliseconds : Nat)
  | changeNetwork (network : Network)

/-- Whether an operation is one on the registry. -/
def PlaneCall.onRegistry : PlaneCall → Bool
  | .updateHealth _ _ _ | .setOverride _ _ | .markAvailable _ | .markAllAvailable | .reset => true
  | _ => false

namespace Plane

open AvailabilityRegistry

/-- Take one call. -/
def perform (p : Plane) : PlaneCall → Plane
  | .updateHealth s healthy error => (p.updateHealth s healthy error).2
  | .setOverride s mode => (p.setOverride s mode).2
  | .markAvailable services => p.markAvailable services
  | .markAllAvailable => p.markAvailable Service.all
  | .reset => p.reset
  | .registerCheck s check => p.registerCheck s check
  | .runCycles count => (p.runCycles count).2
  | .triggerCheck => p.triggerCheck.2
  | .start => p.start
  | .stop => p.stop.2
  | .replaceMonitor => p.replaceMonitor
  | .settle => p.settle
  | .advance milliseconds => p.advance milliseconds
  | .changeNetwork network => { p with network := network }

/-- Take some calls, one after the other. -/
def performAll (p : Plane) (calls : List PlaneCall) : Plane :=
  calls.foldl perform p

theorem Lasting.perform {P : Plane → Prop} (hP : Lasting P) {p : Plane} (h : P p)
    {call : PlaneCall} (hcall : call.onRegistry = false) : P (p.perform call) := by
  cases call with
  | registerCheck s check =>
      exact hP.registerCheck h s check
  | runCycles count =>
      exact hP.runCycles h count
  | triggerCheck =>
      exact hP.triggerCheck h
  | start =>
      exact hP.start h
  | stop =>
      exact hP.stop h
  | replaceMonitor =>
      exact hP.of_eq h rfl rfl
  | settle =>
      exact hP.runSteps h _ _ _
  | advance milliseconds =>
      exact hP.of_eq (hP.runSteps h _ _ _) rfl rfl
  | changeNetwork network =>
      exact hP.of_eq h rfl rfl
  | _ =>
      cases hcall

/-- Only a cycle that is over touches the registry, and then by calls. -/
theorem lasting_reaches (r : AvailabilityRegistry) : Lasting fun p => r.Reaches p.registry where
  of_eq := by
    intro p q h hregistry _
    rw [hregistry]
    exact h
  tell_log := fun h _ => h
  land := by
    intro p h f
    rw [land_eq]
    exact h.trans ⟨f.results.map (CheckResult.update p.now), rfl⟩

theorem reaches_perform (p : Plane) (call : PlaneCall) :
    p.registry.Reaches (p.perform call).registry := by
  cases call with
  | updateHealth s healthy error =>
      exact .single (.updateHealth p.now s healthy error)
  | setOverride s mode =>
      exact .single (.setOverride s mode)
  | markAvailable services =>
      exact .single (.markAvailable services)
  | markAllAvailable =>
      exact .single .markAllAvailable
  | reset =>
      exact .single .reset
  | _ =>
      exact (lasting_reaches p.registry).perform (.refl p.registry) rfl

/-- Whatever happens to a plane, its registry takes calls of its own only. -/
theorem reaches_performAll (p : Plane) (calls : List PlaneCall) :
    p.registry.Reaches (p.performAll calls).registry := by
  induction calls generalizing p with
  | nil =>
      exact .refl p.registry
  | cons call rest ih =>
      exact (reaches_perform p call).trans (ih (p.perform call))

end Plane

end ServicePlane

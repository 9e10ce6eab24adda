import ServicePlane.Availability.Gate
import ServicePlane.Monitor.State

/-!
# The plane

Everything that the components of the plane share: the clock, the network around it, the registry
of availability, the monitor that feeds it, and what all of them have told so far.
-/

namespace ServicePlane

/-- The state of the plane. -/
structure Plane where
  /-- The clock, in milliseconds. -/
  now : Nat
  network : Network
  registry : AvailabilityRegistry
  monitor : Monitor
  /-- How often the checks of each service have been called. -/
  calls : PerService Nat
  telemetry : Telemetry

namespace Plane

def new (network : Network) (thresholds : Thresholds) (settings : MonitorSettings) : Plane where
  now := 0
  network := network
  registry := .new thresholds
  monitor := .new settings
  calls := .ofFn fun _ => 0
  telemetry := []

def tell (p : Plane) (notices : Telemetry) : Plane :=
  { p with telemetry := p.telemetry ++ notices }

/-! ## Operations on the registry -/

def updateHealth (p : Plane) (s : Service) (healthy : Bool) (error : Option String) :
    Option AvailabilityEvent × Plane :=
  let (registry, told, event) := p.registry.updateHealth p.now s healthy error
  (event, { p.tell told with registry := registry })

/-- Set an override. The result says whether the mode is another one. -/
def setOverride (p : Plane) (s : Service) (mode : OverrideMode) : Bool × Plane :=
  let (registry, told, changed) := p.registry.setOverride s mode
  (changed, { p.tell told with registry := registry })

def markAvailable (p : Plane) (services : List Service) : Plane :=
  let (registry, told) := p.registry.markAvailable services
  { p.tell told with registry := registry }

def reset (p : Plane) : Plane :=
  { p with registry := p.registry.reset }

/-- Let a request pass that depends on these services, or reject it. -/
def checkGate (p : Plane) (gate : Gate) (required : List Service) :
    Except ServiceUnavailable Unit × Plane :=
  let (verdict, told) := gate.check p.registry required
  (verdict, p.tell told)

/-! ## Registration of checks -/

/-- Register the check of a service, in the place of any other. -/
def registerCheck (p : Plane) (s : Service) (check : Check) : Plane :=
  let record (level : LogLevel) (message : String) : Notice :=
    .logged ⟨level, "control_plane::health::monitor", message, [(.service, s.name)]⟩
  let told :=
    if (p.monitor.checks.get s).isSome then record .warn "Replaced existing health check"
    else record .debug "Registered health check"
  { p.tell [told] with
    monitor := { p.monitor with checks := p.monitor.checks.set s (some check) } }

end Plane

end ServicePlane

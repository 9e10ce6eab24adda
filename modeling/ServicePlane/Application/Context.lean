import ServicePlane.Lifecycle.Registry
import ServicePlane.Lifecycle.Script
import ServicePlane.Plane.Settings

/-!
# The hooks of the plane

What the lifecycle of a configured plane consists of. Every configured service has a startup hook
that probes its address and registers its health check. The health monitor starts after all of them
and is the only one that has to be shut down.

* `Context` — what the hooks act on;
* `Context.startService`, `startMonitor`, `stopMonitor` — the actions;
* `buildLifecycle` — the registry of the hooks.
-/

namespace ServicePlane

/-- What hooks act on: the configuration, the plane, and the journal of scripted hooks. -/
structure Context where
  config : PlaneConfig
  plane : Plane
  journal : Journal

namespace Context

def new (config : PlaneConfig) (network : Network) : Context where
  config := config
  plane := config.plane network
  journal := .empty

def gate (c : Context) : Gate :=
  c.config.gate.gate

def tell (c : Context) (notices : Telemetry) : Context :=
  { c with plane := c.plane.tell notices }

def log (level : LogLevel) (message : String) (fields : List (LogField × String)) : Notice :=
  .logged ⟨level, "control_plane::app", message, fields⟩

/-! ## Actions -/

/-- Probe a service, and register its health check whatever comes of it. A service that is not
required counts a failure when it cannot be reached. -/
def startService (e : ServiceConfig) (c : Context) : HookResult × Context :=
  let r := probe c.plane.network e.address (e.connectTimeoutSecs.toNat * 1000)
  -- The check is registered even if the service is down: it may come up later.
  let plane := (c.plane.advance r.duration).registerCheck e.name
    (.tcp e.address (c.config.health.timeoutSecs.toNat * 1000))
  match r.outcome with
  | .ok () =>
      (.reported .started,
        { c with plane := plane.tell [log .info "Service reachable" [(.service, e.name.name)]] })
  | .error error =>
      if e.required then (.reported (.failed true error), { c with plane := plane })
      else
        let told := [log .warn "Optional service unreachable"
          [(.service, e.name.name), (.error, error)]]
        let (_, plane) := (plane.tell told).updateHealth e.name false (some error)
        (.reported (.failed false error), { c with plane := plane })

/-- The services without a recorded failure. -/
def unfailedServices (r : AvailabilityRegistry) : List Service :=
  Service.all.filter fun s => (r.status s).failures = 0

/-- Start the health monitor. With an optimistic boot, services count as available until there are
results; those that have failed already do not. -/
def startMonitor (c : Context) : HookResult × Context :=
  let plane :=
    if c.config.health.optimisticBoot then
      c.plane.markAvailable (unfailedServices c.plane.registry)
    else c.plane
  (.reported .started, { c with plane := plane.start })

def stopMonitor (c : Context) : HookResult × Context :=
  let (stopped, plane) := c.plane.stop
  let outcome : HookOutcome := if stopped then .started else .skipped "health monitor was not running"
  (.reported outcome, { c with plane := plane })

end Context

/-! ## The lifecycle -/

def monitorHookName : String := "health_monitor"

/-- The place of the health monitor in the startup sequence. -/
def monitorHookOrder : Int32 := 900

def ServiceConfig.hookSpec (e : ServiceConfig) : HookSpec :=
  .of e.name.name e.startupOrder (e.requires.map Service.name)

/-- What the startup hook of the health monitor declares: it requires every configured service. -/
def PlaneConfig.monitorHookSpec (c : PlaneConfig) : HookSpec :=
  .of monitorHookName monitorHookOrder (c.services.map fun e => e.name.name)

def registerServices (r : LifecycleRegistry Context) :
    List ServiceConfig → Except LifecycleError (LifecycleRegistry Context × Telemetry)
  | [] => .ok (r, [])
  | e :: rest => do
      let (r, told) ← r.register .startup e.hookSpec (Context.startService e)
      let (r, toldLater) ← registerServices r rest
      return (r, told ++ toldLater)

def buildLifecycle (c : PlaneConfig) :
    Except LifecycleError (LifecycleRegistry Context × Telemetry) := do
  let (r, services) ← registerServices .empty c.services
  let (r, started) ← r.register .startup c.monitorHookSpec Context.startMonitor
  let (r, stopped) ← r.register .shutdown (.named monitorHookName) Context.stopMonitor
  return (r, services ++ started ++ stopped)

end ServicePlane

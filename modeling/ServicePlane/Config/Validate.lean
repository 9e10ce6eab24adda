import ServicePlane.Config.Basic
import ServicePlane.Net.SocketAddress
import ServicePlane.Text.Blank
import ServicePlane.Text.Quoted

/-!
# Validation of a configuration

A configuration that can be read may still make no sense. `PlaneConfig.faults` lists everything
that is wrong with one: addresses that are none, numbers that must not be zero, a timeout that
exceeds the interval, services that are configured twice or have no address, and requirements that
are not configured.
-/

namespace ServicePlane

/-- One thing that is wrong with a configuration. -/
inductive ConfigFault where
  | invalidAddress (field value : String)
  | zero (field : String)
  | timeoutExceedsInterval (timeout interval : UInt64)
  | duplicateService (service : Service)
  | emptyAddress (service : Service)
  | unknownDependency (service dependency : Service)
  deriving DecidableEq, Repr

namespace ConfigFault

def message : ConfigFault → String
  | invalidAddress field value => s!"{field}: invalid socket address '{value}'"
  | zero field => s!"{field} must be greater than zero"
  | timeoutExceedsInterval timeout interval =>
      s!"health.timeout_secs ({timeout}) must not exceed health.interval_secs ({interval})"
  | duplicateService s => s!"service '{s.name}' is configured more than once"
  | emptyAddress s => s!"service '{s.name}' has an empty address"
  | unknownDependency s d => s!"service '{s.name}' requires '{d.name}', which is not configured"

/-- The structural description of a fault. -/
def describe : ConfigFault → String
  | invalidAddress field value =>
      "InvalidAddress \x7b field: " ++ Text.quoted field ++ ", value: " ++ Text.quoted value ++ " \x7d"
  | zero field => "Zero \x7b field: " ++ Text.quoted field ++ " \x7d"
  | timeoutExceedsInterval timeout interval =>
      s!"TimeoutExceedsInterval \x7b timeout: {timeout}, interval: {interval} \x7d"
  | duplicateService s => s!"DuplicateService({s.constructorName})"
  | emptyAddress s => s!"EmptyAddress({s.constructorName})"
  | unknownDependency s d =>
      s!"UnknownDependency \x7b service: {s.constructorName}, dependency: {d.constructorName} \x7d"

end ConfigFault

namespace PlaneConfig

/-- The addresses that are used, with the names of their fields. -/
def usedAddresses (c : PlaneConfig) : List (String × String) :=
  [("server.bind_address", c.server.bindAddress)] ++
    (if c.admin.enabled then [("admin.bind_address", c.admin.bindAddress)] else []) ++
    (if c.observability.metricsEnabled then
      [("observability.metrics_address", c.observability.metricsAddress)]
    else [])

/-- The numbers that must not be zero, with the names of their fields. -/
def positiveNumbers (c : PlaneConfig) : List (String × Nat) :=
  [("health.interval_secs", c.health.intervalSecs.toNat),
    ("health.timeout_secs", c.health.timeoutSecs.toNat),
    ("health.failure_threshold", c.health.failureThreshold.toNat),
    ("health.recovery_threshold", c.health.recoveryThreshold.toNat)]

def addressFaults (c : PlaneConfig) : List ConfigFault :=
  (c.usedAddresses.filter fun a => (SocketAddress.parse? a.2).isNone).map
    fun a => .invalidAddress a.1 a.2

def numberFaults (c : PlaneConfig) : List ConfigFault :=
  (c.positiveNumbers.filter fun n => n.2 = 0).map (fun n => .zero n.1) ++
    if c.health.intervalSecs < c.health.timeoutSecs then
      [.timeoutExceedsInterval c.health.timeoutSecs c.health.intervalSecs]
    else []

/-- The faults of the entries themselves, after others for these services. -/
def entryFaults : (seen : List Service) → List ServiceConfig → List ConfigFault
  | _, [] => []
  | seen, e :: rest =>
      (if e.name ∈ seen then [.duplicateService e.name] else []) ++
        (if Text.isBlank e.address then [.emptyAddress e.name] else []) ++
        entryFaults (e.name :: seen) rest

/-- The requirements of entries that are not among the configured services. -/
def dependencyFaults (configured : List Service) (entries : List ServiceConfig) :
    List ConfigFault :=
  entries.flatMap fun e =>
    (e.requires.filter fun d => d ∉ configured).map (.unknownDependency e.name)

def faults (c : PlaneConfig) : List ConfigFault :=
  c.addressFaults ++ c.numberFaults ++ entryFaults [] c.services ++
    dependencyFaults (c.services.map (·.name)) c.services

/-- Accept a configuration, or list what is wrong with it. -/
def validate (c : PlaneConfig) : Except (List ConfigFault) Unit :=
  match c.faults with
  | [] => .ok ()
  | faults => .error faults

end PlaneConfig

end ServicePlane

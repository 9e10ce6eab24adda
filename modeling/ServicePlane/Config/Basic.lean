import ServicePlane.Service

/-!
# The configuration of the plane

What an operator can configure, section by section, each with its defaults. A service entry has to
give its name and address; everything else may be left out.
-/

namespace ServicePlane

/-- The listener for everybody. -/
structure ServerConfig where
  bindAddress : String
  deriving DecidableEq, Repr

/-- The health monitor and the thresholds of the hysteresis. -/
structure HealthConfig where
  /-- Seconds between check cycles. -/
  intervalSecs : UInt64
  /-- Seconds that a cycle waits for a check. -/
  timeoutSecs : UInt64
  /-- Seconds that a stop waits for the monitor. -/
  stopGraceSecs : UInt64
  failureThreshold : UInt32
  recoveryThreshold : UInt32
  /-- Whether services count as available before the first check. -/
  optimisticBoot : Bool
  deriving DecidableEq, Repr

/-- The availability gate. -/
structure GateConfig where
  /-- Seconds after which a rejected request may be retried. -/
  retryAfterSecs : UInt64
  /-- The services that readiness depends on; none stand for every required service. -/
  readinessServices : List Service
  deriving DecidableEq, Repr

/-- The operator interface. -/
structure AdminConfig where
  enabled : Bool
  apiKey : String
  bindAddress : String
  deriving DecidableEq, Repr

/-- How log lines are written. -/
inductive LogFormat where
  | pretty
  | json
  deriving DecidableEq, Repr

namespace LogFormat

/-- Every format, in the order in which messages list them. -/
def all : List LogFormat :=
  [pretty, json]

def name : LogFormat → String
  | pretty => "pretty"
  | json => "json"

def ofName? (text : String) : Option LogFormat :=
  all.find? fun f => f.name == text

theorem ofName?_name (f : LogFormat) : ofName? f.name = some f := by
  cases f <;> decide

end LogFormat

/-- Logs and metrics. -/
structure ObservabilityConfig where
  logLevel : String
  logFormat : LogFormat
  metricsEnabled : Bool
  metricsAddress : String
  deriving DecidableEq, Repr

/-- One managed service. -/
structure ServiceConfig where
  name : Service
  address : String
  startupOrder : Int32
  /-- The services that have to be up before this one starts. -/
  requires : List Service
  /-- Whether the process cannot start without it. -/
  required : Bool
  connectTimeoutSecs : UInt64
  deriving DecidableEq, Repr

/-- The whole configuration. -/
structure PlaneConfig where
  server : ServerConfig
  health : HealthConfig
  gate : GateConfig
  admin : AdminConfig
  observability : ObservabilityConfig
  services : List ServiceConfig
  deriving DecidableEq, Repr

/-! ## Defaults -/

namespace ServerConfig

def standard : ServerConfig where
  bindAddress := "0.0.0.0:8080"

end ServerConfig

namespace HealthConfig

def standard : HealthConfig where
  intervalSecs := 30
  timeoutSecs := 5
  stopGraceSecs := 5
  failureThreshold := 2
  recoveryThreshold := 1
  optimisticBoot := true

end HealthConfig

namespace GateConfig

def standard : GateConfig where
  retryAfterSecs := 30
  readinessServices := []

end GateConfig

namespace AdminConfig

/-- The default operator interface, which is off. -/
def standard : AdminConfig where
  enabled := false
  apiKey := "CHANGE_ME_IN_PRODUCTION"
  bindAddress := "127.0.0.1:8081"

end AdminConfig

namespace ObservabilityConfig

def standard : ObservabilityConfig where
  logLevel := "info"
  logFormat := .pretty
  metricsEnabled := false
  metricsAddress := "0.0.0.0:9090"

end ObservabilityConfig

namespace ServiceConfig

def named (name : Service) (address : String) : ServiceConfig where
  name := name
  address := address
  startupOrder := 50
  requires := []
  required := true
  connectTimeoutSecs := 5

end ServiceConfig

namespace PlaneConfig

def standard : PlaneConfig where
  server := .standard
  health := .standard
  gate := .standard
  admin := .standard
  observability := .standard
  services := []

def service? (c : PlaneConfig) (s : Service) : Option ServiceConfig :=
  c.services.find? fun e => e.name = s

def readinessServices (c : PlaneConfig) : List Service :=
  match c.gate.readinessServices with
  | [] => (c.services.filter (·.required)).map (·.name)
  | services => services

end PlaneConfig

end ServicePlane

import ServicePlane.Config.Basic
import ServicePlane.Document.Words

/-!
# Configuration documents

Every section is a record. A section reads each of its fields by name and keeps the default of a
field that is not there; it is written with all fields, so that reading gives it back.
-/

namespace ServicePlane

namespace ServerConfig

def fields : List (Field ServerConfig) :=
  [.of "bind_address" false readText fun a c => { c with bindAddress := a }]

def ofDocument (φ : Dialect) : Document → Except ReadError ServerConfig :=
  readRecord φ fields standard

def toJson (c : ServerConfig) : Json :=
  .object [("bind_address", .text c.bindAddress)]

end ServerConfig

namespace HealthConfig

def fields : List (Field HealthConfig) :=
  [.of "interval_secs" false readUInt64 fun a c => { c with intervalSecs := a },
    .of "timeout_secs" false readUInt64 fun a c => { c with timeoutSecs := a },
    .of "stop_grace_secs" false readUInt64 fun a c => { c with stopGraceSecs := a },
    .of "failure_threshold" false readUInt32 fun a c => { c with failureThreshold := a },
    .of "recovery_threshold" false readUInt32 fun a c => { c with recoveryThreshold := a },
    .of "optimistic_boot" false readBool fun a c => { c with optimisticBoot := a }]

def ofDocument (φ : Dialect) : Document → Except ReadError HealthConfig :=
  readRecord φ fields standard

def toJson (c : HealthConfig) : Json :=
  .object
    [("interval_secs", .nat c.intervalSecs.toNat),
      ("timeout_secs", .nat c.timeoutSecs.toNat),
      ("stop_grace_secs", .nat c.stopGraceSecs.toNat),
      ("failure_threshold", .nat c.failureThreshold.toNat),
      ("recovery_threshold", .nat c.recoveryThreshold.toNat),
      ("optimistic_boot", .bool c.optimisticBoot)]

end HealthConfig

namespace GateConfig

def fields (φ : Dialect) : List (Field GateConfig) :=
  [.of "retry_after_secs" false readUInt64 fun a c => { c with retryAfterSecs := a },
    .of "readiness_services" false (readList (Service.ofDocument φ))
      fun a c => { c with readinessServices := a }]

def ofDocument (φ : Dialect) : Document → Except ReadError GateConfig :=
  readRecord φ (fields φ) standard

def toJson (c : GateConfig) : Json :=
  .object
    [("retry_after_secs", .nat c.retryAfterSecs.toNat),
      ("readiness_services", .array (c.readinessServices.map Service.toJson))]

end GateConfig

namespace AdminConfig

def fields : List (Field AdminConfig) :=
  [.of "enabled" false readBool fun a c => { c with enabled := a },
    .of "api_key" false readText fun a c => { c with apiKey := a },
    .of "bind_address" false readText fun a c => { c with bindAddress := a }]

def ofDocument (φ : Dialect) : Document → Except ReadError AdminConfig :=
  readRecord φ fields standard

def toJson (c : AdminConfig) : Json :=
  .object
    [("enabled", .bool c.enabled),
      ("api_key", .text c.apiKey),
      ("bind_address", .text c.bindAddress)]

end AdminConfig

namespace LogFormat

def ofDocument (φ : Dialect) : Document → Except ReadError LogFormat :=
  readVariant φ ofName? (all.map name)

def toJson (f : LogFormat) : Json :=
  .text f.name

end LogFormat

namespace ObservabilityConfig

def fields (φ : Dialect) : List (Field ObservabilityConfig) :=
  [.of "log_level" false readText fun a c => { c with logLevel := a },
    .of "log_format" false (LogFormat.ofDocument φ) fun a c => { c with logFormat := a },
    .of "metrics_enabled" false readBool fun a c => { c with metricsEnabled := a },
    .of "metrics_address" false readText fun a c => { c with metricsAddress := a }]

def ofDocument (φ : Dialect) : Document → Except ReadError ObservabilityConfig :=
  readRecord φ (fields φ) standard

def toJson (c : ObservabilityConfig) : Json :=
  .object
    [("log_level", .text c.logLevel),
      ("log_format", c.logFormat.toJson),
      ("metrics_enabled", .bool c.metricsEnabled),
      ("metrics_address", .text c.metricsAddress)]

end ObservabilityConfig

namespace ServiceConfig

def fields (φ : Dialect) : List (Field ServiceConfig) :=
  [.of "name" true (Service.ofDocument φ) fun a c => { c with name := a },
    .of "address" true readText fun a c => { c with address := a },
    .of "startup_order" false readInt32 fun a c => { c with startupOrder := a },
    .of "requires" false (readList (Service.ofDocument φ)) fun a c => { c with requires := a },
    .of "required" false readBool fun a c => { c with required := a },
    .of "connect_timeout_secs" false readUInt64 fun a c => { c with connectTimeoutSecs := a }]

/-- Read an entry. The name and address it starts from are replaced, because both are required. -/
def ofDocument (φ : Dialect) : Document → Except ReadError ServiceConfig :=
  readRecord φ (fields φ) (named default "")

def toJson (c : ServiceConfig) : Json :=
  .object
    [("name", c.name.toJson),
      ("address", .text c.address),
      ("startup_order", .integer c.startupOrder.toInt),
      ("requires", .array (c.requires.map Service.toJson)),
      ("required", .bool c.required),
      ("connect_timeout_secs", .nat c.connectTimeoutSecs.toNat)]

end ServiceConfig

namespace PlaneConfig

def fields (φ : Dialect) : List (Field PlaneConfig) :=
  [.of "server" false (ServerConfig.ofDocument φ) fun a c => { c with server := a },
    .of "health" false (HealthConfig.ofDocument φ) fun a c => { c with health := a },
    .of "gate" false (GateConfig.ofDocument φ) fun a c => { c with gate := a },
    .of "admin" false (AdminConfig.ofDocument φ) fun a c => { c with admin := a },
    .of "observability" false (ObservabilityConfig.ofDocument φ)
      fun a c => { c with observability := a },
    .of "services" false (readList (ServiceConfig.ofDocument φ))
      fun a c => { c with services := a }]

def ofDocument (φ : Dialect) : Document → Except ReadError PlaneConfig :=
  readRecord φ (fields φ) standard

def toJson (c : PlaneConfig) : Json :=
  .object
    [("server", c.server.toJson),
      ("health", c.health.toJson),
      ("gate", c.gate.toJson),
      ("admin", c.admin.toJson),
      ("observability", c.observability.toJson),
      ("services", .array (c.services.map ServiceConfig.toJson))]

end PlaneConfig

end ServicePlane

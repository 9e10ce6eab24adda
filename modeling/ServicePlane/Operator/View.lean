import ServicePlane.Availability.Registry
import ServicePlane.Document.Words

/-!
# What an operator sees of a service

A `ServiceView` is the status of a service as the operator interface shows it: with the effective
availability beside the signal and the override it comes from, and with the information whether a
check is registered.
-/

namespace ServicePlane

/-- The status of a service as an operator sees it. -/
structure ServiceView where
  service : Service
  available : Bool
  healthAvailable : Bool
  overrideMode : OverrideMode
  consecutiveFailures : UInt32
  consecutiveSuccesses : UInt32
  /-- When the last health result came in, in seconds. -/
  lastCheck : Option UInt64
  lastError : Option String
  monitored : Bool
  deriving DecidableEq, Repr, Inhabited

namespace ServiceView

def ofStatus (service : Service) (status : Status) (monitored : Bool) : ServiceView where
  service := service
  available := status.isAvailable
  healthAvailable := status.healthy
  overrideMode := status.override
  consecutiveFailures := .ofNat status.failures
  consecutiveSuccesses := .ofNat status.successes
  lastCheck := status.lastCheck.map fun ms => .ofNat (ms / 1000)
  lastError := status.lastError
  monitored := monitored

def fields (φ : Dialect) : List (Field ServiceView) :=
  [.of "service" true (Service.ofDocument φ) fun a v => { v with service := a },
    .of "available" true readBool fun a v => { v with available := a },
    .of "health_available" true readBool fun a v => { v with healthAvailable := a },
    .of "override_mode" true (OverrideMode.ofDocument φ) fun a v => { v with overrideMode := a },
    .of "consecutive_failures" true readUInt32 fun a v => { v with consecutiveFailures := a },
    .of "consecutive_successes" true readUInt32 fun a v => { v with consecutiveSuccesses := a },
    .of "last_check_unix_secs" false (readOption readUInt64) fun a v => { v with lastCheck := a },
    .of "last_error" false (readOption readText) fun a v => { v with lastError := a },
    .of "monitored" true readBool fun a v => { v with monitored := a }]

def ofDocument (φ : Dialect) : Document → Except ReadError ServiceView :=
  readRecord φ (fields φ) default

def toJson (v : ServiceView) : Json :=
  .object
    [("service", v.service.toJson),
      ("available", .bool v.available),
      ("health_available", .bool v.healthAvailable),
      ("override_mode", v.overrideMode.toJson),
      ("consecutive_failures", .nat v.consecutiveFailures.toNat),
      ("consecutive_successes", .nat v.consecutiveSuccesses.toNat),
      ("last_check_unix_secs", .option (fun n : UInt64 => .nat n.toNat) v.lastCheck),
      ("last_error", .option .text v.lastError),
      ("monitored", .bool v.monitored)]

end ServiceView

end ServicePlane

import ServicePlane.Operator.View
import ServicePlane.Plane.Control

/-!
# What an operator sees of the plane

The views of all services, and a summary that counts them.
-/

namespace ServicePlane

def planeVersion : String := "0.1.0"

/-- The summary of a plane. -/
structure SystemStatus where
  version : String
  monitor : String
  available : Nat
  unavailable : Nat
  deriving DecidableEq, Repr

namespace SystemStatus

def toJson (s : SystemStatus) : Json :=
  .object
    [("version", .text s.version),
      ("monitor", .text s.monitor),
      ("available", .nat s.available),
      ("unavailable", .nat s.unavailable)]

end SystemStatus

namespace CheckResult

/-- A check result as a value; the error is left out when there is none. -/
def toJson (r : CheckResult) : Json :=
  .object
    ([("service", .text r.service.name), ("healthy", .bool r.healthy)] ++
      (r.error.map fun e => ("error", Json.text e)).toList)

end CheckResult

namespace Plane

def systemStatus (p : Plane) : SystemStatus where
  version := planeVersion
  monitor := p.monitor.stateName
  available := p.registry.availableCount
  unavailable := Service.all.length - p.registry.availableCount

def view (p : Plane) (s : Service) : ServiceView :=
  .ofStatus s (p.registry.status s) (p.monitor.registered.contains s)

def views (p : Plane) : List ServiceView :=
  Service.all.map p.view

end Plane

end ServicePlane

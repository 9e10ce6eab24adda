import ServicePlane.Config.Basic
import ServicePlane.Plane.Control

/-!
# A plane as configured

The parts of the configuration that the plane itself works with.
-/

namespace ServicePlane

namespace HealthConfig

def monitorSettings (c : HealthConfig) : MonitorSettings where
  interval := c.intervalSecs.toNat * 1000
  timeout := c.timeoutSecs.toNat * 1000
  grace := c.stopGraceSecs.toNat * 1000

def thresholds (c : HealthConfig) : Thresholds :=
  .ofConfigured c.failureThreshold c.recoveryThreshold

end HealthConfig

def GateConfig.gate (c : GateConfig) : Gate where
  retryAfter := c.retryAfterSecs.toNat * 1000

/-- A plane at the beginning of its time, as configured. -/
def PlaneConfig.plane (c : PlaneConfig) (network : Network) : Plane :=
  .new network c.health.thresholds c.health.monitorSettings

end ServicePlane

import ServicePlane.Service

/-!
# The status of a service

A service flips to unavailable after enough consecutive failures and back after enough consecutive
successes. An override replaces the health signal and leaves the counters alone.

* `Thresholds` — how long a run of equal results has to be to flip the signal;
* `Status.counted`, `Status.flips` — the status after one more health result, and whether that
  result flips the health signal;
* `Status.isAvailable` — the effective availability, in which an override wins over health.
-/

namespace ServicePlane

/-- How many consecutive results flip the health signal. -/
structure Thresholds where
  failure : Nat
  recovery : Nat
  deriving DecidableEq, Repr

namespace Thresholds

/-- Thresholds as configured; a flip takes at least one result. -/
def ofConfigured (failure recovery : UInt32) : Thresholds where
  failure := max failure.toNat 1
  recovery := max recovery.toNat 1

def standard : Thresholds :=
  ofConfigured 2 1

end Thresholds

/-- Counters stop at this value. -/
def counterLimit : Nat := 4294967295

/-- One more on a counter that stops at `counterLimit`. -/
def countUp (n : Nat) : Nat :=
  min (n + 1) counterLimit

/-- What is known about one service. -/
structure Status where
  /-- The health signal, after hysteresis. -/
  healthy : Bool
  override : OverrideMode
  /-- When the last health result came in, in milliseconds of the plane's clock. -/
  lastCheck : Option Nat
  /-- How many unhealthy results came in since the last healthy one. -/
  failures : Nat
  /-- How many healthy results came in since the last unhealthy one. -/
  successes : Nat
  /-- The error of the last result. -/
  lastError : Option String
  deriving DecidableEq, Repr

namespace Status

/-- What is known about a service before anything happened. -/
def initial : Status where
  healthy := false
  override := .noOverride
  lastCheck := none
  failures := 0
  successes := 0
  lastError := none

/-- The availability under an override mode of a service with this health signal. -/
def effective : OverrideMode → Bool → Bool
  | .forceEnable, _ => true
  | .forceDisable, _ => false
  | .noOverride, healthy => healthy

/-- The effective availability: an override wins over the health signal. -/
def isAvailable (s : Status) : Bool :=
  effective s.override s.healthy

/-- The status after a health result; the health signal is not flipped yet. -/
def counted (s : Status) (now : Nat) (healthy : Bool) (error : Option String) : Status :=
  if healthy then
    { s with
      lastCheck := some now
      lastError := none
      failures := 0
      successes := countUp s.successes }
  else
    { s with
      lastCheck := some now
      lastError := error
      successes := 0
      failures := countUp s.failures }

/-- Whether a counted result is the one that flips the health signal. -/
def flips (s : Status) (t : Thresholds) (healthy : Bool) : Bool :=
  if healthy then
    !s.healthy && decide (t.recovery ≤ s.successes)
  else
    s.healthy && decide (t.failure ≤ s.failures)

/-- The status of a service that is taken to be healthy before there are results. -/
def presumed (s : Status) : Status :=
  { s with healthy := true, successes := 1 }

end Status

end ServicePlane

import ServicePlane.Telemetry.Log
import ServicePlane.Telemetry.Metric

/-!
# What operations tell about themselves

Every operation of the plane hands back, besides its result, what it told its observers: recordings
of metrics and log records, in the order in which they were made.
-/

namespace ServicePlane

/-- One thing told to the observers. -/
inductive Notice where
  | measured (measurement : Measurement)
  | logged (record : LogRecord)
  deriving DecidableEq, Repr

/-- What an operation told, in order. -/
abbrev Telemetry := List Notice

namespace Telemetry

def measurements (t : Telemetry) : List Measurement :=
  t.filterMap fun
    | .measured m => some m
    | .logged _ => none

def records (t : Telemetry) : List LogRecord :=
  t.filterMap fun
    | .measured _ => none
    | .logged r => some r

/-- The value that a series shows after all of this. -/
def valueOf? (t : Telemetry) (m : Metric) : Option Nat :=
  Measurement.valueOf? m (measurements t)

@[simp]
theorem measurements_append (t u : Telemetry) :
    measurements (t ++ u) = measurements t ++ measurements u := by
  simp [measurements]

@[simp]
theorem records_append (t u : Telemetry) : records (t ++ u) = records t ++ records u := by
  simp [records]

end Telemetry

end ServicePlane

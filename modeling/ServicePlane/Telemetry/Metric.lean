import ServicePlane.Lifecycle.Hook
import ServicePlane.Service

/-!
# Metrics

The measurements the plane publishes. A `Metric` is one time series: what is measured, with the
labels that tell its series apart. A `Measurement` is one recording; `totals` sums up recordings
into the value every series shows at the end.
-/

namespace ServicePlane

/-- What makes the availability of a service change. -/
inductive TransitionCause where
  | health
  | override
  deriving DecidableEq, Repr

namespace TransitionCause

def label : TransitionCause → String
  | health => "health"
  | override => "override"

end TransitionCause

/-- One time series. -/
inductive Metric where
  /-- Whether a service is available at present. -/
  | serviceAvailable (service : Service)
  /-- How often a service changed, by cause and by the availability after the change. -/
  | serviceTransitions (service : Service) (cause : TransitionCause) (available : Bool)
  /-- How long the checks of a service took. -/
  | checkDuration (service : Service)
  /-- How many checks of a service failed. -/
  | checkFailures (service : Service)
  /-- How often a service was the reason to reject a request. -/
  | gateRejections (service : Service)
  /-- How long the runs of a hook took, by how they ended. -/
  | hookDuration (hook : String) (kind : HookKind) (outcome : String)
  deriving DecidableEq, Repr

namespace Metric

def name : Metric → String
  | serviceAvailable _ => "control_plane_service_available"
  | serviceTransitions _ _ _ => "control_plane_service_transitions_total"
  | checkDuration _ => "control_plane_health_check_duration_seconds"
  | checkFailures _ => "control_plane_health_check_failures_total"
  | gateRejections _ => "control_plane_gate_rejections_total"
  | hookDuration _ _ _ => "control_plane_hook_duration_seconds"

/-- The labels of a series, in the order in which they are published. -/
def labels : Metric → List (String × String)
  | serviceAvailable s => [("service", s.name)]
  | serviceTransitions s cause available =>
      [("service", s.name), ("cause", cause.label), ("available", toString available)]
  | checkDuration s => [("service", s.name)]
  | checkFailures s => [("service", s.name)]
  | gateRejections s => [("service", s.name)]
  | hookDuration hook kind outcome =>
      [("hook", hook), ("kind", kind.name), ("outcome", outcome)]

/-- A series as one word: its name, and its labels in braces. -/
def key (m : Metric) : String :=
  m.name ++ "\x7b" ++ ",".intercalate (m.labels.map fun l => l.1 ++ "=" ++ l.2) ++ "\x7d"

end Metric

/-- One recording of a series. -/
inductive Measurement where
  /-- A gauge takes a value. -/
  | gauge (metric : Metric) (value : Nat)
  /-- A counter grows by one. -/
  | count (metric : Metric)
  /-- A distribution gets one more sample; its size is a clock reading and is not kept. -/
  | sample (metric : Metric)
  deriving DecidableEq, Repr

namespace Measurement

def metric : Measurement → Metric
  | gauge m _ => m
  | count m => m
  | sample m => m

/-- The value of the series after the recording, from its value before. -/
def apply : Measurement → Option Nat → Nat
  | gauge _ value, _ => value
  | count _, before => before.getD 0 + 1
  | sample _, before => before.getD 0 + 1

/-- The value a series shows after some recordings, if any of them is one of it. -/
def valueOf? (m : Metric) (recorded : List Measurement) : Option Nat :=
  recorded.foldl (fun v r => if r.metric = m then some (r.apply v) else v) none

/-- The series that occur in some recordings, each once, by their first recording. -/
def series (recorded : List Measurement) : List Metric :=
  recorded.foldl (fun seen r => if r.metric ∈ seen then seen else seen ++ [r.metric]) []

def totals (recorded : List Measurement) : List (Metric × Nat) :=
  (series recorded).filterMap fun m => (valueOf? m recorded).map fun v => (m, v)

end Measurement

end ServicePlane

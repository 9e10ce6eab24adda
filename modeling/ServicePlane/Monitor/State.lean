import ServicePlane.Monitor.Check

/-!
# The health monitor

The monitor keeps one check per service and runs all of them in cycles that never overlap. Callers
ask for cycles of their own; a background loop asks for one at fixed intervals. Who cannot begin at
once waits in a queue, first come, first served.
-/

namespace ServicePlane

/-- The times of a monitor, in milliseconds. -/
structure MonitorSettings where
  /-- How long the loop sleeps between the end of a cycle and its next one. -/
  interval : Nat
  /-- How long a cycle waits for a check. -/
  timeout : Nat
  /-- How long a stop waits for the loop before it aborts it. -/
  grace : Nat
  deriving DecidableEq, Repr

namespace MonitorSettings

def standard : MonitorSettings where
  interval := 30000
  timeout := 5000
  grace := 5000

end MonitorSettings

/-- Who asks for a cycle. -/
inductive CycleOwner where
  /-- A caller, by the number of its request. -/
  | caller (ticket : Nat)
  /-- A background loop, by its number. -/
  | loop (id : Nat)
  deriving DecidableEq, Repr

/-- What a background loop is doing. -/
inductive LoopPhase where
  | sleeping (wakeAt : Nat)
  /-- It waits for its turn or runs its cycle. -/
  | cycling
  deriving DecidableEq, Repr

/-- A background loop. -/
structure MonitorLoop where
  id : Nat
  phase : LoopPhase
  stopRequested : Bool
  deriving DecidableEq, Repr

/-- A cycle that has begun: whose it is, when its last check is done, and what it will record. -/
structure CycleInFlight where
  owner : CycleOwner
  begun : Nat
  endsAt : Nat
  results : List CheckResult
  deriving DecidableEq, Repr

/-- The state of a monitor. -/
structure Monitor where
  settings : MonitorSettings
  checks : PerService (Option Check)
  /-- The published state: whether the monitor counts as running. -/
  running : Bool
  /-- The loop that the monitor will stop, if it has one. -/
  handle : Option Nat
  /-- The loops that are alive. -/
  loops : List MonitorLoop
  /-- The number of the next loop. -/
  nextLoop : Nat
  flight : Option CycleInFlight
  queue : List CycleOwner
  /-- The number of the next request for a cycle. -/
  nextTicket : Nat
  /-- The results that callers have been given, by the number of their request. -/
  delivered : List (Nat × List CheckResult)
  deriving DecidableEq, Repr

namespace Monitor

/-- A monitor without checks and without a loop. -/
def new (settings : MonitorSettings) : Monitor where
  settings := settings
  checks := .ofFn fun _ => none
  running := false
  handle := none
  loops := []
  nextLoop := 0
  flight := none
  queue := []
  nextTicket := 0
  delivered := []

/-- The services with a check, in order. -/
def registered (m : Monitor) : List Service :=
  Service.all.filter fun s => (m.checks.get s).isSome

def isAlive (m : Monitor) (id : Nat) : Bool :=
  m.loops.any fun l => l.id == id

def stateName (m : Monitor) : String :=
  if m.running then "running" else "stopped"

/-- The structural description of a monitor. -/
def describe (m : Monitor) : String :=
  "HealthMonitor \x7b state: " ++ (if m.running then "Running" else "Stopped") ++
    ", check_interval: " ++ Text.span m.settings.interval ++
    ", check_timeout: " ++ Text.span m.settings.timeout ++
    ", stop_grace: " ++ Text.span m.settings.grace ++
    ", services: [" ++ ", ".intercalate (m.registered.map Service.constructorName) ++ "] \x7d"

def mapLoop (m : Monitor) (id : Nat) (f : MonitorLoop → MonitorLoop) : Monitor :=
  { m with loops := m.loops.map fun l => if l.id == id then f l else l }

/-- End the loop with this number. Its cycle, if it has begun one, is dropped with it. -/
def abort (m : Monitor) (id : Nat) : Monitor :=
  { m with
    loops := m.loops.filter fun l => l.id != id
    flight := m.flight.filter fun f => f.owner != .loop id
    queue := m.queue.filter fun o => o != .loop id }

end Monitor

end ServicePlane

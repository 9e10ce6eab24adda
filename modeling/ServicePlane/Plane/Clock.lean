import ServicePlane.Plane.Basic

/-!
# The clock and the cycles

Time passes only when nothing is left to do, and then jumps to the next deadline. What can be done
at an instant is one of four things, tried in this order:

* `land?` — the cycle in flight is over: its results are recorded, all at once;
* `depart?` — no cycle is in flight and somebody waits: the first in the queue begins one;
* `retire?` — a sleeping loop that was asked to stop ends;
* `wake?` — a sleeping loop that is due joins the queue.

`run` does these things until a goal is reached, and lets the clock jump up to a limit.
-/

namespace ServicePlane

namespace Plane

def monitorLog (level : LogLevel) (message : String) (fields : List (LogField × String)) : Notice :=
  .logged ⟨level, "control_plane::health::monitor", message, fields⟩

/-! ## One cycle -/

/-- Call the checks of some services, each once. -/
def callChecks (p : Plane) : List Service → List (Service × Behaviour) × Plane
  | [] => ([], p)
  | s :: rest =>
      match p.monitor.checks.get s with
      | none => p.callChecks rest
      | some check =>
          let (behaviour, check) := check.call p.network
          let p := { p with
            monitor := { p.monitor with checks := p.monitor.checks.set s (some check) }
            calls := p.calls.set s (p.calls.get s + 1) }
          let (later, p) := p.callChecks rest
          ((s, behaviour) :: later, p)

/-- Begin a cycle: call every registered check. The cycle lasts as long as the slowest of them, but
for none longer than the timeout. -/
def beginCycle (p : Plane) (owner : CycleOwner) : Plane :=
  let timeout := p.monitor.settings.timeout
  let (called, p) := p.callChecks p.monitor.registered
  let longest := (called.map fun c => c.2.duration timeout).foldl max 0
  let results := called.map fun c => (⟨c.1, c.2.error? timeout⟩ : CheckResult)
  -- The results are known from the start, but nobody sees them before the cycle is over.
  { p with
    monitor := { p.monitor with
      flight := some { owner := owner, begun := p.now, endsAt := p.now + longest, results := results } } }

def recordResult (p : Plane) (r : CheckResult) : Plane :=
  let told : Telemetry :=
    .measured (.sample (.checkDuration r.service)) ::
      match r.error with
      | none => []
      | some error =>
          [.measured (.count (.checkFailures r.service)),
            monitorLog .debug "Health check failed"
              [(.service, r.service.name), (.error, error)]]
  ((p.tell told).updateHealth r.service r.healthy r.error).2

/-- Record the results of a cycle, in order. -/
def recordResults (p : Plane) (results : List CheckResult) : Plane :=
  let p := results.foldl recordResult p
  if results.isEmpty then p
  else p.tell [monitorLog .debug "Health check cycle complete" []]

/-! ## What can be done at an instant -/

/-- Let a cycle that is over go: record it, and give its owner what it waited for. -/
def land (p : Plane) (f : CycleInFlight) : Plane :=
  let p := p.recordResults f.results
  let m := { p.monitor with flight := none }
  match f.owner with
  | .caller ticket => { p with monitor := { m with delivered := m.delivered ++ [(ticket, f.results)] } }
  | .loop id =>
      { p with
        monitor := m.mapLoop id fun l => { l with phase := .sleeping (p.now + m.settings.interval) } }

/-- Let the cycle in flight go, if it is over. -/
def land? (p : Plane) : Option Plane :=
  match p.monitor.flight with
  | some f => if f.endsAt ≤ p.now then some (p.land f) else none
  | none => none

/-- Let the first in the queue begin its cycle, if none is in flight. -/
def depart? (p : Plane) : Option Plane :=
  match p.monitor.flight, p.monitor.queue with
  | none, owner :: waiting =>
      some ({ p with monitor := { p.monitor with queue := waiting } }.beginCycle owner)
  | _, _ => none

def isSleeping (l : MonitorLoop) : Bool :=
  match l.phase with
  | .sleeping _ => true
  | .cycling => false

/-- Let a sleeping loop end that was asked to stop. -/
def retire? (p : Plane) : Option Plane :=
  match p.monitor.loops.find? fun l => l.stopRequested && isSleeping l with
  | some l =>
      some ({ p with monitor := p.monitor.abort l.id }.tell
        [monitorLog .info "Health monitor received stop signal, exiting loop" []])
  | none => none

def isDue (now : Nat) (l : MonitorLoop) : Bool :=
  match l.phase with
  | .sleeping wakeAt => decide (wakeAt ≤ now)
  | .cycling => false

/-- Let a sleeping loop that is due join the queue. -/
def wake? (p : Plane) : Option Plane :=
  match p.monitor.loops.find? (isDue p.now) with
  | some l =>
      let m := p.monitor.mapLoop l.id fun l => { l with phase := .cycling }
      some { p with monitor := { m with queue := m.queue ++ [.loop l.id] } }
  | none => none

/-- Do one thing that can be done at this instant. -/
def tick? (p : Plane) : Option Plane :=
  p.land?.or (p.depart?.or (p.retire?.or p.wake?))

/-! ## Time -/

/-- The earlier of two deadlines. -/
def earlier : Option Nat → Option Nat → Option Nat
  | none, b => b
  | a, none => a
  | some a, some b => some (min a b)

/-- The next time at which something happens by itself. -/
def nextDeadline (p : Plane) : Option Nat :=
  let landing := p.monitor.flight.map (·.endsAt)
  p.monitor.loops.foldl
    (fun d l =>
      match l.phase with
      | .sleeping wakeAt => earlier d (some wakeAt)
      | .cycling => d)
    landing

/-- Whether the clock may jump to a time. -/
def within : (limit : Option Nat) → (time : Nat) → Bool
  | none, _ => true
  | some limit, time => decide (time ≤ limit)

/-- Do what can be done, for at most so many steps, until the goal is reached or nothing is left to
do at or before the limit. -/
def runSteps (goal : Plane → Bool) (limit : Option Nat) : (steps : Nat) → Plane → Plane
  | 0, p => p
  | steps + 1, p =>
      if goal p then p
      else
        match p.tick? with
        | some q => runSteps goal limit steps q
        | none =>
            -- Nothing is left to do at this instant, so the clock may jump.
            match p.nextDeadline with
            | none => p
            | some t =>
                if within limit t then runSteps goal limit steps { p with now := max p.now t }
                else p

/-- A number of steps that suffices for a span of time. With an interval of at least one
millisecond a loop needs at most five steps for each millisecond and five for the instant it
begins in, and each waiting caller needs three. Only a loop that never sleeps could need more: it
would keep the clock from moving. -/
def stepsFor (p : Plane) (milliseconds : Nat) : Nat :=
  8 * (milliseconds + 2) * (p.monitor.loops.length + 1) + 8 * (p.monitor.queue.length + 2)

/-- Do everything that can be done at this instant. -/
def settle (p : Plane) : Plane :=
  runSteps (fun _ => false) (some p.now) (p.stepsFor 0) p

/-- Let time pass, and do everything that is due. -/
def advance (p : Plane) (milliseconds : Nat) : Plane :=
  let limit := p.now + milliseconds
  let p := runSteps (fun _ => false) (some limit) (p.stepsFor milliseconds) p
  { p with now := limit }

end Plane

end ServicePlane

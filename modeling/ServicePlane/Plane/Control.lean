import ServicePlane.Plane.Clock

/-!
# Controlling the monitor

What callers do with the monitor. An operation that has to wait lets the clock run until it is
done.

* `runCycles` — ask for cycles at the same time and wait for all of them;
* `start`, `stop` — the background loop;
* `replaceMonitor` — a fresh monitor in the place of the old one.
-/

namespace ServicePlane

namespace Plane

/-! ## Cycles -/

/-- Put requests for cycles into the queue; their numbers. -/
def requestCycles (p : Plane) (count : Nat) : List Nat × Plane :=
  let tickets := List.range' p.monitor.nextTicket count
  (tickets, { p with
    monitor := { p.monitor with
      queue := p.monitor.queue ++ tickets.map .caller
      nextTicket := p.monitor.nextTicket + count } })

def areDelivered (tickets : List Nat) (p : Plane) : Bool :=
  tickets.all fun t => p.monitor.delivered.any fun d => d.1 == t

/-- The results that the request with this number was given. -/
def resultsOf (p : Plane) (ticket : Nat) : List CheckResult :=
  ((p.monitor.delivered.find? fun d => d.1 == ticket).map (·.2)).getD []

/-- Ask for some cycles at the same time, and wait for all of them; their results. -/
def runCycles (p : Plane) (count : Nat) : List (List CheckResult) × Plane :=
  let (tickets, p) := p.requestCycles count
  let p := runSteps (areDelivered tickets) none (p.stepsFor 0) p
  (tickets.map p.resultsOf, p)

/-- Run every registered check once; the results. -/
def runCycle (p : Plane) : List CheckResult × Plane :=
  let (results, p) := p.runCycles 1
  (results.flatten, p)

/-- Run a cycle now, outside the cadence of the loop. -/
def triggerCheck (p : Plane) : List CheckResult × Plane :=
  (p.tell [monitorLog .info "Manual health check triggered" []]).runCycle

/-! ## The background loop -/

def hasLoop (p : Plane) : Bool :=
  (p.monitor.handle.map p.monitor.isAlive).getD false

/-- Run one cycle and begin the background loop. Nothing happens when there is one. -/
def start (p : Plane) : Plane :=
  if p.hasLoop then
    p.tell [monitorLog .debug "Health monitor already running" []]
  else
    -- The first cycle is the caller's own; the loop begins by sleeping.
    let (_, p) := (p.tell [monitorLog .info "Health monitor starting" []]).runCycle
    let m := p.monitor
    let loop : MonitorLoop :=
      { id := m.nextLoop, phase := .sleeping (p.now + m.settings.interval), stopRequested := false }
    { p with
      monitor := { m with
        loops := m.loops ++ [loop]
        nextLoop := m.nextLoop + 1
        handle := some loop.id
        running := true } }

/-- Ask the loop with this number to stop and wait for it for at most the grace. A loop that is not
done before the grace is over is aborted. -/
def stopLoop (p : Plane) (id : Nat) : Plane :=
  let deadline := p.now + p.monitor.settings.grace
  let asked := { p with monitor := p.monitor.mapLoop id fun l => { l with stopRequested := true } }
  -- At the deadline itself the loop is aborted, even if it could end then.
  let waited :=
    if p.now < deadline then
      runSteps (fun p => !p.monitor.isAlive id) (some (deadline - 1))
        (asked.stepsFor p.monitor.settings.grace) asked
    else asked
  if waited.monitor.isAlive id then
    { waited with now := deadline, monitor := waited.monitor.abort id }.tell
      [monitorLog .warn "Health monitor did not stop in time, aborting" []]
  else
    waited.tell [monitorLog .info "Health monitor stopped" []]

/-- Stop the background loop. The result says whether there was one. -/
def stop (p : Plane) : Bool × Plane :=
  match p.monitor.handle with
  | none => (false, p)
  | some id =>
      let p := { p with monitor := { p.monitor with handle := none } }.stopLoop id
      (true, { p with monitor := { p.monitor with running := false } })

/-- Put a fresh monitor with the same times into the place of the monitor, which ends with its
loop. -/
def replaceMonitor (p : Plane) : Plane :=
  { p with monitor := .new p.monitor.settings }

end Plane

end ServicePlane

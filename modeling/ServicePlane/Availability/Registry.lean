import ServicePlane.Availability.Feed
import ServicePlane.Availability.Status
import ServicePlane.Telemetry.Notice

/-!
# The availability registry

One status per service, and beside it a flag per service from which requests read the effective
availability. Each operation that changes a status publishes the flag, and each actual transition
is notified once: in the log, in the metrics and on the feed.
-/

namespace ServicePlane

/-- The state of all services. -/
structure AvailabilityRegistry where
  thresholds : Thresholds
  statuses : PerService Status
  /-- The published effective availability of each service. -/
  flags : PerService Bool
  feed : Feed
  deriving DecidableEq, Repr

namespace AvailabilityRegistry

/-- A registry that knows nothing yet; no service is available. -/
def new (t : Thresholds) : AvailabilityRegistry where
  thresholds := t
  statuses := .ofFn fun _ => .initial
  flags := .ofFn fun _ => false
  feed := .empty

/-! ## Reading -/

def status (r : AvailabilityRegistry) (s : Service) : Status :=
  r.statuses.get s

/-- Whether a service is available, as published. -/
def isAvailable (r : AvailabilityRegistry) (s : Service) : Bool :=
  r.flags.get s

/-- The services of a list that are not available; order and repetitions are kept. -/
def unavailable (r : AvailabilityRegistry) (services : List Service) : List Service :=
  services.filter fun s => !r.isAvailable s

def availableCount (r : AvailabilityRegistry) : Nat :=
  Service.all.countP r.isAvailable

/-! ## Notification -/

def logTarget : String := "control_plane::availability::registry"

def log (level : LogLevel) (message : String) (fields : List (LogField × String)) : Notice :=
  .logged ⟨level, logTarget, message, fields⟩

/-- One transition of a service, by cause. -/
def transition (s : Service) (cause : TransitionCause) (available : Bool) : Notice :=
  .measured (.count (.serviceTransitions s cause available))

/-- What is told about an event. The availability told is the published one. -/
def announcement (r : AvailabilityRegistry) (e : AvailabilityEvent) : Telemetry :=
  let specific : Telemetry :=
    match e with
    | .healthChanged s true _ =>
        [log .info "Service recovered" [(.service, s.name)], transition s .health true]
    | .healthChanged s false error =>
        [log .warn "Service marked unavailable"
          [(.service, s.name), (.error, error.getD "unhealthy")], transition s .health false]
    | .overrideChanged s _ _ =>
        [log .warn "Service override changed" [(.service, s.name)],
          transition s .override (r.isAvailable s)]
  specific ++
    [.measured (.gauge (.serviceAvailable e.service) (if r.isAvailable e.service then 1 else 0))]

def notify (r : AvailabilityRegistry) (e : AvailabilityEvent) : AvailabilityRegistry × Telemetry :=
  ({ r with feed := r.feed.publish e }, r.announcement e)

/-- Publish and tell about several events, in order. -/
def notifyAll (r : AvailabilityRegistry) :
    List AvailabilityEvent → AvailabilityRegistry × Telemetry
  | [] => (r, [])
  | e :: rest =>
      let (r, told) := r.notify e
      let (r, toldLater) := r.notifyAll rest
      (r, told ++ toldLater)

/-! ## Changing -/

/-- Replace the status of a service; the flag stays as it is. -/
def setStatus (r : AvailabilityRegistry) (s : Service) (status : Status) : AvailabilityRegistry :=
  { r with statuses := r.statuses.set s status }

def publish (r : AvailabilityRegistry) (s : Service) : AvailabilityRegistry :=
  { r with flags := r.flags.set s (r.status s).isAvailable }

@[simp]
theorem status_setStatus (r : AvailabilityRegistry) (s t : Service) (status : Status) :
    (r.setStatus s status).status t = if t = s then status else r.status t :=
  PerService.get_set r.statuses s t status

@[simp]
theorem isAvailable_setStatus (r : AvailabilityRegistry) (s t : Service) (status : Status) :
    (r.setStatus s status).isAvailable t = r.isAvailable t :=
  rfl

@[simp]
theorem status_publish (r : AvailabilityRegistry) (s t : Service) :
    (r.publish s).status t = r.status t :=
  rfl

theorem isAvailable_publish (r : AvailabilityRegistry) (s t : Service) :
    (r.publish s).isAvailable t = if t = s then (r.status s).isAvailable else r.isAvailable t :=
  PerService.get_set r.flags s t (r.status s).isAvailable

/-- Record a health result. The event is there when the result flips the health signal. -/
def updateHealth (r : AvailabilityRegistry) (now : Nat) (s : Service) (healthy : Bool)
    (error : Option String) : AvailabilityRegistry × Telemetry × Option AvailabilityEvent :=
  let c := (r.status s).counted now healthy error
  if c.flips r.thresholds healthy then
    -- The flag is published first, so that whoever hears of the event reads the new value.
    let r := (r.setStatus s { c with healthy := healthy }).publish s
    let e := AvailabilityEvent.healthChanged s healthy c.lastError
    let (r, told) := r.notify e
    (r, told, some e)
  else
    (r.setStatus s c, [], none)

/-- Set the override of a service. The result says whether the mode is another one. -/
def setOverride (r : AvailabilityRegistry) (s : Service) (mode : OverrideMode) :
    AvailabilityRegistry × Telemetry × Bool :=
  let before := r.status s
  if before.override = mode then
    (r, [], false)
  else
    let r := (r.setStatus s { before with override := mode }).publish s
    let (r, told) := r.notify (.overrideChanged s before.override mode)
    (r, told, true)

/-- Take services to be healthy, one after the other; the events of those that were not. -/
def presume (r : AvailabilityRegistry) :
    List Service → AvailabilityRegistry × List AvailabilityEvent
  | [] => (r, [])
  | s :: rest =>
      let before := r.status s
      let (r, events) := ((r.setStatus s before.presumed).publish s).presume rest
      (r, if before.healthy then events else .healthChanged s true none :: events)

/-- Take services to be healthy before there are results. All of them change before any event is
notified. -/
def markAvailable (r : AvailabilityRegistry) (services : List Service) :
    AvailabilityRegistry × Telemetry :=
  let (r, events) := r.presume services
  let (r, told) := r.notifyAll events
  (r, log .info "Marked services available" [] :: told)

def markAllAvailable (r : AvailabilityRegistry) : AvailabilityRegistry × Telemetry :=
  r.markAvailable Service.all

/-- Return every service to its initial state, without telling. -/
def reset (r : AvailabilityRegistry) : AvailabilityRegistry :=
  { r with
    statuses := .ofFn fun _ => .initial
    flags := .ofFn fun _ => Status.initial.isAvailable }

/-- A new subscriber of the feed; its index. -/
def subscribe (r : AvailabilityRegistry) : Nat × AvailabilityRegistry :=
  let (i, feed) := r.feed.subscribe
  (i, { r with feed := feed })

def drain (r : AvailabilityRegistry) (subscriber : Nat) : List Delivery × AvailabilityRegistry :=
  let (received, feed) := r.feed.drain subscriber
  (received, { r with feed := feed })

end AvailabilityRegistry

end ServicePlane

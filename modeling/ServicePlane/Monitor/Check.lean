import ServicePlane.Net.Probe
import ServicePlane.Service
import ServicePlane.Task

/-!
# Health checks

A check of a service is called once per cycle. What a call does is a `Behaviour`: it ends after
some time with a verdict, or never. The cycle waits for it up to a timeout, and turns what it saw
into a `CheckResult`.
-/

namespace ServicePlane

/-- How a call of a check ends. -/
inductive Verdict where
  | healthy
  | unhealthy
  | failed (error : String)
  | panicked (message : Option String)
  deriving DecidableEq, Repr, Inhabited

/-- What a call of a check does. -/
inductive Behaviour where
  /-- It ends after so many milliseconds. -/
  | ends (delay : Nat) (verdict : Verdict)
  | hangs
  deriving DecidableEq, Repr, Inhabited

namespace Behaviour

/-- Wait before the rest of the behaviour. -/
def after (delay : Nat) : Behaviour → Behaviour
  | ends d v => ends (delay + d) v
  | hangs => hangs

/-- How long a cycle waits for the call. -/
def duration (timeout : Nat) : Behaviour → Nat
  | ends d _ => min d timeout
  | hangs => timeout

end Behaviour

/-- The result of one check within a cycle: the error, unless the service is healthy. -/
structure CheckResult where
  service : Service
  error : Option String
  deriving DecidableEq, Repr

namespace CheckResult

def healthy (r : CheckResult) : Bool :=
  r.error.isNone

end CheckResult

namespace Verdict

/-- The error a verdict stands for, if the service is not healthy. -/
def error? : Verdict → Option String
  | healthy => none
  | unhealthy => some "health check reported unhealthy"
  | failed error => some error
  | panicked message => some s!"health check panicked: {panicText message}"

end Verdict

namespace Behaviour

/-- The error a cycle with this timeout sees. A call that ends at the timeout is in time. -/
def error? (timeout : Nat) : Behaviour → Option String
  | ends d v => if d ≤ timeout then v.error? else some s!"health check timed out after {timeout}ms"
  | hangs => some s!"health check timed out after {timeout}ms"

end Behaviour

/-- A registered check. -/
inductive Check where
  /-- The n-th call does what the n-th entry of the script says; the last entry repeats, and without
  entries the service is healthy. `used` calls have been made. -/
  | scripted (script : List Behaviour) (used : Nat)
  /-- The service is healthy when its address accepts connections in time. -/
  | tcp (address : String) (timeout : Nat)
  deriving DecidableEq, Repr

namespace Check

/-- What the call after `used` others does by a script. -/
def scriptedBehaviour (script : List Behaviour) (used : Nat) : Behaviour :=
  (script[used]?.or script.getLast?).getD (.ends 0 .healthy)

/-- Call a check: what the call does, and the check as it is afterwards. -/
def call (network : Network) : Check → Behaviour × Check
  | scripted script used => (scriptedBehaviour script used, scripted script (used + 1))
  | tcp address timeout =>
      let p := probe network address timeout
      let verdict := match p.outcome with
        | .ok () => Verdict.healthy
        | .error e => .failed e
      (.ends p.duration verdict, tcp address timeout)

end Check

end ServicePlane

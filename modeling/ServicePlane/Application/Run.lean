import ServicePlane.Application.Context
import ServicePlane.Operator.Interface
import ServicePlane.Plane.Public

/-!
# One run of the plane

A run starts everything, serves until it is told to stop, and shuts everything down. Shutdown
happens on every way out: when startup fails, when a listener cannot be had, when a server fails,
and after serving.

* `Context.serve` — listen and serve, while something goes on;
* `run` — the whole run, with its result and its steps;
* `Context.answer?` — the answer to a request that comes over the network.
-/

namespace ServicePlane

/-- Why a run fails. -/
inductive RunError where
  | startup (error : LifecycleError)
  | serve (error : NetworkError)
  deriving DecidableEq, Repr

namespace RunError

def message : RunError → String
  | startup e => s!"startup failed: {e.message}"
  | serve e => s!"server failed: {e.message}"

/-- The structural description of an error. -/
def describe : RunError → String
  | startup e => s!"Startup({e.describe})"
  | serve e => s!"Serve({e.describe})"

end RunError

/-! ## Serving -/

/-- A web interface of the plane. -/
inductive WebInterface where
  | everybody
  | operators
  deriving DecidableEq, Repr

namespace WebInterface

def name : WebInterface → String
  | everybody => "public"
  | operators => "admin"

def address (c : PlaneConfig) : WebInterface → String
  | everybody => c.server.bindAddress
  | operators => c.admin.bindAddress

/-- The interfaces that a configuration asks for, in the order in which they begin to listen. -/
def configured (c : PlaneConfig) : List WebInterface :=
  if c.admin.enabled then [everybody, operators] else [everybody]

def log (i : WebInterface) (message : String) : Notice :=
  .logged ⟨.info, "control_plane::http::server", message, [(.server, i.name)]⟩

end WebInterface

/-- An interface that listens, and where. -/
structure Listener where
  interface : WebInterface
  address : SocketAddress
  deriving DecidableEq, Repr

/-- How the task of a server ends. -/
inductive ServerEnd where
  /-- It stops when it is told to. -/
  | stopped
  /-- It fails, before it has begun to serve or later. -/
  | failed (begun : Bool) (error : NetworkError)
  | panicked (report : String)
  deriving DecidableEq, Repr

namespace ServerEnd

/-- Whether the server has begun to serve. -/
def begun : ServerEnd → Bool
  | failed begun _ => begun
  | _ => true

def error? : ServerEnd → Option NetworkError
  | failed _ error => some error
  | _ => none

end ServerEnd

/-- The error of the last of some servers that has failed, if one has. -/
def lastFailure? (ends : WebInterface → ServerEnd) (interfaces : List WebInterface) :
    Option NetworkError :=
  (interfaces.filterMap fun i => (ends i).error?).getLast?

/-- Listen for some interfaces, one after the other, until one cannot listen: the listeners that
there are then, and the network with all of them or the error. -/
def listenAll (c : PlaneConfig) (n : Network) :
    List WebInterface → List Listener × Except NetworkError Network
  | [] => ([], .ok n)
  | i :: rest =>
      match n.listen (i.address c) with
      | .error e => ([], .error e)
      | .ok (a, n) =>
          let (listening, result) := listenAll c n rest
          (⟨i, a⟩ :: listening, result)

/-- Listen for all interfaces of a configuration. -/
def PlaneConfig.listen (c : PlaneConfig) (n : Network) :
    List Listener × Except NetworkError Network :=
  listenAll c n (WebInterface.configured c)

def closeAll (n : Network) (listening : List Listener) : Network :=
  listening.foldl (fun n l => n.close l.address) n

/-- What serving has come to: its result, and the listeners that there were. -/
structure ServeOutcome (α : Type) where
  result : Except NetworkError α
  listening : List Listener
  context : Context

namespace ServeOutcome

/-- What is told about serving that has failed. -/
def told {α : Type} (served : ServeOutcome α) : Telemetry :=
  match served.result with
  | .error e =>
      [.logged ⟨.error, "control_plane::app", "Serving failed, shutting down",
        [(.error, e.message)]⟩]
  | .ok _ => []

/-- The result of a run that has served and then shut down with this report. -/
def conclude {α : Type} (served : ServeOutcome α) (report : ShutdownReport) :
    Except RunError (α × ShutdownReport) :=
  match served.result with
  | .error e => .error (.serve e)
  | .ok a => .ok (a, report)

end ServeOutcome

namespace Context

def withNetwork (c : Context) (n : Network) : Context :=
  { c with plane := { c.plane with network := n } }

/-- What is told when the task of a server has ended. -/
def serverEnded (i : WebInterface) : ServerEnd → Notice
  | .stopped => i.log "HTTP server stopped"
  | .failed _ error => log .error "HTTP server failed" [(.error, error.message)]
  | .panicked report => log .error "HTTP server task panicked" [(.error, report)]

/-- Serve with listeners, on a network that has them, while something goes on, then stop. A server
that fails makes the result its error, a later one instead of an earlier one, but nobody looks at
the servers before everything is to stop. -/
def serveOn {α : Type} (c : Context) (listening : List Listener) (network : Network)
    (during : List Listener → Context → α × Context) (ends : WebInterface → ServerEnd) :
    Except NetworkError α × Context :=
  let interfaces := WebInterface.configured c.config
  let beginning := interfaces.filter fun i => (ends i).begun
  let (a, after) := during listening
    ((c.withNetwork network).tell (beginning.map (·.log "HTTP server starting")))
  let after := after.tell (interfaces.map fun i => serverEnded i (ends i))
  let result :=
    match lastFailure? ends interfaces with
    | some e => .error e
    | none => .ok a
  (result, after.withNetwork (closeAll after.plane.network listening))

/-- Listen and serve while something goes on, then stop. Nothing goes on when an interface cannot
listen: serving begins only when all listeners are there. -/
def serve {α : Type} (c : Context) (during : List Listener → Context → α × Context)
    (ends : WebInterface → ServerEnd) : ServeOutcome α :=
  let (listening, bound) := c.config.listen c.plane.network
  match bound with
  | .error e => ⟨.error e, listening, c⟩
  | .ok network =>
      let (result, c) := c.serveOn listening network during ends
      ⟨result, listening, c⟩

def respond (c : Context) (i : WebInterface) (request : Http.Request) : Http.Response × Context :=
  let (r, plane) :=
    match i with
    | .everybody => c.plane.servePublic c.gate c.config.readinessServices request
    | .operators => c.plane.serveOperator c.config.admin.apiKey request
  (r, { c with plane := plane })

/-- The answer to a request that comes over the network while interfaces listen, if it reaches one
of them. -/
def answer? (c : Context) (listening : List Listener) (address : String) (request : Http.Request) :
    Option Http.Response × Context :=
  match c.plane.network.connect address with
  | .established peer =>
      match listening.find? fun l => l.address == peer with
      | some l =>
          let (r, c) := c.respond l.interface request
          (some r, c)
      | none => (none, c)
  | _ => (none, c)

end Context

/-! ## The whole run -/

/-- What a run does with the lifecycle and with the network. -/
inductive RunStep where
  | startup (result : Except LifecycleError StartupReport) (invoked : List Invocation)
  | listen (listener : Listener)
  | shutdown (report : ShutdownReport) (invoked : List Invocation)

/-- What a run has come to. Its result is what went on while it served, with the report of the
shutdown. -/
structure RunOutcome (α : Type) where
  result : Except RunError (α × ShutdownReport)
  registry : LifecycleRegistry Context
  context : Context
  /-- What the run has done, in order. -/
  steps : List RunStep

/-- The context after an operation of the lifecycle, with what the operation told. -/
def LifecycleRegistry.Progress.context (p : LifecycleRegistry.Progress Context) : Context :=
  p.world.tell p.telemetry

/-- Shut a lifecycle down after it has served or tried to, and warn about failures. -/
def finish (r : LifecycleRegistry Context) (c : Context) :
    ShutdownReport × LifecycleRegistry.Progress Context :=
  let (report, p) := r.shutdown c
  let told :=
    if report.isClean then [] else [Context.log .warn "Shutdown completed with failures" []]
  (report, p.tell told)

/-- Start everything, serve while something goes on, and shut everything down. What goes on knows
where the interfaces listen. Unless it is said how the servers end, they stop when they are told
to. -/
def run {α : Type} (r : LifecycleRegistry Context) (c : Context)
    (during : List Listener → Context → α × Context)
    (ends : WebInterface → ServerEnd := fun _ => .stopped) : RunOutcome α :=
  let (started, p) := r.startup c
  let attempt := RunStep.startup started p.invoked
  match started with
  | .error e =>
      -- What did start before the failure is shut down all the same.
      let (report, q) := p.registry.shutdown
        (p.context.tell [Context.log .error "Startup aborted" [(.error, e.message)]])
      { result := .error (.startup e)
        registry := q.registry
        context := q.context
        steps := [attempt, .shutdown report q.invoked] }
  | .ok _ =>
      let served := p.context.serve during ends
      let (report, q) := finish p.registry (served.context.tell served.told)
      { result := served.conclude report
        registry := q.registry
        context := q.context
        steps := attempt :: served.listening.map .listen ++ [.shutdown report q.invoked] }

end ServicePlane

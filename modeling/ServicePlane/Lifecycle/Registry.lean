import ServicePlane.Lifecycle.StartupOrder
import ServicePlane.Telemetry.Notice

/-!
# The lifecycle registry

Named pairs of startup and shutdown hooks, and which of them are started. Hooks act on a world `σ`
that the caller chooses.

* `register` adds a hook and refuses a second one of the same kind and name;
* `startup` runs the startup hooks in resolved order, and stops at the first failure that the
  process cannot go on without;
* `shutdown` runs the shutdown hooks of everything that is started, last started first, whatever
  they return, and forgets what was started.
-/

namespace ServicePlane

universe u

/-- A registered hook: its declaration, whether it is marked started, and its action. -/
structure Hook (σ : Type u) where
  spec : HookSpec
  started : Bool
  action : σ → HookResult × σ

/-- What startup reports: the outcome of every hook it ran, in order. -/
structure StartupReport where
  outcomes : List (String × HookOutcome)
  deriving DecidableEq, Repr

namespace StartupReport

def started (r : StartupReport) : List String :=
  (r.outcomes.filter fun o => o.2.isStarted).map (·.1)

def isDegraded (r : StartupReport) : Bool :=
  r.outcomes.any fun o => !o.2.isStarted

end StartupReport

/-- What shutdown reports: the hooks that are done, and those that failed with their error. -/
structure ShutdownReport where
  completed : List String
  failed : List (String × String)
  deriving DecidableEq, Repr

namespace ShutdownReport

def empty : ShutdownReport where
  completed := []
  failed := []

def isClean (r : ShutdownReport) : Bool :=
  r.failed.isEmpty

end ShutdownReport

/-- One run of a hook. -/
structure Invocation where
  kind : HookKind
  name : String
  result : HookResult
  deriving DecidableEq, Repr

/-- Hooks by kind, each list in the order of registration, and the names of the startup hooks that
are started, in the order in which they started. -/
structure LifecycleRegistry (σ : Type u) where
  startupHooks : List (Hook σ)
  shutdownHooks : List (Hook σ)
  startedSequence : List String

namespace LifecycleRegistry

variable {σ : Type u}

/-- A registry without hooks. -/
def empty : LifecycleRegistry σ where
  startupHooks := []
  shutdownHooks := []
  startedSequence := []

/-- The hooks of one kind, in the order of registration. -/
def hooks (r : LifecycleRegistry σ) : HookKind → List (Hook σ)
  | .startup => r.startupHooks
  | .shutdown => r.shutdownHooks

def hook? (r : LifecycleRegistry σ) (kind : HookKind) (name : String) : Option (Hook σ) :=
  (r.hooks kind).find? fun h => h.spec.name == name

def contains (r : LifecycleRegistry σ) (kind : HookKind) (name : String) : Bool :=
  (r.hooks kind).any fun h => h.spec.name == name

/-- The names of the hooks of one kind, ascending. -/
def hookNames (r : LifecycleRegistry σ) (kind : HookKind) : List String :=
  (r.hooks kind).foldl (fun names h => insertName h.spec.name names) []

def logTarget : String := "control_plane::lifecycle::registry"

def log (level : LogLevel) (message : String) (fields : List (LogField × String)) : Notice :=
  .logged ⟨level, logTarget, message, fields⟩

def register (r : LifecycleRegistry σ) (kind : HookKind) (spec : HookSpec)
    (action : σ → HookResult × σ) : Except LifecycleError (LifecycleRegistry σ × Telemetry) :=
  if r.contains kind spec.name then
    .error (.duplicateHook spec.name kind)
  else
    let hook := { spec := spec, started := false, action := action : Hook σ }
    let told := [log .debug "Registered lifecycle hook" [(.hook, spec.name)]]
    match kind with
    | .startup => .ok ({ r with startupHooks := r.startupHooks ++ [hook] }, told)
    | .shutdown => .ok ({ r with shutdownHooks := r.shutdownHooks ++ [hook] }, told)

def isStarted (r : LifecycleRegistry σ) (name : String) : Bool :=
  match r.hook? .startup name with
  | some h => h.started
  | none => false

/-- The startup hooks that are started, in the order in which they started. -/
def startedHooks (r : LifecycleRegistry σ) : List String :=
  r.startedSequence

def startupOrder (r : LifecycleRegistry σ) : Except LifecycleError (List String) :=
  resolveStartupOrder (r.startupHooks.map (·.spec))

/-- The shutdown hooks that are to run: those of started hooks, last started first. -/
def shutdownOrder (r : LifecycleRegistry σ) : List String :=
  r.startedSequence.reverse.filter fun name => r.isStarted name && r.contains .shutdown name

/-- Mark a startup hook started and put it at the end of the sequence. -/
def markStarted (r : LifecycleRegistry σ) (name : String) : LifecycleRegistry σ :=
  { r with
    startupHooks := r.startupHooks.map fun h =>
      if h.spec.name == name then { h with started := true } else h
    startedSequence := r.startedSequence ++ [name] }

def clearStarted (r : LifecycleRegistry σ) : LifecycleRegistry σ :=
  { r with
    startupHooks := r.startupHooks.map fun h => { h with started := false }
    startedSequence := [] }

/-! ## Startup -/

/-- A lifecycle operation on its way: the registry and the world it has changed, the hooks it has
run, and what it has told. -/
structure Progress (σ : Type u) where
  registry : LifecycleRegistry σ
  world : σ
  invoked : List Invocation
  telemetry : Telemetry

namespace Progress

def begin (r : LifecycleRegistry σ) (w : σ) : Progress σ where
  registry := r
  world := w
  invoked := []
  telemetry := []

def tell (p : Progress σ) (notices : Telemetry) : Progress σ :=
  { p with telemetry := p.telemetry ++ notices }

def run (p : Progress σ) (kind : HookKind) (h : Hook σ) : HookResult × Progress σ :=
  let (result, world) := h.action p.world
  (result, { p with
    world := world
    invoked := p.invoked ++ [⟨kind, h.spec.name, result⟩] })

end Progress

def hookSample (name : String) (kind : HookKind) (outcome : String) : Notice :=
  .measured (.sample (.hookDuration name kind outcome))

/-- Run the startup hooks with these names, in order, but for those that are started already. -/
def runStartup : List String → StartupReport → Progress σ →
    Except LifecycleError StartupReport × Progress σ
  | [], report, p => (.ok report, p)
  | name :: rest, report, p =>
      match p.registry.hook? .startup name with
      | none => runStartup rest report p
      | some h =>
          if h.started then
            -- It started in an earlier run and was not shut down since.
            runStartup rest report
              (p.tell [log .debug "Startup hook already started, skipping" [(.hook, name)]])
          else
            let (result, p) := p.run .startup h
            let sample := hookSample name .startup
            match result with
            | .reported .started =>
                runStartup rest ⟨report.outcomes ++ [(name, .started)]⟩
                  { p.tell
                      [sample "started", log .info "Startup hook completed" [(.hook, name)]] with
                    registry := p.registry.markStarted name }
            | .reported (.skipped reason) =>
                runStartup rest ⟨report.outcomes ++ [(name, .skipped reason)]⟩
                  (p.tell [sample "skipped",
                    log .info "Startup hook skipped" [(.hook, name), (.reason, reason)]])
            | .reported (.failed false error) =>
                runStartup rest ⟨report.outcomes ++ [(name, .failed false error)]⟩
                  (p.tell [sample "degraded",
                    log .warn "Optional startup hook failed, continuing degraded"
                      [(.hook, name), (.error, error)]])
            | .reported (.failed true error) =>
                (.error (.hookFailed name error),
                  p.tell [sample "failed",
                    log .error "Startup hook failed" [(.hook, name), (.error, error)]])
            | .raised error =>
                (.error (.hookFailed name error),
                  p.tell [sample "failed",
                    log .error "Startup hook failed" [(.hook, name), (.error, error)]])
            | .panicked message =>
                (.error (.hookFailed name (panicText message)),
                  p.tell [sample "failed",
                    log .error "Startup hook failed"
                      [(.hook, name), (.error, panicText message)]])

/-- Run every startup hook that is not started, in resolved order. An error of the registrations
shows before any hook runs; a required hook that fails ends the sequence. -/
def startup (r : LifecycleRegistry σ) (w : σ) :
    Except LifecycleError StartupReport × Progress σ :=
  match r.startupOrder with
  | .error e => (.error e, .begin r w)
  | .ok order =>
      runStartup order ⟨[]⟩ ((Progress.begin r w).tell [log .info "Running startup hooks" []])

/-! ## Shutdown -/

/-- Run the shutdown hooks with these names, in order, whatever they return. -/
def runShutdown : List String → ShutdownReport → Progress σ → ShutdownReport × Progress σ
  | [], report, p => (report, p)
  | name :: rest, report, p =>
      match p.registry.hook? .shutdown name with
      | none => runShutdown rest report p
      | some h =>
          let (result, p) := p.run .shutdown h
          let sample := hookSample name .shutdown
          -- A failure is reported and does not keep the others from shutting down.
          let failure (error : String) :=
            runShutdown rest { report with failed := report.failed ++ [(name, error)] }
              (p.tell [sample "failed",
                log .error "Shutdown hook failed" [(.hook, name), (.error, error)]])
          match result with
          | .reported (.failed _ error) => failure error
          | .reported outcome =>
              runShutdown rest { report with completed := report.completed ++ [name] }
                (p.tell [sample outcome.label,
                  log .info "Shutdown hook completed" [(.hook, name)]])
          | .raised error => failure error
          | .panicked message => failure (panicText message)

/-- Run the shutdown hooks of everything that is started, and forget what was started. -/
def shutdown (r : LifecycleRegistry σ) (w : σ) : ShutdownReport × Progress σ :=
  let (report, p) := runShutdown r.shutdownOrder .empty
    ((Progress.begin r w).tell [log .info "Running shutdown hooks" []])
  (report, { p with registry := p.registry.clearStarted })

end LifecycleRegistry

end ServicePlane

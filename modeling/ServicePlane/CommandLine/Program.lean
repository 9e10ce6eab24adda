import ServicePlane.Application.Run
import ServicePlane.CommandLine.Arguments
import ServicePlane.Config.Load
import ServicePlane.Telemetry.Filter

/-!
# The program

One run of the whole program: it reads its arguments and its configuration, publishes metrics if it
is asked to, and runs the plane until a signal comes.
-/

namespace ServicePlane

/-- A signal that ends the program. -/
inductive StopCause where
  | terminate
  | interrupt
  deriving DecidableEq, Repr

namespace StopCause

def name : StopCause → String
  | terminate => "SIGTERM"
  | interrupt => "SIGINT"

end StopCause

/-- Why the program fails. -/
inductive ProgramError where
  | config (error : ConfigError)
  | metrics (error : NetworkError)
  | lifecycle (error : LifecycleError)
  | run (error : RunError)
  deriving DecidableEq, Repr

namespace ProgramError

/-- The structural description of an error; a text that is no configuration has none. -/
def describe? : ProgramError → Option String
  | config (.unreadableFile e) => some s!"Io({e.describe})"
  | config (.unreadableText _) => none
  | config (.invalid faults) =>
      some ("Validation([" ++ ", ".intercalate (faults.map ConfigFault.describe) ++ "])")
  | metrics e => some s!"FailedToCreateHTTPListener({Text.quoted e.message})"
  | lifecycle e => some e.describe
  | run e => some e.describe

end ProgramError

/-- What a run of the program leaves behind. -/
structure ProgramOutcome (α : Type) where
  exitCode : UInt8
  error : Option ProgramError
  /-- What went on while the plane served, if it did. -/
  served : Option α
  /-- The log records that are shown. -/
  shown : List LogRecord
  /-- Whether the program shows its help. -/
  showsHelp : Bool

namespace ProgramOutcome

def silent {α : Type} (exitCode : UInt8) (error : Option ProgramError) (showsHelp : Bool) :
    ProgramOutcome α :=
  ⟨exitCode, error, none, [], showsHelp⟩

end ProgramOutcome

/-- The surroundings of the program. -/
structure Surroundings where
  /-- What is at the path of a file. -/
  files : String → FileContent
  network : Network
  /-- The log filter that the environment sets. -/
  logFilter : Option String
  /-- The signal that will come. -/
  signal : StopCause

namespace Program

def options : List OptionSpec :=
  [⟨'c', "config", false⟩]

def help : List String :=
  ["Dependency-ordered startup with health-gated availability",
    "",
    "Usage: control-plane [OPTIONS]",
    "",
    "Options:",
    "  -c, --config <CONFIG>  Path to the TOML configuration file.",
    "  -h, --help             Print help"]

/-- The path of the configuration file, if one is given. -/
def configPath (arguments : List String) : Except ArgumentStop (Option String) := do
  let given ← Arguments.read options [] arguments
  if given.rest.isEmpty then return given.values.lookup "config" else throw .misuse

def log (part message : String) : Notice :=
  .logged ⟨.info, "control_plane" ++ part, message, []⟩

/-- Listen for whoever collects metrics, if the configuration asks for it. -/
def publishMetrics (c : PlaneConfig) (n : Network) : Except NetworkError (Network × Telemetry) :=
  if c.observability.metricsEnabled then do
    let (_, n) ← n.listen c.observability.metricsAddress
    return (n, [log "::observability::metrics" "Metrics exporter listening"])
  else .ok (n, [])

/-- Run the plane of a configuration; what went on while it served, and all that was told. -/
def runPlane {α : Type} (s : Surroundings) (c : PlaneConfig)
    (during : List Listener → Context → α × Context) : Except ProgramError α × Telemetry :=
  let begun := [log "" "control-plane starting"]
  match publishMetrics c s.network with
  | .error e => (.error (.metrics e), begun)
  | .ok (network, published) =>
      match buildLifecycle c with
      | .error e => (.error (.lifecycle e), begun ++ published)
      | .ok (registry, registered) =>
          let serving (listening : List Listener) (c : Context) : α × Context :=
            let (a, c) := during listening c
            (a, c.tell [log "::lifecycle::signals" s!"{s.signal.name} received"])
          let outcome := ServicePlane.run registry
            ((Context.new c network).tell (begun ++ published ++ registered)) serving
          let told := outcome.context.plane.telemetry
          match outcome.result with
          | .ok (a, _) => (.ok a, told ++ [log "" "Shutdown complete"])
          | .error e => (.error (.run e), told)

/-- The configuration that arguments point to. Without a file it is the standard one. -/
def configuration (files : String → FileContent) :
    Option String → Except ConfigError PlaneConfig
  | none => .ok .standard
  | some path => PlaneConfig.load (files path)

def run {α : Type} (s : Surroundings) (arguments : List String)
    (during : List Listener → Context → α × Context) : ProgramOutcome α :=
  match configPath arguments with
  | .error reason => .silent reason.exitCode none (reason == .help)
  | .ok path =>
      match configuration s.files path with
      | .error e => .silent 1 (some (.config e)) false
      | .ok c =>
          let (result, told) := runPlane s c during
          -- The filter cannot change while the program runs, so it is applied at the end.
          let filter := LogFilter.ofProgram s.logFilter c.observability.logLevel
          let shown := (Telemetry.records told).filter filter.shows
          match result with
          | .ok a => ⟨0, none, some a, shown, false⟩
          | .error e => ⟨1, some e, none, shown, false⟩

end Program

end ServicePlane

import ServicePlane.CommandLine.Operator
import ServicePlane.CommandLine.Program

/-!
# The command line

The first argument names the program, the others are its arguments. The host has no network: a plane
that comes to serve is told to stop at once, and an operator's request is not answered.
-/

namespace ServicePlane.CommandLine

/-- What is at the path of a file. What is there and cannot be read is taken for a directory. -/
def contentOf (path : String) : IO FileContent := do
  try
    return .bytes (← IO.FS.readBinFile path).toList
  catch
    | .noFileOrDirectory _ _ _ => return .missing
    | _ => return .directory

/-- A host without a network. -/
def lonelyHost : Network :=
  { Network.empty with routed := false }

/-- Run the plane; the exit code. -/
def runPlane (arguments : List String) : IO UInt32 := do
  let content ←
    match Program.configPath arguments with
    | .ok (some path) => contentOf path
    | _ => pure .missing
  let surroundings : Surroundings :=
    { files := fun _ => content
      network := lonelyHost
      logFilter := ← IO.getEnv "RUST_LOG"
      signal := .terminate }
  let outcome := Program.run surroundings arguments fun _ c => ((), c)
  if outcome.showsHelp then
    for line in Program.help do
      IO.println line
  for record in outcome.shown do
    IO.println record.line
  if let some e := outcome.error then
    IO.eprintln ("Error: " ++ e.describe?.getD "Parse")
  return outcome.exitCode.toUInt32

/-- Run an operator's command; the exit code. -/
def runOperator (arguments : List String) : IO UInt32 := do
  let (outcome, _) := OperatorCall.operate (fun _ _ w => (none, w)) arguments ()
  match outcome with
  | .done v => IO.println v.render
  | .failed e =>
      IO.eprintln ("Error: " ++ e.describe?.getD "the request was not answered")
  | .stopped _ => pure ()
  return outcome.exitCode.toUInt32

end ServicePlane.CommandLine

def main : List String → IO UInt32
  | "planectl" :: arguments => ServicePlane.CommandLine.runOperator arguments
  | "control-plane" :: arguments => ServicePlane.CommandLine.runPlane arguments
  | arguments => ServicePlane.CommandLine.runPlane arguments

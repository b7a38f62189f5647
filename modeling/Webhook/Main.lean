import Webhook.Daemon.Run
import Webhook.LogFilter

/-!
# The command line

Reads the command line and the environment, and runs the daemon until its input ends.  What is
recorded is written as one JSON object a line.
-/

namespace Webhook.CommandLine

/-- The environment variables of the options. -/
def readEnvironment : IO (List (String × String)) := do
  let values ← Flag.all.mapM fun f => return (f.envName, ← IO.getEnv f.envName)
  return values.filterMap fun (name, value) => value.map (name, ·)

/-- Why the operating system refuses a file. -/
def refusalOf : IO.Error → Tls.FileState
  | .noFileOrDirectory .. => .missing
  | .inappropriateType .. => .directory
  | _ => .closed .forbidden

/-- What is found under a path. -/
def readFile (path : String) : IO Tls.FileState := do
  try
    return .file (← IO.FS.readBinFile path).toList
  catch e =>
    return refusalOf e

/-- The files that the settings name. -/
def readFiles (settings : Settings) : IO (String → Tls.FileState) := do
  let certificate ← readFile settings.certPath
  let key ← readFile settings.keyPath
  return fun path => if path = settings.certPath then certificate else key

/-- An entry of the log as JSON. -/
def entryOf (e : LogEntry) : Json.Value :=
  .object [("level", .string e.event.level.name), ("fields", .object e.event.fields),
    ("spans", .list (e.spans.map fun s => .object (("name", .string s.name) :: s.fields)))]

/-- Writes what is recorded. -/
def writeLog (log : Log) : IO Unit := log.forM fun e => IO.println (entryOf e).render

/-- Reads to the end of the input. -/
def awaitEnd : IO Unit := do
  let _ ← (← IO.getStdin).readToEnd
  return ()

/-- Records what ends the daemon, and gives its exit code. -/
def exitCode : Option Daemon.RunFault → IO UInt32
  | none => return 0
  | some fault => do
    writeLog [⟨[], .daemonFailed fault.report⟩]
    return 1

/-- The exit code for a log that cannot be set up. -/
def setupCode : LogFilter.SetupFault → UInt32
  | .brokenOff => 101
  | .badFilter .. | .taken => 1

/-- Runs the daemon.  The end of its input is the signal to stop. -/
def runDaemon (settings : Settings) : IO UInt32 := do
  let around : Daemon.Surroundings := ⟨← readFiles settings, fun _ => none, "SIGTERM"⟩
  let (log, launched) := Daemon.launch settings around
  writeLog log
  match launched with
  | .error fault => exitCode (some fault)
  | .ok server =>
    awaitEnd
    let (rest, fault) := Daemon.finish around server
    writeLog rest
    exitCode fault

end Webhook.CommandLine

open Webhook CommandLine

/-- Runs the program. -/
def main (args : List String) : IO UInt32 := do
  match Settings.parse args (← readEnvironment) with
  | .error stop =>
    match stop with
    | .fault _ =>
      IO.eprintln stop.message
      return 2
    | .help | .version =>
      IO.println stop.message
      return 0
  | .ok settings =>
    match LogFilter.setUp false settings.logFilter with
    | .error f =>
      IO.eprintln f.message
      return setupCode f
    | .ok () => runDaemon settings

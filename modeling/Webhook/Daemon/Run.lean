import Webhook.Daemon
import Webhook.Server.Schedule

/-!
# Running the daemon

The daemon sets up its policies, makes a server, and runs it until a signal arrives.  What is wrong
with the settings ends it before any file is read.
-/

namespace Webhook.Daemon

open CommandLine (Settings)

/-- What can end the daemon. -/
inductive RunFault where
  /-- The policies cannot be set up. -/
  | setup (f : Fault)
  /-- The server cannot be made, or cannot run. -/
  | server (f : Server.Fault)
  deriving DecidableEq, Repr

namespace Fault

/-- The words for what is wrong. -/
def message : Fault → String
  | config e => e.message
  | route f => f.message

/-- The words for the cause, where there is one. -/
def cause? : Fault → Option String
  | config e => e.cause?
  | route _ => none

end Fault

namespace RunFault

/-- The words for what is wrong. -/
def message : RunFault → String
  | setup f => f.message
  | server f => f.message

/-- The words for the cause, where there is one. -/
def cause? : RunFault → Option String
  | setup f => f.cause?
  | server f => f.cause?

/-- What the user is told: what is wrong, and the cause once more. -/
def report (f : RunFault) : String :=
  match f.cause? with
  | none => f.message
  | some cause => f.message ++ ": " ++ cause

end RunFault

/-- What the daemon finds where it runs. -/
structure Surroundings where
  /-- The files. -/
  files : String → Tls.FileState
  /-- Why an address cannot be listened on, if it cannot. -/
  refusal : SocketAddress → Option SystemFault
  /-- The signal that it receives once it listens. -/
  signal : String

/-- The configuration of the server. -/
def serverConfig (settings : Settings) : Server.Config where
  address := ⟨settings.listenAddress, settings.port.val⟩
  host := settings.host
  tls := if settings.httpOnly then none else some ⟨settings.certPath, settings.keyPath⟩
  timeout := 1000 * settings.timeout
  grace := 1000 * settings.gracePeriod
  watchTls := settings.watchTls

/-- The span of the server. -/
def serverSpan : Span := ⟨"server", [.text "component" "server"]⟩

/-- Makes the server. -/
def server (settings : Settings) (files : String → Tls.FileState) : Except RunFault Server := do
  let routes ← (routes settings).mapError .setup
  let server ← (Server.new (serverConfig settings) serverSpan files).mapError .server
  let _ ← routes.toRouter.mapError (.setup ∘ .route)
  return server

/-- Makes the server and runs it as far as it goes by itself.  Gives what is recorded, and the
server that listens or what went wrong. -/
def launch (settings : Settings) (around : Surroundings) : Log × Except RunFault Server :=
  match server settings around.files with
  | .error fault => (startLog settings, .error fault)
  | .ok s =>
    let s := s.start (around.refusal s.config.address)
    let log := startLog settings ++ s.shared.log
    match s.result? 0 with
    | some (some fault) => (log, .error (.server fault))
    | _ => (log, .ok s)

/-- Stops a server that listens for a signal.  Gives what is recorded from then on, and what went
wrong. -/
def finish (around : Surroundings) (s : Server) : Log × Option RunFault :=
  let ended := (s.after (.tell 0)).settle (around.refusal s.config.address)
  (⟨[], .signalReceived around.signal⟩ :: ended.shared.log.drop s.shared.log.length,
    ((ended.result? 0).getD none).map .server)

/-- Runs the daemon, and gives what is recorded and what went wrong. -/
def run (settings : Settings) (around : Surroundings) : Log × Option RunFault :=
  match launch settings around with
  | (log, .error fault) => (log, some fault)
  | (log, .ok s) =>
    let (rest, fault) := finish around s
    (log ++ rest, fault)

end Webhook.Daemon

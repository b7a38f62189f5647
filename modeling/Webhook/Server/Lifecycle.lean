import Webhook.Log
import Webhook.Server.Config

/-!
# The life of a server

A server publishes the state that it is in.  It is configured when it is made; it is run by a call,
which listens on its address, serves until it is told to stop, and then waits for open requests.
A call starts two tasks beside it: the *notifier* waits for the address to be bound and publishes
that the server is listening, and the *drainer* waits for the call to be told to stop, lets the
serving end, and publishes that the server is draining.  The call itself publishes that the server
has stopped.

Calls and tasks run at the same time, and any number of calls may be made.  What one of them does
at once is a *step*: it reads or changes what they share a single time.  An `Action` says whose step
comes next, so that a list of actions is one order of all steps, and `Server.perform` gives what
comes of it.  An action that is not possible has no result.

A call ends its tasks by asking them to.  A task that is asked to end does so when it would wait;
one that has got past its wait goes on to its end.
-/

namespace Webhook

namespace Server

/-! ## What is shared -/

/-- What a server is doing. -/
inductive State where
  | created
  | configured
  | listening
  | draining
  | stopped
  deriving DecidableEq, Repr

/-- The word for a state. -/
def State.name : State → String
  | created => "Created"
  | configured => "Configured"
  | listening => "Listening"
  | draining => "Draining"
  | stopped => "Stopped"

/-- What all calls and tasks of a server share. -/
structure Shared where
  /-- The state that was published last. -/
  state : State
  /-- The states that were published before, the latest first. -/
  past : List State
  /-- A call has started to run the server. -/
  started : Bool
  /-- Whether the address is bound, once this is known. -/
  bound : Option Bool
  /-- The serving has been asked to end. -/
  askedToEnd : Bool
  /-- What has been recorded. -/
  log : Log

namespace Shared

/-- Publishes a state. -/
def publish (next : State) (s : Shared) : Shared :=
  { s with state := next, past := s.state :: s.past }

/-- Records an event within a span. -/
def record (span : Span) (event : Event) (s : Shared) : Shared :=
  { s with log := s.log ++ [⟨[span], event⟩] }

end Shared

/-! ## Tasks -/

/-- How far the notifier is. -/
inductive NotifierPhase where
  /-- It has not been started. -/
  | absent
  /-- It waits for the address to be bound. -/
  | waiting
  /-- It is about to look whether the address is bound. -/
  | looking
  /-- It knows that the address is bound. -/
  | notified
  /-- It has published that the server is listening. -/
  | published
  /-- It has ended. -/
  | ended
  deriving DecidableEq, Repr

/-- How far the drainer is. -/
inductive DrainerPhase where
  /-- It has not been started. -/
  | absent
  /-- It waits for the call to be told to stop. -/
  | waiting
  /-- It is about to look whether the call is told to stop. -/
  | looking
  /-- It knows that the call is told to stop. -/
  | told
  /-- It has asked the serving to end. -/
  | asked
  /-- It has published that the server is draining. -/
  | published
  /-- It has ended. -/
  | ended
  deriving DecidableEq, Repr

/-- A task: how far it is, and whether it has been asked to end. -/
structure Task (Phase : Type) where
  /-- How far it is. -/
  phase : Phase
  /-- It has been asked to end. -/
  aborted : Bool
  deriving DecidableEq, Repr

/-! ## Calls -/

/-- How far a call is.  That the address was refused is kept until the call returns. -/
inductive CallPhase where
  /-- It has been made. -/
  | made
  /-- It has read that the server has stopped. -/
  | late
  /-- It has read another state. -/
  | admitted
  /-- It is the one that runs the server. -/
  | chosen
  /-- It has started its tasks. -/
  | prepared
  /-- It serves. -/
  | serving
  /-- The serving has ended. -/
  | served (refusal : Option SystemFault)
  /-- It has asked the notifier to end. -/
  | leftNotifier (refusal : Option SystemFault)
  /-- It has asked both tasks to end. -/
  | leftTasks (refusal : Option SystemFault)
  /-- It has published that the server has stopped. -/
  | published (refusal : Option SystemFault)
  /-- It has returned. -/
  | returned (fault : Option Fault)
  deriving DecidableEq, Repr

/-- A call. -/
structure Call where
  /-- It has been told to stop. -/
  told : Bool
  /-- How far it is. -/
  phase : CallPhase
  /-- Its notifier. -/
  notifier : Task NotifierPhase
  /-- Its drainer. -/
  drainer : Task DrainerPhase
  deriving DecidableEq, Repr

namespace Call

/-- A call that has just been made. -/
def new : Call := ⟨false, .made, ⟨.absent, false⟩, ⟨.absent, false⟩⟩

/-- What went wrong with a call that has returned. -/
def result? (c : Call) : Option (Option Fault) :=
  match c.phase with
  | .returned fault => some fault
  | _ => none

end Call

end Server

/-- A server: its configuration, what its calls share, and its calls, the first one first. -/
structure Server where
  /-- What it was told. -/
  config : Server.Config
  /-- What it was doing when it records something. -/
  span : Span
  /-- What its calls share. -/
  shared : Server.Shared
  /-- Its calls. -/
  calls : List Server.Call

namespace Server

/-- A server that is ready to run. -/
def ready (config : Config) (span : Span) : Server where
  config := config
  span := span
  shared :=
    { state := .configured, past := [.created], started := false, bound := none, askedToEnd := false
      log := [⟨[span], .serverConfigured config.host config.tls.isSome⟩] }
  calls := []

/-- Makes a server.  One that encrypts needs a certificate and a key. -/
def new (config : Config) (span : Span) (files : String → Tls.FileState) : Except Fault Server :=
  (config.loadMaterial files).map fun _ => ready config span

/-- The state that was published last. -/
def state (s : Server) : State := s.shared.state

/-- The states that were published, the latest first. -/
def published (s : Server) : List State := s.shared.state :: s.shared.past

/-! ## Steps -/

/-- A step of the notifier.  It publishes that the server is listening only if it is configured
and nothing else, and looks at this and changes it at once. -/
def notifierStep (s : Server) (c : Call) : Option (Shared × Call) :=
  let move (phase : NotifierPhase) : Call := { c with notifier := { c.notifier with phase } }
  match c.notifier.phase with
  | .waiting => if c.notifier.aborted then none else some (s.shared, move .looking)
  | .looking =>
    match s.shared.bound with
    | none => some (s.shared, move .waiting)
    | some true => some (s.shared, move .notified)
    | some false => some (s.shared, move .ended)
  | .notified =>
    if s.shared.state = .configured then some (s.shared.publish .listening, move .published)
    else some (s.shared, move .ended)
  | .published =>
    some (s.shared.record s.span (.serverListening s.config.host s.config.tls.isSome), move .ended)
  | .absent | .ended => none

/-- A step of the drainer.  It publishes that the server is draining whatever was published
before. -/
def drainerStep (s : Server) (c : Call) : Option (Shared × Call) :=
  let move (phase : DrainerPhase) : Call := { c with drainer := { c.drainer with phase } }
  match c.drainer.phase with
  | .waiting => if c.drainer.aborted then none else some (s.shared, move .looking)
  | .looking => some (s.shared, move (if c.told then .told else .waiting))
  | .told => some ({ s.shared with askedToEnd := true }, move .asked)
  | .asked => some (s.shared.publish .draining, move .published)
  | .published =>
    some (s.shared.record s.span (.serverDraining (secondsOf s.config.grace)), move .ended)
  | .absent | .ended => none

/-- What is recorded when the serving has ended. -/
def endEvent : Option SystemFault → Event
  | some cause => .serverFailed cause.message
  | none => .serverStopped

/-- A step of a call, other than listening on the address.  Serving ends only if it is asked to. -/
def callStep (s : Server) (c : Call) : Option (Shared × Call) :=
  let move (phase : CallPhase) : Call := { c with phase }
  match c.phase with
  | .made => some (s.shared, move (if s.shared.state = .stopped then .late else .admitted))
  | .late => some (s.shared.record s.span .serverWasStopped, move (.returned none))
  | .admitted =>
    if s.shared.started then some (s.shared, move (.returned (some .alreadyRunning)))
    else some ({ s.shared with started := true }, move .chosen)
  | .chosen =>
    some (s.shared,
      { c with phase := .prepared, notifier := ⟨.waiting, false⟩, drainer := ⟨.waiting, false⟩ })
  | .prepared => none
  | .serving => if s.shared.askedToEnd then some (s.shared, move (.served none)) else none
  | .served refusal =>
    some (s.shared,
      { c with phase := .leftNotifier refusal, notifier := { c.notifier with aborted := true } })
  | .leftNotifier refusal =>
    some (s.shared,
      { c with phase := .leftTasks refusal, drainer := { c.drainer with aborted := true } })
  | .leftTasks refusal => some (s.shared.publish .stopped, move (.published refusal))
  | .published refusal =>
    some (s.shared.record s.span (endEvent refusal),
      move (.returned (refusal.map (.serve s.config.address.render))))
  | .returned _ => none

/-- Listens on the address, unless the operating system refuses. -/
def bindStep (refusal : Option SystemFault) (s : Server) (c : Call) : Option (Shared × Call) :=
  match c.phase, refusal with
  | .prepared, none => some ({ s.shared with bound := some true }, { c with phase := .serving })
  | .prepared, some cause =>
    some ({ s.shared with bound := some false }, { c with phase := .served (some cause) })
  | _, _ => none

/-! ## Actions -/

/-- Whose step comes next.  Calls are told apart by how many were made before them. -/
inductive Action where
  /-- A call is made. -/
  | make
  /-- A call is told to stop. -/
  | tell (call : Nat)
  /-- A call makes a step. -/
  | call (call : Nat)
  /-- A call listens on the address, if the operating system does not refuse. -/
  | bind (call : Nat) (refusal : Option SystemFault)
  /-- The notifier of a call makes a step. -/
  | notifier (call : Nat)
  /-- The drainer of a call makes a step. -/
  | drainer (call : Nat)
  deriving DecidableEq, Repr

/-- Makes a step for a call. -/
def onCall (s : Server) (i : Nat) (step : Server → Call → Option (Shared × Call)) : Option Server :=
  match s.calls[i]? with
  | none => none
  | some c => (step s c).map fun (shared, c) => { s with shared, calls := s.calls.set i c }

/-- What comes of an action. -/
def step (s : Server) : Action → Option Server
  | .make => some { s with calls := s.calls ++ [.new] }
  | .tell i => s.onCall i fun s c => some (s.shared, { c with told := true })
  | .call i => s.onCall i callStep
  | .bind i refusal => s.onCall i (bindStep refusal)
  | .notifier i => s.onCall i notifierStep
  | .drainer i => s.onCall i drainerStep

/-- What comes of actions, one after the other. -/
def perform (s : Server) (actions : List Action) : Option Server := actions.foldlM step s

end Server
end Webhook

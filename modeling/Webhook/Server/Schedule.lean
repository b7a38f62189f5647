import Webhook.Server.Lifecycle

/-!
# One thread

All calls and tasks of a server can run on one thread.  The thread leaves a task or a call only
where it has to wait, and goes on with the first call that need not wait, then with the first
notifier and the first drainer whose wait is over.  When all of them have to wait, the server is
*settled*.
-/

namespace Webhook.Server

/-- Whether a notifier is past its wait. -/
def NotifierPhase.isRunning : NotifierPhase → Bool
  | looking | notified | published => true
  | absent | waiting | ended => false

/-- Whether a drainer is past its wait. -/
def DrainerPhase.isRunning : DrainerPhase → Bool
  | looking | told | asked | published => true
  | absent | waiting | ended => false

/-- The next action of a task that is past its wait. -/
def Call.running? (i : Nat) (c : Call) : Option Action :=
  if c.notifier.phase.isRunning then some (.notifier i)
  else if c.drainer.phase.isRunning then some (.drainer i)
  else none

/-- The next action of a call, unless it has to wait or has returned. -/
def Call.next? (refusal : Option SystemFault) (shared : Shared) (i : Nat) (c : Call) :
    Option Action :=
  match c.phase with
  | .prepared => some (.bind i refusal)
  | .serving => if shared.askedToEnd then some (.call i) else none
  | .returned _ => none
  | _ => some (.call i)

/-- The next action of a task whose wait is over. -/
def Call.woken? (shared : Shared) (i : Nat) (c : Call) : Option Action :=
  if c.notifier = ⟨.waiting, false⟩ && shared.bound.isSome then some (.notifier i)
  else if c.drainer = ⟨.waiting, false⟩ && c.told then some (.drainer i)
  else none

/-- The calls with how many were made before them. -/
def numbered (s : Server) : List (Nat × Call) := s.calls.zipIdx.map fun (c, i) => (i, c)

/-- The next action, unless the server is settled.  The operating system may refuse the address. -/
def next? (refusal : Option SystemFault) (s : Server) : Option Action :=
  s.numbered.findSome? (fun (i, c) => c.running? i)
    <|> s.numbered.findSome? (fun (i, c) => c.next? refusal s.shared i)
    <|> s.numbered.findSome? (fun (i, c) => c.woken? s.shared i)

/-- Goes on until the server is settled or something has come about, for a number of steps. -/
def goOn (refusal : Option SystemFault) (enough : Server → Bool) : (steps : Nat) → Server → Server
  | 0, s => s
  | steps + 1, s =>
    if enough s then s
    else
      match (s.next? refusal).bind s.step with
      | none => s
      | some s => goOn refusal enough steps s

/-- More steps than a call makes with its tasks. -/
def stepsOfCall : Nat := 24

/-- Goes on until the server is settled or something has come about. -/
def settleUntil (refusal : Option SystemFault) (enough : Server → Bool) (s : Server) : Server :=
  goOn refusal enough (stepsOfCall * s.calls.length) s

/-- Goes on until the server is settled. -/
def settle (refusal : Option SystemFault) (s : Server) : Server :=
  s.settleUntil refusal fun _ => false

/-- The server after an action, or the same one if the action is not possible. -/
def after (s : Server) (a : Action) : Server := (s.step a).getD s

/-- The result of a call, if it has returned. -/
def result? (s : Server) (i : Nat) : Option (Option Fault) := s.calls[i]?.bind (·.result?)

/-- Makes a call and goes on until it has returned. -/
def run (refusal : Option SystemFault) (s : Server) : Server :=
  (s.after .make).settleUntil refusal fun t => (t.result? s.calls.length).isSome

/-- Makes a call and goes on until the server is settled. -/
def start (refusal : Option SystemFault) (s : Server) : Server := (s.after .make).settle refusal

/-- A server, for examples. -/
def sample : Server := ready (.new ⟨.v4 [127, 0, 0, 1], 8443⟩) ⟨"server", []⟩

example : (sample.start none).published = [.listening, .configured, .created] := by decide +kernel
example : (((sample.start none).after (.tell 0)).settle none).published
    = [.stopped, .draining, .listening, .configured, .created] := by decide +kernel
example : (sample.start (some .addressInUse)).published = [.stopped, .configured, .created] := by
  decide +kernel

end Webhook.Server

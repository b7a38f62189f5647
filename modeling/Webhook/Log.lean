import Webhook.Json.Printer
import Webhook.Text.Quoted
import Webhook.Verdict

/-!
# The log

What is worth recording is an *event*.  An event has a level, and its fields are values under
names.  It is recorded within *spans*, which say what was going on: the outermost span comes first.
-/

namespace Webhook

/-- How much an event matters. -/
inductive Level where
  | error
  | warn
  | info
  | debug
  deriving DecidableEq, Repr

/-- The word for a level. -/
def Level.name : Level → String
  | error => "ERROR"
  | warn => "WARN"
  | info => "INFO"
  | debug => "DEBUG"

/-- A named value of an event or a span. -/
abbrev LogField := String × Json.Value

namespace LogField

/-- A field that holds text. -/
def text (label value : String) : LogField := (label, .string value)

/-- A field that holds a flag. -/
def flag (label : String) (value : Bool) : LogField := (label, .bool value)

/-- A field that holds a natural number. -/
def count (label : String) (value : Nat) : LogField := (label, .number (.whole value))

/-- The field that says what happened. -/
def said (what : String) : LogField := text "message" what

end LogField

/-- What was going on when an event was recorded. -/
structure Span where
  /-- The name of the span. -/
  name : String
  /-- Its fields. -/
  fields : List LogField
  deriving Repr

/-- Something worth recording. -/
inductive Event where
  /-- An admission review was not understood. -/
  | reviewRejected (path error : String)
  /-- A policy ended without a verdict. -/
  | policyFailed (uid error : String)
  /-- A request was judged. -/
  | requestJudged (path : String) (request : Request) (verdict : Verdict)
  /-- A request was answered with a status. -/
  | requestCompleted (status : Nat)
  /-- The policy for the load balancers of a provider was set up. -/
  | balancersConfigured (policy annotation : String)
  /-- The policy for the annotations of pods was set up. -/
  | annotationsConfigured (required : List String)
  /-- A policy was mounted on a path. -/
  | routeRegistered (path policy : String)
  /-- The server is ready to run. -/
  | serverConfigured (host : String) (tls : Bool)
  /-- The server accepts connections. -/
  | serverListening (host : String) (tls : Bool)
  /-- The server waits for open connections, for a number of seconds at most. -/
  | serverDraining (seconds : Binary64)
  /-- The server has stopped as it was told. -/
  | serverStopped
  /-- The server has stopped for an error. -/
  | serverFailed (error : String)
  /-- A stopped server was asked to run. -/
  | serverWasStopped
  /-- The process was told to end. -/
  | signalReceived (signal : String)
  /-- The process ends for an error. -/
  | daemonFailed (error : String)

namespace Event

/-- How much an event matters. -/
def level : Event → Level
  | reviewRejected .. => .warn
  | policyFailed .. | serverFailed _ | daemonFailed _ => .error
  | serverWasStopped => .debug
  | _ => .info

/-- The fields of an event.  For a judged request the words of the verdict take the place of the
words that say what happened. -/
def fields : Event → List LogField
  | reviewRejected path error =>
    [.said "rejected admission review", .text "path" path, .text "error" error]
  | policyFailed uid error =>
    [.said "admission policy failed, denying request", .text "uid" uid, .text "error" error]
  | requestJudged path request verdict =>
    [.text "path" path, .text "uid" request.uid, .text "operation" request.operation.name,
      .text "kind" request.kind.kind, .text "namespace" (request.namespace.getD ""),
      .text "name" (request.name.getD ""), .flag "allowed" verdict.allowed,
      .said (verdict.message?.getD "")]
  | requestCompleted status => [.said "request completed", .count "status" status]
  | balancersConfigured policy annotation =>
    [.said "configured LoadBalancer policy", .text "policy" policy,
      .text "internal_annotation" annotation]
  | annotationsConfigured required =>
    [.said "configured pod annotation policy", .text "required" (Text.quotedList required)]
  | routeRegistered path policy =>
    [.said "registered admission route", .text "path" path, .text "policy" policy]
  | serverConfigured host tls => [.said "server configured", .text "host" host, .flag "tls" tls]
  | serverListening host tls => [.said "server listening", .text "host" host, .flag "tls" tls]
  | serverDraining seconds =>
    [.said "draining connections", ("grace_period_secs", .number (.float seconds))]
  | serverStopped => [.said "server stopped"]
  | serverFailed error => [.said "server stopped on error", .text "error" error]
  | serverWasStopped => [.said "server already stopped"]
  | signalReceived signal => [.said "received shutdown signal", .text "signal" signal]
  | daemonFailed error =>
    [.said "admissiond stopped", .text "status" "fatal", .text "error" error]

end Event

/-- An event within its spans, the outermost one first. -/
structure LogEntry where
  /-- What was going on. -/
  spans : List Span
  /-- What happened. -/
  event : Event

/-- Recorded events, the oldest first. -/
abbrev Log := List LogEntry

end Webhook

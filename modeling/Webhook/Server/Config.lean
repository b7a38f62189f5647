import Webhook.Number.Binary64
import Webhook.Server.Address
import Webhook.Tls.Material

/-!
# The configuration of a server

What a server is told before it runs, and what can go wrong with it.  Spans of time are in
milliseconds.
-/

namespace Webhook

/-- An address with a port. -/
structure SocketAddress where
  /-- The address. -/
  ip : IpAddress
  /-- The port. -/
  port : Nat
  deriving DecidableEq, Repr

/-- Writes an address with its port.  Brackets keep the colons of version six apart. -/
def SocketAddress.render (a : SocketAddress) : String :=
  match a.ip with
  | .v4 _ => a.ip.render ++ ":" ++ toString a.port
  | .v6 _ => "[" ++ a.ip.render ++ "]:" ++ toString a.port

/-- A span of time in seconds: the whole seconds and the rest are rounded each, and then their
sum is. -/
def secondsOf (milliseconds : Nat) : Binary64 :=
  ((Binary64.ofNat (milliseconds / 1000)).bind fun whole =>
    (Binary64.ofQuotient false (milliseconds % 1000) 1000).bind whole.add).getD .zero

namespace Server

/-- What a server is told before it runs. -/
structure Config where
  /-- Where it listens. -/
  address : SocketAddress
  /-- The name it is reached by. -/
  host : String
  /-- The files of its certificate and key.  Without them it does not encrypt. -/
  tls : Option Tls.Paths
  /-- How long a client may stall, and a request may take. -/
  timeout : Nat
  /-- How long open requests are waited for at the end. -/
  grace : Nat
  /-- Follow changes of the certificate and the key. -/
  watchTls : Bool
  deriving DecidableEq, Repr

/-- The usual configuration. -/
def Config.new (address : SocketAddress) : Config where
  address := address
  host := "localhost"
  tls := none
  timeout := 15000
  grace := 30000
  watchTls := false

/-- What can go wrong with a server. -/
inductive Fault where
  /-- Its certificate and key cannot be loaded. -/
  | material (f : Tls.MaterialFault)
  /-- It cannot listen on its address. -/
  | serve (address : String) (cause : SystemFault)
  /-- It is running already. -/
  | alreadyRunning
  deriving DecidableEq, Repr

namespace Fault

/-- The words for the cause, where there is one. -/
def cause? : Fault → Option String
  | material f => f.cause?
  | serve _ cause => some cause.message
  | alreadyRunning => none

/-- The words for what is wrong. -/
def message : Fault → String
  | material f => f.message
  | serve address cause => "server on " ++ address ++ " failed: " ++ cause.message
  | alreadyRunning => "server is already running"

end Fault

/-- What a server that encrypts does so with, from the files under paths. -/
def Config.loadMaterial (c : Config) (files : String → Tls.FileState) :
    Except Fault (Option Tls.Setup) :=
  match c.tls with
  | none => .ok none
  | some paths =>
    ((Tls.load paths (files paths.certificate) (files paths.key)).map some).mapError .material

example : SocketAddress.render ⟨.v6 [0, 0, 0, 0, 0, 0, 0, 1], 8443⟩ = "[::1]:8443" := by
  decide +kernel
example : secondsOf 1500 = ⟨false, 3 * 2 ^ 51, -52⟩ := by decide +kernel

end Server
end Webhook

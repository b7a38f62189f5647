import Webhook.CommandLine.Value

/-!
# Options

The options of the program.  A switch takes no value on the command line.  A single option takes
one value and can be given once.  A list can be given several times, and each time with several
values if commas divide them.  Each option can also be set by an environment variable.
-/

namespace Webhook.CommandLine

/-- An option. -/
inductive Flag where
  /-- The file with the certificate. -/
  | certPath
  /-- The file with the private key. -/
  | keyPath
  /-- Serve without encryption. -/
  | httpOnly
  /-- The address to listen on. -/
  | listenAddress
  /-- The port to listen on. -/
  | port
  /-- The name the server is reached by. -/
  | host
  /-- The seconds a request may take. -/
  | timeout
  /-- The seconds to wait for open requests at the end. -/
  | gracePeriod
  /-- Follow changes of the certificate and the key. -/
  | watchTls
  /-- Where ingresses are allowed. -/
  | ingressNamespaces
  /-- Where public load balancers are allowed. -/
  | serviceNamespaces
  /-- The cloud providers. -/
  | providers
  /-- Where pods need no annotations. -/
  | podNamespaces
  /-- The annotations pods need. -/
  | requiredAnnotations
  /-- What to record. -/
  | logFilter
  /-- How the log is written. -/
  | logFormat
  deriving DecidableEq, Repr

/-- How often an option can be given, and with what. -/
inductive Arity where
  /-- Without a value. -/
  | switch
  /-- Once, with a value. -/
  | single
  /-- Any number of times; the flag says whether commas divide a value into several. -/
  | list (divided : Bool)
  deriving DecidableEq, Repr

namespace Flag

/-- All options, in the order in which they are looked at. -/
def all : List Flag :=
  [certPath, keyPath, httpOnly, listenAddress, port, host, timeout, gracePeriod, watchTls,
    ingressNamespaces, serviceNamespaces, providers, podNamespaces, requiredAnnotations, logFilter,
    logFormat]

/-- The name after two dashes. -/
def name : Flag → String
  | certPath => "cert-path"
  | keyPath => "key-path"
  | httpOnly => "http-only"
  | listenAddress => "listen-address"
  | port => "port"
  | host => "host"
  | timeout => "timeout"
  | gracePeriod => "grace-period"
  | watchTls => "watch-tls"
  | ingressNamespaces => "ingress-allowed-namespace"
  | serviceNamespaces => "service-allowed-namespace"
  | providers => "providers"
  | podNamespaces => "pod-annotation-allowed-namespace"
  | requiredAnnotations => "required-pod-annotation"
  | logFilter => "log-filter"
  | logFormat => "log-format"

/-- The letter after one dash. -/
def letter? : Flag → Option Char
  | port => some 'p'
  | logFilter => some 'l'
  | _ => none

/-- How often an option can be given, and with what. -/
def arity : Flag → Arity
  | httpOnly | watchTls => .switch
  | ingressNamespaces | serviceNamespaces | providers | podNamespaces => .list true
  | requiredAnnotations => .list false
  | _ => .single

/-- The name in capitals, with an underscore for each dash. -/
def envName (f : Flag) : String :=
  String.ofList (f.name.toList.map fun c => if c = '-' then '_' else c.toUpper)

/-- An option as it is shown in messages. -/
def shown (f : Flag) : String :=
  match f.arity with
  | .switch => "--" ++ f.name
  | _ => "--" ++ f.name ++ " <" ++ f.envName ++ ">"

/-- The option of a name. -/
def ofName? (text : String) : Option Flag := all.find? (·.name == text)

/-- The option of a letter. -/
def ofLetter? (c : Char) : Option Flag := all.find? (·.letter? == some c)

/-- What the values of an option are. -/
def Value : Flag → Type
  | httpOnly | watchTls => Bool
  | listenAddress => IpAddress
  | port => Port
  | timeout | gracePeriod => Nat
  | logFormat => LogFormat
  | certPath | keyPath | host | ingressNamespaces | serviceNamespaces | providers | podNamespaces
  | requiredAnnotations | logFilter => String

/-- Reads a value of an option. -/
def read : (f : Flag) → String → Except ValueFault f.Value
  | certPath, text | keyPath, text => readPath text
  | httpOnly, text | watchTls, text => readSwitch text
  | listenAddress, text => readAddress text
  | port, text => readPort text
  | timeout, text | gracePeriod, text => readSeconds text
  | logFormat, text => readFormat text
  | host, text | ingressNamespaces, text | serviceNamespaces, text | providers, text
  | podNamespaces, text | requiredAnnotations, text | logFilter, text => .ok text

/-- The values that a text is divided into. -/
def divide (f : Flag) (text : String) : List String :=
  match f.arity with
  | .list true => (text.toList.splitOn ',').map String.ofList
  | _ => [text]

example : podNamespaces.shown
    = "--pod-annotation-allowed-namespace <POD_ANNOTATION_ALLOWED_NAMESPACE>" := by decide +kernel

end Flag

/-- The values that were given to each option; none for an option that was not given. -/
def Given : Type := (f : Flag) → Option (List f.Value)

namespace Given

/-- Nothing was given. -/
def nothing : Given := fun _ => none

/-- The values with those of one option replaced. -/
def set (g : Given) (f : Flag) (values : List f.Value) : Given := fun f' =>
  if h : f = f' then some (h ▸ values) else g f'

/-- Whether an option was given. -/
def has (g : Given) (f : Flag) : Bool := (g f).isSome

/-- The value of an option, or a default. -/
def one (g : Given) (f : Flag) (default : f.Value) : f.Value :=
  ((g f).bind List.head?).getD default

/-- The values of an option, or a default. -/
def many (g : Given) (f : Flag) (default : List f.Value) : List f.Value := (g f).getD default

/-- The values of an option that was just set. -/
@[simp]
theorem set_same (g : Given) (f : Flag) (values : List f.Value) : g.set f values f = some values := by
  simp [set]

/-- The values of the other options. -/
theorem set_other (g : Given) {f f' : Flag} (values : List f.Value) (h : f ≠ f') :
    g.set f values f' = g f' := by
  simp [set, h]

end Given
end Webhook.CommandLine

import Webhook.CommandLine.Arguments

/-!
# Settings

What the program runs with: the values of its options, or their defaults.
-/

namespace Webhook.CommandLine

/-- What the program runs with. -/
structure Settings where
  /-- The file with the certificate. -/
  certPath : String
  /-- The file with the private key. -/
  keyPath : String
  /-- Serve without encryption. -/
  httpOnly : Bool
  /-- The address to listen on. -/
  listenAddress : IpAddress
  /-- The port to listen on. -/
  port : Port
  /-- The name the server is reached by. -/
  host : String
  /-- The seconds a request may take. -/
  timeout : Nat
  /-- The seconds to wait for open requests at the end. -/
  gracePeriod : Nat
  /-- Follow changes of the certificate and the key. -/
  watchTls : Bool
  /-- Where ingresses are allowed. -/
  ingressNamespaces : List String
  /-- Where public load balancers are allowed. -/
  serviceNamespaces : List String
  /-- The cloud providers, as they were written. -/
  providers : List String
  /-- Where pods need no annotations. -/
  podNamespaces : List String
  /-- The annotations pods need, as they were written. -/
  requiredAnnotations : List String
  /-- What to record. -/
  logFilter : String
  /-- How the log is written. -/
  logFormat : LogFormat
  deriving DecidableEq, Repr

namespace Settings

/-- The settings from what is given. -/
def ofGiven (g : Given) : Settings where
  certPath := g.one .certPath "./cert.crt"
  keyPath := g.one .keyPath "./key.key"
  httpOnly := g.one .httpOnly false
  listenAddress := g.one .listenAddress (.v4 [0, 0, 0, 0])
  port := g.one .port (8443 : Port)
  host := g.one .host "admissiond.questionable.services"
  timeout := g.one .timeout (15 : Nat)
  gracePeriod := g.one .gracePeriod (30 : Nat)
  watchTls := g.one .watchTls false
  ingressNamespaces := g.many .ingressNamespaces []
  serviceNamespaces := g.many .serviceNamespaces []
  providers := g.many .providers ["gcp", "azure", "aws"]
  podNamespaces := g.many .podNamespaces ["kube-system"]
  requiredAnnotations := g.many .requiredAnnotations ["k8s.questionable.services/hostname"]
  logFilter := g.one .logFilter "info"
  logFormat := g.one .logFormat .text

/-- The settings from the command line and the environment. -/
def parse (arguments : List String) (env : List (String × String)) : Except Stop Settings :=
  (readGiven arguments env).map ofGiven

end Settings

/-- The name of the program. -/
def programName : String := "admissiond"

/-- The version of the program. -/
def programVersion : String := "0.3.0"

/-- What the program is, in a line. -/
def programSummary : String := "Example admission webhook server built on admission-control"

/-- What the user is told when the command line is not run. -/
def Stop.message : Stop → String
  | help => programSummary
  | version => programName ++ " " ++ programVersion
  | fault f => "error: " ++ f.message

end Webhook.CommandLine

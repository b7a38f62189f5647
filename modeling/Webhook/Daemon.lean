import Webhook.CommandLine.Settings
import Webhook.Policy.Config
import Webhook.Routes

/-!
# The policies of the daemon

The daemon mounts one policy against ingresses, one against public load balancers for each cloud
provider it is told of, and one for the annotations of pods.  Each policy has a name and a path of
its own.  A provider that is told of several times counts once.

The providers are read after the first policy is mounted, and the requirements on annotations after
the policies for the providers.  What is wrong with them ends the start, and the policies that are
mounted by then have been recorded.
-/

namespace Webhook.Daemon

open CommandLine (Settings)

/-- Where all policies are mounted. -/
def routePrefix : String := "/admission-control"

/-- A policy under a name at a place. -/
structure Placement where
  /-- The name of the policy. -/
  name : String
  /-- The place below the common start of all paths. -/
  place : String
  /-- The policy. -/
  policy : Policy
  /-- What is recorded before the policy is mounted. -/
  notice : Option Event

/-- The span in which the handler of a policy records. -/
def policySpan (name : String) : Span :=
  ⟨"admission", [.text "component" "admission", .text "policy" name]⟩

namespace Placement

/-- The path of a policy. -/
def path (p : Placement) : String := routePrefix ++ "/" ++ p.place

/-- The handler of a policy. -/
def handler (p : Placement) : Handler := ⟨p.name, p.policy, policySpan p.name, []⟩

/-- What is recorded when a policy is mounted. -/
def events (p : Placement) : List Event := p.notice.toList ++ [.routeRegistered p.path p.name]

/-- The policy against ingresses. -/
def ingresses (settings : Settings) : Placement :=
  ⟨"deny-ingresses", "deny-ingresses", (KindBan.ingresses ⟨settings.ingressNamespaces⟩).toPolicy,
    none⟩

/-- The policy against public load balancers of a provider. -/
def balancers (settings : Settings) (provider : CloudProvider) : Placement :=
  let name := "deny-public-services-" ++ provider.name
  ⟨name, "deny-public-services/" ++ provider.name,
    LoadBalancerBan.toPolicy ⟨provider, ⟨settings.serviceNamespaces⟩⟩,
    some (.balancersConfigured name provider.internalAnnotation)⟩

/-- The policy for the annotations of pods. -/
def annotations (policy : PodAnnotations) : Placement :=
  ⟨"enforce-pod-annotations", "enforce-pod-annotations", policy.toPolicy,
    some (.annotationsConfigured policy.requiredKeys)⟩

end Placement

/-- The cloud providers, each of them once. -/
def providers (settings : Settings) : Except ConfigError (List CloudProvider) :=
  (settings.providers.mapM CloudProvider.parse).map List.eraseDups

/-- The policy for annotations. -/
def annotationPolicy (settings : Settings) : Except ConfigError PodAnnotations :=
  (settings.requiredAnnotations.mapM parseRequirement).map
    (PodAnnotations.ofList ⟨settings.podNamespaces⟩)

/-- The policies to mount, up to the first thing that is wrong. -/
def placements (settings : Settings) : List Placement × Except ConfigError Unit :=
  let first := [Placement.ingresses settings]
  match providers settings with
  | .error e => (first, .error e)
  | .ok ps =>
    let second := first ++ ps.map (Placement.balancers settings)
    match annotationPolicy settings with
    | .error e => (second, .error e)
    | .ok policy => (second ++ [.annotations policy], .ok ())

/-- What can be wrong with the policies. -/
inductive Fault where
  /-- A setting. -/
  | config (e : ConfigError)
  /-- A path. -/
  | route (f : Http.RouteFault)
  deriving DecidableEq, Repr

/-- The first line of the index. -/
def banner (settings : Settings) : String :=
  CommandLine.programName ++ " " ++ CommandLine.programVersion ++ " (" ++ settings.host ++ ")"

/-- Mounts policies. -/
def mountAll (routes : Routes) (ps : List Placement) : Except Http.RouteFault Routes :=
  ps.foldlM (fun routes p => routes.admission p.path p.handler) routes

/-- The routes of the daemon.  What is wrong with the settings shows after the policies before it
are mounted. -/
def routes (settings : Settings) : Except Fault Routes := do
  let mounted ← (mountAll (.new (banner settings)) (placements settings).1).mapError .route
  (placements settings).2.mapError .config
  return mounted

/-- What is recorded while the policies are mounted. -/
def startLog (settings : Settings) : Log :=
  ((placements settings).1.flatMap Placement.events).map (⟨[], ·⟩)

end Webhook.Daemon

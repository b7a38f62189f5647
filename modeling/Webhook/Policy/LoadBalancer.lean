import Webhook.Policy.CloudProvider
import Webhook.Policy.Exemption
import Webhook.Policy.Object
import Webhook.Resource.Service

/-!
# A ban on public load balancers

A service of type load balancer is open to the world unless one of its annotations tells the
cloud provider to keep it internal.  Outside the exempt namespaces such services are denied.
-/

namespace Webhook

/-- A ban on public load balancers. -/
structure LoadBalancerBan where
  /-- The cloud provider. -/
  provider : CloudProvider
  /-- The namespaces it does not concern. -/
  exempt : Exemption
  deriving DecidableEq, Repr

namespace LoadBalancerBan

/-- The name of the policy, for messages. -/
def policyName : String := "deny-public-services"

/-- Whether a request is about a service. -/
def governs (request : Request) : Bool :=
  request.kind.group == "" && request.kind.kind == "Service"

/-- Whether a service is a load balancer. -/
def isLoadBalancer (service : Json.Value) : Bool :=
  service.textAt? ["spec", "type"] == some "LoadBalancer"

/-- The annotations of a service. -/
def annotations (service : Json.Value) : List (String × String) :=
  service.textsAt ["metadata", "annotations"]

/-- What is said of a service that is denied. -/
def reason (p : CloudProvider) : String :=
  "Services of type LoadBalancer without an internal-only annotation cannot be deployed to this "
    ++ "cluster (provider " ++ p.name ++ ": set " ++ p.internalAnnotation ++ ")"

/-- The verdict on a service. -/
def judgeService (p : CloudProvider) (service : Json.Value) : Verdict :=
  if !isLoadBalancer service || p.isInternal (annotations service) then .allow
  else .denial (reason p)

/-- The verdict on a request. -/
def judge (ban : LoadBalancerBan) (request : Request) : Except Failure Verdict :=
  if !governs request || ban.exempt.covers request then .ok .allow
  else do
    match ← request.readObject Resource.service with
    | none => return .withoutObject policyName request
    | some service => return judgeService ban.provider service

/-- The ban as a policy. -/
def toPolicy (ban : LoadBalancerBan) : Policy := .ofRule ban.judge

end LoadBalancerBan
end Webhook

import Webhook.Resource.Metadata

/-!
# Services

A service gives a name and an address to a set of pods.
-/

namespace Webhook.Resource

/-- How long a client keeps its pod. -/
def clientIPConfig : Schema :=
  record "ClientIPConfig"
    [ ("timeoutSeconds", .int32) ]

/-- How a client keeps its pod. -/
def sessionAffinityConfig : Schema :=
  record "SessionAffinityConfig"
    [ ("clientIP", clientIPConfig) ]

/-- A port of a service. -/
def servicePort : Schema :=
  record "ServicePort"
    [ ("appProtocol", .text), ("name", .text), ("nodePort", .int32), ("port", .int32),
      ("protocol", .text), ("targetPort", .intOrText) ]

/-- What a service should be. -/
def serviceSpec : Schema :=
  record "ServiceSpec"
    [ ("allocateLoadBalancerNodePorts", .flag), ("clusterIP", .text), ("clusterIPs", texts),
      ("externalIPs", texts), ("externalName", .text), ("externalTrafficPolicy", .text),
      ("healthCheckNodePort", .int32), ("internalTrafficPolicy", .text), ("ipFamilies", texts),
      ("ipFamilyPolicy", .text), ("loadBalancerClass", .text), ("loadBalancerIP", .text),
      ("loadBalancerSourceRanges", texts), ("ports", .list servicePort),
      ("publishNotReadyAddresses", .flag), ("selector", textTable), ("sessionAffinity", .text),
      ("sessionAffinityConfig", sessionAffinityConfig), ("trafficDistribution", .text),
      ("type", .text) ]

/-- The state of a port of a load balancer. -/
def portStatus : Schema :=
  record "PortStatus"
    [ ("error", .text), ("port", .int32), ("protocol", .text) ]

/-- A way into a load balancer. -/
def loadBalancerIngress : Schema :=
  record "LoadBalancerIngress"
    [ ("hostname", .text), ("ip", .text), ("ipMode", .text), ("ports", .list portStatus) ]

/-- The state of a load balancer. -/
def loadBalancerStatus : Schema :=
  record "LoadBalancerStatus"
    [ ("ingress", .list loadBalancerIngress) ]

/-- The state of a service. -/
def serviceStatus : Schema :=
  record "ServiceStatus"
    [ ("conditions", .list condition), ("loadBalancer", loadBalancerStatus) ]

/-- A service. -/
def service : Schema :=
  .versioned "v1" "Service"
    [ ("metadata", objectMeta), ("spec", serviceSpec), ("status", serviceStatus) ]

end Webhook.Resource

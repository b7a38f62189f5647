import Webhook.Resource.Container

/-!
# Pods

A pod is a group of containers that run together on one node.
-/

namespace Webhook.Resource

/-- A requirement on a label of a node. -/
def nodeSelectorRequirement : Schema :=
  record "NodeSelectorRequirement"
    [ ("key", .text), ("operator", .text), ("values", texts) ]

/-- Requirements on a node. -/
def nodeSelectorTerm : Schema :=
  record "NodeSelectorTerm"
    [ ("matchExpressions", .list nodeSelectorRequirement),
      ("matchFields", .list nodeSelectorRequirement) ]

/-- Nodes that meet one of several requirements. -/
def nodeSelector : Schema :=
  record "NodeSelector"
    [ ("nodeSelectorTerms", .list nodeSelectorTerm) ]

/-- A preference for nodes. -/
def preferredSchedulingTerm : Schema :=
  record "PreferredSchedulingTerm"
    [ ("preference", nodeSelectorTerm), ("weight", .int32) ]

/-- The nodes a pod may run on. -/
def nodeAffinity : Schema :=
  record "NodeAffinity"
    [ ("preferredDuringSchedulingIgnoredDuringExecution", .list preferredSchedulingTerm),
      ("requiredDuringSchedulingIgnoredDuringExecution", nodeSelector) ]

/-- Pods to be near to. -/
def podAffinityTerm : Schema :=
  record "PodAffinityTerm"
    [ ("labelSelector", labelSelector), ("matchLabelKeys", texts), ("mismatchLabelKeys", texts),
      ("namespaceSelector", labelSelector), ("namespaces", texts), ("topologyKey", .text) ]

/-- Pods to be near to if possible. -/
def weightedPodAffinityTerm : Schema :=
  record "WeightedPodAffinityTerm"
    [ ("podAffinityTerm", podAffinityTerm), ("weight", .int32) ]

/-- The pods a pod should be near to. -/
def podAffinity : Schema :=
  record "PodAffinity"
    [ ("preferredDuringSchedulingIgnoredDuringExecution", .list weightedPodAffinityTerm),
      ("requiredDuringSchedulingIgnoredDuringExecution", .list podAffinityTerm) ]

/-- The pods a pod should be away from. -/
def podAntiAffinity : Schema :=
  record "PodAntiAffinity"
    [ ("preferredDuringSchedulingIgnoredDuringExecution", .list weightedPodAffinityTerm),
      ("requiredDuringSchedulingIgnoredDuringExecution", .list podAffinityTerm) ]

/-- Where a pod may run. -/
def affinity : Schema :=
  record "Affinity"
    [ ("nodeAffinity", nodeAffinity), ("podAffinity", podAffinity),
      ("podAntiAffinity", podAntiAffinity) ]

/-- An option of name resolution. -/
def podDNSConfigOption : Schema :=
  record "PodDNSConfigOption"
    [ ("name", .text), ("value", .text) ]

/-- How names are resolved. -/
def podDNSConfig : Schema :=
  record "PodDNSConfig"
    [ ("nameservers", texts), ("options", .list podDNSConfigOption), ("searches", texts) ]

/-- Further names of an address. -/
def hostAlias : Schema :=
  record "HostAlias"
    [ ("hostnames", texts), ("ip", .text) ]

/-- An operating system. -/
def podOS : Schema :=
  record "PodOS"
    [ ("name", .text) ]

/-- A condition to wait for. -/
def podReadinessGate : Schema :=
  record "PodReadinessGate"
    [ ("conditionType", .text) ]

/-- A device that is claimed. -/
def podResourceClaim : Schema :=
  record "PodResourceClaim"
    [ ("name", .text), ("resourceClaimName", .text), ("resourceClaimTemplateName", .text) ]

/-- A reason not to start yet. -/
def podSchedulingGate : Schema :=
  record "PodSchedulingGate"
    [ ("name", .text) ]

/-- A setting of the system. -/
def sysctl : Schema :=
  record "Sysctl"
    [ ("name", .text), ("value", .text) ]

/-- The rights of a pod. -/
def podSecurityContext : Schema :=
  record "PodSecurityContext"
    [ ("appArmorProfile", appArmorProfile), ("fsGroup", .int64), ("fsGroupChangePolicy", .text),
      ("runAsGroup", .int64), ("runAsNonRoot", .flag), ("runAsUser", .int64),
      ("seLinuxChangePolicy", .text), ("seLinuxOptions", seLinuxOptions),
      ("seccompProfile", seccompProfile), ("supplementalGroups", .list .int64),
      ("supplementalGroupsPolicy", .text), ("sysctls", .list sysctl),
      ("windowsOptions", windowsSecurityContextOptions) ]

/-- A taint that a pod tolerates. -/
def toleration : Schema :=
  record "Toleration"
    [ ("effect", .text), ("key", .text), ("operator", .text), ("tolerationSeconds", .int64),
      ("value", .text) ]

/-- How pods are spread. -/
def topologySpreadConstraint : Schema :=
  record "TopologySpreadConstraint"
    [ ("labelSelector", labelSelector), ("matchLabelKeys", texts), ("maxSkew", .int32),
      ("minDomains", .int32), ("nodeAffinityPolicy", .text), ("nodeTaintsPolicy", .text),
      ("topologyKey", .text), ("whenUnsatisfiable", .text) ]

/-- What a pod should be. -/
def podSpec : Schema :=
  record "PodSpec"
    [ ("activeDeadlineSeconds", .int64), ("affinity", affinity),
      ("automountServiceAccountToken", .flag), ("containers", .list container),
      ("dnsConfig", podDNSConfig), ("dnsPolicy", .text), ("enableServiceLinks", .flag),
      ("ephemeralContainers", .list ephemeralContainer), ("hostAliases", .list hostAlias),
      ("hostIPC", .flag), ("hostNetwork", .flag), ("hostPID", .flag), ("hostUsers", .flag),
      ("hostname", .text), ("imagePullSecrets", .list localObjectReference),
      ("initContainers", .list container), ("nodeName", .text), ("nodeSelector", textTable),
      ("os", podOS), ("overhead", quantities), ("preemptionPolicy", .text), ("priority", .int32),
      ("priorityClassName", .text), ("readinessGates", .list podReadinessGate),
      ("resourceClaims", .list podResourceClaim), ("resources", resourceRequirements),
      ("restartPolicy", .text), ("runtimeClassName", .text), ("schedulerName", .text),
      ("schedulingGates", .list podSchedulingGate), ("securityContext", podSecurityContext),
      ("serviceAccount", .text), ("serviceAccountName", .text), ("setHostnameAsFQDN", .flag),
      ("shareProcessNamespace", .flag), ("subdomain", .text),
      ("terminationGracePeriodSeconds", .int64), ("tolerations", .list toleration),
      ("topologySpreadConstraints", .list topologySpreadConstraint), ("volumes", .list volume) ]

/-- A template of pods. -/
def podTemplateSpec : Schema :=
  record "PodTemplateSpec"
    [ ("metadata", objectMeta), ("spec", podSpec) ]

/-- An observation about a pod. -/
def podCondition : Schema :=
  record "PodCondition"
    [ ("lastProbeTime", .instant), ("lastTransitionTime", .instant), ("message", .text),
      ("reason", .text), ("status", .text), ("type", .text) ]

/-- An address of a node. -/
def hostIP : Schema :=
  record "HostIP"
    [ ("ip", .text) ]

/-- An address of a pod. -/
def podIP : Schema :=
  record "PodIP"
    [ ("ip", .text) ]

/-- A device that has been claimed. -/
def podResourceClaimStatus : Schema :=
  record "PodResourceClaimStatus"
    [ ("name", .text), ("resourceClaimName", .text) ]

/-- The state of a pod. -/
def podStatus : Schema :=
  record "PodStatus"
    [ ("conditions", .list podCondition), ("containerStatuses", .list containerStatus),
      ("ephemeralContainerStatuses", .list containerStatus), ("hostIP", .text),
      ("hostIPs", .list hostIP), ("initContainerStatuses", .list containerStatus),
      ("message", .text), ("nominatedNodeName", .text), ("phase", .text), ("podIP", .text),
      ("podIPs", .list podIP), ("qosClass", .text), ("reason", .text), ("resize", .text),
      ("resourceClaimStatuses", .list podResourceClaimStatus), ("startTime", .instant) ]

/-- A pod. -/
def pod : Schema :=
  .versioned "v1" "Pod"
    [ ("metadata", objectMeta), ("spec", podSpec), ("status", podStatus) ]

end Webhook.Resource

import Webhook.Resource.Volume

/-!
# Containers

A container runs one image inside a pod.
-/

namespace Webhook.Resource

/-- A key of a configuration. -/
def configMapKeySelector : Schema :=
  record "ConfigMapKeySelector"
    [ ("key", .text), ("name", .text), ("optional", .flag) ]

/-- A key of a secret. -/
def secretKeySelector : Schema :=
  record "SecretKeySelector"
    [ ("key", .text), ("name", .text), ("optional", .flag) ]

/-- Where the value of a variable comes from. -/
def envVarSource : Schema :=
  record "EnvVarSource"
    [ ("configMapKeyRef", configMapKeySelector), ("fieldRef", objectFieldSelector),
      ("resourceFieldRef", resourceFieldSelector), ("secretKeyRef", secretKeySelector) ]

/-- A variable of the environment. -/
def envVar : Schema :=
  record "EnvVar"
    [ ("name", .text), ("value", .text), ("valueFrom", envVarSource) ]

/-- A configuration. -/
def configMapEnvSource : Schema :=
  record "ConfigMapEnvSource"
    [ ("name", .text), ("optional", .flag) ]

/-- A secret. -/
def secretEnvSource : Schema :=
  record "SecretEnvSource"
    [ ("name", .text), ("optional", .flag) ]

/-- Where several variables come from. -/
def envFromSource : Schema :=
  record "EnvFromSource"
    [ ("configMapRef", configMapEnvSource), ("prefix", .text), ("secretRef", secretEnvSource) ]

/-- A command. -/
def execAction : Schema :=
  record "ExecAction"
    [ ("command", texts) ]

/-- A header of a request. -/
def httpHeader : Schema :=
  record "HTTPHeader"
    [ ("name", .text), ("value", .text) ]

/-- A request. -/
def httpGetAction : Schema :=
  record "HTTPGetAction"
    [ ("host", .text), ("httpHeaders", .list httpHeader), ("path", .text), ("port", .intOrText),
      ("scheme", .text) ]

/-- A pause. -/
def sleepAction : Schema :=
  record "SleepAction"
    [ ("seconds", .int64) ]

/-- A connection. -/
def tcpSocketAction : Schema :=
  record "TCPSocketAction"
    [ ("host", .text), ("port", .intOrText) ]

/-- A call. -/
def grpcAction : Schema :=
  record "GRPCAction"
    [ ("port", .int32), ("service", .text) ]

/-- What is done at an event of the life of a container. -/
def lifecycleHandler : Schema :=
  record "LifecycleHandler"
    [ ("exec", execAction), ("httpGet", httpGetAction), ("sleep", sleepAction),
      ("tcpSocket", tcpSocketAction) ]

/-- The events of the life of a container. -/
def lifecycle : Schema :=
  record "Lifecycle"
    [ ("postStart", lifecycleHandler), ("preStop", lifecycleHandler) ]

/-- How a container is watched. -/
def probe : Schema :=
  record "Probe"
    [ ("exec", execAction), ("failureThreshold", .int32), ("grpc", grpcAction),
      ("httpGet", httpGetAction), ("initialDelaySeconds", .int32), ("periodSeconds", .int32),
      ("successThreshold", .int32), ("tcpSocket", tcpSocketAction),
      ("terminationGracePeriodSeconds", .int64), ("timeoutSeconds", .int32) ]

/-- A port of a container. -/
def containerPort : Schema :=
  record "ContainerPort"
    [ ("containerPort", .int32), ("hostIP", .text), ("hostPort", .int32), ("name", .text),
      ("protocol", .text) ]

/-- What happens when a resource is resized. -/
def containerResizePolicy : Schema :=
  record "ContainerResizePolicy"
    [ ("resourceName", .text), ("restartPolicy", .text) ]

/-- A device that is claimed. -/
def resourceClaim : Schema :=
  record "ResourceClaim"
    [ ("name", .text), ("request", .text) ]

/-- The resources that are asked for. -/
def resourceRequirements : Schema :=
  record "ResourceRequirements"
    [ ("claims", .list resourceClaim), ("limits", quantities), ("requests", quantities) ]

/-- A security profile. -/
def appArmorProfile : Schema :=
  record "AppArmorProfile"
    [ ("localhostProfile", .text), ("type", .text) ]

/-- Rights that are given or taken. -/
def capabilities : Schema :=
  record "Capabilities"
    [ ("add", texts), ("drop", texts) ]

/-- A security label. -/
def seLinuxOptions : Schema :=
  record "SELinuxOptions"
    [ ("level", .text), ("role", .text), ("type", .text), ("user", .text) ]

/-- A filter of system calls. -/
def seccompProfile : Schema :=
  record "SeccompProfile"
    [ ("localhostProfile", .text), ("type", .text) ]

/-- Options of one operating system. -/
def windowsSecurityContextOptions : Schema :=
  record "WindowsSecurityContextOptions"
    [ ("gmsaCredentialSpec", .text), ("gmsaCredentialSpecName", .text), ("hostProcess", .flag),
      ("runAsUserName", .text) ]

/-- The rights of a container. -/
def securityContext : Schema :=
  record "SecurityContext"
    [ ("allowPrivilegeEscalation", .flag), ("appArmorProfile", appArmorProfile),
      ("capabilities", capabilities), ("privileged", .flag), ("procMount", .text),
      ("readOnlyRootFilesystem", .flag), ("runAsGroup", .int64), ("runAsNonRoot", .flag),
      ("runAsUser", .int64), ("seLinuxOptions", seLinuxOptions),
      ("seccompProfile", seccompProfile), ("windowsOptions", windowsSecurityContextOptions) ]

/-- A volume as a device. -/
def volumeDevice : Schema :=
  record "VolumeDevice"
    [ ("devicePath", .text), ("name", .text) ]

/-- A volume as a directory. -/
def volumeMount : Schema :=
  record "VolumeMount"
    [ ("mountPath", .text), ("mountPropagation", .text), ("name", .text), ("readOnly", .flag),
      ("recursiveReadOnly", .text), ("subPath", .text), ("subPathExpr", .text) ]

/-- A container. -/
def container : Schema :=
  record "Container"
    [ ("args", texts), ("command", texts), ("env", .list envVar),
      ("envFrom", .list envFromSource), ("image", .text), ("imagePullPolicy", .text),
      ("lifecycle", lifecycle), ("livenessProbe", probe), ("name", .text),
      ("ports", .list containerPort), ("readinessProbe", probe),
      ("resizePolicy", .list containerResizePolicy), ("resources", resourceRequirements),
      ("restartPolicy", .text), ("securityContext", securityContext), ("startupProbe", probe),
      ("stdin", .flag), ("stdinOnce", .flag), ("terminationMessagePath", .text),
      ("terminationMessagePolicy", .text), ("tty", .flag), ("volumeDevices", .list volumeDevice),
      ("volumeMounts", .list volumeMount), ("workingDir", .text) ]

/-- A container that is added to a running pod. -/
def ephemeralContainer : Schema :=
  record "EphemeralContainer"
    [ ("args", texts), ("command", texts), ("env", .list envVar),
      ("envFrom", .list envFromSource), ("image", .text), ("imagePullPolicy", .text),
      ("lifecycle", lifecycle), ("livenessProbe", probe), ("name", .text),
      ("ports", .list containerPort), ("readinessProbe", probe),
      ("resizePolicy", .list containerResizePolicy), ("resources", resourceRequirements),
      ("restartPolicy", .text), ("securityContext", securityContext), ("startupProbe", probe),
      ("stdin", .flag), ("stdinOnce", .flag), ("targetContainerName", .text),
      ("terminationMessagePath", .text), ("terminationMessagePolicy", .text), ("tty", .flag),
      ("volumeDevices", .list volumeDevice), ("volumeMounts", .list volumeMount),
      ("workingDir", .text) ]

/-- A container that runs. -/
def containerStateRunning : Schema :=
  record "ContainerStateRunning"
    [ ("startedAt", .instant) ]

/-- A container that has ended. -/
def containerStateTerminated : Schema :=
  record "ContainerStateTerminated"
    [ ("containerID", .text), ("exitCode", .int32), ("finishedAt", .instant), ("message", .text),
      ("reason", .text), ("signal", .int32), ("startedAt", .instant) ]

/-- A container that has not started. -/
def containerStateWaiting : Schema :=
  record "ContainerStateWaiting"
    [ ("message", .text), ("reason", .text) ]

/-- One of the states of a container. -/
def containerState : Schema :=
  record "ContainerState"
    [ ("running", containerStateRunning), ("terminated", containerStateTerminated),
      ("waiting", containerStateWaiting) ]

/-- The health of a device. -/
def resourceHealth : Schema :=
  record "ResourceHealth"
    [ ("health", .text), ("resourceID", .text) ]

/-- The health of devices. -/
def resourceStatus : Schema :=
  record "ResourceStatus"
    [ ("name", .text), ("resources", .list resourceHealth) ]

/-- The user a container runs as. -/
def linuxContainerUser : Schema :=
  record "LinuxContainerUser"
    [ ("gid", .int64), ("supplementalGroups", .list .int64), ("uid", .int64) ]

/-- The user a container runs as. -/
def containerUser : Schema :=
  record "ContainerUser"
    [ ("linux", linuxContainerUser) ]

/-- A volume as it is mounted. -/
def volumeMountStatus : Schema :=
  record "VolumeMountStatus"
    [ ("mountPath", .text), ("name", .text), ("readOnly", .flag), ("recursiveReadOnly", .text) ]

/-- The state of a container and its history. -/
def containerStatus : Schema :=
  record "ContainerStatus"
    [ ("allocatedResources", quantities), ("allocatedResourcesStatus", .list resourceStatus),
      ("containerID", .text), ("image", .text), ("imageID", .text),
      ("lastState", containerState), ("name", .text), ("ready", .flag),
      ("resources", resourceRequirements), ("restartCount", .int32), ("started", .flag),
      ("state", containerState), ("user", containerUser),
      ("volumeMounts", .list volumeMountStatus) ]

end Webhook.Resource

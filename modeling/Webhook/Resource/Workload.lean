import Webhook.Resource.Pod

/-!
# Workloads

The objects that create pods from a template: deployments and the sets beneath them, jobs and
scheduled jobs.
-/

namespace Webhook.Resource

/-- How many pods are replaced at once. -/
def rollingUpdateDeployment : Schema :=
  record "RollingUpdateDeployment"
    [ ("maxSurge", .intOrText), ("maxUnavailable", .intOrText) ]

/-- How pods are replaced. -/
def deploymentStrategy : Schema :=
  record "DeploymentStrategy"
    [ ("rollingUpdate", rollingUpdateDeployment), ("type", .text) ]

/-- What a deployment should be. -/
def deploymentSpec : Schema :=
  record "DeploymentSpec"
    [ ("minReadySeconds", .int32), ("paused", .flag), ("progressDeadlineSeconds", .int32),
      ("replicas", .int32), ("revisionHistoryLimit", .int32), ("selector", labelSelector),
      ("strategy", deploymentStrategy), ("template", podTemplateSpec) ]

/-- An observation about a deployment. -/
def deploymentCondition : Schema :=
  record "DeploymentCondition"
    [ ("lastTransitionTime", .instant), ("lastUpdateTime", .instant), ("message", .text),
      ("reason", .text), ("status", .text), ("type", .text) ]

/-- The state of a deployment. -/
def deploymentStatus : Schema :=
  record "DeploymentStatus"
    [ ("availableReplicas", .int32), ("collisionCount", .int32),
      ("conditions", .list deploymentCondition), ("observedGeneration", .int64),
      ("readyReplicas", .int32), ("replicas", .int32), ("unavailableReplicas", .int32),
      ("updatedReplicas", .int32) ]

/-- A deployment. -/
def deployment : Schema :=
  .versioned "apps/v1" "Deployment"
    [ ("metadata", objectMeta), ("spec", deploymentSpec), ("status", deploymentStatus) ]

/-- How the pods of a set are numbered. -/
def statefulSetOrdinals : Schema :=
  record "StatefulSetOrdinals"
    [ ("start", .int32) ]

/-- What becomes of the storage of a set. -/
def statefulSetPersistentVolumeClaimRetentionPolicy : Schema :=
  record "StatefulSetPersistentVolumeClaimRetentionPolicy"
    [ ("whenDeleted", .text), ("whenScaled", .text) ]

/-- How many pods are replaced at once. -/
def rollingUpdateStatefulSetStrategy : Schema :=
  record "RollingUpdateStatefulSetStrategy"
    [ ("maxUnavailable", .intOrText), ("partition", .int32) ]

/-- How pods are replaced. -/
def statefulSetUpdateStrategy : Schema :=
  record "StatefulSetUpdateStrategy"
    [ ("rollingUpdate", rollingUpdateStatefulSetStrategy), ("type", .text) ]

/-- What a set of pods with an identity should be. -/
def statefulSetSpec : Schema :=
  record "StatefulSetSpec"
    [ ("minReadySeconds", .int32), ("ordinals", statefulSetOrdinals),
      ("persistentVolumeClaimRetentionPolicy", statefulSetPersistentVolumeClaimRetentionPolicy),
      ("podManagementPolicy", .text), ("replicas", .int32), ("revisionHistoryLimit", .int32),
      ("selector", labelSelector), ("serviceName", .text), ("template", podTemplateSpec),
      ("updateStrategy", statefulSetUpdateStrategy),
      ("volumeClaimTemplates", .list persistentVolumeClaim) ]

/-- An observation about a set. -/
def statefulSetCondition : Schema :=
  record "StatefulSetCondition"
    [ ("lastTransitionTime", .instant), ("message", .text), ("reason", .text), ("status", .text),
      ("type", .text) ]

/-- The state of a set. -/
def statefulSetStatus : Schema :=
  record "StatefulSetStatus"
    [ ("availableReplicas", .int32), ("collisionCount", .int32),
      ("conditions", .list statefulSetCondition), ("currentReplicas", .int32),
      ("currentRevision", .text), ("observedGeneration", .int64), ("readyReplicas", .int32),
      ("replicas", .int32), ("updateRevision", .text), ("updatedReplicas", .int32) ]

/-- A set of pods with an identity. -/
def statefulSet : Schema :=
  .versioned "apps/v1" "StatefulSet"
    [ ("metadata", objectMeta), ("spec", statefulSetSpec), ("status", statefulSetStatus) ]

/-- How many pods are replaced at once. -/
def rollingUpdateDaemonSet : Schema :=
  record "RollingUpdateDaemonSet"
    [ ("maxSurge", .intOrText), ("maxUnavailable", .intOrText) ]

/-- How pods are replaced. -/
def daemonSetUpdateStrategy : Schema :=
  record "DaemonSetUpdateStrategy"
    [ ("rollingUpdate", rollingUpdateDaemonSet), ("type", .text) ]

/-- What a set of one pod on each node should be. -/
def daemonSetSpec : Schema :=
  record "DaemonSetSpec"
    [ ("minReadySeconds", .int32), ("revisionHistoryLimit", .int32), ("selector", labelSelector),
      ("template", podTemplateSpec), ("updateStrategy", daemonSetUpdateStrategy) ]

/-- An observation about a set. -/
def daemonSetCondition : Schema :=
  record "DaemonSetCondition"
    [ ("lastTransitionTime", .instant), ("message", .text), ("reason", .text), ("status", .text),
      ("type", .text) ]

/-- The state of a set. -/
def daemonSetStatus : Schema :=
  record "DaemonSetStatus"
    [ ("collisionCount", .int32), ("conditions", .list daemonSetCondition),
      ("currentNumberScheduled", .int32), ("desiredNumberScheduled", .int32),
      ("numberAvailable", .int32), ("numberMisscheduled", .int32), ("numberReady", .int32),
      ("numberUnavailable", .int32), ("observedGeneration", .int64),
      ("updatedNumberScheduled", .int32) ]

/-- A set of one pod on each node. -/
def daemonSet : Schema :=
  .versioned "apps/v1" "DaemonSet"
    [ ("metadata", objectMeta), ("spec", daemonSetSpec), ("status", daemonSetStatus) ]

/-- What a set of equal pods should be. -/
def replicaSetSpec : Schema :=
  record "ReplicaSetSpec"
    [ ("minReadySeconds", .int32), ("replicas", .int32), ("selector", labelSelector),
      ("template", podTemplateSpec) ]

/-- An observation about a set. -/
def replicaSetCondition : Schema :=
  record "ReplicaSetCondition"
    [ ("lastTransitionTime", .instant), ("message", .text), ("reason", .text), ("status", .text),
      ("type", .text) ]

/-- The state of a set. -/
def replicaSetStatus : Schema :=
  record "ReplicaSetStatus"
    [ ("availableReplicas", .int32), ("conditions", .list replicaSetCondition),
      ("fullyLabeledReplicas", .int32), ("observedGeneration", .int64),
      ("readyReplicas", .int32), ("replicas", .int32) ]

/-- A set of equal pods. -/
def replicaSet : Schema :=
  .versioned "apps/v1" "ReplicaSet"
    [ ("metadata", objectMeta), ("spec", replicaSetSpec), ("status", replicaSetStatus) ]

/-- A requirement on the exit code of a container. -/
def podFailurePolicyOnExitCodesRequirement : Schema :=
  record "PodFailurePolicyOnExitCodesRequirement"
    [ ("containerName", .text), ("operator", .text), ("values", .list .int32) ]

/-- A requirement on a condition of a pod. -/
def podFailurePolicyOnPodConditionsPattern : Schema :=
  record "PodFailurePolicyOnPodConditionsPattern"
    [ ("status", .text), ("type", .text) ]

/-- What is done about a failed pod. -/
def podFailurePolicyRule : Schema :=
  record "PodFailurePolicyRule"
    [ ("action", .text), ("onExitCodes", podFailurePolicyOnExitCodesRequirement),
      ("onPodConditions", .list podFailurePolicyOnPodConditionsPattern) ]

/-- What is done about failed pods. -/
def podFailurePolicy : Schema :=
  record "PodFailurePolicy"
    [ ("rules", .list podFailurePolicyRule) ]

/-- When a job has succeeded. -/
def successPolicyRule : Schema :=
  record "SuccessPolicyRule"
    [ ("succeededCount", .int32), ("succeededIndexes", .text) ]

/-- When a job has succeeded. -/
def successPolicy : Schema :=
  record "SuccessPolicy"
    [ ("rules", .list successPolicyRule) ]

/-- What a job should be. -/
def jobSpec : Schema :=
  record "JobSpec"
    [ ("activeDeadlineSeconds", .int64), ("backoffLimit", .int32),
      ("backoffLimitPerIndex", .int32), ("completionMode", .text), ("completions", .int32),
      ("managedBy", .text), ("manualSelector", .flag), ("maxFailedIndexes", .int32),
      ("parallelism", .int32), ("podFailurePolicy", podFailurePolicy),
      ("podReplacementPolicy", .text), ("selector", labelSelector),
      ("successPolicy", successPolicy), ("suspend", .flag), ("template", podTemplateSpec),
      ("ttlSecondsAfterFinished", .int32) ]

/-- An observation about a job. -/
def jobCondition : Schema :=
  record "JobCondition"
    [ ("lastProbeTime", .instant), ("lastTransitionTime", .instant), ("message", .text),
      ("reason", .text), ("status", .text), ("type", .text) ]

/-- Pods that have ended and are not counted yet. -/
def uncountedTerminatedPods : Schema :=
  record "UncountedTerminatedPods"
    [ ("failed", texts), ("succeeded", texts) ]

/-- The state of a job. -/
def jobStatus : Schema :=
  record "JobStatus"
    [ ("active", .int32), ("completedIndexes", .text), ("completionTime", .instant),
      ("conditions", .list jobCondition), ("failed", .int32), ("failedIndexes", .text),
      ("ready", .int32), ("startTime", .instant), ("succeeded", .int32), ("terminating", .int32),
      ("uncountedTerminatedPods", uncountedTerminatedPods) ]

/-- A job. -/
def job : Schema :=
  .versioned "batch/v1" "Job"
    [ ("metadata", objectMeta), ("spec", jobSpec), ("status", jobStatus) ]

/-- A template of jobs. -/
def jobTemplateSpec : Schema :=
  record "JobTemplateSpec"
    [ ("metadata", objectMeta), ("spec", jobSpec) ]

/-- What a scheduled job should be. -/
def cronJobSpec : Schema :=
  record "CronJobSpec"
    [ ("concurrencyPolicy", .text), ("failedJobsHistoryLimit", .int32),
      ("jobTemplate", jobTemplateSpec), ("schedule", .text), ("startingDeadlineSeconds", .int64),
      ("successfulJobsHistoryLimit", .int32), ("suspend", .flag), ("timeZone", .text) ]

/-- The state of a scheduled job. -/
def cronJobStatus : Schema :=
  record "CronJobStatus"
    [ ("active", .list objectReference), ("lastScheduleTime", .instant),
      ("lastSuccessfulTime", .instant) ]

/-- A scheduled job. -/
def cronJob : Schema :=
  .versioned "batch/v1" "CronJob"
    [ ("metadata", objectMeta), ("spec", cronJobSpec), ("status", cronJobStatus) ]

end Webhook.Resource

import Webhook.Resource.Workload
import Webhook.Policy.Object

/-!
# Workloads

The kinds of objects that pods come from: pods themselves and the controllers with a template for
their pods.  The annotations a pod will carry stand at a place that depends on the kind.
-/

namespace Webhook

/-- A kind of object that pods come from. -/
inductive Workload where
  | pod
  | deployment
  | statefulSet
  | daemonSet
  | replicaSet
  | job
  | cronJob
  deriving DecidableEq, Repr

namespace Workload

/-- All kinds of workloads. -/
def all : List Workload :=
  [pod, deployment, statefulSet, daemonSet, replicaSet, job, cronJob]

/-- The API group of a kind. -/
def group : Workload → String
  | pod => ""
  | deployment | statefulSet | daemonSet | replicaSet => "apps"
  | job | cronJob => "batch"

/-- The name of a kind. -/
def kind : Workload → String
  | pod => "Pod"
  | deployment => "Deployment"
  | statefulSet => "StatefulSet"
  | daemonSet => "DaemonSet"
  | replicaSet => "ReplicaSet"
  | job => "Job"
  | cronJob => "CronJob"

/-- The type of the objects of a kind. -/
def schema : Workload → Resource.Schema
  | pod => Resource.pod
  | deployment => Resource.deployment
  | statefulSet => Resource.statefulSet
  | daemonSet => Resource.daemonSet
  | replicaSet => Resource.replicaSet
  | job => Resource.job
  | cronJob => Resource.cronJob

/-- The place of the pod's annotations within an object. -/
def annotationsPath : Workload → List String
  | pod => ["metadata", "annotations"]
  | deployment | statefulSet | daemonSet | replicaSet | job =>
    ["spec", "template", "metadata", "annotations"]
  | cronJob => ["spec", "jobTemplate", "spec", "template", "metadata", "annotations"]

/-- The annotations that the pods of an object will carry. -/
def annotations (w : Workload) (object : Json.Value) : List (String × String) :=
  object.textsAt w.annotationsPath

/-- The workload that a request is about. -/
def ofRequest? (request : Request) : Option Workload :=
  all.find? fun w => w.group == request.kind.group && w.kind == request.kind.kind

end Workload
end Webhook

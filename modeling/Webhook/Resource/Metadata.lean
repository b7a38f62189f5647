import Webhook.Resource.Schema

/-!
# Metadata of objects

What every object carries about itself, and how objects are selected by it.
-/

namespace Webhook.Resource

/-- A set of fields that one manager has written. -/
def managedFieldsEntry : Schema :=
  record "ManagedFieldsEntry"
    [ ("apiVersion", .text), ("fieldsType", .text), ("fieldsV1", .anything), ("manager", .text),
      ("operation", .text), ("subresource", .text), ("time", .instant) ]

/-- An object that owns another. -/
def ownerReference : Schema :=
  record "OwnerReference"
    [ ("apiVersion", .text), ("blockOwnerDeletion", .flag), ("controller", .flag),
      ("kind", .text), ("name", .text), ("uid", .text) ]

/-- The metadata of an object. -/
def objectMeta : Schema :=
  record "ObjectMeta"
    [ ("annotations", textTable), ("creationTimestamp", .instant),
      ("deletionGracePeriodSeconds", .int64), ("deletionTimestamp", .instant),
      ("finalizers", texts), ("generateName", .text), ("generation", .int64),
      ("labels", textTable), ("managedFields", .list managedFieldsEntry), ("name", .text),
      ("namespace", .text), ("ownerReferences", .list ownerReference),
      ("resourceVersion", .text), ("selfLink", .text), ("uid", .text) ]

/-- A requirement on one label. -/
def labelSelectorRequirement : Schema :=
  record "LabelSelectorRequirement"
    [ ("key", .text), ("operator", .text), ("values", texts) ]

/-- A requirement on labels. -/
def labelSelector : Schema :=
  record "LabelSelector"
    [ ("matchExpressions", .list labelSelectorRequirement), ("matchLabels", textTable) ]

/-- An observation about an object. -/
def condition : Schema :=
  .record "Condition"
    [ ("lastTransitionTime", .instant), ("message", .text), ("observedGeneration", .int64),
      ("reason", .text), ("status", .text), ("type", .text) ]
    ["lastTransitionTime"]

/-- The name of an object in the same namespace. -/
def localObjectReference : Schema :=
  record "LocalObjectReference"
    [ ("name", .text) ]

/-- The kind and name of an object in the same namespace. -/
def typedLocalObjectReference : Schema :=
  record "TypedLocalObjectReference"
    [ ("apiGroup", .text), ("kind", .text), ("name", .text) ]

/-- The kind and name of an object. -/
def typedObjectReference : Schema :=
  record "TypedObjectReference"
    [ ("apiGroup", .text), ("kind", .text), ("name", .text), ("namespace", .text) ]

/-- A user. -/
def userInfo : Schema :=
  record "UserInfo"
    [ ("extra", .table texts), ("groups", texts), ("uid", .text), ("username", .text) ]

/-- A reference to an object or a part of one. -/
def objectReference : Schema :=
  record "ObjectReference"
    [ ("apiVersion", .text), ("fieldPath", .text), ("kind", .text), ("name", .text),
      ("namespace", .text), ("resourceVersion", .text), ("uid", .text) ]

end Webhook.Resource

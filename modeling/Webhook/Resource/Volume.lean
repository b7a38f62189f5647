import Webhook.Resource.Metadata

/-!
# Volumes

The kinds of storage a pod can mount.
-/

namespace Webhook.Resource

/-- The storage that is asked for. -/
def volumeResourceRequirements : Schema :=
  record "VolumeResourceRequirements"
    [ ("limits", quantities), ("requests", quantities) ]

/-- What a claim on storage should be. -/
def persistentVolumeClaimSpec : Schema :=
  record "PersistentVolumeClaimSpec"
    [ ("accessModes", texts), ("dataSource", typedLocalObjectReference),
      ("dataSourceRef", typedObjectReference), ("resources", volumeResourceRequirements),
      ("selector", labelSelector), ("storageClassName", .text),
      ("volumeAttributesClassName", .text), ("volumeMode", .text), ("volumeName", .text) ]

/-- A template of claims on storage. -/
def persistentVolumeClaimTemplate : Schema :=
  record "PersistentVolumeClaimTemplate"
    [ ("metadata", objectMeta), ("spec", persistentVolumeClaimSpec) ]

/-- An observation about a claim on storage. -/
def persistentVolumeClaimCondition : Schema :=
  record "PersistentVolumeClaimCondition"
    [ ("lastProbeTime", .instant), ("lastTransitionTime", .instant), ("message", .text),
      ("reason", .text), ("status", .text), ("type", .text) ]

/-- The progress of a change of a volume. -/
def modifyVolumeStatus : Schema :=
  record "ModifyVolumeStatus"
    [ ("status", .text), ("targetVolumeAttributesClassName", .text) ]

/-- The state of a claim on storage. -/
def persistentVolumeClaimStatus : Schema :=
  record "PersistentVolumeClaimStatus"
    [ ("accessModes", texts), ("allocatedResourceStatuses", textTable),
      ("allocatedResources", quantities), ("capacity", quantities),
      ("conditions", .list persistentVolumeClaimCondition),
      ("currentVolumeAttributesClassName", .text), ("modifyVolumeStatus", modifyVolumeStatus),
      ("phase", .text) ]

/-- A claim on storage. -/
def persistentVolumeClaim : Schema :=
  .versioned "v1" "PersistentVolumeClaim"
    [ ("metadata", objectMeta), ("spec", persistentVolumeClaimSpec),
      ("status", persistentVolumeClaimStatus) ]

/-- A disk of a cloud. -/
def awsElasticBlockStoreVolumeSource : Schema :=
  record "AWSElasticBlockStoreVolumeSource"
    [ ("fsType", .text), ("partition", .int32), ("readOnly", .flag), ("volumeID", .text) ]

/-- A disk of a cloud. -/
def azureDiskVolumeSource : Schema :=
  record "AzureDiskVolumeSource"
    [ ("cachingMode", .text), ("diskName", .text), ("diskURI", .text), ("fsType", .text),
      ("kind", .text), ("readOnly", .flag) ]

/-- A file share of a cloud. -/
def azureFileVolumeSource : Schema :=
  record "AzureFileVolumeSource"
    [ ("readOnly", .flag), ("secretName", .text), ("shareName", .text) ]

/-- A distributed file system. -/
def cephFSVolumeSource : Schema :=
  record "CephFSVolumeSource"
    [ ("monitors", texts), ("path", .text), ("readOnly", .flag), ("secretFile", .text),
      ("secretRef", localObjectReference), ("user", .text) ]

/-- A disk of a cloud. -/
def cinderVolumeSource : Schema :=
  record "CinderVolumeSource"
    [ ("fsType", .text), ("readOnly", .flag), ("secretRef", localObjectReference),
      ("volumeID", .text) ]

/-- The file a key is written to. -/
def keyToPath : Schema :=
  record "KeyToPath"
    [ ("key", .text), ("mode", .int32), ("path", .text) ]

/-- The keys of a configuration as files. -/
def configMapVolumeSource : Schema :=
  record "ConfigMapVolumeSource"
    [ ("defaultMode", .int32), ("items", .list keyToPath), ("name", .text), ("optional", .flag) ]

/-- Storage of an external driver. -/
def csiVolumeSource : Schema :=
  record "CSIVolumeSource"
    [ ("driver", .text), ("fsType", .text), ("nodePublishSecretRef", localObjectReference),
      ("readOnly", .flag), ("volumeAttributes", textTable) ]

/-- A field of a pod. -/
def objectFieldSelector : Schema :=
  record "ObjectFieldSelector"
    [ ("apiVersion", .text), ("fieldPath", .text) ]

/-- A resource of a container. -/
def resourceFieldSelector : Schema :=
  record "ResourceFieldSelector"
    [ ("containerName", .text), ("divisor", .quantity), ("resource", .text) ]

/-- A file with a fact about the pod. -/
def downwardAPIVolumeFile : Schema :=
  record "DownwardAPIVolumeFile"
    [ ("fieldRef", objectFieldSelector), ("mode", .int32), ("path", .text),
      ("resourceFieldRef", resourceFieldSelector) ]

/-- Facts about the pod as files. -/
def downwardAPIVolumeSource : Schema :=
  record "DownwardAPIVolumeSource"
    [ ("defaultMode", .int32), ("items", .list downwardAPIVolumeFile) ]

/-- An empty directory. -/
def emptyDirVolumeSource : Schema :=
  record "EmptyDirVolumeSource"
    [ ("medium", .text), ("sizeLimit", .quantity) ]

/-- Storage that lives as long as the pod. -/
def ephemeralVolumeSource : Schema :=
  record "EphemeralVolumeSource"
    [ ("volumeClaimTemplate", persistentVolumeClaimTemplate) ]

/-- A disk of a storage network. -/
def fcVolumeSource : Schema :=
  record "FCVolumeSource"
    [ ("fsType", .text), ("lun", .int32), ("readOnly", .flag), ("targetWWNs", texts),
      ("wwids", texts) ]

/-- Storage of a plugin. -/
def flexVolumeSource : Schema :=
  record "FlexVolumeSource"
    [ ("driver", .text), ("fsType", .text), ("options", textTable), ("readOnly", .flag),
      ("secretRef", localObjectReference) ]

/-- A data set. -/
def flockerVolumeSource : Schema :=
  record "FlockerVolumeSource"
    [ ("datasetName", .text), ("datasetUUID", .text) ]

/-- A disk of a cloud. -/
def gcePersistentDiskVolumeSource : Schema :=
  record "GCEPersistentDiskVolumeSource"
    [ ("fsType", .text), ("partition", .int32), ("pdName", .text), ("readOnly", .flag) ]

/-- A repository. -/
def gitRepoVolumeSource : Schema :=
  record "GitRepoVolumeSource"
    [ ("directory", .text), ("repository", .text), ("revision", .text) ]

/-- A distributed file system. -/
def glusterfsVolumeSource : Schema :=
  record "GlusterfsVolumeSource"
    [ ("endpoints", .text), ("path", .text), ("readOnly", .flag) ]

/-- A directory of the node. -/
def hostPathVolumeSource : Schema :=
  record "HostPathVolumeSource"
    [ ("path", .text), ("type", .text) ]

/-- The contents of an image. -/
def imageVolumeSource : Schema :=
  record "ImageVolumeSource"
    [ ("pullPolicy", .text), ("reference", .text) ]

/-- A disk of a storage network. -/
def iscsiVolumeSource : Schema :=
  record "ISCSIVolumeSource"
    [ ("chapAuthDiscovery", .flag), ("chapAuthSession", .flag), ("fsType", .text),
      ("initiatorName", .text), ("iqn", .text), ("iscsiInterface", .text), ("lun", .int32),
      ("portals", texts), ("readOnly", .flag), ("secretRef", localObjectReference),
      ("targetPortal", .text) ]

/-- A network file system. -/
def nfsVolumeSource : Schema :=
  record "NFSVolumeSource"
    [ ("path", .text), ("readOnly", .flag), ("server", .text) ]

/-- A claim on storage. -/
def persistentVolumeClaimVolumeSource : Schema :=
  record "PersistentVolumeClaimVolumeSource"
    [ ("claimName", .text), ("readOnly", .flag) ]

/-- A disk of a cloud. -/
def photonPersistentDiskVolumeSource : Schema :=
  record "PhotonPersistentDiskVolumeSource"
    [ ("fsType", .text), ("pdID", .text) ]

/-- Storage of a cluster. -/
def portworxVolumeSource : Schema :=
  record "PortworxVolumeSource"
    [ ("fsType", .text), ("readOnly", .flag), ("volumeID", .text) ]

/-- Certificates as files. -/
def clusterTrustBundleProjection : Schema :=
  record "ClusterTrustBundleProjection"
    [ ("labelSelector", labelSelector), ("name", .text), ("optional", .flag), ("path", .text),
      ("signerName", .text) ]

/-- Keys of a configuration as files. -/
def configMapProjection : Schema :=
  record "ConfigMapProjection"
    [ ("items", .list keyToPath), ("name", .text), ("optional", .flag) ]

/-- Facts about the pod as files. -/
def downwardAPIProjection : Schema :=
  record "DownwardAPIProjection"
    [ ("items", .list downwardAPIVolumeFile) ]

/-- Keys of a secret as files. -/
def secretProjection : Schema :=
  record "SecretProjection"
    [ ("items", .list keyToPath), ("name", .text), ("optional", .flag) ]

/-- A token as a file. -/
def serviceAccountTokenProjection : Schema :=
  record "ServiceAccountTokenProjection"
    [ ("audience", .text), ("expirationSeconds", .int64), ("path", .text) ]

/-- One of several sources of files. -/
def volumeProjection : Schema :=
  record "VolumeProjection"
    [ ("clusterTrustBundle", clusterTrustBundleProjection), ("configMap", configMapProjection),
      ("downwardAPI", downwardAPIProjection), ("secret", secretProjection),
      ("serviceAccountToken", serviceAccountTokenProjection) ]

/-- Files of several sources. -/
def projectedVolumeSource : Schema :=
  record "ProjectedVolumeSource"
    [ ("defaultMode", .int32), ("sources", .list volumeProjection) ]

/-- A distributed file system. -/
def quobyteVolumeSource : Schema :=
  record "QuobyteVolumeSource"
    [ ("group", .text), ("readOnly", .flag), ("registry", .text), ("tenant", .text),
      ("user", .text), ("volume", .text) ]

/-- A distributed disk. -/
def rbdVolumeSource : Schema :=
  record "RBDVolumeSource"
    [ ("fsType", .text), ("image", .text), ("keyring", .text), ("monitors", texts),
      ("pool", .text), ("readOnly", .flag), ("secretRef", localObjectReference), ("user", .text) ]

/-- A distributed disk. -/
def scaleIOVolumeSource : Schema :=
  record "ScaleIOVolumeSource"
    [ ("fsType", .text), ("gateway", .text), ("protectionDomain", .text), ("readOnly", .flag),
      ("secretRef", localObjectReference), ("sslEnabled", .flag), ("storageMode", .text),
      ("storagePool", .text), ("system", .text), ("volumeName", .text) ]

/-- The keys of a secret as files. -/
def secretVolumeSource : Schema :=
  record "SecretVolumeSource"
    [ ("defaultMode", .int32), ("items", .list keyToPath), ("optional", .flag),
      ("secretName", .text) ]

/-- A distributed disk. -/
def storageOSVolumeSource : Schema :=
  record "StorageOSVolumeSource"
    [ ("fsType", .text), ("readOnly", .flag), ("secretRef", localObjectReference),
      ("volumeName", .text), ("volumeNamespace", .text) ]

/-- A disk of a cloud. -/
def vsphereVirtualDiskVolumeSource : Schema :=
  record "VsphereVirtualDiskVolumeSource"
    [ ("fsType", .text), ("storagePolicyID", .text), ("storagePolicyName", .text),
      ("volumePath", .text) ]

/-- Storage of a pod. -/
def volume : Schema :=
  record "Volume"
    [ ("awsElasticBlockStore", awsElasticBlockStoreVolumeSource),
      ("azureDisk", azureDiskVolumeSource), ("azureFile", azureFileVolumeSource),
      ("cephfs", cephFSVolumeSource), ("cinder", cinderVolumeSource),
      ("configMap", configMapVolumeSource), ("csi", csiVolumeSource),
      ("downwardAPI", downwardAPIVolumeSource), ("emptyDir", emptyDirVolumeSource),
      ("ephemeral", ephemeralVolumeSource), ("fc", fcVolumeSource),
      ("flexVolume", flexVolumeSource), ("flocker", flockerVolumeSource),
      ("gcePersistentDisk", gcePersistentDiskVolumeSource), ("gitRepo", gitRepoVolumeSource),
      ("glusterfs", glusterfsVolumeSource), ("hostPath", hostPathVolumeSource),
      ("image", imageVolumeSource), ("iscsi", iscsiVolumeSource), ("name", .text),
      ("nfs", nfsVolumeSource), ("persistentVolumeClaim", persistentVolumeClaimVolumeSource),
      ("photonPersistentDisk", photonPersistentDiskVolumeSource),
      ("portworxVolume", portworxVolumeSource), ("projected", projectedVolumeSource),
      ("quobyte", quobyteVolumeSource), ("rbd", rbdVolumeSource),
      ("scaleIO", scaleIOVolumeSource), ("secret", secretVolumeSource),
      ("storageos", storageOSVolumeSource), ("vsphereVolume", vsphereVirtualDiskVolumeSource) ]

end Webhook.Resource

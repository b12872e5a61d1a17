import StateMetrics.Kube.Schema

/-! # The pod schema

The types of every field of a pod's specification and status, as the cluster API of release
1.28 defines them, for checking pods before they are read. Counts, ports and seconds are 32- or
64-bit integers, quantities are strings (so resource maps are maps of strings), ports of probes
and handlers are integers or strings, and times are timestamps. Objects nest as records, each
named by its type for the message of a value that is not an object. Pods are only checked, never
written back, so which members are required does not matter here. -/

namespace StateMetrics.Kube

/-- A list of strings. -/
def texts : Schema := .list .text

/-- A 32-bit integer. -/
def int32 : Schema := .integer 32

/-- A 64-bit integer. -/
def int64 : Schema := .integer 64

/-- A reference to an object in the same namespace, by name. -/
def localObjectReference : Schema := .record "LocalObjectReference" [("name", .text)]

/-- A requirement on a label: a key, an operator and values. -/
def labelSelectorRequirement : Schema :=
  .record "LabelSelectorRequirement" [("key", .text), ("operator", .text), ("values", texts)]

/-- A selection of objects by their labels. -/
def labelSelector : Schema :=
  .record "LabelSelector" [("matchExpressions", .list labelSelectorRequirement),
    ("matchLabels", .textMap)]

/-- A requirement on a node's labels or fields. -/
def nodeSelectorRequirement : Schema :=
  .record "NodeSelectorRequirement" [("key", .text), ("operator", .text), ("values", texts)]

/-- A term of a node selector. -/
def nodeSelectorTerm : Schema :=
  .record "NodeSelectorTerm" [("matchExpressions", .list nodeSelectorRequirement),
    ("matchFields", .list nodeSelectorRequirement)]

/-- The affinity of a pod for nodes. -/
def nodeAffinity : Schema :=
  .record "NodeAffinity" [
    ("preferredDuringSchedulingIgnoredDuringExecution", .list (.record "PreferredSchedulingTerm"
      [("preference", nodeSelectorTerm), ("weight", int32)])),
    ("requiredDuringSchedulingIgnoredDuringExecution", .record "NodeSelector"
      [("nodeSelectorTerms", .list nodeSelectorTerm)])]

/-- A term of a pod's affinity for other pods. -/
def podAffinityTerm : Schema :=
  .record "PodAffinityTerm" [("labelSelector", labelSelector),
    ("namespaceSelector", labelSelector), ("namespaces", texts), ("topologyKey", .text)]

/-- The affinity or anti-affinity of a pod for other pods, under a type name. -/
def podAffinityOf (name : String) : Schema :=
  .record name [
    ("preferredDuringSchedulingIgnoredDuringExecution", .list (.record "WeightedPodAffinityTerm"
      [("podAffinityTerm", podAffinityTerm), ("weight", int32)])),
    ("requiredDuringSchedulingIgnoredDuringExecution", .list podAffinityTerm)]

/-- The scheduling constraints of a pod. -/
def affinity : Schema :=
  .record "Affinity" [("nodeAffinity", nodeAffinity), ("podAffinity", podAffinityOf "PodAffinity"),
    ("podAntiAffinity", podAffinityOf "PodAntiAffinity")]

/-- A key of a config map. -/
def configMapKeySelector : Schema :=
  .record "ConfigMapKeySelector" [("key", .text), ("name", .text), ("optional", .truth)]

/-- A key of a secret. -/
def secretKeySelector : Schema :=
  .record "SecretKeySelector" [("key", .text), ("name", .text), ("optional", .truth)]

/-- A field of the pod. -/
def objectFieldSelector : Schema :=
  .record "ObjectFieldSelector" [("apiVersion", .text), ("fieldPath", .text)]

/-- A resource of a container. -/
def resourceFieldSelector : Schema :=
  .record "ResourceFieldSelector" [("containerName", .text), ("divisor", .text),
    ("resource", .text)]

/-- An environment variable of a container. -/
def envVar : Schema :=
  .record "EnvVar" [("name", .text), ("value", .text),
    ("valueFrom", .record "EnvVarSource" [("configMapKeyRef", configMapKeySelector),
      ("fieldRef", objectFieldSelector), ("resourceFieldRef", resourceFieldSelector),
      ("secretKeyRef", secretKeySelector)])]

/-- A source of a set of environment variables. -/
def envFromSource : Schema :=
  .record "EnvFromSource" [
    ("configMapRef", .record "ConfigMapEnvSource" [("name", .text), ("optional", .truth)]),
    ("prefix", .text),
    ("secretRef", .record "SecretEnvSource" [("name", .text), ("optional", .truth)])]

/-- A command to run in a container. -/
def execAction : Schema := .record "ExecAction" [("command", texts)]

/-- An HTTP request to a container. -/
def httpGetAction : Schema :=
  .record "HTTPGetAction" [("host", .text),
    ("httpHeaders", .list (.record "HTTPHeader" [("name", .text), ("value", .text)])),
    ("path", .text), ("port", .intOrString), ("scheme", .text)]

/-- A connection to a container's port. -/
def tcpSocketAction : Schema :=
  .record "TCPSocketAction" [("host", .text), ("port", .intOrString)]

/-- What a container's lifecycle hook does. -/
def lifecycleHandler : Schema :=
  .record "LifecycleHandler" [("exec", execAction), ("httpGet", httpGetAction),
    ("tcpSocket", tcpSocketAction)]

/-- A health check of a container. -/
def probe : Schema :=
  .record "Probe" [("exec", execAction), ("failureThreshold", int32),
    ("grpc", .record "GRPCAction" [("port", int32), ("service", .text)]),
    ("httpGet", httpGetAction), ("initialDelaySeconds", int32), ("periodSeconds", int32),
    ("successThreshold", int32), ("tcpSocket", tcpSocketAction),
    ("terminationGracePeriodSeconds", int64), ("timeoutSeconds", int32)]

/-- The resources a container asks for and is limited to. -/
def resourceRequirements : Schema :=
  .record "ResourceRequirements" [("claims", .list (.record "ResourceClaim" [("name", .text)])),
    ("limits", .textMap), ("requests", .textMap)]

/-- SELinux labels. -/
def seLinuxOptions : Schema :=
  .record "SELinuxOptions" [("level", .text), ("role", .text), ("type", .text), ("user", .text)]

/-- A seccomp profile. -/
def seccompProfile : Schema :=
  .record "SeccompProfile" [("localhostProfile", .text), ("type", .text)]

/-- Windows-specific security options. -/
def windowsOptions : Schema :=
  .record "WindowsSecurityContextOptions" [("gmsaCredentialSpec", .text),
    ("gmsaCredentialSpecName", .text), ("hostProcess", .truth), ("runAsUserName", .text)]

/-- The security options of a container. -/
def securityContext : Schema :=
  .record "SecurityContext" [("allowPrivilegeEscalation", .truth),
    ("capabilities", .record "Capabilities" [("add", texts), ("drop", texts)]),
    ("privileged", .truth), ("procMount", .text), ("readOnlyRootFilesystem", .truth),
    ("runAsGroup", int64), ("runAsNonRoot", .truth), ("runAsUser", int64),
    ("seLinuxOptions", seLinuxOptions), ("seccompProfile", seccompProfile),
    ("windowsOptions", windowsOptions)]

/-- The security options of a pod. -/
def podSecurityContext : Schema :=
  .record "PodSecurityContext" [("fsGroup", int64), ("fsGroupChangePolicy", .text),
    ("runAsGroup", int64), ("runAsNonRoot", .truth), ("runAsUser", int64),
    ("seLinuxOptions", seLinuxOptions), ("seccompProfile", seccompProfile),
    ("supplementalGroups", .list int64),
    ("sysctls", .list (.record "Sysctl" [("name", .text), ("value", .text)])),
    ("windowsOptions", windowsOptions)]

/-- The fields every container has, ephemeral or not. -/
def containerFields : List (String × Schema) :=
  [("args", texts), ("command", texts), ("env", .list envVar),
    ("envFrom", .list envFromSource), ("image", .text), ("imagePullPolicy", .text),
    ("lifecycle", .record "Lifecycle" [("postStart", lifecycleHandler),
      ("preStop", lifecycleHandler)]),
    ("livenessProbe", probe), ("name", .text),
    ("ports", .list (.record "ContainerPort" [("containerPort", int32), ("hostIP", .text),
      ("hostPort", int32), ("name", .text), ("protocol", .text)])),
    ("readinessProbe", probe),
    ("resizePolicy", .list (.record "ContainerResizePolicy" [("resourceName", .text),
      ("restartPolicy", .text)])),
    ("resources", resourceRequirements), ("restartPolicy", .text),
    ("securityContext", securityContext), ("startupProbe", probe), ("stdin", .truth),
    ("stdinOnce", .truth), ("terminationMessagePath", .text),
    ("terminationMessagePolicy", .text), ("tty", .truth),
    ("volumeDevices", .list (.record "VolumeDevice" [("devicePath", .text), ("name", .text)])),
    ("volumeMounts", .list (.record "VolumeMount" [("mountPath", .text),
      ("mountPropagation", .text), ("name", .text), ("readOnly", .truth), ("subPath", .text),
      ("subPathExpr", .text)])),
    ("workingDir", .text)]

/-- A container of a pod. -/
def container : Schema := .record "Container" containerFields

/-- An ephemeral container, added to a running pod for debugging. -/
def ephemeralContainer : Schema :=
  .record "EphemeralContainer" (containerFields ++ [("targetContainerName", .text)])

/-- A key of a config map or secret projected into a file. -/
def keyToPath : Schema :=
  .record "KeyToPath" [("key", .text), ("mode", int32), ("path", .text)]

/-- A file of pod information projected into a volume. -/
def downwardApiVolumeFile : Schema :=
  .record "DownwardAPIVolumeFile" [("fieldRef", objectFieldSelector), ("mode", int32),
    ("path", .text), ("resourceFieldRef", resourceFieldSelector)]

/-- One source of a projected volume. -/
def volumeProjection : Schema :=
  .record "VolumeProjection" [
    ("configMap", .record "ConfigMapProjection" [("items", .list keyToPath), ("name", .text),
      ("optional", .truth)]),
    ("downwardAPI", .record "DownwardAPIProjection" [("items", .list downwardApiVolumeFile)]),
    ("secret", .record "SecretProjection" [("items", .list keyToPath), ("name", .text),
      ("optional", .truth)]),
    ("serviceAccountToken", .record "ServiceAccountTokenProjection" [("audience", .text),
      ("expirationSeconds", int64), ("path", .text)])]

/-- The specification of a volume claim made for an ephemeral volume. -/
def persistentVolumeClaimSpec : Schema :=
  .record "PersistentVolumeClaimSpec" [("accessModes", texts),
    ("dataSource", .record "TypedLocalObjectReference" [("apiGroup", .text), ("kind", .text),
      ("name", .text)]),
    ("dataSourceRef", .record "TypedObjectReference" [("apiGroup", .text), ("kind", .text),
      ("name", .text), ("namespace", .text)]),
    ("resources", resourceRequirements), ("selector", labelSelector),
    ("storageClassName", .text), ("volumeMode", .text), ("volumeName", .text)]

/-- The sources of volumes: every field but the name. -/
def volumeSources : List (String × Schema) :=
  [("awsElasticBlockStore", .record "AWSElasticBlockStoreVolumeSource" [("fsType", .text),
      ("partition", int32), ("readOnly", .truth), ("volumeID", .text)]),
    ("azureDisk", .record "AzureDiskVolumeSource" [("cachingMode", .text), ("diskName", .text),
      ("diskURI", .text), ("fsType", .text), ("kind", .text), ("readOnly", .truth)]),
    ("azureFile", .record "AzureFileVolumeSource" [("readOnly", .truth), ("secretName", .text),
      ("shareName", .text)]),
    ("cephfs", .record "CephFSVolumeSource" [("monitors", texts), ("path", .text),
      ("readOnly", .truth), ("secretFile", .text), ("secretRef", localObjectReference),
      ("user", .text)]),
    ("cinder", .record "CinderVolumeSource" [("fsType", .text), ("readOnly", .truth),
      ("secretRef", localObjectReference), ("volumeID", .text)]),
    ("configMap", .record "ConfigMapVolumeSource" [("defaultMode", int32),
      ("items", .list keyToPath), ("name", .text), ("optional", .truth)]),
    ("csi", .record "CSIVolumeSource" [("driver", .text), ("fsType", .text),
      ("nodePublishSecretRef", localObjectReference), ("readOnly", .truth),
      ("volumeAttributes", .textMap)]),
    ("downwardAPI", .record "DownwardAPIVolumeSource" [("defaultMode", int32),
      ("items", .list downwardApiVolumeFile)]),
    ("emptyDir", .record "EmptyDirVolumeSource" [("medium", .text), ("sizeLimit", .text)]),
    ("ephemeral", .record "EphemeralVolumeSource" [("volumeClaimTemplate",
      .record "PersistentVolumeClaimTemplate" [("metadata", objectMeta),
        ("spec", persistentVolumeClaimSpec)])]),
    ("fc", .record "FCVolumeSource" [("fsType", .text), ("lun", int32), ("readOnly", .truth),
      ("targetWWNs", texts), ("wwids", texts)]),
    ("flexVolume", .record "FlexVolumeSource" [("driver", .text), ("fsType", .text),
      ("options", .textMap), ("readOnly", .truth), ("secretRef", localObjectReference)]),
    ("flocker", .record "FlockerVolumeSource" [("datasetName", .text), ("datasetUUID", .text)]),
    ("gcePersistentDisk", .record "GCEPersistentDiskVolumeSource" [("fsType", .text),
      ("partition", int32), ("pdName", .text), ("readOnly", .truth)]),
    ("gitRepo", .record "GitRepoVolumeSource" [("directory", .text), ("repository", .text),
      ("revision", .text)]),
    ("glusterfs", .record "GlusterfsVolumeSource" [("endpoints", .text), ("path", .text),
      ("readOnly", .truth)]),
    ("hostPath", .record "HostPathVolumeSource" [("path", .text), ("type", .text)]),
    ("iscsi", .record "ISCSIVolumeSource" [("chapAuthDiscovery", .truth),
      ("chapAuthSession", .truth), ("fsType", .text), ("initiatorName", .text), ("iqn", .text),
      ("iscsiInterface", .text), ("lun", int32), ("portals", texts), ("readOnly", .truth),
      ("secretRef", localObjectReference), ("targetPortal", .text)]),
    ("nfs", .record "NFSVolumeSource" [("path", .text), ("readOnly", .truth),
      ("server", .text)]),
    ("persistentVolumeClaim", .record "PersistentVolumeClaimVolumeSource" [("claimName", .text),
      ("readOnly", .truth)]),
    ("photonPersistentDisk", .record "PhotonPersistentDiskVolumeSource" [("fsType", .text),
      ("pdID", .text)]),
    ("portworxVolume", .record "PortworxVolumeSource" [("fsType", .text), ("readOnly", .truth),
      ("volumeID", .text)]),
    ("projected", .record "ProjectedVolumeSource" [("defaultMode", int32),
      ("sources", .list volumeProjection)]),
    ("quobyte", .record "QuobyteVolumeSource" [("group", .text), ("readOnly", .truth),
      ("registry", .text), ("tenant", .text), ("user", .text), ("volume", .text)]),
    ("rbd", .record "RBDVolumeSource" [("fsType", .text), ("image", .text), ("keyring", .text),
      ("monitors", texts), ("pool", .text), ("readOnly", .truth),
      ("secretRef", localObjectReference), ("user", .text)]),
    ("scaleIO", .record "ScaleIOVolumeSource" [("fsType", .text), ("gateway", .text),
      ("protectionDomain", .text), ("readOnly", .truth), ("secretRef", localObjectReference),
      ("sslEnabled", .truth), ("storageMode", .text), ("storagePool", .text),
      ("system", .text), ("volumeName", .text)]),
    ("secret", .record "SecretVolumeSource" [("defaultMode", int32), ("items", .list keyToPath),
      ("optional", .truth), ("secretName", .text)]),
    ("storageos", .record "StorageOSVolumeSource" [("fsType", .text), ("readOnly", .truth),
      ("secretRef", localObjectReference), ("volumeName", .text),
      ("volumeNamespace", .text)]),
    ("vsphereVolume", .record "VsphereVirtualDiskVolumeSource" [("fsType", .text),
      ("storagePolicyID", .text), ("storagePolicyName", .text), ("volumePath", .text)])]

/-- A volume of a pod: its name and its source. -/
def volume : Schema := .record "Volume" (("name", .text) :: volumeSources)

/-- How pods spread over a topology. -/
def topologySpreadConstraint : Schema :=
  .record "TopologySpreadConstraint" [("labelSelector", labelSelector),
    ("matchLabelKeys", texts), ("maxSkew", int32), ("minDomains", int32),
    ("nodeAffinityPolicy", .text), ("nodeTaintsPolicy", .text), ("topologyKey", .text),
    ("whenUnsatisfiable", .text)]

/-- A toleration of a node's taints. -/
def toleration : Schema :=
  .record "Toleration" [("effect", .text), ("key", .text), ("operator", .text),
    ("tolerationSeconds", int64), ("value", .text)]

/-- The specification of a pod. -/
def podSpecSchema : Schema :=
  .record "PodSpec" [("activeDeadlineSeconds", int64), ("affinity", affinity),
    ("automountServiceAccountToken", .truth), ("containers", .list container),
    ("dnsConfig", .record "PodDNSConfig" [("nameservers", texts),
      ("options", .list (.record "PodDNSConfigOption" [("name", .text), ("value", .text)])),
      ("searches", texts)]),
    ("dnsPolicy", .text), ("enableServiceLinks", .truth),
    ("ephemeralContainers", .list ephemeralContainer),
    ("hostAliases", .list (.record "HostAlias" [("hostnames", texts), ("ip", .text)])),
    ("hostIPC", .truth), ("hostNetwork", .truth), ("hostPID", .truth), ("hostUsers", .truth),
    ("hostname", .text), ("imagePullSecrets", .list localObjectReference),
    ("initContainers", .list container), ("nodeName", .text), ("nodeSelector", .textMap),
    ("os", .record "PodOS" [("name", .text)]), ("overhead", .textMap),
    ("preemptionPolicy", .text), ("priority", int32), ("priorityClassName", .text),
    ("readinessGates", .list (.record "PodReadinessGate" [("conditionType", .text)])),
    ("resourceClaims", .list (.record "PodResourceClaim" [("name", .text),
      ("source", .record "ClaimSource" [("resourceClaimName", .text),
        ("resourceClaimTemplateName", .text)])])),
    ("restartPolicy", .text), ("runtimeClassName", .text), ("schedulerName", .text),
    ("schedulingGates", .list (.record "PodSchedulingGate" [("name", .text)])),
    ("securityContext", podSecurityContext), ("serviceAccount", .text),
    ("serviceAccountName", .text), ("setHostnameAsFQDN", .truth),
    ("shareProcessNamespace", .truth), ("subdomain", .text),
    ("terminationGracePeriodSeconds", int64), ("tolerations", .list toleration),
    ("topologySpreadConstraints", .list topologySpreadConstraint), ("volumes", .list volume)]

/-- The state of a container: running, terminated or waiting. -/
def containerState : Schema :=
  .record "ContainerState" [
    ("running", .record "ContainerStateRunning" [("startedAt", .time)]),
    ("terminated", .record "ContainerStateTerminated" [("containerID", .text),
      ("exitCode", int32), ("finishedAt", .time), ("message", .text), ("reason", .text),
      ("signal", int32), ("startedAt", .time)]),
    ("waiting", .record "ContainerStateWaiting" [("message", .text), ("reason", .text)])]

/-- The status of a container. -/
def containerStatus : Schema :=
  .record "ContainerStatus" [("allocatedResources", .textMap), ("containerID", .text),
    ("image", .text), ("imageID", .text), ("lastState", containerState), ("name", .text),
    ("ready", .truth), ("resources", resourceRequirements), ("restartCount", int32),
    ("started", .truth), ("state", containerState)]

/-- A condition of a pod. -/
def podConditionSchema : Schema :=
  .record "PodCondition" [("lastProbeTime", .time), ("lastTransitionTime", .time),
    ("message", .text), ("reason", .text), ("status", .text), ("type", .text)]

/-- The status of a pod. -/
def podStatusSchema : Schema :=
  .record "PodStatus" [("conditions", .list podConditionSchema),
    ("containerStatuses", .list containerStatus),
    ("ephemeralContainerStatuses", .list containerStatus), ("hostIP", .text),
    ("hostIPs", .list (.record "HostIP" [("ip", .text)])),
    ("initContainerStatuses", .list containerStatus), ("message", .text),
    ("nominatedNodeName", .text), ("phase", .text), ("podIP", .text),
    ("podIPs", .list (.record "PodIP" [("ip", .text)])), ("qosClass", .text),
    ("reason", .text), ("resize", .text),
    ("resourceClaimStatuses", .list (.record "PodResourceClaimStatus" [("name", .text),
      ("resourceClaimName", .text)])),
    ("startTime", .time)]

/-- The fields of a pod. -/
def podFields : List (String × Schema) :=
  [("metadata", objectMeta), ("spec", podSpecSchema), ("status", podStatusSchema)]

end StateMetrics.Kube

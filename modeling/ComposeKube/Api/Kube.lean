import ComposeKube.Lib.Data

/-!
# Kubernetes objects

The parts of the Kubernetes API types (`k8s.io/api/core/v1`, `apps/v1`,
`meta/v1`) that the conversion, the diff and the controller read or write.
Field order and names follow the Go structs. What no modelled function reads or
writes by itself is kept as one `Unread` value per struct: it is copied along
with the struct and takes part in its equality, as the real fields do.

Every type's `default` is Go's zero value. Equality of these types is
`reflect.DeepEqual` of the Go values: nil and empty containers differ.
-/

namespace ComposeKube

open Go

/-- The fields of a struct that no modelled function looks at. -/
structure Unread where
  encoding : String
  deriving DecidableEq, Inhabited

/-! ## Metadata -/

structure OwnerReference where
  apiVersion : String
  kind : String
  name : String
  uid : String
  controller : Option Bool
  blockOwnerDeletion : Option Bool
  deriving DecidableEq, Inhabited

structure ObjectMeta where
  name : String
  namespace_ : String
  uid : String
  resourceVersion : String
  generation : Int64
  deletionTimestamp : Option String
  labels : MapRef String
  annotations : MapRef String
  ownerReferences : Slice OwnerReference
  unread : Unread
  deriving DecidableEq, Inhabited

structure LabelSelector where
  matchLabels : MapRef String
  unread : Unread
  deriving DecidableEq, Inhabited

/-! ## Values -/

/-- `resource.Quantity`: the number in nano-units, and how it was written. -/
structure Quantity where
  nanos : Int
  encoding : String
  deriving DecidableEq, Inhabited

/-- `intstr.IntOrString`. -/
inductive IntOrString where
  | int (val : Int32)
  | str (val : String)
  deriving DecidableEq

instance : Inhabited IntOrString := ⟨.int 0⟩

/-- `intstr.FromInt`, which keeps the low 32 bits. -/
def IntOrString.fromInt (val : Int) : IntOrString := .int (Int32.ofInt val)

abbrev ResourceList := MapRef Quantity

structure ResourceRequirements where
  limits : ResourceList
  requests : ResourceList
  deriving DecidableEq, Inhabited

/-! ## Containers -/

inductive PullPolicy where
  | unset | always | ifNotPresent | never
  deriving DecidableEq, Inhabited

structure ContainerPort where
  containerPort : Int32
  protocol : String
  unread : Unread
  deriving DecidableEq, Inhabited

structure EnvVar where
  name : String
  value : String
  unread : Unread
  deriving DecidableEq, Inhabited

structure VolumeMount where
  name : String
  readOnly : Bool
  mountPath : String
  subPath : String
  unread : Unread
  deriving DecidableEq, Inhabited

structure Probe where
  /-- the command of the `exec` handler -/
  exec : Option (Slice String)
  timeoutSeconds : Int32
  periodSeconds : Int32
  failureThreshold : Int32
  unread : Unread
  deriving DecidableEq, Inhabited

structure Capabilities where
  add : Slice String
  drop : Slice String
  deriving DecidableEq, Inhabited

structure SecurityContext where
  capabilities : Option Capabilities
  privileged : Option Bool
  runAsUser : Option Int64
  readOnlyRootFilesystem : Option Bool
  unread : Unread
  deriving DecidableEq, Inhabited

structure Container where
  name : String
  image : String
  command : Slice String
  args : Slice String
  workingDir : String
  ports : Slice ContainerPort
  env : Slice EnvVar
  resources : ResourceRequirements
  volumeMounts : Slice VolumeMount
  livenessProbe : Option Probe
  imagePullPolicy : PullPolicy
  securityContext : Option SecurityContext
  stdin : Bool
  tty : Bool
  unread : Unread
  deriving DecidableEq, Inhabited

/-! ## Volumes -/

structure KeyToPath where
  key : String
  path : String
  mode : Option Int32
  deriving DecidableEq, Inhabited

/-- The volume sources in use; a source the conversion never writes is `other`. -/
inductive VolumeSource where
  | hostPath (path : String)
  | gitRepo (repository : String)
  | emptyDir (medium : String)
  | secret (secretName : String) (items : Slice KeyToPath)
  | configMap (name : String) (items : Slice KeyToPath)
  | other (source : Unread)
  deriving DecidableEq, Inhabited

structure Volume where
  name : String
  volumeSource : VolumeSource
  deriving DecidableEq, Inhabited

structure PersistentVolumeClaimSpec where
  accessModes : Slice String
  resources : ResourceRequirements
  unread : Unread
  deriving DecidableEq, Inhabited

structure PersistentVolumeClaim where
  objectMeta : ObjectMeta
  spec : PersistentVolumeClaimSpec
  status : Unread
  deriving DecidableEq, Inhabited

/-! ## Scheduling -/

inductive NodeSelectorOperator where
  | in_ | notIn | exists_ | doesNotExist | gt | lt
  deriving DecidableEq, Inhabited

structure NodeSelectorRequirement where
  key : String
  operator : NodeSelectorOperator
  values : Slice String
  deriving DecidableEq, Inhabited

structure NodeSelectorTerm where
  matchExpressions : Slice NodeSelectorRequirement
  unread : Unread
  deriving DecidableEq, Inhabited

/-- `Affinity`, down to the required terms of its node affinity. -/
structure Affinity where
  requiredNodeSelectorTerms : Option (Slice NodeSelectorTerm)
  unread : Unread
  deriving DecidableEq, Inhabited

structure HostAlias where
  ip : String
  hostnames : Slice String
  deriving DecidableEq, Inhabited

structure Toleration where
  key : String
  unread : Unread
  deriving DecidableEq, Inhabited

/-! ## Pods -/

inductive RestartPolicy where
  | unset | always | onFailure | never
  deriving DecidableEq, Inhabited

structure LocalObjectReference where
  name : String
  deriving DecidableEq, Inhabited

structure PodSpec where
  volumes : Slice Volume
  initContainers : Slice Container
  containers : Slice Container
  restartPolicy : RestartPolicy
  terminationGracePeriodSeconds : Option Int64
  hostPID : Bool
  hostIPC : Bool
  imagePullSecrets : Slice LocalObjectReference
  hostname : String
  affinity : Option Affinity
  tolerations : Slice Toleration
  hostAliases : Slice HostAlias
  unread : Unread
  deriving DecidableEq, Inhabited

structure PodTemplateSpec where
  objectMeta : ObjectMeta
  spec : PodSpec
  deriving DecidableEq, Inhabited

/-! ## Workloads -/

structure RollingUpdateDeployment where
  maxUnavailable : Option IntOrString
  maxSurge : Option IntOrString
  deriving DecidableEq, Inhabited

inductive DeploymentStrategyType where
  | unset | recreate | rollingUpdate
  deriving DecidableEq, Inhabited

structure DeploymentStrategy where
  type : DeploymentStrategyType
  rollingUpdate : Option RollingUpdateDeployment
  deriving DecidableEq, Inhabited

structure DeploymentSpec where
  replicas : Option Int32
  selector : Option LabelSelector
  template : PodTemplateSpec
  strategy : DeploymentStrategy
  revisionHistoryLimit : Option Int32
  unread : Unread
  deriving DecidableEq, Inhabited

structure DeploymentStatus where
  readyReplicas : Int32
  availableReplicas : Int32
  unread : Unread
  deriving DecidableEq, Inhabited

structure Deployment where
  objectMeta : ObjectMeta
  spec : DeploymentSpec
  status : DeploymentStatus
  deriving DecidableEq, Inhabited

inductive StatefulSetUpdateStrategyType where
  | unset | rollingUpdate | onDelete
  deriving DecidableEq, Inhabited

structure RollingUpdateStatefulSetStrategy where
  partition : Option Int32
  deriving DecidableEq, Inhabited

structure StatefulSetUpdateStrategy where
  type : StatefulSetUpdateStrategyType
  rollingUpdate : Option RollingUpdateStatefulSetStrategy
  deriving DecidableEq, Inhabited

structure StatefulSetSpec where
  replicas : Option Int32
  selector : Option LabelSelector
  template : PodTemplateSpec
  volumeClaimTemplates : Slice PersistentVolumeClaim
  updateStrategy : StatefulSetUpdateStrategy
  revisionHistoryLimit : Option Int32
  unread : Unread
  deriving DecidableEq, Inhabited

structure StatefulSetStatus where
  readyReplicas : Int32
  unread : Unread
  deriving DecidableEq, Inhabited

structure StatefulSet where
  objectMeta : ObjectMeta
  spec : StatefulSetSpec
  status : StatefulSetStatus
  deriving DecidableEq, Inhabited

structure DaemonSetSpec where
  selector : Option LabelSelector
  template : PodTemplateSpec
  unread : Unread
  deriving DecidableEq, Inhabited

structure DaemonSetStatus where
  numberAvailable : Int32
  numberUnavailable : Int32
  unread : Unread
  deriving DecidableEq, Inhabited

structure DaemonSet where
  objectMeta : ObjectMeta
  spec : DaemonSetSpec
  status : DaemonSetStatus
  deriving DecidableEq, Inhabited

/-! ## Services -/

inductive ServiceType where
  | unset | clusterIP | nodePort | loadBalancer | externalName
  deriving DecidableEq, Inhabited

structure ServicePort where
  name : String
  protocol : String
  port : Int32
  targetPort : IntOrString
  nodePort : Int32
  deriving DecidableEq, Inhabited

structure ServiceSpec where
  ports : Slice ServicePort
  selector : MapRef String
  clusterIP : String
  type : ServiceType
  unread : Unread
  deriving DecidableEq, Inhabited

structure Service where
  objectMeta : ObjectMeta
  spec : ServiceSpec
  status : Unread
  deriving DecidableEq, Inhabited

end ComposeKube

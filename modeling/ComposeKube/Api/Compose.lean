import ComposeKube.Api.Kube

/-!
# Stacks

The Compose API types: `Latest` is `v1alpha3`, the version the controller and
the conversion work on; `Internal` is what the API server stores. The structs
are complete, since two stacks are compared field by field, and `default` is
Go's zero value.
-/

namespace ComposeKube

open Go

/-- `impersonation.Config`: who a stack is reconciled as. -/
structure ImpersonationConfig where
  userName : String
  groups : Slice String
  extra : MapRef (Slice String)
  deriving DecidableEq, Inhabited

namespace Latest

/-! ## Service configuration -/

structure ServicePortConfig where
  mode : String
  target : UInt32
  published : UInt32
  protocol : String
  deriving DecidableEq, Inhabited

structure External where
  name : String
  external : Bool
  deriving DecidableEq, Inhabited

/-- `FileObjectConfig`, with its two names `SecretConfig` and `ConfigObjConfig`. -/
structure FileObjectConfig where
  name : String
  file : String
  external : External
  labels : MapRef String
  deriving DecidableEq, Inhabited

abbrev SecretConfig := FileObjectConfig

abbrev ConfigObjConfig := FileObjectConfig

/-- `FileReferenceConfig`, with its two names `ServiceSecretConfig` and
`ServiceConfigObjConfig`. -/
structure FileReferenceConfig where
  source : String
  target : String
  uid : String
  gid : String
  mode : Option UInt32
  deriving DecidableEq, Inhabited

abbrev ServiceSecretConfig := FileReferenceConfig

abbrev ServiceConfigObjConfig := FileReferenceConfig

structure UpdateConfig where
  parallelism : Option UInt64
  deriving DecidableEq, Inhabited

structure Resource where
  nanoCPUs : String
  memoryBytes : Int64
  deriving DecidableEq, Inhabited

structure Resources where
  limits : Option Resource
  reservations : Option Resource
  deriving DecidableEq, Inhabited

structure RestartPolicy where
  condition : String
  deriving DecidableEq, Inhabited

structure Constraint where
  value : String
  operator : String
  deriving DecidableEq, Inhabited

structure Constraints where
  operatingSystem : Option Constraint
  architecture : Option Constraint
  hostname : Option Constraint
  matchLabels : MapRef Constraint
  deriving DecidableEq, Inhabited

structure Placement where
  constraints : Option Constraints
  deriving DecidableEq, Inhabited

structure DeployConfig where
  mode : String
  replicas : Option UInt64
  labels : MapRef String
  updateConfig : Option UpdateConfig
  resources : Resources
  restartPolicy : Option RestartPolicy
  placement : Placement
  deriving DecidableEq, Inhabited

/-- `HealthCheckConfig`; a `time.Duration` is its number of nanoseconds. -/
structure HealthCheckConfig where
  test : Slice String
  timeout : Option Int64
  interval : Option Int64
  retries : Option UInt64
  deriving DecidableEq, Inhabited

structure ServiceVolumeConfig where
  type : String
  source : String
  target : String
  readOnly : Bool
  deriving DecidableEq, Inhabited

structure InternalPort where
  port : Int32
  protocol : String
  deriving DecidableEq, Inhabited

structure ServiceConfig where
  name : String
  capAdd : Slice String
  capDrop : Slice String
  command : Slice String
  configs : Slice ServiceConfigObjConfig
  deploy : DeployConfig
  entrypoint : Slice String
  environment : MapRef (Option String)
  extraHosts : Slice String
  hostname : String
  healthCheck : Option HealthCheckConfig
  image : String
  ipc : String
  labels : MapRef String
  pid : String
  ports : Slice ServicePortConfig
  privileged : Bool
  readOnly : Bool
  secrets : Slice ServiceSecretConfig
  stdinOpen : Bool
  stopGracePeriod : Option Int64
  tmpfs : Slice String
  tty : Bool
  user : Option Int64
  volumes : Slice ServiceVolumeConfig
  workingDir : String
  pullSecret : String
  pullPolicy : String
  internalPorts : Slice InternalPort
  internalServiceType : String
  deriving DecidableEq, Inhabited

/-! ## Stacks of the latest version -/

structure StackSpec where
  services : Slice ServiceConfig
  secrets : MapRef SecretConfig
  configs : MapRef ConfigObjConfig
  deriving DecidableEq, Inhabited

/-- `StackPhase` is a string; clients may send any. -/
abbrev StackPhase := String

def stackAvailable : StackPhase := "Available"

def stackProgressing : StackPhase := "Progressing"

def stackFailure : StackPhase := "Failure"

def stackReconciliationPending : StackPhase := "ReconciliationPending"

structure StackStatus where
  phase : StackPhase
  message : String
  deriving DecidableEq, Inhabited

structure Stack where
  objectMeta : ObjectMeta
  spec : Option StackSpec
  status : Option StackStatus
  deriving DecidableEq, Inhabited

end Latest

/-! ## Stored stacks

The phases and the status fields are the same words in every version. -/

namespace Internal

abbrev StackStatus := Latest.StackStatus

structure StackSpec where
  composeFile : String
  stack : Option Latest.StackSpec
  owner : ImpersonationConfig
  deriving DecidableEq, Inhabited

structure Stack where
  objectMeta : ObjectMeta
  spec : StackSpec
  status : Option StackStatus
  deriving DecidableEq, Inhabited

end Internal

/-! ## Stacks of the first version

The spec is the text of a compose file, and the status is not a pointer. -/

namespace V1beta1

structure StackSpec where
  composeFile : String
  deriving DecidableEq, Inhabited

structure Stack where
  objectMeta : ObjectMeta
  spec : StackSpec
  status : Latest.StackStatus
  deriving DecidableEq, Inhabited

end V1beta1

/-! ## Stacks of the second version

A service has neither a pull secret and a pull policy nor internal ports; the
other structs have the fields of the latest version. -/

namespace V1beta2

structure ServiceConfig where
  name : String
  capAdd : Slice String
  capDrop : Slice String
  command : Slice String
  configs : Slice Latest.ServiceConfigObjConfig
  deploy : Latest.DeployConfig
  entrypoint : Slice String
  environment : MapRef (Option String)
  extraHosts : Slice String
  hostname : String
  healthCheck : Option Latest.HealthCheckConfig
  image : String
  ipc : String
  labels : MapRef String
  pid : String
  ports : Slice Latest.ServicePortConfig
  privileged : Bool
  readOnly : Bool
  secrets : Slice Latest.ServiceSecretConfig
  stdinOpen : Bool
  stopGracePeriod : Option Int64
  tmpfs : Slice String
  tty : Bool
  user : Option Int64
  volumes : Slice Latest.ServiceVolumeConfig
  workingDir : String
  deriving DecidableEq, Inhabited

structure StackSpec where
  services : Slice ServiceConfig
  secrets : MapRef Latest.SecretConfig
  configs : MapRef Latest.ConfigObjConfig
  deriving DecidableEq, Inhabited

structure Stack where
  objectMeta : ObjectMeta
  spec : Option StackSpec
  status : Option Latest.StackStatus
  deriving DecidableEq, Inhabited

end V1beta2

end ComposeKube

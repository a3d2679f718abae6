import ComposeKube.Lib.Related
import ComposeKube.Lib.Strings
import ComposeKube.Registry.Constraints

/-!
# The import of compose files

`FromComposeConfig` of `v1alpha3.go` turns a parsed compose file into the spec of a stack.
The types on both sides are hand-written copies of each other; the API types have fewer
fields. The conversion copies them one by one.

What is kept is said type by type: the field of the copy is the field of the original,
nil pointers, slices and maps stay nil, and lists and maps are compared element by
element. The user is a text in a compose file and a number in a stack; placement
constraints change their representation (`fromComposeConstraints`).

The group of a secret or a config that a service refers to has a field on both sides and
is not copied.

* `fileReferenceImported_iff` — the one type with a field that is lost.
* `user_fromComposeServiceConfig` — which users are numbers.
* `serviceImported_iff`, `fromComposeConfig_kept_iff` — services and whole files.
-/

namespace ComposeKube

open Go

/-! ## The types of compose files

Only the fields that the API types have too. A `Duration` is its number of nanoseconds
and `UnitBytes` a number of bytes. -/

namespace ComposeTypes

structure ServicePortConfig where
  mode : String
  target : UInt32
  published : UInt32
  protocol : String
  deriving Inhabited

structure External where
  name : String
  external : Bool
  deriving Inhabited

/-- `FileObjectConfig`, with its two names `SecretConfig` and `ConfigObjConfig`. -/
structure FileObjectConfig where
  name : String
  file : String
  external : External
  labels : MapRef String
  deriving Inhabited

abbrev SecretConfig := FileObjectConfig

abbrev ConfigObjConfig := FileObjectConfig

/-- `FileReferenceConfig`, with its two names `ServiceSecretConfig` and
`ServiceConfigObjConfig`. -/
structure FileReferenceConfig where
  source : String
  target : String
  uid : String
  gid : String
  mode : Option UInt32
  deriving Inhabited

abbrev ServiceSecretConfig := FileReferenceConfig

abbrev ServiceConfigObjConfig := FileReferenceConfig

structure UpdateConfig where
  parallelism : Option UInt64
  deriving Inhabited

structure Resource where
  nanoCPUs : String
  memoryBytes : Int64
  deriving Inhabited

structure Resources where
  limits : Option Resource
  reservations : Option Resource
  deriving Inhabited

structure RestartPolicy where
  condition : String
  deriving Inhabited

structure Placement where
  constraints : Slice String
  deriving Inhabited

structure DeployConfig where
  mode : String
  replicas : Option UInt64
  labels : MapRef String
  updateConfig : Option UpdateConfig
  resources : Resources
  restartPolicy : Option RestartPolicy
  placement : Placement
  deriving Inhabited

structure HealthCheckConfig where
  test : Slice String
  timeout : Option Int64
  interval : Option Int64
  retries : Option UInt64
  deriving Inhabited

structure ServiceVolumeConfig where
  type : String
  source : String
  target : String
  readOnly : Bool
  deriving Inhabited

structure ServiceConfig where
  name : String
  capAdd : Slice String
  capDrop : Slice String
  command : Slice String
  configs : Slice ServiceConfigObjConfig
  deploy : DeployConfig
  entrypoint : Slice String
  environment : MapRef (Option String)
  extraHosts : Slice String
  hostname : String
  healthCheck : Option HealthCheckConfig
  image : String
  ipc : String
  labels : MapRef String
  pid : String
  ports : Slice ServicePortConfig
  privileged : Bool
  readOnly : Bool
  secrets : Slice ServiceSecretConfig
  stdinOpen : Bool
  stopGracePeriod : Option Int64
  tmpfs : Slice String
  tty : Bool
  user : String
  volumes : Slice ServiceVolumeConfig
  workingDir : String
  deriving Inhabited

structure Config where
  services : Slice ServiceConfig
  secrets : MapRef SecretConfig
  configs : MapRef ConfigObjConfig
  deriving Inhabited

/-- `ConvertDurationPtr`. -/
def convertDurationPtr (d : Option Int64) : Option Int64 :=
  match d with
  | none => none
  | some d => some d

end ComposeTypes

/-! ## The conversion -/

/-- The loop bodies of `fromComposeSecrets` and `fromComposeConfigs`. -/
def fromComposeFileObject (value : ComposeTypes.FileObjectConfig) : Latest.FileObjectConfig where
  name := value.name
  file := value.file
  external := { name := value.external.name, external := value.external.external }
  labels := value.labels

/-- `fromComposeSecrets`. -/
def fromComposeSecrets (s : MapRef ComposeTypes.SecretConfig) : MapRef Latest.SecretConfig :=
  s.map (Map.mapValues fromComposeFileObject)

/-- `fromComposeConfigs`. -/
def fromComposeConfigs (s : MapRef ComposeTypes.ConfigObjConfig) : MapRef Latest.ConfigObjConfig :=
  s.map (Map.mapValues fromComposeFileObject)

/-- `fromComposePorts`. -/
def fromComposePorts (ports : Slice ComposeTypes.ServicePortConfig) :
    Slice Latest.ServicePortConfig :=
  ports.map (List.map fun port =>
    { mode := port.mode
      target := port.target
      published := port.published
      protocol := port.protocol })

/-- The loop bodies of `fromComposeServiceSecrets` and `fromComposeServiceConfigs`: they
do not set the group. -/
def fromComposeFileReference (reference : ComposeTypes.FileReferenceConfig) :
    Latest.FileReferenceConfig :=
  { (default : Latest.FileReferenceConfig) with
    source := reference.source
    target := reference.target
    uid := reference.uid
    mode := reference.mode }

/-- `fromComposeServiceSecrets`. -/
def fromComposeServiceSecrets (secrets : Slice ComposeTypes.ServiceSecretConfig) :
    Slice Latest.ServiceSecretConfig :=
  secrets.map (List.map fromComposeFileReference)

/-- `fromComposeServiceConfigs`. -/
def fromComposeServiceConfigs (configs : Slice ComposeTypes.ServiceConfigObjConfig) :
    Slice Latest.ServiceConfigObjConfig :=
  configs.map (List.map fromComposeFileReference)

/-- `fromComposeHealthcheck`. -/
def fromComposeHealthcheck (h : Option ComposeTypes.HealthCheckConfig) :
    Option Latest.HealthCheckConfig :=
  h.map fun h =>
    { test := h.test
      timeout := ComposeTypes.convertDurationPtr h.timeout
      interval := ComposeTypes.convertDurationPtr h.interval
      retries := h.retries }

/-- `fromComposePlacement`. -/
def fromComposePlacement (p : ComposeTypes.Placement) : Latest.Placement where
  constraints := fromComposeConstraints p.constraints.elems

/-- `fromComposeResourcesResource`. -/
def fromComposeResourcesResource (r : Option ComposeTypes.Resource) : Option Latest.Resource :=
  r.map fun r => { memoryBytes := r.memoryBytes, nanoCPUs := r.nanoCPUs }

/-- `fromComposeResources`. -/
def fromComposeResources (r : ComposeTypes.Resources) : Latest.Resources where
  limits := fromComposeResourcesResource r.limits
  reservations := fromComposeResourcesResource r.reservations

/-- `fromComposeUpdateConfig`. -/
def fromComposeUpdateConfig (u : Option ComposeTypes.UpdateConfig) : Option Latest.UpdateConfig :=
  u.map fun u => { parallelism := u.parallelism }

/-- `fromComposeRestartPolicy`. -/
def fromComposeRestartPolicy (r : Option ComposeTypes.RestartPolicy) :
    Option Latest.RestartPolicy :=
  r.map fun r => { condition := r.condition }

/-- `fromComposeServiceVolumeConfig`. -/
def fromComposeServiceVolumeConfig (vs : Slice ComposeTypes.ServiceVolumeConfig) :
    Slice Latest.ServiceVolumeConfig :=
  vs.map (List.map fun v =>
    { type := v.type
      source := v.source
      target := v.target
      readOnly := v.readOnly })

/-- `fromComposeServiceConfig`; an `int` has 64 bits, so that `strconv.Atoi` is
`parseInt64`. -/
def fromComposeServiceConfig (s : ComposeTypes.ServiceConfig) : Latest.ServiceConfig :=
  let userID : Option Int64 := if s.user ≠ "" then parseInt64 s.user else none
  { (default : Latest.ServiceConfig) with
    name := s.name
    capAdd := s.capAdd
    capDrop := s.capDrop
    command := s.command
    configs := fromComposeServiceConfigs s.configs
    deploy :=
      { mode := s.deploy.mode
        replicas := s.deploy.replicas
        labels := s.deploy.labels
        updateConfig := fromComposeUpdateConfig s.deploy.updateConfig
        resources := fromComposeResources s.deploy.resources
        restartPolicy := fromComposeRestartPolicy s.deploy.restartPolicy
        placement := fromComposePlacement s.deploy.placement }
    entrypoint := s.entrypoint
    environment := s.environment
    extraHosts := s.extraHosts
    hostname := s.hostname
    healthCheck := fromComposeHealthcheck s.healthCheck
    image := s.image
    ipc := s.ipc
    labels := s.labels
    pid := s.pid
    ports := fromComposePorts s.ports
    privileged := s.privileged
    readOnly := s.readOnly
    secrets := fromComposeServiceSecrets s.secrets
    stdinOpen := s.stdinOpen
    stopGracePeriod := ComposeTypes.convertDurationPtr s.stopGracePeriod
    tmpfs := s.tmpfs
    tty := s.tty
    user := userID
    volumes := fromComposeServiceVolumeConfig s.volumes
    workingDir := s.workingDir }

/-- `FromComposeConfig`. -/
def fromComposeConfig (c : Option ComposeTypes.Config) : Option Latest.StackSpec :=
  c.map fun c =>
    { services := some (c.services.elems.map fromComposeServiceConfig)
      secrets := fromComposeSecrets c.secrets
      configs := fromComposeConfigs c.configs }

/-! ## What is kept -/

structure PortImported (p : ComposeTypes.ServicePortConfig) (p' : Latest.ServicePortConfig) :
    Prop where
  mode : p'.mode = p.mode
  target : p'.target = p.target
  published : p'.published = p.published
  protocol : p'.protocol = p.protocol

structure FileObjectImported (o : ComposeTypes.FileObjectConfig) (o' : Latest.FileObjectConfig) :
    Prop where
  name : o'.name = o.name
  file : o'.file = o.file
  externalName : o'.external.name = o.external.name
  externalExternal : o'.external.external = o.external.external
  labels : o'.labels = o.labels

structure FileReferenceImported (r : ComposeTypes.FileReferenceConfig)
    (r' : Latest.FileReferenceConfig) : Prop where
  source : r'.source = r.source
  target : r'.target = r.target
  uid : r'.uid = r.uid
  gid : r'.gid = r.gid
  mode : r'.mode = r.mode

structure ResourceImported (r : ComposeTypes.Resource) (r' : Latest.Resource) : Prop where
  nanoCPUs : r'.nanoCPUs = r.nanoCPUs
  memoryBytes : r'.memoryBytes = r.memoryBytes

/-- All but the placement, which is compared elsewhere. -/
structure DeployImported (d : ComposeTypes.DeployConfig) (d' : Latest.DeployConfig) : Prop where
  mode : d'.mode = d.mode
  replicas : d'.replicas = d.replicas
  labels : d'.labels = d.labels
  updateConfig : Option.Rel (fun u u' => u'.parallelism = u.parallelism) d.updateConfig
    d'.updateConfig
  limits : Option.Rel ResourceImported d.resources.limits d'.resources.limits
  reservations : Option.Rel ResourceImported d.resources.reservations d'.resources.reservations
  restartPolicy : Option.Rel (fun r r' => r'.condition = r.condition) d.restartPolicy
    d'.restartPolicy

structure HealthCheckImported (h : ComposeTypes.HealthCheckConfig) (h' : Latest.HealthCheckConfig) :
    Prop where
  test : h'.test = h.test
  timeout : h'.timeout = h.timeout
  interval : h'.interval = h.interval
  retries : h'.retries = h.retries

structure VolumeImported (v : ComposeTypes.ServiceVolumeConfig) (v' : Latest.ServiceVolumeConfig) :
    Prop where
  type : v'.type = v.type
  source : v'.source = v.source
  target : v'.target = v.target
  readOnly : v'.readOnly = v.readOnly

structure ServiceImported (s : ComposeTypes.ServiceConfig) (s' : Latest.ServiceConfig) : Prop where
  name : s'.name = s.name
  capAdd : s'.capAdd = s.capAdd
  capDrop : s'.capDrop = s.capDrop
  command : s'.command = s.command
  configs : Slice.Related FileReferenceImported s.configs s'.configs
  deploy : DeployImported s.deploy s'.deploy
  entrypoint : s'.entrypoint = s.entrypoint
  environment : s'.environment = s.environment
  extraHosts : s'.extraHosts = s.extraHosts
  hostname : s'.hostname = s.hostname
  healthCheck : Option.Rel HealthCheckImported s.healthCheck s'.healthCheck
  image : s'.image = s.image
  ipc : s'.ipc = s.ipc
  labels : s'.labels = s.labels
  pid : s'.pid = s.pid
  ports : Slice.Related PortImported s.ports s'.ports
  privileged : s'.privileged = s.privileged
  readOnly : s'.readOnly = s.readOnly
  secrets : Slice.Related FileReferenceImported s.secrets s'.secrets
  stdinOpen : s'.stdinOpen = s.stdinOpen
  stopGracePeriod : s'.stopGracePeriod = s.stopGracePeriod
  tmpfs : s'.tmpfs = s.tmpfs
  tty : s'.tty = s.tty
  /-- The user is the number that its text denotes; the numbers are those of 64 bits. -/
  user : ∀ n : Int64, s'.user = some n ↔ SignedDecimal s.user.toList n.toInt
  volumes : Slice.Related VolumeImported s.volumes s'.volumes
  workingDir : s'.workingDir = s.workingDir

structure ConfigImported (c : ComposeTypes.Config) (spec : Latest.StackSpec) : Prop where
  services : List.Forall₂ ServiceImported c.services.elems spec.services.elems
  secrets : MapRef.Related FileObjectImported c.secrets spec.secrets
  configs : MapRef.Related FileObjectImported c.configs spec.configs

/-! ## Type by type -/

@[simp] theorem convertDurationPtr_eq (d : Option Int64) :
    ComposeTypes.convertDurationPtr d = d := by
  cases d <;> rfl

/-- The group is kept when there is none. -/
theorem fileReferenceImported_iff {r : ComposeTypes.FileReferenceConfig} :
    FileReferenceImported r (fromComposeFileReference r) ↔ r.gid = "" := by
  constructor
  · intro h
    exact h.gid.symm
  · intro h
    exact ⟨rfl, rfl, rfl, h.symm, rfl⟩

theorem resourceImported (r : Option ComposeTypes.Resource) :
    Option.Rel ResourceImported r (fromComposeResourcesResource r) :=
  pointer_related_map_iff.mpr fun _ _ => ⟨rfl, rfl⟩

theorem deployImported (s : ComposeTypes.ServiceConfig) :
    DeployImported s.deploy (fromComposeServiceConfig s).deploy where
  mode := rfl
  replicas := rfl
  labels := rfl
  updateConfig := pointer_related_map_iff.mpr fun _ _ => rfl
  limits := resourceImported s.deploy.resources.limits
  reservations := resourceImported s.deploy.resources.reservations
  restartPolicy := pointer_related_map_iff.mpr fun _ _ => rfl

/-- A health check is imported with all its fields. -/
theorem healthCheckImported (h : Option ComposeTypes.HealthCheckConfig) :
    Option.Rel HealthCheckImported h (fromComposeHealthcheck h) := by
  refine pointer_related_map_iff.mpr fun h _ => ⟨rfl, ?_, ?_, rfl⟩
  · exact convertDurationPtr_eq h.timeout
  · exact convertDurationPtr_eq h.interval

theorem fileObjectImported (s : MapRef ComposeTypes.FileObjectConfig) :
    MapRef.Related FileObjectImported s (s.map (Map.mapValues fromComposeFileObject)) :=
  MapRef.related_mapValues_iff.mpr fun _ _ _ => ⟨rfl, rfl, rfl, rfl, rfl⟩

/-- **The user is a number exactly when its text is a signed decimal of 64 bits.** An
empty text is not parsed, and would not be a number. -/
theorem user_fromComposeServiceConfig (s : ComposeTypes.ServiceConfig) (n : Int64) :
    (fromComposeServiceConfig s).user = some n ↔ SignedDecimal s.user.toList n.toInt := by
  show (if s.user ≠ "" then parseInt64 s.user else none) = some n ↔ _
  rw [← parseInt64_eq_some_iff]
  by_cases hempty : s.user = ""
  · have hnone : parseInt64 s.user = none := by
      rw [hempty]
      rfl
    rw [if_neg (not_not.mpr hempty), hnone]
  · rw [if_pos hempty]

/-! ## Services and files -/

/-- No reference of the service to a secret or a config names a group. -/
def ComposeTypes.ServiceConfig.NoGroups (s : ComposeTypes.ServiceConfig) : Prop :=
  (∀ r ∈ s.secrets.elems, r.gid = "") ∧ ∀ r ∈ s.configs.elems, r.gid = ""

/-- **A service is imported as it is, unless a file of it has a group.** -/
theorem serviceImported_iff {s : ComposeTypes.ServiceConfig} :
    ServiceImported s (fromComposeServiceConfig s) ↔ s.NoGroups := by
  -- the group of a file reference is the one field that has no place in a stack
  have hreferences : ∀ refs : Slice ComposeTypes.FileReferenceConfig,
      Slice.Related FileReferenceImported refs (refs.map (List.map fromComposeFileReference)) ↔
        ∀ r ∈ refs.elems, r.gid = "" := by
    intro refs
    rw [Slice.related_map_iff]
    simp only [fileReferenceImported_iff]
  constructor
  · intro h
    exact ⟨(hreferences s.secrets).mp h.secrets, (hreferences s.configs).mp h.configs⟩
  · intro h
    exact {
      name := rfl
      capAdd := rfl
      capDrop := rfl
      command := rfl
      configs := (hreferences s.configs).mpr h.2
      deploy := deployImported s
      entrypoint := rfl
      environment := rfl
      extraHosts := rfl
      hostname := rfl
      healthCheck := healthCheckImported s.healthCheck
      image := rfl
      ipc := rfl
      labels := rfl
      pid := rfl
      ports := Slice.related_map_iff.mpr fun _ _ => ⟨rfl, rfl, rfl, rfl⟩
      privileged := rfl
      readOnly := rfl
      secrets := (hreferences s.secrets).mpr h.1
      stdinOpen := rfl
      stopGracePeriod := convertDurationPtr_eq s.stopGracePeriod
      tmpfs := rfl
      tty := rfl
      user := user_fromComposeServiceConfig s
      volumes := Slice.related_map_iff.mpr fun _ _ => ⟨rfl, rfl, rfl, rfl⟩
      workingDir := rfl }

/-- Likewise for the whole file. -/
theorem configImported_iff {c : ComposeTypes.Config} {spec : Latest.StackSpec}
    (h : fromComposeConfig (some c) = some spec) :
    ConfigImported c spec ↔ ∀ s ∈ c.services.elems, s.NoGroups := by
  obtain rfl := Option.some.inj h
  constructor
  · intro hkept s hs
    exact serviceImported_iff.mp (list_related_map_iff.mp hkept.services s hs)
  · intro hgroups
    exact ⟨list_related_map_iff.mpr fun s hs => serviceImported_iff.mpr (hgroups s hs),
      fileObjectImported c.secrets, fileObjectImported c.configs⟩

/-- **The import keeps every field that both sides have, exactly when no service refers
to a secret or a config with a group.** -/
theorem fromComposeConfig_kept_iff (c : Option ComposeTypes.Config) :
    Option.Rel ConfigImported c (fromComposeConfig c) ↔
      ∀ config, c = some config → ∀ s ∈ config.services.elems, s.NoGroups := by
  cases c with
  | none => simp [fromComposeConfig]
  | some config =>
    constructor
    · rintro (hkept | _) config' hconfig
      obtain rfl := Option.some.inj hconfig
      exact (configImported_iff rfl).mp hkept
    · intro hgroups
      exact .some ((configImported_iff rfl).mpr (hgroups config rfl))

/-- A service with a secret that is to be read by one group. -/
def groupSecretConfig : ComposeTypes.Config :=
  { (default : ComposeTypes.Config) with
    services := some [
      { (default : ComposeTypes.ServiceConfig) with
        name := "db"
        secrets := some [
          { (default : ComposeTypes.FileReferenceConfig) with
            source := "password"
            gid := "1000" }] }] }

/-- **The group of a secret is lost.** -/
theorem fromComposeConfig_group_lost :
    (∃ spec service, fromComposeConfig (some groupSecretConfig) = some spec ∧
      spec.services.elems = [service] ∧ service.secrets.elems.map (·.gid) = [""]) ∧
    ¬Option.Rel ConfigImported (some groupSecretConfig)
      (fromComposeConfig (some groupSecretConfig)) := by
  refine ⟨⟨_, _, rfl, rfl, rfl⟩, ?_⟩
  rintro (hkept | _)
  have hgroups := (configImported_iff rfl).mp hkept _ (List.mem_singleton.mpr rfl)
  exact absurd (hgroups.1 _ (List.mem_singleton.mpr rfl)) (by decide)

end ComposeKube

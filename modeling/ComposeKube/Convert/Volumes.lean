import ComposeKube.Lib.Fallible
import ComposeKube.Lib.Strings
import ComposeKube.Convert.Runtime

/-!
# Volumes

`volumes.go` and `pvc.go`: a service's volumes, tmpfs mounts, secrets and
configs as pod volumes with their mounts, and its named volumes as claim
templates. Claims are rebuilt on top of the claims of the same name that the
StatefulSet already has (`toPersistentVolumeClaims_idem`).
-/

namespace ComposeKube

open Go

def dockerSock : String := "/var/run/docker.sock"

structure VolumeSpec where
  mount : VolumeMount
  source : Option VolumeSource
  deriving DecidableEq, Inhabited

/-! ## Volumes and mounts -/

/-- `hasPersistentVolumes`. -/
def hasPersistentVolumes (s : Latest.ServiceConfig) : Bool :=
  s.volumes.elems.any fun volume => volume.type = "volume"

/-- `or`. -/
def orDefault (v defaultValue : String) : String :=
  if v ≠ "" ∧ v ≠ "." then v else defaultValue

/-- `gitVolume`; `filepath.ToSlash` is the identity on Unix. -/
def gitVolume (path : String) : VolumeSource := .gitRepo path

/-- `hostPathVolume`. -/
def hostPathVolume (path : String) : VolumeSource := .hostPath path

/-- `emptyVolumeInMemory`. -/
def emptyVolumeInMemory : VolumeSource := .emptyDir "Memory"

/-- `defaultMode`. -/
def defaultMode (mode : Option UInt32) : Option Int32 := mode.map UInt32.toInt32

/-- `toKey`. -/
def toKey (file : String) : String := if file ≠ "" then pathBase file else "file"

/-- `secretVolume`. -/
def secretVolume (config : Latest.ServiceSecretConfig) (topLevelSecret : Latest.SecretConfig)
    (subPath : String) : VolumeSource :=
  .secret config.source
    (some [{ key := toKey topLevelSecret.file, path := subPath, mode := defaultMode config.mode }])

/-- `configVolume`. -/
def configVolume (config : Latest.ServiceConfigObjConfig) (topLevelConfig : Latest.ConfigObjConfig)
    (subPath : String) : VolumeSource :=
  .configMap config.source
    (some [{ key := toKey topLevelConfig.file, path := subPath, mode := defaultMode config.mode }])

/-- `volumeMount`. -/
def volumeMount (name path : String) (readOnly : Bool) (subPath : String) : VolumeMount :=
  { (default : VolumeMount) with name, mountPath := path, readOnly, subPath }

/-- `fmt.Sprintf("<kind>-%d", i)`. -/
def indexedName (kind : String) (i : Nat) : String := kind ++ "-" ++ formatInt i

/-- The body of the first loop of `toVolumeSpecs`. -/
def toVolumeSpec (m : Latest.ServiceVolumeConfig) (i : Nat) : Except String VolumeSpec :=
  let name := indexedName "mount" i
  let spec (name : String) (source : Option VolumeSource) (subpath : String) : VolumeSpec :=
    { source, mount := volumeMount name m.target m.readOnly subpath }
  if m.source = dockerSock ∧ m.target = dockerSock then
    .ok (spec name (some (hostPathVolume "/var/run")) "docker.sock")
  else if hasSuffix m.source ".git" then
    .ok (spec name (some (gitVolume m.source)) "")
  else if m.type = "volume" then
    .ok (spec (if m.source ≠ "" then m.source else name) none "")
  -- bind mount
  else if !isAbs m.source then
    .error (m.source ++ ": only absolute paths can be specified in mount source")
  else if m.source = "/" then
    .ok (spec name (some (hostPathVolume "/")) "")
  else
    let (parent, file) := pathSplit m.source
    let parent := if parent ≠ "/" then trimSuffix parent "/" else parent
    .ok (spec name (some (hostPathVolume parent)) file)

/-- The body of the loop over the tmpfs mounts. -/
def toTmpfsSpec (m : String) (i : Nat) : VolumeSpec :=
  { source := some emptyVolumeInMemory, mount := volumeMount (indexedName "tmp" i) m false "" }

/-- The body of the loop over the secrets. -/
def toSecretSpec (configuration : Latest.StackSpec) (s : Latest.ServiceSecretConfig) (i : Nat) :
    VolumeSpec :=
  let name := indexedName "secret" i
  let target := pathJoin "/run/secrets" (orDefault s.target s.source)
  { source := some (secretVolume s ((configuration.secrets.get? s.source).getD default) name)
    mount := volumeMount name target true name }

/-- The body of the loop over the configs. -/
def toConfigSpec (configuration : Latest.StackSpec) (c : Latest.ServiceConfigObjConfig) (i : Nat) :
    VolumeSpec :=
  let name := indexedName "config" i
  let target := orDefault c.target ("/" ++ c.source)
  { source := some (configVolume c ((configuration.configs.get? c.source).getD default) name)
    mount := volumeMount name target true name }

/-- `toVolumeSpecs`. -/
def toVolumeSpecs (s : Latest.ServiceConfig) (configuration : Latest.StackSpec) :
    Except String (List VolumeSpec) := do
  let volumes ← s.volumes.elems.zipIdx.mapM fun m => toVolumeSpec m.1 m.2
  let tmpfs := s.tmpfs.elems.zipIdx.map fun m => toTmpfsSpec m.1 m.2
  let secrets := s.secrets.elems.zipIdx.map fun m => toSecretSpec configuration m.1 m.2
  let configs := s.configs.elems.zipIdx.map fun m => toConfigSpec configuration m.1 m.2
  return volumes ++ tmpfs ++ secrets ++ configs

/-- `toVolumeMounts`. -/
def toVolumeMounts (s : Latest.ServiceConfig) (configuration : Latest.StackSpec) :
    Except String (Slice VolumeMount) := do
  let specs ← toVolumeSpecs s configuration
  return Slice.ofAppends (specs.map (·.mount))

/-- `toVolumes`. -/
def toVolumes (s : Latest.ServiceConfig) (configuration : Latest.StackSpec) :
    Except String (Slice Volume) := do
  let specs ← toVolumeSpecs s configuration
  return Slice.ofAppends (specs.filterMap fun spec =>
    spec.source.map fun volumeSource => { name := spec.mount.name, volumeSource })

/-! ## Claim templates -/

/-- `resource.MustParse("100Mi")`. -/
def claimSize : Quantity := { nanos := 100 * 2 ^ 20 * 10 ^ 9, encoding := "100Mi" }

/-- The claim a loop step of `toPersistentVolumeClaims` builds on top of `v`. -/
def toPersistentVolumeClaim (srv : Latest.ServiceConfig) (volumename : String)
    (v : PersistentVolumeClaim) : PersistentVolumeClaim :=
  { v with
    objectMeta :=
      { (default : ObjectMeta) with name := volumename, annotations := srv.deploy.labels }
    spec := { v.spec with
      accessModes := some ["ReadWriteOnce"]
      resources := { limits := none, requests := some (Finmap.singleton "storage" claimSize) } } }

/-- The names of a service's claims: the source of a volume, or its position. -/
def claimNames (srv : Latest.ServiceConfig) : List String :=
  srv.volumes.elems.zipIdx.filterMap fun v =>
    if v.1.type ≠ "volume" then none
    else some (if v.1.source ≠ "" then v.1.source else indexedName "mount" v.2)

/-- `originalMap[volumename]`: of several claims with one name the last counts. -/
def originalClaim (original : Slice PersistentVolumeClaim) (name : String) :
    PersistentVolumeClaim :=
  (original.elems.reverse.find? fun c => c.objectMeta.name = name).getD default

/-- `toPersistentVolumeClaims`. -/
def toPersistentVolumeClaims (srv : Latest.ServiceConfig)
    (original : Slice PersistentVolumeClaim) : Slice PersistentVolumeClaim :=
  Slice.ofAppends <| (claimNames srv).map fun name =>
    toPersistentVolumeClaim srv name (originalClaim original name)

theorem toPersistentVolumeClaim_idem (srv : Latest.ServiceConfig) (name : String)
    (v : PersistentVolumeClaim) :
    toPersistentVolumeClaim srv name (toPersistentVolumeClaim srv name v) =
      toPersistentVolumeClaim srv name v := rfl

/-- Claims that have been built are found again under their name, also when
several volumes share it: they were all built from one original. -/
theorem originalClaim_toPersistentVolumeClaims {srv : Latest.ServiceConfig}
    (original : Slice PersistentVolumeClaim) {name : String} (hname : name ∈ claimNames srv) :
    originalClaim (toPersistentVolumeClaims srv original) name =
      toPersistentVolumeClaim srv name (originalClaim original name) := by
  unfold originalClaim toPersistentVolumeClaims
  rw [Slice.elems_ofAppends]
  set built := (claimNames srv).map fun name =>
    toPersistentVolumeClaim srv name (originalClaim original name) with hbuilt
  have hmem : toPersistentVolumeClaim srv name (originalClaim original name) ∈ built.reverse := by
    rw [List.mem_reverse, hbuilt]
    exact List.mem_map_of_mem hname
  -- claims of one name are built alike, so that it does not matter which is found
  cases hfind : built.reverse.find? fun c => decide (c.objectMeta.name = name) with
  | none =>
    rw [List.find?_eq_none] at hfind
    exact absurd (decide_eq_true rfl) (hfind _ hmem)
  | some c =>
    have hc : c ∈ built := List.mem_reverse.mp (List.mem_of_find?_eq_some hfind)
    have hcname : c.objectMeta.name = name := by simpa using List.find?_some hfind
    rw [hbuilt] at hc
    obtain ⟨name', -, rfl⟩ := List.mem_map.mp hc
    have hname' : name' = name := hcname
    rw [hname']
    rfl

/-- Building the claims of a service twice changes nothing. -/
theorem toPersistentVolumeClaims_idem (srv : Latest.ServiceConfig)
    (original : Slice PersistentVolumeClaim) :
    toPersistentVolumeClaims srv (toPersistentVolumeClaims srv original) =
      toPersistentVolumeClaims srv original := by
  have h : ∀ name ∈ claimNames srv,
      toPersistentVolumeClaim srv name
          (originalClaim (toPersistentVolumeClaims srv original) name) =
        toPersistentVolumeClaim srv name (originalClaim original name) := by
    intro name hname
    rw [originalClaim_toPersistentVolumeClaims original hname, toPersistentVolumeClaim_idem]
  show Slice.ofAppends _ = Slice.ofAppends _
  rw [List.map_congr_left h]

end ComposeKube

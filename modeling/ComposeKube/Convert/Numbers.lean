import ComposeKube.Convert.Children
import ComposeKube.Convert.Mounts

/-!
# Numbers of the spec

Replicas, parallelism and retries are unsigned 64-bit numbers in a compose file,
ports and file modes unsigned 32-bit ones. Kubernetes has signed 32-bit integers
for all of them, and the conversion keeps the low 32 bits without a check.

* `numbersKept_iff` — the integers of the emitted objects are the numbers of the
  service they come from exactly when those are below 2^31.
-/

namespace ComposeKube

open Go

/-! ## Narrowing -/

/-- The number fits into a signed 32-bit integer. -/
def FitsInt32 (n : Nat) : Prop := n < 2 ^ 31

instance (n : Nat) : Decidable (FitsInt32 n) := inferInstanceAs (Decidable (n < 2 ^ 31))

/-- A narrowed 32-bit number is the number if it fits. -/
theorem toInt_toInt32_iff (v : UInt32) : v.toInt32.toInt = v.toNat ↔ FitsInt32 v.toNat := by
  have hlt := v.toNat_lt
  have hbits : v.toInt32.toInt = (v.toNat : Int).bmod (2 ^ 32) :=
    BitVec.toInt_eq_toNat_bmod v.toBitVec
  -- from 2^31 on, the same bits are read as a negative number
  rw [hbits, Int.bmod_def, FitsInt32]
  split <;> omega

/-- A narrowed 64-bit number is the number if it fits. -/
theorem toInt_narrow_iff (v : UInt64) : (toInt32 v).toInt = v.toNat ↔ FitsInt32 v.toNat := by
  have hlt := v.toNat_lt
  have hbits : (toInt32 v).toInt = (v.toUInt32.toNat : Int).bmod (2 ^ 32) :=
    BitVec.toInt_eq_toNat_bmod v.toUInt32.toBitVec
  -- the high bits are lost before the sign is read
  rw [hbits, UInt64.toNat_toUInt32, Int.bmod_def, FitsInt32]
  split <;> omega

theorem fromInt_toNat (v : UInt32) : IntOrString.fromInt v.toNat = .int v.toInt32 := by
  refine congrArg IntOrString.int (Int32.toInt.inj ?_)
  rw [Int32.toInt_ofInt]
  exact (BitVec.toInt_eq_toNat_bmod v.toBitVec).symm

/-! ## Ports of services -/

/-- A port of an exposed service has the numbers of the port it comes from. -/
structure PortKept (strategy : ServiceStrategy) (source : Latest.ServicePortConfig)
    (p : ServicePort) : Prop where
  port : p.port.toInt =
    (if strategy = .loadBalancer ∧ source.published ≠ 0 then source.published.toNat
      else source.target.toNat : Nat)
  targetPort : ∃ v, p.targetPort = .int v ∧ v.toInt = source.target.toNat
  nodePort : strategy = .nodePort → source.published ≠ 0 → p.nodePort.toInt = source.published.toNat

/-- The numbers of a port fit. -/
structure PortFits (source : Latest.ServicePortConfig) : Prop where
  target : FitsInt32 source.target.toNat
  published : FitsInt32 source.published.toNat

/-- **The numbers of a port are kept when they fit in 32 bits.** -/
theorem portKept_iff (rt : Runtime) (strategy : ServiceStrategy)
    (source : Latest.ServicePortConfig) (nodePort : Int32) :
    PortKept strategy source (exposedPort rt strategy source nodePort) ↔ PortFits source := by
  have htarget := toInt_toInt32_iff source.target
  have hpublished := toInt_toInt32_iff source.published
  constructor
  · rintro ⟨hport, ⟨v, hv, hvalue⟩, hnode⟩
    have hv : source.target.toInt32 = v := IntOrString.int.inj ((fromInt_toNat _).symm.trans hv)
    refine ⟨htarget.mp (hv ▸ hvalue), ?_⟩
    by_cases hzero : source.published = 0
    · rw [hzero]
      decide
    · -- the published port is the port of one strategy and the node port of the other
      cases strategy with
      | loadBalancer =>
        simp only [exposedPort] at hport
        exact hpublished.mp (by simpa [hzero] using hport)
      | nodePort =>
        have hnode := hnode rfl hzero
        simp only [exposedPort] at hnode
        exact hpublished.mp (by simpa [hzero] using hnode)
  · rintro ⟨hfits, hfits'⟩
    have htarget := htarget.mpr hfits
    have hpublished := hpublished.mpr hfits'
    refine ⟨?_, ⟨_, fromInt_toNat _, htarget⟩, fun hstrategy hzero => ?_⟩
    · unfold exposedPort
      split <;> assumption
    · have hnode : (exposedPort rt strategy source nodePort).nodePort = source.published.toInt32 :=
        if_pos ⟨hstrategy, hzero⟩
      rw [hnode]
      exact hpublished

/-- The ports of the published, or of the random-ports service. -/
def PortsKept (strategy : ServiceStrategy) (srv : Latest.ServiceConfig) (published : Bool)
    (svc : Service) : Prop :=
  List.Forall₂ (PortKept strategy)
    (srv.ports.elems.filter fun p => decide (p.published ≠ 0) = published) svc.spec.ports.elems

theorem exposedPorts_kept_iff (rt : Runtime) (strategy : ServiceStrategy) (published : Bool)
    (srv : Latest.ServiceConfig) (original : Slice ServicePort) :
    List.Forall₂ (PortKept strategy)
        (srv.ports.elems.filter fun p => decide (p.published ≠ 0) = published)
        (exposedPorts rt strategy published srv original) ↔
      ∀ p ∈ srv.ports.elems, decide (p.published ≠ 0) = published → PortFits p := by
  rw [exposedPorts, List.forall₂_map_right_iff, List.forall₂_same]
  simp only [portKept_iff, List.mem_filter, decide_eq_true_eq, and_imp]

/-! ## Pod templates -/

/-- The modes of the files of a volume. -/
def VolumeSource.fileModes : VolumeSource → List (Option Int32)
  | .secret _ items => items.elems.map (·.mode)
  | .configMap _ items => items.elems.map (·.mode)
  | _ => []

/-- The file modes of the volumes of a pod. -/
def volumeModes (volumes : List Volume) : List (Option Int32) :=
  volumes.flatMap fun v => v.volumeSource.fileModes

/-- The file modes of the secrets and configs of a service. -/
def fileModes (srv : Latest.ServiceConfig) : List (Option UInt32) :=
  srv.secrets.elems.map (·.mode) ++ srv.configs.elems.map (·.mode)

/-- The numbers of a pod template are those of the service. -/
structure PodKept (srv : Latest.ServiceConfig) (template : PodTemplateSpec) : Prop where
  container : ∃ c, template.spec.containers.elems.find? (fun c => c.name = srv.name) = some c ∧
    List.Forall₂ (fun p cp => cp.containerPort.toInt = p.target.toNat) srv.ports.elems
      c.ports.elems ∧
    ∀ hc retries probe, srv.healthCheck = some hc → hc.retries = some retries →
      c.livenessProbe = some probe → probe.failureThreshold.toInt = retries.toNat
  modes : (volumeModes template.spec.volumes.elems).map (Option.map Int32.toInt) =
    (fileModes srv).map (Option.map fun mode => (mode.toNat : Int))

/-- The numbers of a service that go into its pods fit. -/
structure PodFits (srv : Latest.ServiceConfig) : Prop where
  ports : ∀ p ∈ srv.ports.elems, FitsInt32 p.target.toNat
  /-- of a health check that is a command -/
  retries : ∀ hc retries kind command, srv.healthCheck = some hc → hc.retries = some retries →
    hc.test.elems = kind :: command → kind ≠ "NONE" → FitsInt32 retries.toNat
  modes : ∀ mode, some mode ∈ fileModes srv → FitsInt32 mode.toNat

/-- The container of the service is the first of its name. -/
theorem find?_fillContainers (rt : Runtime) (srv : Latest.ServiceConfig) (parts : PodParts)
    (original : List Container) :
    ∃ c, (fillContainers rt srv parts original).find? (fun c => c.name = srv.name) =
      some (fillContainer rt srv parts c) := by
  obtain ⟨containers, hne, hfill⟩ := exists_fillContainers_eq rt srv parts original
  set ix := containerIndex srv.name containers with hix
  have hindex : containerIndex srv.name (containers.modify ix (fillContainer rt srv parts)) = ix :=
    containerIndex_modify rt srv parts containers hne
  have hlt : ix < containers.length := by
    rw [hix, containerIndex]
    cases hfind : containers.findIdx? fun c => decide (c.name = srv.name) with
    | none => exact List.length_pos_iff.mpr hne
    | some i => exact (List.findIdx?_eq_some_iff_getElem.mp hfind).1
  refine ⟨containers[ix], ?_⟩
  rw [hfill, List.find?_eq_some_iff_getElem]
  refine ⟨by simp [fillContainer], ix, by simpa using hlt, by simp, fun j hj => ?_⟩
  -- an earlier one of that name would have been the index
  cases hfind : (containers.modify ix (fillContainer rt srv parts)).findIdx?
      fun c => decide (c.name = srv.name) with
  | none =>
    rw [List.findIdx?_eq_none_iff] at hfind
    simpa using hfind _ (List.getElem_mem (by simp; omega))
  | some k =>
    have hk : k = ix := by
      rw [containerIndex, hfind] at hindex
      exact hindex
    have hbefore := (List.findIdx?_eq_some_iff_getElem.mp hfind).2.2 j (hk ▸ hj)
    simpa using hbefore

theorem forall₂_toPorts_iff (ports : Slice Latest.ServicePortConfig) :
    List.Forall₂ (fun p cp => cp.containerPort.toInt = p.target.toNat) ports.elems
      (toPorts ports).elems ↔ ∀ p ∈ ports.elems, FitsInt32 p.target.toNat := by
  rw [toPorts, Slice.elems_ofAppends, List.forall₂_map_right_iff, List.forall₂_same]
  simp only [toInt_toInt32_iff]

/-- Only a health check that is a command has a probe. -/
theorem livenessProbe_kept_iff (rt : Runtime) (healthCheck : Option Latest.HealthCheckConfig) :
    (∀ hc retries probe, healthCheck = some hc → hc.retries = some retries →
      toLivenessProbe rt healthCheck = some probe →
        probe.failureThreshold.toInt = retries.toNat) ↔
    ∀ hc retries kind command, healthCheck = some hc → hc.retries = some retries →
      hc.test.elems = kind :: command → kind ≠ "NONE" → FitsInt32 retries.toNat := by
  constructor
  · rintro h hc retries kind command rfl hretries htest hkind
    have hprobe : ∃ probe, toLivenessProbe rt (some hc) = some probe ∧
        probe.failureThreshold = toInt32 retries := by
      unfold toLivenessProbe
      simp only [htest, if_neg hkind, hretries]
      exact ⟨_, rfl, rfl⟩
    obtain ⟨probe, hprobe, hthreshold⟩ := hprobe
    have hkept := h hc retries probe rfl hretries hprobe
    rw [hthreshold] at hkept
    exact (toInt_narrow_iff retries).mp hkept
  · rintro h hc retries probe rfl hretries hprobe
    unfold toLivenessProbe at hprobe
    dsimp only at hprobe
    -- an empty test and `NONE` have no probe
    split at hprobe
    · cases hprobe
    · next kind command htest =>
      split at hprobe
      · cases hprobe
      · next hkind =>
        obtain rfl := Option.some.inj hprobe
        have hfits := h hc retries kind command rfl hretries htest hkind
        rw [hretries]
        exact (toInt_narrow_iff retries).mpr hfits

/-- Of the volumes of a pod, the secrets and configs hold files. -/
theorem volumeModes_toVolumes {srv : Latest.ServiceConfig} {configuration : Latest.StackSpec}
    {volumes : Slice Volume} (h : toVolumes srv configuration = .ok volumes) :
    volumeModes volumes.elems = (fileModes srv).map defaultMode := by
  have hown : ∀ source : VolumeSource, source.isHostOrGit = true → source.fileModes = [] := by
    intro source hkind
    cases source <;> first | rfl | cases hkind
  obtain ⟨specs, hspecs, rfl⟩ := toVolumes_eq_ok.mp h
  rw [Slice.elems_ofAppends, volumeModes, flatMap_volumesOf hown rfl (fun _ _ _ => rfl)
    (fun _ _ _ => rfl) hspecs, fileModes, List.map_append, List.map_map, List.map_map]
  rfl

/-- The modes of the files are kept when they fit. -/
theorem map_defaultMode_iff (modes : List (Option UInt32)) :
    (modes.map defaultMode).map (Option.map Int32.toInt) =
        modes.map (Option.map fun mode => (mode.toNat : Int)) ↔
      ∀ mode, some mode ∈ modes → FitsInt32 mode.toNat := by
  rw [List.map_map, List.map_inj_left]
  constructor
  · intro h mode hmode
    have hkept := h _ hmode
    exact (toInt_toInt32_iff mode).mp (Option.some.inj hkept)
  · intro h mode hmode
    cases mode with
    | none => rfl
    | some mode => exact congrArg some ((toInt_toInt32_iff mode).mpr (h mode hmode))

/-- **The numbers of a pod template** are those of the service when they fit. -/
theorem podKept_iff {rt : Runtime} {ord : ServiceOrder} {srv : Latest.ServiceConfig}
    {configuration : Latest.StackSpec} {parts : PodParts}
    (h : toPodParts rt ord srv configuration = .ok parts) (labels : MapRef String)
    (tpl : PodTemplateSpec) :
    PodKept srv (fillPodTemplate rt srv labels parts tpl) ↔ PodFits srv := by
  obtain ⟨c, hc⟩ := find?_fillContainers rt srv parts tpl.spec.containers.elems
  -- the modes of files go through a list of their own
  have hmodes : volumeModes parts.volumes.elems = (fileModes srv).map defaultMode :=
    volumeModes_toVolumes (toPodParts_volumes h).1
  constructor
  · rintro ⟨⟨c', hc', hports, hprobe⟩, hkept⟩
    obtain rfl : fillContainer rt srv parts c = c' := Option.some.inj (hc.symm.trans hc')
    refine ⟨(forall₂_toPorts_iff _).mp hports, ?_, ?_⟩
    · exact (livenessProbe_kept_iff rt _).mp hprobe
    · rw [← map_defaultMode_iff, ← hmodes]
      exact hkept
  · intro hfits
    refine ⟨⟨_, hc, (forall₂_toPorts_iff _).mpr hfits.ports, ?_⟩, ?_⟩
    · exact (livenessProbe_kept_iff rt _).mpr hfits.retries
    · show (volumeModes parts.volumes.elems).map _ = _
      rw [hmodes, map_defaultMode_iff]
      exact hfits.modes

/-! ## Workloads -/

/-- The replicas of a workload are those of the service. -/
def ReplicasKept (srv : Latest.ServiceConfig) (replicas : Option Int32) : Prop :=
  replicas.map Int32.toInt = some ((srv.deploy.replicas.map (·.toNat)).getD 1 : Nat)

/-- The number of replicas is kept when it fits. -/
theorem replicasKept_iff (srv : Latest.ServiceConfig) :
    ReplicasKept srv (toReplicas srv.deploy.replicas) ↔
      ∀ replicas, srv.deploy.replicas = some replicas → FitsInt32 replicas.toNat := by
  unfold ReplicasKept toReplicas
  cases srv.deploy.replicas with
  | none => simp
  | some replicas => simp [toInt_narrow_iff]

/-- The parallelism of a service, if it has one, is the number. -/
def ParallelismKept (srv : Latest.ServiceConfig) (kept : Option Int32) : Prop :=
  ∀ parallelism, updateParallelism srv = some parallelism →
    kept.map Int32.toInt = some (parallelism.toNat : Int)

theorem parallelismKept_iff {srv : Latest.ServiceConfig} {kept : Option Int32}
    (h : ∀ parallelism, updateParallelism srv = some parallelism →
      kept = some (toInt32 parallelism)) :
    ParallelismKept srv kept ↔
      ∀ parallelism, updateParallelism srv = some parallelism → FitsInt32 parallelism.toNat := by
  refine forall₂_congr fun parallelism hparallelism => ?_
  rw [h parallelism hparallelism, Option.map_some, Option.some.injEq, toInt_narrow_iff]

/-- The number of pods that a rolling update may take down. -/
def DeploymentStrategy.unavailable (strategy : DeploymentStrategy) : Option Int32 :=
  match strategy.rollingUpdate.bind (·.maxUnavailable) with
  | some (.int v) => some v
  | _ => none

/-- The partition of a rolling update. -/
def StatefulSetUpdateStrategy.updatePartition (strategy : StatefulSetUpdateStrategy) :
    Option Int32 :=
  strategy.rollingUpdate.bind (·.partition)

theorem unavailable_toDeploymentStrategy {srv : Latest.ServiceConfig} {parallelism : UInt64}
    (h : updateParallelism srv = some parallelism) (original : DeploymentStrategy) :
    (toDeploymentStrategy srv original).unavailable = some (toInt32 parallelism) := by
  unfold toDeploymentStrategy
  rw [h]
  rfl

theorem updatePartition_toStatefulSetUpdateStrategy {srv : Latest.ServiceConfig}
    {parallelism : UInt64} (h : updateParallelism srv = some parallelism)
    (original : StatefulSetUpdateStrategy) :
    (toStatefulSetUpdateStrategy srv original).updatePartition = some (toInt32 parallelism) := by
  unfold toStatefulSetUpdateStrategy
  rw [h]
  rfl

/-- The numbers of an emitted object are those of the service. Of the Kubernetes
services the two exposed ones have ports that were narrowed. -/
def ResourceKept (strategy : ServiceStrategy) (srv : Latest.ServiceConfig) : Resource → Prop
  | .deployment d =>
    ReplicasKept srv d.spec.replicas ∧ ParallelismKept srv d.spec.strategy.unavailable ∧
      PodKept srv d.spec.template
  | .statefulset s =>
    ReplicasKept srv s.spec.replicas ∧ ParallelismKept srv s.spec.updateStrategy.updatePartition ∧
      PodKept srv s.spec.template
  | .daemonset d => PodKept srv d.spec.template
  | .service svc =>
    (svc.objectMeta.name = ServiceRole.published.nameFor srv.name →
      PortsKept strategy srv true svc) ∧
    (svc.objectMeta.name = ServiceRole.randomPorts.nameFor srv.name →
      PortsKept strategy srv false svc)

/-- The numbers of a service that go into its workload fit. A global service has
no use for replicas and parallelism. -/
structure WorkloadFits (srv : Latest.ServiceConfig) : Prop where
  replicas : isGlobal srv = false → ∀ replicas, srv.deploy.replicas = some replicas →
    FitsInt32 replicas.toNat
  parallelism : isGlobal srv = false → ∀ parallelism, updateParallelism srv = some parallelism →
    FitsInt32 parallelism.toNat
  pod : PodFits srv

theorem workloadFits_iff {srv : Latest.ServiceConfig} (h : isGlobal srv = false) :
    WorkloadFits srv ↔
      (∀ replicas, srv.deploy.replicas = some replicas → FitsInt32 replicas.toNat) ∧
      (∀ parallelism, updateParallelism srv = some parallelism → FitsInt32 parallelism.toNat) ∧
      PodFits srv :=
  ⟨fun hfits => ⟨hfits.replicas h, hfits.parallelism h, hfits.pod⟩,
    fun ⟨hreplicas, hparallelism, hpod⟩ => ⟨fun _ => hreplicas, fun _ => hparallelism, hpod⟩⟩

theorem workloadFits_global {srv : Latest.ServiceConfig} (h : isGlobal srv = true) :
    WorkloadFits srv ↔ PodFits srv := by
  refine ⟨WorkloadFits.pod, fun hpod => ⟨fun hglobal => ?_, fun hglobal => ?_, hpod⟩⟩
  · exact absurd (h.symm.trans hglobal) (by decide)
  · exact absurd (h.symm.trans hglobal) (by decide)

/-- The restart policy is not a number. -/
theorem podKept_forceRestartPolicy (srv : Latest.ServiceConfig) (template : PodTemplateSpec)
    (policy : RestartPolicy) :
    PodKept srv (forceRestartPolicy template policy) ↔ PodKept srv template := by
  rw [forceRestartPolicy_eq]
  exact ⟨fun ⟨hcontainer, hmodes⟩ => ⟨hcontainer, hmodes⟩,
    fun ⟨hcontainer, hmodes⟩ => ⟨hcontainer, hmodes⟩⟩

/-- **The numbers of a workload** are those of the service when they fit. -/
theorem workloadKept_iff {ctx : ServiceContext} {parts : PodParts}
    (hparts : ctx.parts = .ok parts) (original : StackState) :
    ResourceKept ctx.strategy ctx.srv (ctx.desiredWorkload original parts) ↔
      WorkloadFits ctx.srv := by
  -- the pod is the same in all three kinds
  have hpod := podKept_iff hparts ctx.meta_.labels
  unfold ServiceContext.desiredWorkload workloadOf
  by_cases hglobal : isGlobal ctx.srv = true
  · rw [if_pos hglobal, workloadFits_global hglobal]
    exact hpod _
  · rw [if_neg hglobal, workloadFits_iff (Bool.eq_false_iff.mpr hglobal), ← replicasKept_iff]
    -- parallelism becomes the partition of a stateful set, or the unavailable pods of a
    -- deployment
    by_cases hpersistent : hasPersistentVolumes ctx.srv = true
    · rw [if_pos hpersistent]
      refine and_congr Iff.rfl (and_congr ?_ ?_)
      · exact parallelismKept_iff fun _ h => updatePartition_toStatefulSetUpdateStrategy h _
      · exact (podKept_forceRestartPolicy ctx.srv _ _).trans (hpod _)
    · rw [if_neg hpersistent]
      refine and_congr Iff.rfl (and_congr ?_ ?_)
      · exact parallelismKept_iff fun _ h => unavailable_toDeploymentStrategy h _
      · exact (podKept_forceRestartPolicy ctx.srv _ _).trans (hpod _)

/-! ## Kubernetes services -/

/-- The numbers of the ports of a service fit. -/
def PortsFit (srv : Latest.ServiceConfig) : Prop := ∀ p ∈ srv.ports.elems, PortFits p

/-- The ports that a service in this role exposes, by whether they are published. -/
def ServiceRole.exposes : ServiceRole → Option Bool
  | internal => none
  | published => some true
  | randomPorts => some false

/-- The numbers of a service are kept when those of its ports fit. -/
theorem serviceKept_iff (ctx : ServiceContext) (role : ServiceRole) (original : Service) :
    ResourceKept ctx.strategy ctx.srv (.service (ServiceSlot.desired (ctx, role) original)) ↔
      ∀ p ∈ ctx.srv.ports.elems, role.exposes = some (decide (p.published ≠ 0)) → PortFits p := by
  -- the name tells the role
  have hkept : ResourceKept ctx.strategy ctx.srv
      (.service (ServiceSlot.desired (ctx, role) original)) ↔
      (role = .published → PortsKept ctx.strategy ctx.srv true
        (ServiceSlot.desired (ctx, role) original)) ∧
      (role = .randomPorts → PortsKept ctx.strategy ctx.srv false
        (ServiceSlot.desired (ctx, role) original)) := by
    refine and_congr (imp_congr_left ?_) (imp_congr_left ?_) <;>
      exact ⟨fun h => ServiceRole.nameFor_injective h, fun h => by rw [h]; rfl⟩
  rw [hkept]
  cases role with
  | internal => simp [ServiceRole.exposes]
  | published =>
    have hports := exposedPorts_kept_iff ctx.rt ctx.strategy true ctx.srv original.spec.ports
    simpa [ServiceRole.exposes, PortsKept, ServiceSlot.desired, ServiceRole.build,
      ServiceRole.spec] using hports
  | randomPorts =>
    have hports := exposedPorts_kept_iff ctx.rt ctx.strategy false ctx.srv original.spec.ports
    simpa [ServiceRole.exposes, PortsKept, ServiceSlot.desired, ServiceRole.build,
      ServiceRole.spec] using hports

/-- The Kubernetes services of a service expose all its ports. -/
theorem servicesKept_iff (ctx : ServiceContext) (original : StackState) :
    (∀ svc ∈ serviceResources ctx original, ResourceKept ctx.strategy ctx.srv (.service svc)) ↔
      PortsFit ctx.srv := by
  rw [serviceResources_eq, List.forall_mem_map]
  simp only [serviceKept_iff]
  constructor
  · intro h p hp
    -- the port is a reason to emit the service that exposes it
    by_cases hpublished : p.published ≠ 0
    · have hrole : ServiceRole.published ∈ ctx.roles :=
        List.mem_filter.mpr ⟨by decide, List.any_eq_true.mpr ⟨p, hp, decide_eq_true hpublished⟩⟩
      exact h _ hrole p hp (by rw [decide_eq_true hpublished]; rfl)
    · have hzero : p.published = 0 := not_not.mp hpublished
      have hrole : ServiceRole.randomPorts ∈ ctx.roles :=
        List.mem_filter.mpr ⟨by decide, List.any_eq_true.mpr ⟨p, hp, decide_eq_true hzero⟩⟩
      exact h _ hrole p hp (by rw [decide_eq_false hpublished]; rfl)
  · exact fun h role _ p hp _ => h p hp

/-! ## Stacks -/

/-- The numbers of the objects built for a service are its own. -/
def NumbersKept (ctx : ServiceContext) (skipped : Bool) (rs : List Resource) : Prop :=
  ∀ r ∈ builtResources skipped rs, ResourceKept ctx.strategy ctx.srv r

/-- **When numbers are kept.** In a conversion that succeeds, the integers of the
objects emitted for a service are the numbers they come from exactly when the
numbers of the service are below 2^31. Nothing that does not fit makes the
conversion fail. -/
theorem numbersKept_iff (rt : Runtime) (stack : Latest.Stack) (strategy : ServiceStrategy)
    (C D : StackState) (h : (stackToStack rt stack strategy C).1 = .ok D) :
    ∃ spec rss, stack.spec = some spec ∧ D = newStackState rss.flatten ∧
      List.Forall₂ (fun ctx rs =>
        let skipped := ctx.skipsWorkload C (isStackDirty stack.status)
        toStackResources ctx C (isStackDirty stack.status) = .ok rs ∧
        (NumbersKept ctx skipped rs ↔
          PortsFit ctx.srv ∧ (skipped = false → WorkloadFits ctx.srv)))
        (stackContexts rt stack spec strategy) rss := by
  obtain ⟨spec, hspec, -, rss, hrss, hD⟩ := stackToStack_ok_iff.mp h
  exact ⟨spec, rss, hspec, hD, (mapM_eq_ok_iff.mp hrss).imp fun ctx rs hrs =>
    ⟨hrs, forall_builtResources_iff hrs (servicesKept_iff ctx C) fun _ hparts =>
      workloadKept_iff hparts C⟩⟩

/-- The ports of `webService` fit, and there is nothing else to narrow. -/
theorem webService_fits : PortsFit webService ∧ WorkloadFits webService := by
  have hport : ∀ p ∈ webService.ports.elems,
      FitsInt32 p.target.toNat ∧ FitsInt32 p.published.toNat := by decide
  have hmodes : fileModes webService = [] := rfl
  refine ⟨fun p hp => ⟨(hport p hp).1, (hport p hp).2⟩, nofun, nofun, fun p hp => (hport p hp).1,
    nofun, fun mode hmode => ?_⟩
  rw [hmodes] at hmode
  exact absurd hmode List.not_mem_nil

/-- The numbers of `webStack` are kept. -/
theorem numbersKept_webStack :
    ∃ D ctx rs, (stackToStack Runtime.reference webStack .loadBalancer emptyStackState).1 = .ok D ∧
      D = newStackState rs ∧ ctx.srv = webService ∧ NumbersKept ctx false rs := by
  have hok : ∃ D, (stackToStack Runtime.reference webStack .loadBalancer emptyStackState).1 =
      .ok D := ⟨_, rfl⟩
  obtain ⟨D, hD⟩ := hok
  obtain ⟨spec, rss, hspec, hstate, hkept⟩ :=
    numbersKept_iff Runtime.reference webStack .loadBalancer emptyStackState D hD
  have hone : spec.services.elems = [webService] := by
    cases hspec
    rfl
  obtain ⟨ctx, hctx, hsrv⟩ := stackContexts_singleton Runtime.reference webStack .loadBalancer hone
  rw [hctx] at hkept
  obtain ⟨rs, rfl, -, hiff⟩ := exists_of_forall₂_singleton hkept
  -- the stack has no status, so it is dirty and nothing is skipped
  have hskip : ctx.skipsWorkload emptyStackState (isStackDirty webStack.status) = false :=
    skipsWorkload_dirty ctx _
  rw [hskip, hsrv] at hiff
  refine ⟨D, ctx, rs, hD, by simpa using hstate, hsrv, hiff.mpr ?_⟩
  exact ⟨webService_fits.1, fun _ => webService_fits.2⟩

/-- A service that asks for 2^32 replicas. -/
def crowdedService : Latest.ServiceConfig :=
  { webService with deploy := { webService.deploy with replicas := some 4294967296 } }

/-- **2^32 replicas become none at all**, without an error. -/
theorem crowdedService_zeroReplicas :
    ∃ ctx rs d, stackContexts Runtime.reference (stackOf [crowdedService])
        ((stackOf [crowdedService]).spec.getD default) .loadBalancer = [ctx] ∧
      toStackResources ctx emptyStackState true = .ok rs ∧
      (stackToStack Runtime.reference (stackOf [crowdedService]) .loadBalancer
        emptyStackState).1 = .ok (newStackState rs) ∧
      .deployment d ∈ rs ∧ d.spec.replicas = some 0 ∧ ¬NumbersKept ctx false rs := by
  refine ⟨_, _, _, rfl, rfl, rfl, .tail _ (.tail _ (.head _)), rfl, fun h => ?_⟩
  have hkept := (h _ (.tail _ (.tail _ (.head _)))).1
  exact absurd hkept (by unfold ReplicasKept; decide)

end ComposeKube

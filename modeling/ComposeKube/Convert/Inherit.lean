import ComposeKube.Convert.Children
import ComposeKube.StackResources.Diff

/-!
# What a child inherits

Every object is built on top of an original. On an object that this code built
itself, most of the original is overwritten. What survives is what the service
does not set: the restart policy, the grace period, the update strategy, pull
secrets, and for a Kubernetes service in another role the type and the cluster
IP. Each `inherit…` function says so for the spec `y` that would have been
built from nothing and the spec `o` of the original.

* `Inheritance` — building on `o` gives `inherit o y`, for a kind of workload.
* `Inheritance.of_normalizeEqual` — a built object that is left alone differs
  from what is desired in nothing but an image digest.
* `spec_of_built` — the same for Kubernetes services.
-/

namespace ComposeKube

open Go

/-! ## Pods -/

def inheritRestartPolicy (o y : RestartPolicy) : RestartPolicy := if y = .unset then o else y

/-- The references of `y` that are not there yet are appended to those of `o`. -/
def inheritPullSecrets (o y : Slice LocalObjectReference) : Slice LocalObjectReference :=
  y.elems.foldl
    (fun refs r => if refs.elems.any fun x => x.name = r.name then refs else refs.push r) o

def inheritPod (o y : PodSpec) : PodSpec :=
  { y with
    restartPolicy := inheritRestartPolicy o.restartPolicy y.restartPolicy
    terminationGracePeriodSeconds :=
      y.terminationGracePeriodSeconds.or o.terminationGracePeriodSeconds
    imagePullSecrets := inheritPullSecrets o.imagePullSecrets y.imagePullSecrets }

def inheritTemplate (o y : PodTemplateSpec) : PodTemplateSpec :=
  { y with spec := inheritPod o.spec y.spec }

/-- Nothing was added to the pod: what the conversion does not write is still as
Go's zero value has it, and there is one container at most. -/
structure BuiltPod (p : PodSpec) : Prop where
  initContainers : p.initContainers = none
  tolerations : p.tolerations = none
  unread : p.unread = default
  containers : p.containers = none ∨ ∃ c, p.containers = some [c] ∧ c.unread = default

theorem builtPod_default : BuiltPod default := ⟨rfl, rfl, rfl, Or.inl rfl⟩

section Template

variable (rt : Runtime) (srv : Latest.ServiceConfig) (labels : MapRef String) (parts : PodParts)

theorem containerIndex_singleton (name : String) (c : Container) : containerIndex name [c] = 0 := by
  unfold containerIndex
  by_cases hname : c.name = name <;> simp [List.findIdx?_cons, hname]

/-- The container of a built pod is overwritten as a whole. -/
theorem fillContainers_of_built {p : PodSpec} (h : BuiltPod p) :
    fillContainers rt srv parts p.containers.elems = [fillContainer rt srv parts default] := by
  rcases h.containers with hnone | ⟨c, hc, hunread⟩
  · rw [hnone, Slice.elems_none, fillContainers, if_pos List.length_nil, containerIndex_singleton]
    rfl
  · rw [hc, Slice.elems_some, fillContainers, if_neg (by simp), containerIndex_singleton]
    show [fillContainer rt srv parts c] = _
    unfold fillContainer
    rw [hunread]
    rfl

theorem toTerminationGracePeriodSeconds_or (duration original : Option Int64) :
    toTerminationGracePeriodSeconds rt duration original =
      (toTerminationGracePeriodSeconds rt duration none).or original := by
  cases duration <;> rfl

theorem addPullSecret_eq_inherit (pullSecret : String) (original : Slice LocalObjectReference) :
    addPullSecret pullSecret original =
      inheritPullSecrets original (addPullSecret pullSecret none) := by
  by_cases hempty : pullSecret = ""
  · simp [addPullSecret, inheritPullSecrets, hempty]
  · have hfresh : addPullSecret pullSecret none = some [{ name := pullSecret }] := by
      simp [addPullSecret, hempty, Slice.push]
    rw [hfresh]
    show _ = if original.elems.any fun x => x.name = pullSecret then original
      else original.push { name := pullSecret }
    unfold addPullSecret
    by_cases hany : (original.elems.any fun ps => ps.name = pullSecret) = true
    · rw [if_pos hany, if_neg (by simp only [hany]; simp)]
    · rw [if_neg hany, if_pos ⟨hempty, by simp only [hany]; rfl⟩]

theorem getD_eq_inheritRestartPolicy {policy : Option RestartPolicy} (h : policy ≠ some .unset)
    (original : RestartPolicy) :
    policy.getD original = inheritRestartPolicy original (policy.getD .unset) := by
  cases policy with
  | none => rfl
  | some p =>
    have hp : p ≠ .unset := fun hp => h (by rw [hp])
    simp [inheritRestartPolicy, hp]

/-- A template on top of a built one, from the template made from nothing. -/
theorem fillPodTemplate_of_built (hpolicy : parts.restartPolicy ≠ some .unset)
    {tpl : PodTemplateSpec} (h : BuiltPod tpl.spec) :
    fillPodTemplate rt srv labels parts tpl =
      inheritTemplate tpl (fillPodTemplate rt srv labels parts default) := by
  have hcontainers := fillContainers_of_built rt srv parts h
  have hcontainers' : fillContainers rt srv parts
      (default : PodTemplateSpec).spec.containers.elems = [fillContainer rt srv parts default] :=
    fillContainers_of_built rt srv parts builtPod_default
  have hgrace := toTerminationGracePeriodSeconds_or rt srv.stopGracePeriod
    tpl.spec.terminationGracePeriodSeconds
  have hsecrets := addPullSecret_eq_inherit srv.pullSecret tpl.spec.imagePullSecrets
  have hrestart := getD_eq_inheritRestartPolicy hpolicy tpl.spec.restartPolicy
  simp only [fillPodTemplate, inheritTemplate, inheritPod, hcontainers, hcontainers', hgrace,
    hsecrets, hrestart, h.initContainers, h.tolerations, h.unread]
  rfl

theorem builtPod_fillPodTemplate :
    BuiltPod (fillPodTemplate rt srv labels parts default).spec where
  initContainers := rfl
  tolerations := rfl
  unread := rfl
  containers := Or.inr ⟨fillContainer rt srv parts default,
    congrArg some (fillContainers_of_built rt srv parts builtPod_default), rfl⟩

/-- The same for a template whose policy is forced: on top of one whose policy
was forced before. -/
theorem forceRestartPolicy_of_built (hpolicy : parts.restartPolicy ≠ some .unset)
    {tpl : PodTemplateSpec} (h : BuiltPod tpl.spec)
    (hforced : tpl.spec.restartPolicy = .unset ∨ tpl.spec.restartPolicy = .always) :
    forceRestartPolicy (fillPodTemplate rt srv labels parts tpl) .always =
      inheritTemplate tpl
        (forceRestartPolicy (fillPodTemplate rt srv labels parts default) .always) := by
  rw [fillPodTemplate_of_built rt srv labels parts hpolicy h, forceRestartPolicy_eq,
    forceRestartPolicy_eq]
  unfold inheritTemplate inheritPod
  -- the policy is forced before or after the one that is there is taken over
  have hrestart : (if inheritRestartPolicy tpl.spec.restartPolicy
        (fillPodTemplate rt srv labels parts default).spec.restartPolicy ≠ .unset
        then RestartPolicy.always else .unset) =
      inheritRestartPolicy tpl.spec.restartPolicy
        (if (fillPodTemplate rt srv labels parts default).spec.restartPolicy ≠ .unset
          then .always else .unset) := by
    by_cases hy : (fillPodTemplate rt srv labels parts default).spec.restartPolicy = .unset
    · rcases hforced with ho | ho <;> simp [inheritRestartPolicy, hy, ho]
    · simp [inheritRestartPolicy, hy]
  simp only [hrestart]

end Template

/-- A policy that the conversion returns is never the unset one. -/
theorem restartPolicy_ne_unset {ctx : ServiceContext} {parts : PodParts}
    (h : ctx.parts = .ok parts) : parts.restartPolicy ≠ some .unset := by
  unfold ServiceContext.parts toPodParts at h
  obtain ⟨_, -, h⟩ := bind_eq_ok.mp h
  obtain ⟨_, -, h⟩ := bind_eq_ok.mp h
  obtain ⟨_, -, h⟩ := bind_eq_ok.mp h
  -- the fourth part is the policy
  obtain ⟨policy, hpolicy, h⟩ := bind_eq_ok.mp h
  obtain ⟨_, -, h⟩ := bind_eq_ok.mp h
  obtain ⟨_, -, h⟩ := bind_eq_ok.mp h
  obtain ⟨_, -, h⟩ := bind_eq_ok.mp h
  obtain ⟨_, -, h⟩ := bind_eq_ok.mp h
  obtain ⟨_, -, h⟩ := bind_eq_ok.mp h
  obtain rfl := pure_eq_ok.mp h
  show policy ≠ some .unset
  rintro rfl
  unfold toRestartPolicy at hpolicy
  split at hpolicy
  · cases hpolicy
  · split_ifs at hpolicy <;> cases hpolicy

/-! ## Workloads -/

/-- The spec `x` is what `y` becomes on top of `o`. Either it was built there; or
`o` was left alone, because it is that spec with a digest after the image. -/
def Inherits {S : Type} (podSpec : S → PodSpec) (setPodSpec : S → PodSpec → S)
    (inherit : S → S → S) (o y x : S) : Prop :=
  x = inherit o y ∨
    x = o ∧ ∃ c d, (podSpec o).containers = some [c] ∧ (podSpec y).containers = some [d] ∧
      hasPrefix c.image (d.image ++ "@") = true ∧
      o = setPodSpec (inherit o y)
        { podSpec (inherit o y) with containers := some [{ d with image := c.image }] }

/-- How a kind of workload is built on top of an object that was built from nothing. -/
structure Inheritance {α S : Type} [KubeObject α] [Inhabited α] (kind : WorkloadKind α)
    (spec : α → S) (podSpec : S → PodSpec) (setPodSpec : S → PodSpec → S) (inherit : S → S → S)
    (Built : S → Prop) : Prop where
  spec_setMeta : ∀ x m, spec (setMeta x m) = spec x
  setPodSpec_podSpec : ∀ s, setPodSpec s (podSpec s) = s
  podSpec_inherit : ∀ o y, podSpec (inherit o y) = inheritPod (podSpec o) (podSpec y)
  built_default : Built (spec default)
  built_desired : ∀ (ctx : ServiceContext) parts, Built (spec (ctx.desired kind parts default))
  pod_desired : ∀ (ctx : ServiceContext) parts,
    BuiltPod (podSpec (spec (ctx.desired kind parts default))) ∧
      ∃ c, (podSpec (spec (ctx.desired kind parts default))).containers = some [c]
  desired_eq : ∀ (ctx : ServiceContext) parts (o : α), ctx.parts = .ok parts → Built (spec o) →
    spec (ctx.desired kind parts o) = inherit (spec o) (spec (ctx.desired kind parts default))

theorem normalizeTolerationsForEquality_of_none {p : PodSpec} (h : p.tolerations = none) :
    normalizeTolerationsForEquality p = p := by
  unfold normalizeTolerationsForEquality
  rw [h]
  obtain ⟨⟩ := p
  simp only at h
  subst h
  rfl

/-- The normal forms of two built pods: only the image of the second changes. -/
theorem normalizePodSpecForEquality_of_built {o d : PodSpec} (ho : BuiltPod o) (hd : BuiltPod d)
    {c c' : Container} (hc : o.containers = some [c]) (hc' : d.containers = some [c']) :
    normalizePodSpecForEquality o d =
      (o, { d with containers := some [normalizeImage c c'] }) := by
  unfold normalizePodSpecForEquality
  simp only [normalizeTolerationsForEquality_of_none ho.tolerations,
    normalizeTolerationsForEquality_of_none hd.tolerations, ho.initContainers, hd.initContainers,
    hc, hc']
  rfl

/-- **What is left alone is what is desired**, up to a digest after the image. -/
theorem Inheritance.of_normalizeEqual {α S : Type} [KubeObject α] [Inhabited α] [DecidableEq S]
    {kind : WorkloadKind α} {spec : α → S} {podSpec : S → PodSpec} {setPodSpec : S → PodSpec → S}
    {inherit : S → S → S} {Built : S → Prop}
    (hI : Inheritance kind spec podSpec setPodSpec inherit Built) {o y : S}
    (ho : BuiltPod (podSpec o) ∧ ∃ c, (podSpec o).containers = some [c])
    (hy : BuiltPod (podSpec y) ∧ ∃ c, (podSpec y).containers = some [c]) {x d : α}
    (hx : spec x = o) (hd : spec d = inherit o y)
    (h : normalizeEqual spec podSpec setPodSpec x d = true) :
    Inherits podSpec setPodSpec inherit o y o := by
  obtain ⟨hbuilt, c, hc⟩ := ho
  obtain ⟨hbuilt', c', hc'⟩ := hy
  have hinherit := hI.podSpec_inherit o y
  have hbuiltd : BuiltPod (podSpec (inherit o y)) := by
    rw [hinherit]
    exact ⟨hbuilt'.initContainers, hbuilt'.tolerations, hbuilt'.unread, hbuilt'.containers⟩
  have hcd : (podSpec (inherit o y)).containers = some [c'] := by
    rw [hinherit]
    exact hc'
  -- the two differ in the image at most, which the comparison forgives
  have hspec := of_decide_eq_true (Bool.and_eq_true_iff.mp h).1
  rw [hx, hd, normalizePodSpecForEquality_of_built hbuilt hbuiltd hc hcd] at hspec
  replace hspec : o = setPodSpec (inherit o y)
      { podSpec (inherit o y) with containers := some [normalizeImage c c'] } :=
    (hI.setPodSpec_podSpec o).symm.trans hspec
  by_cases hdigest : hasPrefix c.image (c'.image ++ "@") = true
  · have himage : normalizeImage c c' = { c' with image := c.image } := if_pos hdigest
    rw [himage] at hspec
    exact Or.inr ⟨rfl, c, c', hc, hc', hdigest, hspec⟩
  · -- the same image: the object is what would have been built
    have himage : normalizeImage c c' = c' := if_neg hdigest
    have hsame : { podSpec (inherit o y) with containers := some [c'] } =
        podSpec (inherit o y) := by
      rw [← hcd]
    rw [himage, hsame, hI.setPodSpec_podSpec] at hspec
    exact Or.inl hspec

/-! ### Deployments -/

def inheritDeployment (o y : DeploymentSpec) : DeploymentSpec :=
  { y with
    strategy := if y.strategy = default then o.strategy else y.strategy
    template := inheritTemplate o.template y.template }

/-- The policy of the template is unset, or it was forced. -/
def Forced (p : PodSpec) : Prop := p.restartPolicy = .unset ∨ p.restartPolicy = .always

theorem forced_forceRestartPolicy (tpl : PodTemplateSpec) :
    Forced (forceRestartPolicy tpl .always).spec := by
  rw [forceRestartPolicy_eq]
  by_cases h : tpl.spec.restartPolicy = .unset
  · exact Or.inl (if_neg (not_not.mpr h))
  · exact Or.inr (if_pos h)

theorem builtPod_forceRestartPolicy {tpl : PodTemplateSpec} (h : BuiltPod tpl.spec)
    (p : RestartPolicy) : BuiltPod (forceRestartPolicy tpl p).spec := by
  rw [forceRestartPolicy_eq]
  exact ⟨h.initContainers, h.tolerations, h.unread, h.containers⟩

theorem containers_fillPodTemplate (rt : Runtime) (srv : Latest.ServiceConfig)
    (labels : MapRef String) (parts : PodParts) :
    (fillPodTemplate rt srv labels parts default).spec.containers =
      some [fillContainer rt srv parts default] :=
  congrArg some (fillContainers_of_built rt srv parts builtPod_default)

theorem containers_forceRestartPolicy (tpl : PodTemplateSpec) (p : RestartPolicy) :
    (forceRestartPolicy tpl p).spec.containers = tpl.spec.containers := by
  rw [forceRestartPolicy_eq]

theorem toDeploymentStrategy_inherit (s : Latest.ServiceConfig) (o : DeploymentStrategy) :
    toDeploymentStrategy s o =
      if toDeploymentStrategy s default = default then o else toDeploymentStrategy s default := by
  unfold toDeploymentStrategy
  cases updateParallelism s with
  | none => rfl
  | some parallelism => rfl

def BuiltDeployment (s : DeploymentSpec) : Prop :=
  BuiltPod s.template.spec ∧ Forced s.template.spec ∧ s.unread = default

/-- **What a deployment takes over** from the one that is there. -/
theorem deployment_inheritance :
    Inheritance deploymentKind Deployment.spec (fun s => s.template.spec)
      (fun s p => { s with template := { s.template with spec := p } }) inheritDeployment
      BuiltDeployment where
  spec_setMeta _ _ := rfl
  setPodSpec_podSpec _ := rfl
  podSpec_inherit _ _ := rfl
  built_default := ⟨builtPod_default, Or.inl rfl, rfl⟩
  built_desired ctx parts :=
    ⟨builtPod_forceRestartPolicy (builtPod_fillPodTemplate ..) _, forced_forceRestartPolicy _, rfl⟩
  pod_desired ctx parts :=
    ⟨builtPod_forceRestartPolicy (builtPod_fillPodTemplate ..) _,
      fillContainer ctx.rt ctx.srv parts default,
      (containers_forceRestartPolicy ..).trans (containers_fillPodTemplate ..)⟩
  desired_eq ctx parts o hparts hbuilt := by
    obtain ⟨hpod, hforced, hunread⟩ := hbuilt
    -- the template, then the strategy
    have htemplate := forceRestartPolicy_of_built ctx.rt ctx.srv ctx.meta_.labels parts
      (restartPolicy_ne_unset hparts) hpod hforced
    have hstrategy := toDeploymentStrategy_inherit ctx.srv o.spec.strategy
    show (toDeployment ctx.srv ctx.meta_ (ctx.fill parts o.spec.template) ctx.labelSelector
        o).spec =
      inheritDeployment o.spec (toDeployment ctx.srv ctx.meta_
        (ctx.fill parts (default : Deployment).spec.template) ctx.labelSelector default).spec
    simp only [toDeployment, inheritDeployment, ServiceContext.fill, htemplate, hunread]
    rw [hstrategy]
    rfl

/-! ### StatefulSets -/

def inheritStatefulset (o y : StatefulSetSpec) : StatefulSetSpec :=
  { y with
    updateStrategy := if y.updateStrategy = default then o.updateStrategy else y.updateStrategy
    template := inheritTemplate o.template y.template }

theorem toStatefulSetUpdateStrategy_inherit (s : Latest.ServiceConfig)
    (o : StatefulSetUpdateStrategy) :
    toStatefulSetUpdateStrategy s o =
      if toStatefulSetUpdateStrategy s default = default then o
      else toStatefulSetUpdateStrategy s default := by
  unfold toStatefulSetUpdateStrategy
  cases updateParallelism s with
  | none => rfl
  | some parallelism => rfl

/-- Nothing was added to the claims. -/
def BuiltClaims (claims : Slice PersistentVolumeClaim) : Prop :=
  ∀ c ∈ claims.elems, c.spec.unread = default ∧ c.status = default

/-- Claims that were built are overwritten as a whole. -/
theorem toPersistentVolumeClaims_of_built (srv : Latest.ServiceConfig)
    {claims : Slice PersistentVolumeClaim} (h : BuiltClaims claims) :
    toPersistentVolumeClaims srv claims = toPersistentVolumeClaims srv none := by
  unfold toPersistentVolumeClaims
  refine congrArg Slice.ofAppends (List.map_congr_left fun name _ => ?_)
  have hclaim : (originalClaim claims name).spec.unread = default ∧
      (originalClaim claims name).status = default := by
    unfold originalClaim
    cases hfind : claims.elems.reverse.find? fun c => decide (c.objectMeta.name = name) with
    | none => exact ⟨rfl, rfl⟩
    | some c => exact h c (List.mem_reverse.mp (List.mem_of_find?_eq_some hfind))
  simp only [toPersistentVolumeClaim, hclaim.1, hclaim.2]
  rfl

theorem builtClaims_toPersistentVolumeClaims (srv : Latest.ServiceConfig) :
    BuiltClaims (toPersistentVolumeClaims srv none) := by
  intro c hc
  unfold toPersistentVolumeClaims at hc
  rw [Slice.elems_ofAppends] at hc
  obtain ⟨name, -, rfl⟩ := List.mem_map.mp hc
  exact ⟨rfl, rfl⟩

def BuiltStatefulset (s : StatefulSetSpec) : Prop :=
  BuiltPod s.template.spec ∧ Forced s.template.spec ∧ s.unread = default ∧
    BuiltClaims s.volumeClaimTemplates

/-- **What a stateful set takes over.** -/
theorem statefulset_inheritance :
    Inheritance statefulsetKind StatefulSet.spec (fun s => s.template.spec)
      (fun s p => { s with template := { s.template with spec := p } }) inheritStatefulset
      BuiltStatefulset where
  spec_setMeta _ _ := rfl
  setPodSpec_podSpec _ := rfl
  podSpec_inherit _ _ := rfl
  built_default := ⟨builtPod_default, Or.inl rfl, rfl, fun _ hc => nomatch hc⟩
  built_desired ctx parts :=
    ⟨builtPod_forceRestartPolicy (builtPod_fillPodTemplate ..) _, forced_forceRestartPolicy _, rfl,
      builtClaims_toPersistentVolumeClaims ctx.srv⟩
  pod_desired ctx parts :=
    ⟨builtPod_forceRestartPolicy (builtPod_fillPodTemplate ..) _,
      fillContainer ctx.rt ctx.srv parts default,
      (containers_forceRestartPolicy ..).trans (containers_fillPodTemplate ..)⟩
  desired_eq ctx parts o hparts hbuilt := by
    obtain ⟨hpod, hforced, hunread, hclaims⟩ := hbuilt
    -- the template, the strategy, and the claims
    have htemplate := forceRestartPolicy_of_built ctx.rt ctx.srv ctx.meta_.labels parts
      (restartPolicy_ne_unset hparts) hpod hforced
    have hstrategy := toStatefulSetUpdateStrategy_inherit ctx.srv o.spec.updateStrategy
    have hclaims' := toPersistentVolumeClaims_of_built ctx.srv hclaims
    show (toStatefulSet ctx.srv ctx.meta_ (ctx.fill parts o.spec.template) ctx.labelSelector
        o).spec =
      inheritStatefulset o.spec (toStatefulSet ctx.srv ctx.meta_
        (ctx.fill parts (default : StatefulSet).spec.template) ctx.labelSelector default).spec
    simp only [toStatefulSet, inheritStatefulset, ServiceContext.fill, htemplate, hunread, hclaims']
    rw [hstrategy]
    rfl

/-! ### DaemonSets -/

def inheritDaemonset (o y : DaemonSetSpec) : DaemonSetSpec :=
  { y with template := inheritTemplate o.template y.template }

def BuiltDaemonset (s : DaemonSetSpec) : Prop := BuiltPod s.template.spec ∧ s.unread = default

/-- **What a daemon set takes over.** -/
theorem daemonset_inheritance :
    Inheritance daemonsetKind DaemonSet.spec (fun s => s.template.spec)
      (fun s p => { s with template := { s.template with spec := p } }) inheritDaemonset
      BuiltDaemonset where
  spec_setMeta _ _ := rfl
  setPodSpec_podSpec _ := rfl
  podSpec_inherit _ _ := rfl
  built_default := ⟨builtPod_default, rfl⟩
  built_desired ctx parts := ⟨builtPod_fillPodTemplate .., rfl⟩
  pod_desired ctx parts :=
    ⟨builtPod_fillPodTemplate .., fillContainer ctx.rt ctx.srv parts default,
      containers_fillPodTemplate ..⟩
  desired_eq ctx parts o hparts hbuilt := by
    obtain ⟨hpod, hunread⟩ := hbuilt
    have htemplate := fillPodTemplate_of_built ctx.rt ctx.srv ctx.meta_.labels parts
      (restartPolicy_ne_unset hparts) hpod
    show (toDaemonSet ctx.meta_ (ctx.fill parts o.spec.template) ctx.labelSelector o).spec =
      inheritDaemonset o.spec (toDaemonSet ctx.meta_
        (ctx.fill parts (default : DaemonSet).spec.template) ctx.labelSelector default).spec
    simp only [toDaemonSet, inheritDaemonset, ServiceContext.fill, htemplate, hunread]
    rfl

/-! ## Kubernetes services -/

/-- An internal service keeps the type, an exposed one the cluster IP. -/
def inheritService (o y : ServiceSpec) : ServiceSpec :=
  { y with
    type := if y.type = .unset then o.type else y.type
    clusterIP := if y.type = .unset then y.clusterIP else o.clusterIP }

/-- The service spec was built from nothing in the given role, or is Go's zero value. -/
structure BuiltService (strategy : ServiceStrategy) (role : Option ServiceRole)
    (s : ServiceSpec) : Prop where
  unread : s.unread = default
  clusterIP : s.clusterIP = "" ∨ s.clusterIP = clusterIPNone
  nodePorts : strategy = .nodePort ∧ role = some .published ∨ ∀ p ∈ s.ports.elems, p.nodePort = 0

theorem builtService_default (strategy : ServiceStrategy) :
    BuiltService strategy none default :=
  ⟨rfl, Or.inl rfl, Or.inr fun _ hp => nomatch hp⟩

theorem findPortOrDefault_nodePort {ports : Slice ServicePort}
    (h : ∀ p ∈ ports.elems, p.nodePort = 0) (name : String) :
    (findPortOrDefault ports name).nodePort = 0 := by
  unfold findPortOrDefault
  cases hfind : ports.elems.find? fun p => decide (p.name = name) with
  | none => rfl
  | some p => exact h p (List.mem_of_find?_eq_some hfind)

/-- Ports on top of ports without node ports are exposed as from nothing. -/
theorem exposedPorts_of_nodePorts (rt : Runtime) (strategy : ServiceStrategy) (published : Bool)
    (s : Latest.ServiceConfig) {ports : Slice ServicePort}
    (h : ∀ p ∈ ports.elems, p.nodePort = 0) :
    exposedPorts rt strategy published s ports = exposedPorts rt strategy published s none := by
  refine List.map_congr_left fun p _ => ?_
  rw [findPortOrDefault_nodePort h,
    findPortOrDefault_nodePort (show ∀ q ∈ Slice.elems none, _ from fun q hq => nomatch hq)]

/-- Under the node-port strategy the published ports are always their own node ports. -/
theorem exposedPorts_published_nodePort (rt : Runtime) (s : Latest.ServiceConfig)
    (ports : Slice ServicePort) :
    exposedPorts rt .nodePort true s ports = exposedPorts rt .nodePort true s none := by
  refine List.map_congr_left fun p hp => ?_
  have hpublished : p.published ≠ 0 := by simpa using (List.mem_filter.mp hp).2
  simp [exposedPort, hpublished]

theorem nodePort_exposedPorts {rt : Runtime} {strategy : ServiceStrategy} {published : Bool}
    {s : Latest.ServiceConfig} (h : ¬(strategy = .nodePort ∧ published = true)) :
    ∀ p ∈ exposedPorts rt strategy published s none, p.nodePort = 0 := by
  intro q hq
  obtain ⟨p, hp, rfl⟩ := List.mem_map.mp hq
  have hflag : decide (p.published ≠ 0) = published := by simpa using (List.mem_filter.mp hp).2
  have hover : ¬(strategy = .nodePort ∧ p.published ≠ 0) := by
    rintro ⟨hstrategy, hp⟩
    exact h ⟨hstrategy, by rw [← hflag]; exact decide_eq_true hp⟩
  exact (if_neg hover).trans
    (findPortOrDefault_nodePort (show ∀ q ∈ Slice.elems none, _ from fun q hq => nomatch hq) _)

section Roles

variable (rt : Runtime) (strategy : ServiceStrategy) (s : Latest.ServiceConfig)
  (labelSelector : Map String)

/-- What was built from nothing is built. -/
theorem builtService_spec (role : ServiceRole) :
    BuiltService strategy (some role) (role.spec rt strategy s labelSelector default) := by
  cases role with
  | internal =>
    unfold ServiceRole.spec
    by_cases hheadless : useHeadless s.internalPorts s.internalServiceType = true
    · simp only [hheadless, if_true]
      refine ⟨rfl, Or.inr rfl, Or.inr fun p hp => ?_⟩
      rw [List.mem_singleton.mp hp]
      rfl
    · simp only [hheadless]
      refine ⟨rfl, Or.inl rfl, Or.inr fun p hp => ?_⟩
      obtain ⟨q, -, rfl⟩ := List.mem_map.mp hp
      rfl
  | published =>
    refine ⟨rfl, Or.inl rfl, ?_⟩
    -- under this strategy node ports are the published ones
    by_cases hstrategy : strategy = .nodePort
    · exact Or.inl ⟨hstrategy, rfl⟩
    · refine Or.inr ?_
      show ∀ p ∈ (Slice.ofAppends (exposedPorts rt strategy true s none)).elems, p.nodePort = 0
      rw [Slice.elems_ofAppends]
      exact nodePort_exposedPorts fun h => hstrategy h.1
  | randomPorts =>
    refine ⟨rfl, Or.inl rfl, Or.inr ?_⟩
    show ∀ p ∈ (Slice.ofAppends (exposedPorts rt strategy false s none)).elems, p.nodePort = 0
    rw [Slice.elems_ofAppends]
    exact nodePort_exposedPorts fun h => nomatch h.2

/-- **A service spec on top of a built one.** A random-ports service is never built
on a published one: their names differ. -/
theorem spec_of_built {role : ServiceRole} {role' : Option ServiceRole} {o : ServiceSpec}
    (h : BuiltService strategy role' o) (hroles : role = .randomPorts → role' ≠ some .published) :
    role.spec rt strategy s labelSelector o =
      inheritService o (role.spec rt strategy s labelSelector default) := by
  cases role with
  | internal =>
    unfold ServiceRole.spec
    -- an address that was taken over is empty or that of a headless service
    by_cases hheadless : useHeadless s.internalPorts s.internalServiceType = true
    · simp only [hheadless, if_true, inheritService, h.unread]
      rfl
    · have hip : (if o.clusterIP = clusterIPNone then "" else o.clusterIP) = "" := by
        rcases h.clusterIP with hip | hip <;> simp [hip]
      simp only [hheadless, Bool.false_eq_true, if_false, inheritService, h.unread, hip]
      rfl
  | published =>
    have hports :
        exposedPorts rt strategy true s o.ports = exposedPorts rt strategy true s none := by
      rcases h.nodePorts with ⟨rfl, -⟩ | hzero
      · exact exposedPorts_published_nodePort rt s o.ports
      · exact exposedPorts_of_nodePorts rt strategy true s hzero
    have htype : strategy.publishedServiceType ≠ .unset := by cases strategy <;> decide
    simp only [ServiceRole.spec, inheritService, hports, h.unread, htype, if_false]
    rfl
  | randomPorts =>
    -- a service for random ports never was one for published ones
    have hports : exposedPorts rt strategy false s o.ports =
        exposedPorts rt strategy false s none := by
      rcases h.nodePorts with ⟨-, hrole⟩ | hzero
      · exact absurd hrole (hroles rfl)
      · exact exposedPorts_of_nodePorts rt strategy false s hzero
    have htype : strategy.randomServiceType ≠ .unset := by cases strategy <;> decide
    simp only [ServiceRole.spec, inheritService, hports, h.unread, htype, if_false]
    rfl

end Roles

end ComposeKube

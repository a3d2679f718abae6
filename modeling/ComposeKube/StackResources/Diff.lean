import ComposeKube.Lib.Reconcile
import ComposeKube.Lib.Strings
import ComposeKube.StackResources.State

/-!
# Differences between stack states

`stackstatediff.go`: what has to change for the current children to become the
desired ones. Deployments, StatefulSets and DaemonSets are compared by one
definition; services have a comparison of their own, and a branch of their own
for changes that cannot be made in place.

`computeDiff_isDiff` states what the twelve lists hold, in every order in which
the maps are visited.
-/

namespace ComposeKube

open Go

/-- The loops of `ComputeDiff`: two for each kind. -/
inductive DiffLoop where
  | desired (kind : ChildKind)
  | current (kind : ChildKind)
  deriving DecidableEq

abbrev DiffOrder := RangeOrder DiffLoop

/-! ## Comparisons -/

def ignoredTolerationPrefix : String := "com.docker.ucp."

/-- `normalizeTolerationsForEquality`. -/
def normalizeTolerationsForEquality (spec : PodSpec) : PodSpec :=
  { spec with
    tolerations := Slice.ofAppends <|
      spec.tolerations.elems.filter fun t => !hasPrefix t.key ignoredTolerationPrefix }

/-- The image of a desired container: the current one when it is the desired
one with a digest. -/
def normalizeImage (current desired : Container) : Container :=
  if hasPrefix current.image (desired.image ++ "@") then { desired with image := current.image }
  else desired

/-- The loop over the containers, on lists of one length. -/
def normalizeImages (current desired : Slice Container) : Slice Container :=
  desired.map fun desired => List.zipWith normalizeImage current.elems desired

/-- `normalizePodSpecForEquality`. -/
def normalizePodSpecForEquality (current desired : PodSpec) : PodSpec × PodSpec :=
  let current := normalizeTolerationsForEquality current
  let desired := normalizeTolerationsForEquality desired
  if desired.initContainers.elems.length = current.initContainers.elems.length ∧
      desired.containers.elems.length = current.containers.elems.length then
    (current,
      { desired with
        initContainers := normalizeImages current.initContainers desired.initContainers
        containers := normalizeImages current.containers desired.containers })
  else (current, desired)

/-- The comparison of two workloads: their specs up to normalized pods, and
their labels. -/
def normalizeEqual {α S : Type} [KubeObject α] [DecidableEq S] (spec : α → S)
    (podSpec : S → PodSpec) (setPodSpec : S → PodSpec → S) (current desired : α) : Bool :=
  let pods := normalizePodSpecForEquality (podSpec (spec current)) (podSpec (spec desired))
  setPodSpec (spec current) pods.1 = setPodSpec (spec desired) pods.2 &&
    (getMeta current).labels = (getMeta desired).labels

/-- `normalizeEqualDeployment`. -/
def normalizeEqualDeployment : Deployment → Deployment → Bool :=
  normalizeEqual Deployment.spec (fun s => s.template.spec)
    fun s p => { s with template := { s.template with spec := p } }

/-- `normalizeEqualStatefulset`. -/
def normalizeEqualStatefulset : StatefulSet → StatefulSet → Bool :=
  normalizeEqual StatefulSet.spec (fun s => s.template.spec)
    fun s p => { s with template := { s.template with spec := p } }

/-- `normalizeEqualDaemonset`. -/
def normalizeEqualDaemonset : DaemonSet → DaemonSet → Bool :=
  normalizeEqual DaemonSet.spec (fun s => s.template.spec)
    fun s p => { s with template := { s.template with spec := p } }

/-- `normalizeEqualService`. -/
def normalizeEqualService (current desired : Service) : Bool :=
  current.spec = desired.spec && current.objectMeta.labels = desired.objectMeta.labels

/-- `serviceRequiresReCreate`. -/
def serviceRequiresReCreate (current desired : Service) : Bool :=
  if current.spec.type ≠ .externalName ∧ desired.spec.type ≠ .externalName ∧
      current.spec.clusterIP ≠ "" then
    current.spec.clusterIP ≠ desired.spec.clusterIP
  else false

/-! ## The lists of changes -/

/-- The desired object, to be sent over the current one. -/
def adoptResourceVersion {α : Type} [KubeObject α] (current desired : α) : α :=
  setMeta desired { getMeta desired with resourceVersion := (getMeta current).resourceVersion }

/-- The empty result that the loops start from. -/
def noChanges {α : Type} : Changes α := { toAdd := [], toDelete := [], toUpdate := [] }

/-- One step of the first loop for a kind of workload. -/
def workloadsDiffStep {α : Type} [KubeObject α] (same : α → α → Bool) (current : Map α)
    (result : Changes α) (e : String × α) : Changes α :=
  match current.lookup e.1 with
  | some currentVersion =>
    if !same currentVersion e.2 then
      { result with toUpdate := result.toUpdate ++ [adoptResourceVersion currentVersion e.2] }
    else result
  | none => { result with toAdd := result.toAdd ++ [e.2] }

/-- One step of the second loop. -/
def deletionsStep {α : Type} (desired : Map α) (result : Changes α) (e : String × α) : Changes α :=
  match desired.lookup e.1 with
  | some _ => result
  | none => { result with toDelete := result.toDelete ++ [e.2] }

/-- `computeDeploymentsDiff`, `computeStatefulsetsDiff`, `computeDaemonsetsDiff`. -/
def computeWorkloadsDiff {α : Type} [KubeObject α] (ord : DiffOrder) (kind : ChildKind)
    (same : α → α → Bool) (current desired : Map α) : Changes α :=
  let result := (ord.range (.desired kind) desired).foldl (workloadsDiffStep same current)
    noChanges
  (ord.range (.current kind) current).foldl (deletionsStep desired) result

/-- One step of the first loop of `computeServicesDiff`. -/
def servicesDiffStep (current : Map Service) (result : Changes Service) (e : String × Service) :
    Changes Service :=
  match current.lookup e.1 with
  | some currentVersion =>
    if !normalizeEqualService currentVersion e.2 then
      if serviceRequiresReCreate currentVersion e.2 then
        { result with
          toDelete := result.toDelete ++ [currentVersion]
          toAdd := result.toAdd ++ [e.2] }
      else
        { result with toUpdate := result.toUpdate ++ [adoptResourceVersion currentVersion e.2] }
    else result
  | none => { result with toAdd := result.toAdd ++ [e.2] }

/-- `computeServicesDiff`. -/
def computeServicesDiff (ord : DiffOrder) (current desired : Map Service) : Changes Service :=
  let result := (ord.range (.desired .service) desired).foldl (servicesDiffStep current)
    noChanges
  (ord.range (.current .service) current).foldl (deletionsStep desired) result

/-- `StackStateDiff`. -/
structure StackStateDiff where
  deployments : Changes Deployment
  statefulsets : Changes StatefulSet
  daemonsets : Changes DaemonSet
  services : Changes Service

/-- `Empty`. -/
def StackStateDiff.empty (d : StackStateDiff) : Prop :=
  d.deployments.isEmpty ∧ d.statefulsets.isEmpty ∧ d.daemonsets.isEmpty ∧ d.services.isEmpty

/-- `ComputeDiff`. -/
def computeDiff (ord : DiffOrder) (current desired : StackState) : StackStateDiff where
  deployments := computeWorkloadsDiff ord .deployment normalizeEqualDeployment
    current.deployments desired.deployments
  statefulsets := computeWorkloadsDiff ord .statefulset normalizeEqualStatefulset
    current.statefulsets desired.statefulsets
  daemonsets := computeWorkloadsDiff ord .daemonset normalizeEqualDaemonset
    current.daemonsets desired.daemonsets
  services := computeServicesDiff ord current.services desired.services

/-! ## What the lists hold -/

/-- The comparison of a kind of workload: nothing is ever re-created. -/
def workloadComparison {α : Type} [KubeObject α] (same : α → α → Bool) : Comparison α where
  same := same
  recreate _ _ := false
  adopt := adoptResourceVersion

/-- The comparison of services. -/
def serviceComparison : Comparison Service where
  same := normalizeEqualService
  recreate := serviceRequiresReCreate
  adopt := adoptResourceVersion

theorem nameKey_adoptResourceVersion {α : Type} [KubeObject α] (namespace_ : String) (c d : α) :
    nameKey namespace_ (adoptResourceVersion c d) = nameKey namespace_ d := by
  simp [nameKey, adoptResourceVersion]

theorem keyOf_adoptResourceVersion {α : Type} [KubeObject α] (c d : α) :
    keyOf (adoptResourceVersion c d) = keyOf d := by
  simp [keyOf, adoptResourceVersion]

theorem deletionsStep_eq {α : Type} (desired : Map α) :
    deletionsStep desired = deletionStep desired := by
  funext result e
  unfold deletionsStep deletionStep
  cases desired.lookup e.1 <;> rfl

/-- The loops of the source are those of the general difference. -/
theorem computeWorkloadsDiff_eq {α : Type} [KubeObject α] (ord : DiffOrder) (kind : ChildKind)
    (same : α → α → Bool) (current desired : Map α) :
    computeWorkloadsDiff ord kind same current desired =
      diffLoops (workloadComparison same) current desired (ord.range (.desired kind) desired)
        (ord.range (.current kind) current) := by
  have hstep : workloadsDiffStep same current = diffStep (workloadComparison same) current := by
    funext result e
    unfold workloadsDiffStep diffStep
    cases current.lookup e.1 with
    | none => rfl
    | some c => simp [workloadComparison]
  unfold computeWorkloadsDiff
  rw [hstep, deletionsStep_eq]
  rfl

theorem computeServicesDiff_eq (ord : DiffOrder) (current desired : Map Service) :
    computeServicesDiff ord current desired =
      diffLoops serviceComparison current desired (ord.range (.desired .service) desired)
        (ord.range (.current .service) current) := by
  have hstep : servicesDiffStep current = diffStep serviceComparison current := by
    funext result e
    unfold servicesDiffStep diffStep
    cases current.lookup e.1 <;> rfl
  unfold computeServicesDiff
  rw [hstep, deletionsStep_eq]
  rfl

section IsDiff

variable {α : Type} [KubeObject α] (ord : DiffOrder)

/-- **The loops over workloads compute a difference.** -/
theorem computeWorkloadsDiff_isDiff (kind : ChildKind) (same : α → α → Bool) (current : Map α)
    {desired : Map α} {key : α → String} (hdesired : FiledBy key desired)
    (hkey : ∀ c d, key (adoptResourceVersion c d) = key d) :
    IsDiff (workloadComparison same) key current desired
      (computeWorkloadsDiff ord kind same current desired) := by
  rw [computeWorkloadsDiff_eq]
  exact diffLoops_isDiff ord _ _ hdesired hkey

/-- **So does the loop over services**, which may ask for a new object. -/
theorem computeServicesDiff_isDiff (current : Map Service) {desired : Map Service}
    {key : Service → String} (hdesired : FiledBy key desired)
    (hkey : ∀ c d, key (adoptResourceVersion c d) = key d) :
    IsDiff serviceComparison key current desired (computeServicesDiff ord current desired) := by
  rw [computeServicesDiff_eq]
  exact diffLoops_isDiff ord _ _ hdesired hkey

end IsDiff

/-- **What `ComputeDiff` returns**: for each kind, the differences between the
current and the desired objects. -/
theorem computeDiff_isDiff (ord : DiffOrder) (C : StackState) {D : StackState} {namespace_ : String}
    (hD : D.Keyed namespace_) :
    IsDiff (workloadComparison normalizeEqualDeployment) (nameKey namespace_)
      C.deployments D.deployments (computeDiff ord C D).deployments ∧
    IsDiff (workloadComparison normalizeEqualStatefulset) (nameKey namespace_)
      C.statefulsets D.statefulsets (computeDiff ord C D).statefulsets ∧
    IsDiff (workloadComparison normalizeEqualDaemonset) (nameKey namespace_)
      C.daemonsets D.daemonsets (computeDiff ord C D).daemonsets ∧
    IsDiff serviceComparison (nameKey namespace_)
      C.services D.services (computeDiff ord C D).services := by
  have hkey {α : Type} [KubeObject α] := nameKey_adoptResourceVersion (α := α) namespace_
  exact ⟨computeWorkloadsDiff_isDiff ord _ _ _ hD.deployments.filedBy hkey,
    computeWorkloadsDiff_isDiff ord _ _ _ hD.statefulsets.filedBy hkey,
    computeWorkloadsDiff_isDiff ord _ _ _ hD.daemonsets.filedBy hkey,
    computeServicesDiff_isDiff ord _ hD.services.filedBy hkey⟩

/-! ## Equal specs need no change -/

theorem normalizeImage_self (c : Container) : normalizeImage c c = c := by
  unfold normalizeImage
  rw [hasPrefix_append_self (by decide)]
  rfl

theorem normalizeImages_self (s : Slice Container) : normalizeImages s s = s := by
  cases s with
  | none => rfl
  | some l =>
    have hzip : List.zipWith normalizeImage l l = l := by
      induction l with
      | nil => rfl
      | cons c rest ih => rw [List.zipWith_cons_cons, normalizeImage_self, ih]
    show some (List.zipWith normalizeImage l l) = some l
    rw [hzip]

theorem normalizePodSpecForEquality_self (p : PodSpec) :
    (normalizePodSpecForEquality p p).1 = (normalizePodSpecForEquality p p).2 := by
  simp [normalizePodSpecForEquality, normalizeImages_self]

/-- Two workloads with one spec and the same labels are not updated. -/
theorem normalizeEqual_of_eq {α S : Type} [KubeObject α] [DecidableEq S] {spec : α → S}
    {podSpec : S → PodSpec} {setPodSpec : S → PodSpec → S} {x y : α} (hspec : spec x = spec y)
    (hlabels : (getMeta x).labels = (getMeta y).labels) :
    normalizeEqual spec podSpec setPodSpec x y = true := by
  simp [normalizeEqual, hspec, hlabels, normalizePodSpecForEquality_self]

/-- The normalization leaves the affinity alone. -/
theorem normalizePodSpecForEquality_affinity (current desired : PodSpec) :
    (normalizePodSpecForEquality current desired).1.affinity = current.affinity ∧
      (normalizePodSpecForEquality current desired).2.affinity = desired.affinity := by
  simp only [normalizePodSpecForEquality]
  split <;> exact ⟨rfl, rfl⟩

/-- Normalization leaves node affinities alone, so they are compared. -/
theorem affinity_of_normalizeEqualDeployment {x y : Deployment}
    (h : normalizeEqualDeployment x y = true) :
    x.spec.template.spec.affinity = y.spec.template.spec.affinity := by
  have hspec := of_decide_eq_true (Bool.and_eq_true_iff.mp h).1
  have haffinity := congrArg (fun s : DeploymentSpec => s.template.spec.affinity) hspec
  obtain ⟨hx, hy⟩ := normalizePodSpecForEquality_affinity x.spec.template.spec y.spec.template.spec
  exact hx.symm.trans (haffinity.trans hy)

theorem normalizeEqualService_of_eq {x y : Service} (hspec : x.spec = y.spec)
    (hlabels : x.objectMeta.labels = y.objectMeta.labels) : normalizeEqualService x y = true := by
  simp [normalizeEqualService, hspec, hlabels]

/-- There is no difference between a state and itself. -/
theorem computeWorkloadsDiff_self {α : Type} [KubeObject α] (ord : DiffOrder) (kind : ChildKind)
    {same : α → α → Bool} (hsame : ∀ x, same x x = true) {D : Map α} (hD : FiledBy keyOf D) :
    (computeWorkloadsDiff ord kind same D D).isEmpty := by
  rw [computeWorkloadsDiff_eq]
  exact diffLoops_self ord _ _ hD keyOf_adoptResourceVersion hsame

/-- **No difference to itself**: a state whose objects are filed under their own
keys needs no change towards itself. -/
theorem computeDiff_self (ord : DiffOrder) {D : StackState}
    (hdep : FiledBy keyOf D.deployments) (hsts : FiledBy keyOf D.statefulsets)
    (hds : FiledBy keyOf D.daemonsets) (hsvc : FiledBy keyOf D.services) :
    (computeDiff ord D D).empty := by
  refine ⟨?_, ?_, ?_, ?_⟩
  · exact computeWorkloadsDiff_self ord _ (fun _ => normalizeEqual_of_eq rfl rfl) hdep
  · exact computeWorkloadsDiff_self ord _ (fun _ => normalizeEqual_of_eq rfl rfl) hsts
  · exact computeWorkloadsDiff_self ord _ (fun _ => normalizeEqual_of_eq rfl rfl) hds
  · rw [computeDiff, computeServicesDiff_eq]
    exact diffLoops_self ord _ _ hsvc keyOf_adoptResourceVersion
      fun x => normalizeEqualService_of_eq rfl rfl

end ComposeKube

import Mathlib.Data.Finset.Basic
import ComposeKube.Registry.Collisions
import ComposeKube.Controller.StatusWrite

/-!
# The status of a stack

`generateStatus`: after a reconciliation the status says whether the services of a
stack are up. The names of the services are collected in a set, every child that is
ready takes its name out of the set, and the stack is available when the set is
empty.

A workload counts for the service whose name it has, of whatever kind it is. While a
service changes its kind (it becomes global, or gets a volume) the cluster may still
hold the old workload, and that one stands in for the new one.

* `mem_foldl_seeResource` — the names that are left after all children.
* `generateStatus_eq` — the status, in any order of the children.
* `generateStatus_ownReady_iff` — when it speaks of the services' own workloads.
* `generateStatus_of_settled` — it does once the children are those of the stack.
-/

namespace ComposeKube

open Go

/-! ## The functions -/

/-- `FlattenResources`. -/
def StackState.flattenResources (ord : RangeOrder ChildKind) (s : StackState) : List Resource :=
  (ord.range .deployment s.deployments).map (fun e => .deployment e.2) ++
  (ord.range .statefulset s.statefulsets).map (fun e => .statefulset e.2) ++
  (ord.range .daemonset s.daemonsets).map (fun e => .daemonset e.2) ++
  (ord.range .service s.services).map (fun e => .service e.2)

/-- The body of the second loop of `generateStatus`. -/
def seeResource (remainingNames : Finset String) : Resource → Finset String
  | .deployment v =>
    let desired := v.spec.replicas.getD 1
    if desired = v.status.readyReplicas then remainingNames.erase v.objectMeta.name
    else remainingNames
  | .statefulset v =>
    let desired := v.spec.replicas.getD 1
    if desired = v.status.readyReplicas then remainingNames.erase v.objectMeta.name
    else remainingNames
  | .daemonset v =>
    if v.status.numberUnavailable = 0 then remainingNames.erase v.objectMeta.name
    else remainingNames
  -- "ignore"
  | .service _ => remainingNames

/-- `generateStatus`; `none` is the nil dereference for a stack without a spec. -/
def generateStatus (stack : Latest.Stack) (resources : List Resource) :
    Option Latest.StackStatus :=
  stack.spec.map fun spec =>
    let remainingNames : Finset String :=
      spec.services.elems.foldl (fun names svc => insert svc.name names) ∅
    -- nothing but the name is compared: a workload of any kind will do
    let remainingNames := resources.foldl seeResource remainingNames
    if remainingNames.card ≠ 0 then statusProgressing else statusAvailable

/-! ## Ready workloads -/

/-- The object is a workload, and all its pods are ready. -/
def Resource.Ready : Resource → Prop
  | deployment d => d.status.readyReplicas = d.spec.replicas.getD 1
  | statefulset s => s.status.readyReplicas = s.spec.replicas.getD 1
  | daemonset d => d.status.numberUnavailable = 0
  | service _ => False

/-- The state holds a ready workload of the kind and the name. -/
def StackState.HasReady (C : StackState) (kind : ChildKind) (name : String) : Prop :=
  ∃ k r, C.find kind k = some r ∧ r.objectMeta.name = name ∧ r.Ready

/-- The workload that the stack has for the service is ready. -/
def OwnReady (C : StackState) (svc : Latest.ServiceConfig) : Prop :=
  C.HasReady (workloadOf svc).childKind svc.name

/-- The service has ready workloads by name, but none of its own kind. -/
def StoodInFor (C : StackState) (svc : Latest.ServiceConfig) : Prop :=
  (∃ kind, C.HasReady kind svc.name) ∧ ¬OwnReady C svc

/-! ## The loops -/

theorem mem_flattenResources {ord : RangeOrder ChildKind} {s : StackState} {r : Resource} :
    r ∈ s.flattenResources ord ↔ ∃ kind k, s.find kind k = some r := by
  have hmap {α : Type} (loop : ChildKind) (m : Map α) (of : α → Resource) :
      r ∈ (ord.range loop m).map (fun e => of e.2) ↔ ∃ k, (m.lookup k).map of = some r := by
    simp only [List.mem_map, Option.map_eq_some_iff]
    constructor
    · rintro ⟨e, he, rfl⟩
      exact ⟨e.1, e.2, (ord.mem_range loop m e.1 e.2).mp he, rfl⟩
    · rintro ⟨k, x, hx, rfl⟩
      exact ⟨(k, x), (ord.mem_range loop m k x).mpr hx, rfl⟩
  unfold StackState.flattenResources
  rw [List.mem_append, List.mem_append, List.mem_append, hmap, hmap, hmap, hmap]
  constructor
  · rintro (((⟨k, h⟩ | ⟨k, h⟩) | ⟨k, h⟩) | ⟨k, h⟩)
    · exact ⟨.deployment, k, h⟩
    · exact ⟨.statefulset, k, h⟩
    · exact ⟨.daemonset, k, h⟩
    · exact ⟨.service, k, h⟩
  · rintro ⟨kind, k, h⟩
    cases kind with
    | deployment => exact Or.inl (Or.inl (Or.inl ⟨k, h⟩))
    | statefulset => exact Or.inl (Or.inl (Or.inr ⟨k, h⟩))
    | daemonset => exact Or.inl (Or.inr ⟨k, h⟩)
    | service => exact Or.inr ⟨k, h⟩

/-- One child takes its name out of the set when it is ready. -/
theorem mem_seeResource {names : Finset String} {r : Resource} {name : String} :
    name ∈ seeResource names r ↔ name ∈ names ∧ ¬(r.Ready ∧ r.objectMeta.name = name) := by
  have hstep (ready : Prop) [Decidable ready] (own : String) :
      name ∈ (if ready then names.erase own else names) ↔
        name ∈ names ∧ ¬(ready ∧ own = name) := by
    by_cases hready : ready
    · rw [if_pos hready, Finset.mem_erase, and_comm]
      simp [hready, eq_comm]
    · rw [if_neg hready]
      simp [hready]
  cases r with
  | deployment d =>
    rw [seeResource, hstep, eq_comm]
    rfl
  | statefulset s =>
    rw [seeResource, hstep, eq_comm]
    rfl
  | daemonset d => exact hstep _ _
  | service s => simp [seeResource, Resource.Ready]

/-- All children: a name is left when no ready workload has it. -/
theorem mem_foldl_seeResource {resources : List Resource} {names : Finset String}
    {name : String} :
    name ∈ resources.foldl seeResource names ↔
      name ∈ names ∧ ∀ r ∈ resources, ¬(r.Ready ∧ r.objectMeta.name = name) := by
  induction resources generalizing names with
  | nil => simp
  | cons r rest ih => rw [List.foldl_cons, ih, mem_seeResource, List.forall_mem_cons, and_assoc]

theorem mem_foldl_insert_name {services : List Latest.ServiceConfig} {names : Finset String}
    {name : String} :
    name ∈ services.foldl (fun names svc => insert svc.name names) names ↔
      name ∈ names ∨ ∃ svc ∈ services, svc.name = name := by
  induction services generalizing names with
  | nil => simp
  | cons svc rest ih =>
    rw [List.foldl_cons, ih, Finset.mem_insert]
    simp only [List.exists_mem_cons_iff, eq_comm, or_assoc, or_left_comm]

/-- **The status**: whether every service has a ready workload by its name. -/
theorem generateStatus_eq {stack : Latest.Stack} {spec : Latest.StackSpec}
    (hspec : stack.spec = some spec) {C : StackState} {ord : RangeOrder ChildKind}
    {resources : List Resource} (hperm : resources.Perm (C.flattenResources ord)) :
    ((∀ svc ∈ spec.services.elems, ∃ kind, C.HasReady kind svc.name) ∧
        generateStatus stack resources = some statusAvailable) ∨
      ((∃ svc ∈ spec.services.elems, ∀ kind, ¬C.HasReady kind svc.name) ∧
        generateStatus stack resources = some statusProgressing) := by
  -- a ready workload among the resources is one of the state
  have hready : ∀ name, (∃ kind, C.HasReady kind name) ↔
      ∃ r ∈ resources, r.Ready ∧ r.objectMeta.name = name := by
    intro name
    simp only [hperm.mem_iff, mem_flattenResources]
    constructor
    · rintro ⟨kind, k, r, hr, hname, hready⟩
      exact ⟨r, ⟨kind, k, hr⟩, hready, hname⟩
    · rintro ⟨r, ⟨kind, k, hr⟩, hready, hname⟩
      exact ⟨kind, k, r, hr, hname, hready⟩
  unfold generateStatus
  rw [hspec, Option.map_some]
  dsimp only
  set remaining := resources.foldl seeResource
    (spec.services.elems.foldl (fun names svc => insert svc.name names) ∅) with hremaining
  have hmem : ∀ name, name ∈ remaining ↔
      (∃ svc ∈ spec.services.elems, svc.name = name) ∧ ¬∃ kind, C.HasReady kind name := by
    intro name
    rw [hremaining, mem_foldl_seeResource, mem_foldl_insert_name, hready]
    simp
  by_cases hempty : remaining = ∅
  · refine Or.inl ⟨fun svc hsvc => ?_, by simp [hempty]⟩
    by_contra hnone
    have hleft := (hmem svc.name).mpr ⟨⟨svc, hsvc, rfl⟩, hnone⟩
    rw [hempty] at hleft
    exact Finset.notMem_empty _ hleft
  · obtain ⟨name, hname⟩ := Finset.nonempty_iff_ne_empty.mpr hempty
    obtain ⟨⟨svc, hsvc, rfl⟩, hnone⟩ := (hmem name).mp hname
    exact Or.inr ⟨⟨svc, hsvc, not_exists.mp hnone⟩, by simp [hempty]⟩

/-- A service that is not stood in for has a ready workload by its name when its own
one is ready. -/
theorem available_iff_of_not_stoodInFor {stack : Latest.Stack} {spec : Latest.StackSpec}
    (hspec : stack.spec = some spec) {C : StackState} {ord : RangeOrder ChildKind}
    {resources : List Resource} (hperm : resources.Perm (C.flattenResources ord))
    (h : ∀ svc ∈ spec.services.elems, ¬StoodInFor C svc) :
    generateStatus stack resources = some statusAvailable ↔
      ∀ svc ∈ spec.services.elems, OwnReady C svc := by
  rcases generateStatus_eq hspec hperm with ⟨hall, hstatus⟩ | ⟨⟨svc, hsvc, hnone⟩, hstatus⟩
  · refine iff_of_true hstatus fun svc hsvc => ?_
    by_contra hown
    exact h svc hsvc ⟨hall svc hsvc, hown⟩
  · rw [hstatus]
    exact iff_of_false (by decide) fun hall => hnone _ (hall svc hsvc)

/-- **When the status speaks of the services' own workloads.** For every stack with a
spec and every child state, in any order of the children: the stack is available
exactly when every service has a ready workload of its own kind, and progressing
otherwise, if and only if some service has no ready workload by its name at all or no
service is stood in for by a workload of another kind. -/
theorem generateStatus_ownReady_iff (stack : Latest.Stack) (spec : Latest.StackSpec)
    (hspec : stack.spec = some spec) (C : StackState) (ord : RangeOrder ChildKind)
    (resources : List Resource) (hperm : resources.Perm (C.flattenResources ord)) :
    ((generateStatus stack resources = some statusAvailable ↔
          ∀ svc ∈ spec.services.elems, OwnReady C svc) ∧
        (generateStatus stack resources = some statusProgressing ↔
          ¬∀ svc ∈ spec.services.elems, OwnReady C svc)) ↔
      (∃ svc ∈ spec.services.elems, ∀ kind, ¬C.HasReady kind svc.name) ∨
        ∀ svc ∈ spec.services.elems, ¬StoodInFor C svc := by
  -- one of the two statuses is returned, so the second part follows from the first
  have hother : generateStatus stack resources = some statusProgressing ↔
      generateStatus stack resources ≠ some statusAvailable := by
    rcases generateStatus_eq hspec hperm with ⟨-, hstatus⟩ | ⟨-, hstatus⟩
    all_goals
      rw [hstatus]
      decide
  rw [hother, and_iff_left_of_imp fun h => not_congr h]
  constructor
  · intro h
    rcases generateStatus_eq hspec hperm with ⟨-, hstatus⟩ | ⟨hmissing, -⟩
    · exact Or.inr fun svc hsvc hstood => hstood.2 (h.mp hstatus svc hsvc)
    · exact Or.inl hmissing
  · rintro (⟨svc, hsvc, hnone⟩ | hstood)
    · -- a service without a ready workload has none of its own
      rcases generateStatus_eq hspec hperm with ⟨hall, -⟩ | ⟨-, hstatus⟩
      · obtain ⟨kind, hkind⟩ := hall svc hsvc
        exact absurd hkind (hnone kind)
      · rw [hstatus]
        exact iff_of_false (by decide) fun hall => hnone _ (hall svc hsvc)
    · exact available_iff_of_not_stoodInFor hspec hperm hstood

/-- A deployment whose pods are all ready. -/
def readyDeployment : Deployment :=
  { (default : Deployment) with
    objectMeta := { (default : ObjectMeta) with name := "web", namespace_ := "prod" }
    status := { (default : DeploymentStatus) with readyReplicas := 1 } }

/-- With its deployment ready and nothing else there, `webStack` is available. -/
theorem generateStatus_ownReady_webStack :
    generateStatus webStack [.deployment readyDeployment] = some statusAvailable ∧
      OwnReady (newStackState [.deployment readyDeployment]) webService := by
  obtain ⟨hiff, -⟩ := (generateStatus_ownReady_iff webStack _ rfl
    (newStackState [.deployment readyDeployment]) (RangeOrder.ascending _)
    [.deployment readyDeployment] (by decide)).mpr
      (Or.inr fun svc hsvc => by
        rw [List.mem_singleton.mp hsvc]
        exact fun h => h.2 ⟨objKey "prod" "web", _, rfl, rfl, rfl⟩)
  have hstatus : generateStatus webStack [.deployment readyDeployment] = some statusAvailable := by
    rfl
  exact ⟨hstatus, hiff.mp hstatus webService List.mem_cons_self⟩

/-- `webService`, once in every node of the cluster. -/
def globalService : Latest.ServiceConfig :=
  { webService with deploy := { webService.deploy with mode := "global" } }

/-- A daemon set that has no pod yet. -/
def startingDaemonset : DaemonSet :=
  { (default : DaemonSet) with
    objectMeta := { (default : ObjectMeta) with name := "web", namespace_ := "prod" }
    status := { (default : DaemonSetStatus) with numberUnavailable := 3 } }

/-- **A leftover makes the stack available.** The service has just become global:
none of the pods of its daemon set is up, the old deployment is not gone yet, and the
status is "Available". -/
theorem generateStatus_leftover :
    let C := newStackState [.deployment readyDeployment, .daemonset startingDaemonset]
    workloadOf globalService = .daemonset ∧
      generateStatus (stackOf [globalService]) (C.flattenResources (RangeOrder.ascending _)) =
        some statusAvailable ∧
      ¬OwnReady C globalService := by
  refine ⟨by decide, by decide, ?_⟩
  rintro ⟨k, r, hr, -, hready⟩
  obtain ⟨d, hd, rfl⟩ := Option.map_eq_some_iff.mp hr
  have hmap : (newStackState [.deployment readyDeployment,
      .daemonset startingDaemonset]).daemonsets =
        (∅ : Map DaemonSet).insert (objKey "prod" "web") startingDaemonset := rfl
  rw [hmap] at hd
  by_cases hk : k = objKey "prod" "web"
  · rw [hk, Finmap.lookup_insert] at hd
    obtain rfl := Option.some.inj hd
    have hzero : (3 : Int32) = 0 := hready
    exact absurd hzero (by decide)
  · rw [Finmap.lookup_insert_of_ne _ hk, Finmap.lookup_empty] at hd
    cases hd

/-! ## Without leftovers -/

/-- The workloads of a stack are of the kinds that its services ask for. -/
theorem workloadOf_of_creates {rt : Runtime} {stack : Latest.Stack} {spec : Latest.StackSpec}
    (hspec : stack.spec = some spec) {strategy : ServiceStrategy} {C D : StackState}
    (hC : C.Keyed stack.objectMeta.namespace_) (hD : (stackToStack rt stack strategy C).1 = .ok D)
    {kind : ChildKind} (hkind : kind ≠ .service) {name : String} (h : D.Creates kind name) :
    ∃ svc ∈ spec.services.elems, svc.name = name ∧ kind = (workloadOf svc).childKind := by
  rw [creates_iff_mem_kindKeys hspec hC hD, List.mem_flatMap] at h
  obtain ⟨ctx, hctx, hmem⟩ := h
  have hsrv : ctx.srv ∈ spec.services.elems :=
    (map_srv_stackContexts rt stack spec strategy).subset (List.mem_map_of_mem hctx)
  rcases List.mem_append.mp hmem with hmem | hmem
  · obtain ⟨role, -, heq⟩ := List.mem_map.mp hmem
    exact absurd (congrArg Prod.fst heq).symm hkind
  · obtain ⟨rfl, hkey⟩ := Prod.mk.inj (List.mem_singleton.mp hmem)
    rw [ServiceContext.key, stackContexts_namespace ctx hctx, objKey_inj] at hkey
    exact ⟨ctx.srv, hsrv, hkey.symm, rfl⟩

/-- **Once the children are those of the stack the status is exact**: with distinct
names of services, no workload can stand in for another. -/
theorem generateStatus_of_settled {rt : Runtime} {stack : Latest.Stack} {spec : Latest.StackSpec}
    (hspec : stack.spec = some spec) {strategy : ServiceStrategy} {C D : StackState}
    (hC : C.Keyed stack.objectMeta.namespace_) (hD : (stackToStack rt stack strategy C).1 = .ok D)
    (hnames : (spec.services.elems.map (·.name)).Nodup)
    (hsettled : ∀ kind name, C.Creates kind name → D.Creates kind name)
    {ord : RangeOrder ChildKind} {resources : List Resource}
    (hperm : resources.Perm (C.flattenResources ord)) :
    generateStatus stack resources = some statusAvailable ↔
      ∀ svc ∈ spec.services.elems, OwnReady C svc := by
  refine available_iff_of_not_stoodInFor hspec hperm ?_
  rintro svc hsvc ⟨⟨kind, k, r, hr, hname, hready⟩, hown⟩
  have hkind : kind ≠ .service := by
    rintro rfl
    obtain ⟨s, -, rfl⟩ := Option.map_eq_some_iff.mp hr
    exact hready
  obtain ⟨svc', hsvc', hname', rfl⟩ :=
    workloadOf_of_creates hspec hC hD hkind (hsettled kind svc.name ⟨k, r, hr, hname⟩)
  obtain rfl : svc' = svc := List.inj_on_of_nodup_map hnames hsvc' hsvc hname'
  exact hown ⟨k, r, hr, hname, hready⟩

end ComposeKube

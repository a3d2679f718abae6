import ComposeKube.Convert.Stack

/-!
# The children of a stack, key by key

What `stackToStack` returns, read as a map: the object under a key is built
from the current object under the same key and from one service of the stack,
the last one that claims the key. A kind of workload looks at the services of
that kind, the Kubernetes services at every pair of a service and a role.

* `stackToStack_ok_iff` — when the conversion succeeds, and what it returns.
* `lookup_workload_iff`, `lookup_service_eq` — the object under a key.
-/

namespace ComposeKube

open Go

/-! ## Workloads -/

/-- The three kinds of workload. -/
inductive Workload where
  | deployment
  | statefulset
  | daemonset
  deriving DecidableEq

/-- The kind of workload of a service: the branch of `toStackResources`. -/
def workloadOf (srv : Latest.ServiceConfig) : Workload :=
  if isGlobal srv then .daemonset
  else if hasPersistentVolumes srv then .statefulset
  else .deployment

namespace ServiceContext

variable (ctx : ServiceContext)

/-- The parts of the pod template, or the error that stops the conversion. -/
def parts : Except String PodParts := toPodParts ctx.rt ctx.ord ctx.srv ctx.configuration

/-- The pod template of the service on top of an original. -/
def fill (parts : PodParts) (original : PodTemplateSpec) : PodTemplateSpec :=
  fillPodTemplate ctx.rt ctx.srv ctx.meta_.labels parts original

/-- The workload of the service on top of an original. -/
def desired {α : Type} (kind : WorkloadKind α) (parts : PodParts) (original : α) : α :=
  kind.stamp original (kind.build ctx.srv ctx.meta_ (ctx.fill parts (kind.template original))
    ctx.labelSelector original)

@[simp] theorem meta_name : ctx.meta_.name = ctx.srv.name := rfl

@[simp] theorem meta_namespace : ctx.meta_.namespace_ = ctx.stackNamespace := rfl

end ServiceContext

/-- The two ways in which the workload of a service comes about. -/
theorem toWorkload_eq_ok {α : Type} [KubeObject α] {kind : WorkloadKind α} {ctx : ServiceContext}
    {stackDirty : Bool} {original x : α} :
    toWorkload kind ctx stackDirty original = .ok x ↔
      (skips stackDirty original = true ∧ x = original) ∨
      (skips stackDirty original = false ∧
        ∃ parts, ctx.parts = .ok parts ∧ x = ctx.desired kind parts original) := by
  unfold toWorkload
  -- a workload that is not to be touched is returned as it is
  by_cases hskip : skips stackDirty original = true
  · rw [if_pos hskip]
    simp [hskip, eq_comm]
  · rw [if_neg hskip]
    have hfalse : skips stackDirty original = false := by simpa using hskip
    simp only [hfalse, Bool.false_eq_true, false_and, true_and, false_or]
    constructor
    · intro h
      obtain ⟨podTemplate, hpod, hres⟩ := bind_eq_ok.mp h
      obtain ⟨parts, hparts, hfill⟩ := bind_eq_ok.mp hpod
      obtain rfl := pure_eq_ok.mp hfill
      obtain rfl := pure_eq_ok.mp hres
      exact ⟨parts, hparts, rfl⟩
    · rintro ⟨parts, hparts, rfl⟩
      have hparts' : toPodParts ctx.rt ctx.ord ctx.srv ctx.configuration = .ok parts := hparts
      unfold toPodTemplate
      rw [hparts']
      rfl

/-- Metadata of the three kinds of workload: the built object has the given
metadata, and the expected generation changes nothing but annotations. -/
structure WorkloadKind.Lawful {α : Type} [KubeObject α] [Inhabited α] (kind : WorkloadKind α) :
    Prop where
  getMeta_default : getMeta (default : α) = default
  getMeta_build : ∀ s m t l (x : α), getMeta (kind.build s m t l x) = m
  stamp_eq : ∀ x y : α, ∃ annotations,
    kind.stamp x y = setMeta y { getMeta y with annotations := annotations }

theorem deploymentKind_lawful : deploymentKind.Lawful where
  getMeta_default := rfl
  getMeta_build _ _ _ _ _ := rfl
  stamp_eq _ _ := ⟨_, rfl⟩

theorem statefulsetKind_lawful : statefulsetKind.Lawful where
  getMeta_default := rfl
  getMeta_build _ _ _ _ _ := rfl
  stamp_eq _ _ := ⟨_, rfl⟩

theorem daemonsetKind_lawful : daemonsetKind.Lawful where
  getMeta_default := rfl
  getMeta_build _ _ _ _ _ := rfl
  stamp_eq _ _ := ⟨_, rfl⟩

section Workloads

variable {α : Type} [KubeObject α] [Inhabited α] {kind : WorkloadKind α} (hkind : kind.Lawful)

include hkind

/-- A built workload has the name, the namespace and the labels of its service,
and no resource version. -/
theorem getMeta_desired (ctx : ServiceContext) (parts : PodParts) (original : α) :
    ∃ annotations, getMeta (ctx.desired kind parts original) =
      { ctx.meta_ with annotations := annotations } := by
  obtain ⟨annotations, h⟩ := hkind.stamp_eq original
    (kind.build ctx.srv ctx.meta_ (ctx.fill parts (kind.template original)) ctx.labelSelector
      original)
  refine ⟨annotations, ?_⟩
  rw [ServiceContext.desired, h, KubeObject.getMeta_setMeta, hkind.getMeta_build]

theorem labels_desired (ctx : ServiceContext) (parts : PodParts) (original : α) :
    (getMeta (ctx.desired kind parts original)).labels = ctx.meta_.labels := by
  obtain ⟨annotations, h⟩ := getMeta_desired hkind ctx parts original
  rw [h]

theorem keyOf_desired (ctx : ServiceContext) (parts : PodParts) (original : α) :
    keyOf (ctx.desired kind parts original) = ctx.key := by
  obtain ⟨annotations, h⟩ := getMeta_desired hkind ctx parts original
  rw [keyOf, h]
  rfl

end Workloads

/-! ## Kubernetes services -/

namespace ServiceContext

/-- The roles in which the service has a Kubernetes service. -/
def roles (ctx : ServiceContext) : List ServiceRole :=
  ServiceRole.all.filter fun role => role.emitted ctx.srv

end ServiceContext

/-- A Kubernetes service to be built: of which service, in which role. -/
abbrev ServiceSlot := ServiceContext × ServiceRole

namespace ServiceSlot

/-- The key a slot claims. -/
def key (slot : ServiceSlot) : String :=
  objKey slot.1.stackNamespace (slot.2.nameFor slot.1.srv.name)

/-- The Kubernetes service of a slot on top of an original. -/
def desired (slot : ServiceSlot) (original : Service) : Service :=
  slot.2.build slot.1.rt slot.1.strategy slot.1.srv slot.1.meta_ slot.1.labelSelector original

theorem keyOf_desired (slot : ServiceSlot) (original : Service) :
    keyOf (slot.desired original) = slot.key := rfl

end ServiceSlot

/-- The slots of a list of services. -/
def serviceSlots (ctxs : List ServiceContext) : List ServiceSlot :=
  ctxs.flatMap fun ctx => ctx.roles.map fun role => (ctx, role)

theorem serviceResources_eq (ctx : ServiceContext) (original : StackState) :
    serviceResources ctx original =
      ctx.roles.map fun role =>
        ServiceSlot.desired (ctx, role)
          (getOriginal original.services (ServiceSlot.key (ctx, role))) := by
  have hinternal : ServiceRole.internal.emitted ctx.srv = true := rfl
  unfold serviceResources
  rw [toServices_eq]
  unfold ServiceContext.roles ServiceRole.all
  by_cases hp : ServiceRole.published.emitted ctx.srv = true <;>
    by_cases hr : ServiceRole.randomPorts.emitted ctx.srv = true <;>
      simp [hinternal, hp, hr, ServiceSlot.desired, ServiceSlot.key]

/-! ## One service -/

/-- A successful conversion of a service: its Kubernetes services and one
workload, of the kind the service asks for. -/
theorem toStackResources_eq_ok {ctx : ServiceContext} {original : StackState} {stackDirty : Bool}
    {rs : List Resource} (h : toStackResources ctx original stackDirty = .ok rs) :
    let services := (serviceResources ctx original).map Resource.service
    (workloadOf ctx.srv = .daemonset ∧ hasPersistentVolumes ctx.srv = false ∧
      ∃ res, toWorkload daemonsetKind ctx stackDirty (getOriginal original.daemonsets ctx.key) =
        .ok res ∧ rs = services ++ [.daemonset res]) ∨
    (workloadOf ctx.srv = .statefulset ∧ isGlobal ctx.srv = false ∧
      ∃ res, toWorkload statefulsetKind ctx stackDirty
        (getOriginal original.statefulsets ctx.key) = .ok res ∧
        rs = services ++ [.statefulset res]) ∨
    (workloadOf ctx.srv = .deployment ∧ isGlobal ctx.srv = false ∧
      ∃ res, toWorkload deploymentKind ctx stackDirty
        (getOriginal original.deployments ctx.key) = .ok res ∧
        rs = services ++ [.deployment res]) := by
  intro services
  unfold toStackResources at h
  unfold workloadOf
  -- the two tests of the source, of which the first also rejects claims
  by_cases hglobal : isGlobal ctx.srv = true
  · rw [if_pos hglobal] at h
    by_cases hpersistent : hasPersistentVolumes ctx.srv = true
    · rw [if_pos hpersistent] at h
      cases h
    · rw [if_neg hpersistent] at h
      obtain ⟨res, hres, hret⟩ := bind_eq_ok.mp h
      exact Or.inl ⟨if_pos hglobal, by simpa using hpersistent, res, hres,
        (pure_eq_ok.mp hret).symm⟩
  · rw [if_neg hglobal] at h
    have hglobal' : isGlobal ctx.srv = false := by simpa using hglobal
    by_cases hpersistent : hasPersistentVolumes ctx.srv = true
    · rw [if_pos hpersistent] at h
      obtain ⟨res, hres, hret⟩ := bind_eq_ok.mp h
      exact Or.inr (Or.inl ⟨by rw [if_neg hglobal, if_pos hpersistent], hglobal', res, hres,
        (pure_eq_ok.mp hret).symm⟩)
    · rw [if_neg hpersistent] at h
      obtain ⟨res, hres, hret⟩ := bind_eq_ok.mp h
      exact Or.inr (Or.inr ⟨by rw [if_neg hglobal, if_neg hpersistent], hglobal', res, hres,
        (pure_eq_ok.mp hret).symm⟩)

/-- Whether the workload of a service takes the skip branch. -/
def ServiceContext.skipsWorkload (ctx : ServiceContext) (original : StackState)
    (stackDirty : Bool) : Bool :=
  match workloadOf ctx.srv with
  | .deployment => skips stackDirty (getOriginal original.deployments ctx.key)
  | .statefulset => skips stackDirty (getOriginal original.statefulsets ctx.key)
  | .daemonset => skips stackDirty (getOriginal original.daemonsets ctx.key)

/-- A dirty stack skips nothing. -/
theorem skipsWorkload_dirty (ctx : ServiceContext) (original : StackState) :
    ctx.skipsWorkload original true = false := by
  unfold ServiceContext.skipsWorkload
  cases workloadOf ctx.srv <;> rfl

/-- A workload is converted when it is skipped or its pod can be built. -/
theorem exists_toWorkload_iff {α : Type} [KubeObject α] {kind : WorkloadKind α}
    {ctx : ServiceContext} {stackDirty : Bool} {original : α} :
    (∃ x, toWorkload kind ctx stackDirty original = .ok x) ↔
      skips stackDirty original = true ∨ ∃ parts, ctx.parts = .ok parts := by
  simp only [toWorkload_eq_ok]
  constructor
  · rintro ⟨x, ⟨hskip, -⟩ | ⟨-, parts, hparts, -⟩⟩
    · exact Or.inl hskip
    · exact Or.inr ⟨parts, hparts⟩
  · intro h
    by_cases hskip : skips stackDirty original = true
    · exact ⟨original, Or.inl ⟨hskip, rfl⟩⟩
    · rcases h with h | ⟨parts, hparts⟩
      · exact absurd h hskip
      · exact ⟨_, Or.inr ⟨by simpa using hskip, parts, hparts, rfl⟩⟩

/-- **When a service converts**: it does not ask for persistent volumes in a
global service, and its workload is skipped or its pod template can be built. -/
theorem exists_toStackResources_iff {ctx : ServiceContext} {original : StackState}
    {stackDirty : Bool} :
    (∃ rs, toStackResources ctx original stackDirty = .ok rs) ↔
      ¬(isGlobal ctx.srv = true ∧ hasPersistentVolumes ctx.srv = true) ∧
      (ctx.skipsWorkload original stackDirty = true ∨ ∃ parts, ctx.parts = .ok parts) := by
  unfold toStackResources ServiceContext.skipsWorkload workloadOf
  -- one case for each workload, and one for a global service with claims
  by_cases hglobal : isGlobal ctx.srv = true <;>
    by_cases hpersistent : hasPersistentVolumes ctx.srv = true
  · simp [hglobal, hpersistent]
  · simp only [hglobal, hpersistent, if_true, Bool.false_eq_true, if_false, and_false,
      not_false_eq_true, true_and]
    rw [exists_bind_pure_eq_ok, exists_toWorkload_iff]
  · simp only [hglobal, hpersistent, if_true, Bool.false_eq_true, if_false, false_and,
      not_false_eq_true, true_and]
    rw [exists_bind_pure_eq_ok, exists_toWorkload_iff]
  · simp only [hglobal, hpersistent, Bool.false_eq_true, if_false, and_false,
      not_false_eq_true, true_and]
    rw [exists_bind_pure_eq_ok, exists_toWorkload_iff]

/-- The workload of a service on top of the current objects. -/
def ServiceContext.desiredWorkload (ctx : ServiceContext) (original : StackState)
    (parts : PodParts) : Resource :=
  match workloadOf ctx.srv with
  | .deployment =>
    .deployment (ctx.desired deploymentKind parts (getOriginal original.deployments ctx.key))
  | .statefulset =>
    .statefulset (ctx.desired statefulsetKind parts (getOriginal original.statefulsets ctx.key))
  | .daemonset =>
    .daemonset (ctx.desired daemonsetKind parts (getOriginal original.daemonsets ctx.key))

/-- The objects of a service that a conversion has built. A workload that is
skipped is the current object. -/
def builtResources (skipped : Bool) (rs : List Resource) : List Resource :=
  rs.filter fun r => !skipped || r.asService.isSome

theorem builtResources_append (skipped : Bool) (services : List Service) {r : Resource}
    (hr : r.asService = none) :
    builtResources skipped (services.map Resource.service ++ [r]) =
      services.map Resource.service ++ if skipped then [] else [r] := by
  have hservices : (services.map Resource.service).filter
      (fun r => !skipped || r.asService.isSome) = services.map Resource.service := by
    rw [List.filter_eq_self, List.forall_mem_map]
    exact fun _ _ => Bool.or_true _
  rw [builtResources, List.filter_append, hservices]
  cases skipped <;> simp [hr]

/-- **What is built for a service**: its Kubernetes services, and its workload
unless that is skipped. -/
theorem builtResources_eq {ctx : ServiceContext} {original : StackState} {stackDirty : Bool}
    {rs : List Resource} (h : toStackResources ctx original stackDirty = .ok rs) :
    (ctx.skipsWorkload original stackDirty = true ∧
      builtResources true rs = (serviceResources ctx original).map Resource.service) ∨
    (ctx.skipsWorkload original stackDirty = false ∧ ∃ parts, ctx.parts = .ok parts ∧
      builtResources false rs = (serviceResources ctx original).map Resource.service ++
        [ctx.desiredWorkload original parts]) := by
  unfold ServiceContext.skipsWorkload ServiceContext.desiredWorkload
  obtain ⟨hw, -, res, hres, rfl⟩ | ⟨hw, -, res, hres, rfl⟩ | ⟨hw, -, res, hres, rfl⟩ :=
    toStackResources_eq_ok h
  all_goals
    simp only [hw]
    obtain ⟨hskip, -⟩ | ⟨hskip, parts, hparts, rfl⟩ := toWorkload_eq_ok.mp hres
    · exact Or.inl ⟨hskip, (builtResources_append true _ rfl).trans (List.append_nil _)⟩
    · exact Or.inr ⟨hskip, parts, hparts, builtResources_append false _ rfl⟩

/-- To show what holds of everything built for a service: what it takes for the
Kubernetes services, and what it takes for a workload of any kind. -/
theorem forall_builtResources_iff {ctx : ServiceContext} {original : StackState}
    {stackDirty : Bool} {rs : List Resource}
    (h : toStackResources ctx original stackDirty = .ok rs) {P : Resource → Prop} {Q R : Prop}
    (hservices : (∀ svc ∈ serviceResources ctx original, P (.service svc)) ↔ Q)
    (hworkload : ∀ parts, ctx.parts = .ok parts →
      (P (ctx.desiredWorkload original parts) ↔ R)) :
    (∀ r ∈ builtResources (ctx.skipsWorkload original stackDirty) rs, P r) ↔
      Q ∧ (ctx.skipsWorkload original stackDirty = false → R) := by
  obtain ⟨hskip, hbuilt⟩ | ⟨hskip, parts, hparts, hbuilt⟩ := builtResources_eq h
  · rw [hskip, hbuilt, List.forall_mem_map, hservices]
    simp
  · rw [hskip, hbuilt, List.forall_mem_append, List.forall_mem_map, hservices,
      List.forall_mem_singleton, hworkload parts hparts]
    simp

/-! ## All services -/

/-- The services whose workload is of a kind. -/
def contextsOf (workload : Workload) (ctxs : List ServiceContext) : List ServiceContext :=
  ctxs.filter fun ctx => workloadOf ctx.srv = workload

/-- The workloads of one kind, for services of that kind, on top of the current
objects of that kind. -/
def toWorkloads {α : Type} [KubeObject α] [Inhabited α] (kind : WorkloadKind α)
    (stackDirty : Bool) (original : Map α) (ctxs : List ServiceContext) :
    Except String (List α) :=
  ctxs.mapM fun ctx => toWorkload kind ctx stackDirty (getOriginal original ctx.key)

/-- The Kubernetes services, on top of the current ones. -/
def desiredServices (original : Map Service) (slots : List ServiceSlot) : List Service :=
  slots.map fun slot => slot.desired (getOriginal original slot.key)

/-- The state `D` holds the children of the services `ctxs` on top of `C`. -/
structure Children (ctxs : List ServiceContext) (C : StackState) (stackDirty : Bool)
    (D : StackState) : Prop where
  deployments : ∃ l, toWorkloads deploymentKind stackDirty C.deployments
    (contextsOf .deployment ctxs) = .ok l ∧ D.deployments = byKey l
  statefulsets : ∃ l, toWorkloads statefulsetKind stackDirty C.statefulsets
    (contextsOf .statefulset ctxs) = .ok l ∧ D.statefulsets = byKey l
  daemonsets : ∃ l, toWorkloads daemonsetKind stackDirty C.daemonsets
    (contextsOf .daemonset ctxs) = .ok l ∧ D.daemonsets = byKey l
  services : D.services = byKey (desiredServices C.services (serviceSlots ctxs))

theorem filterMap_asService_append (services : List Service) (r : Resource)
    (hr : r.asService = none) :
    (services.map Resource.service ++ [r]).filterMap Resource.asService = services := by
  have hservices : (services.map Resource.service).filterMap Resource.asService = services := by
    rw [List.filterMap_map]
    exact List.filterMap_some
  rw [List.filterMap_append, hservices]
  simp [hr]

/-- Reading a service's resources for workloads drops its Kubernetes services. -/
theorem filterMap_services_append {α : Type} {as : Resource → Option α}
    (has : ∀ s, as (.service s) = none) (services : List Service) (r : Resource) :
    (services.map Resource.service ++ [r]).filterMap as = (as r).toList := by
  have hnil : (services.map Resource.service).filterMap as = [] := by
    rw [List.filterMap_map, List.filterMap_eq_nil_iff]
    exact fun s _ => has s
  rw [List.filterMap_append, hnil, List.nil_append]
  cases h : as r <;> simp [h]

/-- The services of all resources, in their order. -/
theorem asService_flatten {ctxs : List ServiceContext} {C : StackState} {stackDirty : Bool}
    {rss : List (List Resource)}
    (h : (ctxs.mapM fun ctx => toStackResources ctx C stackDirty) = .ok rss) :
    rss.flatten.filterMap Resource.asService = desiredServices C.services (serviceSlots ctxs) := by
  induction mapM_eq_ok_iff.mp h with
  | nil => rfl
  | @cons ctx rs ctxs rss hctx hctxs ih =>
    have hrs : rs.filterMap Resource.asService = serviceResources ctx C := by
      obtain ⟨-, -, res, -, rfl⟩ | ⟨-, -, res, -, rfl⟩ | ⟨-, -, res, -, rfl⟩ :=
        toStackResources_eq_ok hctx <;> exact filterMap_asService_append _ _ rfl
    rw [List.flatten_cons, List.filterMap_append, hrs, ih (mapM_eq_ok_iff.mpr hctxs),
      serviceResources_eq]
    simp [desiredServices, serviceSlots]

/-- **The children of a stack**: what the loop of `StackToStack` files. -/
theorem children_of_resources {ctxs : List ServiceContext} {C : StackState} {stackDirty : Bool}
    {rss : List (List Resource)}
    (h : (ctxs.mapM fun ctx => toStackResources ctx C stackDirty) = .ok rss) :
    Children ctxs C stackDirty (newStackState rss.flatten) := by
  rw [newStackState_eq]
  refine ⟨⟨_, ?_, rfl⟩, ⟨_, ?_, rfl⟩, ⟨_, ?_, rfl⟩, ?_⟩
  · -- deployments: other services contribute none
    refine mapM_filter_of_filterMap_flatten ?_ ?_ h
    · intro ctx rs hctx hkind
      obtain ⟨hw, -⟩ | ⟨hw, -⟩ | ⟨-, -, res, hres, rfl⟩ := toStackResources_eq_ok hctx
      · simp [hw] at hkind
      · simp [hw] at hkind
      · exact ⟨res, hres, filterMap_services_append (fun _ => rfl) _ _⟩
    · intro ctx rs hctx hkind
      obtain ⟨-, -, res, -, rfl⟩ | ⟨-, -, res, -, rfl⟩ | ⟨hw, -⟩ := toStackResources_eq_ok hctx
      · exact filterMap_services_append (fun _ => rfl) _ _
      · exact filterMap_services_append (fun _ => rfl) _ _
      · simp [hw] at hkind
  · refine mapM_filter_of_filterMap_flatten ?_ ?_ h
    · intro ctx rs hctx hkind
      obtain ⟨hw, -⟩ | ⟨-, -, res, hres, rfl⟩ | ⟨hw, -⟩ := toStackResources_eq_ok hctx
      · simp [hw] at hkind
      · exact ⟨res, hres, filterMap_services_append (fun _ => rfl) _ _⟩
      · simp [hw] at hkind
    · intro ctx rs hctx hkind
      obtain ⟨-, -, res, -, rfl⟩ | ⟨hw, -⟩ | ⟨-, -, res, -, rfl⟩ := toStackResources_eq_ok hctx
      · exact filterMap_services_append (fun _ => rfl) _ _
      · simp [hw] at hkind
      · exact filterMap_services_append (fun _ => rfl) _ _
  · -- stateful sets
    refine mapM_filter_of_filterMap_flatten ?_ ?_ h
    · intro ctx rs hctx hkind
      obtain ⟨-, -, res, hres, rfl⟩ | ⟨hw, -⟩ | ⟨hw, -⟩ := toStackResources_eq_ok hctx
      · exact ⟨res, hres, filterMap_services_append (fun _ => rfl) _ _⟩
      · simp [hw] at hkind
      · simp [hw] at hkind
    · intro ctx rs hctx hkind
      obtain ⟨hw, -⟩ | ⟨-, -, res, -, rfl⟩ | ⟨-, -, res, -, rfl⟩ := toStackResources_eq_ok hctx
      · simp [hw] at hkind
      · exact filterMap_services_append (fun _ => rfl) _ _
      · exact filterMap_services_append (fun _ => rfl) _ _
  · -- services, of which each service may have several
    exact congrArg byKey (asService_flatten h)

/-- The services of a stack under conversion, sorted. -/
def stackContexts (rt : Runtime) (stack : Latest.Stack) (spec : Latest.StackSpec)
    (strategy : ServiceStrategy) : List ServiceContext :=
  serviceContexts rt stack.objectMeta.name stack.objectMeta.namespace_ (sortSpec rt spec) strategy

/-- The contexts are those of the stack's services. -/
theorem map_srv_stackContexts (rt : Runtime) (stack : Latest.Stack) (spec : Latest.StackSpec)
    (strategy : ServiceStrategy) :
    ((stackContexts rt stack spec strategy).map (·.srv)).Perm spec.services.elems := by
  have hsorted : (stackContexts rt stack spec strategy).map (·.srv) =
      (sortSpec rt spec).services.elems := by
    unfold stackContexts serviceContexts
    rw [List.map_map]
    exact List.zipIdx_map_fst 0 _
  rw [hsorted]
  exact sortSpec_services_perm rt spec

/-- A stack with one service has one context. -/
theorem stackContexts_singleton (rt : Runtime) (stack : Latest.Stack) (strategy : ServiceStrategy)
    {spec : Latest.StackSpec} {srv : Latest.ServiceConfig} (h : spec.services.elems = [srv]) :
    ∃ ctx, stackContexts rt stack spec strategy = [ctx] ∧ ctx.srv = srv := by
  have hperm := map_srv_stackContexts rt stack spec strategy
  rw [h, List.perm_singleton, List.map_eq_singleton_iff] at hperm
  exact hperm

/-- **When a stack converts, and to what.** -/
theorem stackToStack_ok_iff {rt : Runtime} {stack : Latest.Stack} {strategy : ServiceStrategy}
    {C D : StackState} :
    (stackToStack rt stack strategy C).1 = .ok D ↔
      ∃ spec, stack.spec = some spec ∧ spec.services.elems ≠ [] ∧
        ∃ rss, ((stackContexts rt stack spec strategy).mapM fun ctx =>
          toStackResources ctx C (isStackDirty stack.status)) = .ok rss ∧
          D = newStackState rss.flatten := by
  unfold stackToStack
  cases hspec : stack.spec with
  | none => simp
  | some spec =>
    simp only [Option.some.injEq, exists_eq_left', List.length_eq_zero_iff]
    -- a stack without services is refused
    by_cases hnil : spec.services.elems = []
    · simp [hnil]
    · rw [if_neg hnil]
      simp only [ne_eq, hnil, not_false_eq_true, true_and]
      constructor
      · intro h
        cases hrss : (stackContexts rt stack spec strategy).mapM fun ctx =>
            toStackResources ctx C (isStackDirty stack.status) with
        | error e =>
          have hrss' := hrss
          unfold stackContexts at hrss'
          rw [hrss'] at h
          cases h
        | ok rss =>
          have hrss' := hrss
          unfold stackContexts at hrss'
          rw [hrss'] at h
          cases h
          exact ⟨rss, rfl, rfl⟩
      · rintro ⟨rss, hrss, rfl⟩
        unfold stackContexts at hrss
        rw [hrss]
        rfl

/-- The conversion succeeds when every service converts. -/
theorem exists_stackToStack_iff {rt : Runtime} {stack : Latest.Stack} {strategy : ServiceStrategy}
    {C : StackState} {spec : Latest.StackSpec} (hspec : stack.spec = some spec) :
    (∃ D, (stackToStack rt stack strategy C).1 = .ok D) ↔
      spec.services.elems ≠ [] ∧ ∀ ctx ∈ stackContexts rt stack spec strategy,
        ∃ rs, toStackResources ctx C (isStackDirty stack.status) = .ok rs := by
  rw [← exists_mapM_eq_ok_iff]
  constructor
  · rintro ⟨D, h⟩
    obtain ⟨spec', hspec', hne, rss, hrss, -⟩ := stackToStack_ok_iff.mp h
    obtain rfl : spec' = spec := Option.some.inj (hspec'.symm.trans hspec)
    exact ⟨hne, rss, hrss⟩
  · rintro ⟨hne, rss, hrss⟩
    exact ⟨_, stackToStack_ok_iff.mpr ⟨spec, hspec, hne, rss, hrss, rfl⟩⟩

/-! ## The object under a key -/

theorem getOriginal_of_lookup {α : Type} [Inhabited α] {m : Map α} {k : String} {x : α}
    (h : m.lookup k = some x) : getOriginal m k = x := by
  simp [getOriginal, h]

theorem getOriginal_of_none {α : Type} [Inhabited α] {m : Map α} {k : String}
    (h : m.lookup k = none) : getOriginal m k = default := by
  simp [getOriginal, h]

section Lookup

variable {α : Type} [KubeObject α] [Inhabited α] {kind : WorkloadKind α} (hkind : kind.Lawful)

include hkind

/-- Only an object that is there can be skipped. -/
theorem exists_lookup_of_skips {stackDirty : Bool} {m : Map α} {k : String}
    (h : skips stackDirty (getOriginal m k) = true) : m.lookup k = some (getOriginal m k) := by
  cases hm : m.lookup k with
  | some x => rw [getOriginal_of_lookup hm]
  | none =>
    rw [getOriginal_of_none hm, skips, hkind.getMeta_default, generationMatchesExpected_default,
      Bool.and_false] at h
    cases h

/-- Where nothing is, nothing is skipped. -/
theorem skips_empty (dirty : Bool) (k : String) :
    skips dirty (getOriginal (∅ : Map α) k) = false := by
  rw [← Bool.not_eq_true]
  intro hskip
  have hsome := exists_lookup_of_skips hkind hskip
  rw [Finmap.lookup_empty] at hsome
  cases hsome

/-- A workload is filed under the key of its service, built or skipped. -/
theorem keyOf_toWorkload {m : Map α} (hm : FiledBy keyOf m) {ctx : ServiceContext}
    {stackDirty : Bool} {x : α}
    (h : toWorkload kind ctx stackDirty (getOriginal m ctx.key) = .ok x) : keyOf x = ctx.key := by
  rcases toWorkload_eq_ok.mp h with ⟨hskip, rfl⟩ | ⟨-, parts, -, rfl⟩
  · exact hm _ _ (exists_lookup_of_skips hkind hskip)
  · exact keyOf_desired hkind ctx parts _

/-- **The workload under a key** is the one of the last service that claims the
key, built on top of the current object there. -/
theorem lookup_workload_iff {m : Map α} (hm : FiledBy keyOf m) {ctxs : List ServiceContext}
    {stackDirty : Bool} {l : List α}
    (h : toWorkloads kind stackDirty m ctxs = .ok l) (k : String) (x : α) :
    (byKey l).lookup k = some x ↔
      ∃ ctx, lastWith ServiceContext.key ctxs k = some ctx ∧
        toWorkload kind ctx stackDirty (getOriginal m k) = .ok x := by
  rw [byKey, lookup_fileBy_mapM h fun ctx _ x hx => keyOf_toWorkload hkind hm hx]
  constructor
  · rintro ⟨ctx, hlast, hx⟩
    obtain ⟨-, rfl⟩ := lastWith_eq_some hlast
    exact ⟨ctx, hlast, hx⟩
  · rintro ⟨ctx, hlast, hx⟩
    obtain ⟨-, rfl⟩ := lastWith_eq_some hlast
    exact ⟨ctx, hlast, hx⟩

/-- Nothing is desired under a key that no service claims. -/
theorem lookup_workload_eq_none {m : Map α} (hm : FiledBy keyOf m) {ctxs : List ServiceContext}
    {stackDirty : Bool} {l : List α} (h : toWorkloads kind stackDirty m ctxs = .ok l)
    {k : String} (hlast : lastWith ServiceContext.key ctxs k = none) :
    (byKey l).lookup k = none := by
  rw [Option.eq_none_iff_forall_ne_some]
  intro x hx
  obtain ⟨ctx, hctx, -⟩ := (lookup_workload_iff hkind hm h k x).mp hx
  rw [hlast] at hctx
  cases hctx

/-- The workloads of a stack are kept well when the current ones are. -/
theorem toWorkloads_keyed {namespace_ : String} {m : Map α} (hm : Keyed namespace_ m)
    {ctxs : List ServiceContext} (hns : ∀ ctx ∈ ctxs, ctx.stackNamespace = namespace_)
    {stackDirty : Bool} {l : List α} (h : toWorkloads kind stackDirty m ctxs = .ok l) :
    Keyed namespace_ (byKey l) := by
  intro k x hx
  obtain ⟨ctx, hlast, hx⟩ := (lookup_workload_iff hkind hm.filedByKey h k x).mp hx
  obtain ⟨hctx, rfl⟩ := lastWith_eq_some hlast
  rcases toWorkload_eq_ok.mp hx with ⟨hskip, rfl⟩ | ⟨-, parts, -, rfl⟩
  · exact hm _ _ (exists_lookup_of_skips hkind hskip)
  · obtain ⟨annotations, hmeta⟩ := getMeta_desired hkind ctx parts (getOriginal m ctx.key)
    refine ⟨?_, keyOf_desired hkind ctx parts _⟩
    rw [hmeta]
    exact hns ctx hctx

/-- Built from nothing, a workload does not depend on whether the stack is dirty. -/
theorem toWorkload_empty (ctx : ServiceContext) (dirty dirty' : Bool) :
    toWorkload kind ctx dirty (getOriginal (∅ : Map α) ctx.key) =
      toWorkload kind ctx dirty' (getOriginal (∅ : Map α) ctx.key) := by
  unfold toWorkload
  rw [skips_empty hkind, skips_empty hkind]

end Lookup

/-- Converted from nothing, a stack does not depend on its status. -/
theorem stackToStack_empty (rt : Runtime) (stack : Latest.Stack) (strategy : ServiceStrategy)
    (status : Option Latest.StackStatus) :
    (stackToStack rt stack strategy emptyStackState).1 =
      (stackToStack rt { stack with status := status } strategy emptyStackState).1 := by
  -- with nothing to skip, it does not matter whether the stack is dirty
  have hctx : ∀ (ctx : ServiceContext) (dirty dirty' : Bool),
      toStackResources ctx emptyStackState dirty = toStackResources ctx emptyStackState dirty' := by
    intro ctx dirty dirty'
    unfold toStackResources emptyStackState
    dsimp only
    rw [toWorkload_empty daemonsetKind_lawful ctx dirty dirty',
      toWorkload_empty statefulsetKind_lawful ctx dirty dirty',
      toWorkload_empty deploymentKind_lawful ctx dirty dirty']
  have hall : ∀ dirty dirty' : Bool, (fun ctx => toStackResources ctx emptyStackState dirty) =
      fun ctx => toStackResources ctx emptyStackState dirty' :=
    fun dirty dirty' => funext fun ctx => hctx ctx dirty dirty'
  unfold stackToStack
  cases stack.spec with
  | none => rfl
  | some spec =>
    dsimp only
    rw [hall (isStackDirty stack.status) (isStackDirty status)]
    split <;> rfl

/-- **The service under a key** is the one of the last slot that claims the key,
built on top of the current service there. -/
theorem lookup_service_eq (m : Map Service) (slots : List ServiceSlot) (k : String) :
    (byKey (desiredServices m slots)).lookup k =
      (lastWith ServiceSlot.key slots k).map fun slot => slot.desired (getOriginal m k) := by
  have hlast : lastWith keyOf (desiredServices m slots) k =
      (lastWith ServiceSlot.key slots k).map fun slot => slot.desired (getOriginal m slot.key) :=
    lastWith_map (fun slot _ => slot.keyOf_desired _) k
  rw [byKey, lookup_fileBy, hlast]
  cases hlast : lastWith ServiceSlot.key slots k with
  | none => rfl
  | some slot =>
    obtain ⟨-, rfl⟩ := lastWith_eq_some hlast
    rfl

/-- The slots are the roles that the services of the stack emit. -/
theorem mem_serviceSlots {ctxs : List ServiceContext} {slot : ServiceSlot} :
    slot ∈ serviceSlots ctxs ↔ slot.1 ∈ ctxs ∧ slot.2.emitted slot.1.srv = true := by
  obtain ⟨ctx, role⟩ := slot
  simp only [serviceSlots, List.mem_flatMap, List.mem_map, Prod.mk.injEq, ServiceContext.roles,
    List.mem_filter]
  constructor
  · rintro ⟨ctx', hctx', role', ⟨-, hrole'⟩, rfl, rfl⟩
    exact ⟨hctx', hrole'⟩
  · rintro ⟨hctx, hrole⟩
    refine ⟨ctx, hctx, role, ⟨?_, hrole⟩, rfl, rfl⟩
    cases role <;> simp [ServiceRole.all]

theorem desiredServices_keyed {namespace_ : String} {ctxs : List ServiceContext}
    (hns : ∀ ctx ∈ ctxs, ctx.stackNamespace = namespace_) (m : Map Service) :
    Keyed namespace_ (byKey (desiredServices m (serviceSlots ctxs))) := by
  refine byKey_keyed fun x hx => ?_
  obtain ⟨slot, hslot, rfl⟩ := List.mem_map.mp hx
  exact hns slot.1 (mem_serviceSlots.mp hslot).1

theorem mem_serviceContexts {rt : Runtime} {stackName stackNamespace : String}
    {spec : Latest.StackSpec} {strategy : ServiceStrategy} {ctx : ServiceContext}
    (h : ctx ∈ serviceContexts rt stackName stackNamespace spec strategy) :
    ctx.stackNamespace = stackNamespace ∧ ctx.stackName = stackName ∧
      ctx.srv ∈ spec.services.elems := by
  obtain ⟨⟨srv, ix⟩, hmem, rfl⟩ := List.mem_map.mp h
  exact ⟨rfl, rfl, List.fst_mem_of_mem_zipIdx hmem⟩

/-- **The desired state is kept well**: one namespace, every object under its key. -/
theorem Children.keyed {ctxs : List ServiceContext} {C D : StackState} {stackDirty : Bool}
    {namespace_ : String} (h : Children ctxs C stackDirty D) (hC : C.Keyed namespace_)
    (hns : ∀ ctx ∈ ctxs, ctx.stackNamespace = namespace_) : D.Keyed namespace_ := by
  -- all contexts are of the stack's namespace, and so are those of one workload
  have hfilter : ∀ w, ∀ ctx ∈ contextsOf w ctxs, ctx.stackNamespace = namespace_ :=
    fun w ctx hctx => hns ctx (List.mem_of_mem_filter hctx)
  obtain ⟨deployments, hdeployments, hDd⟩ := h.deployments
  obtain ⟨statefulsets, hstatefulsets, hDs⟩ := h.statefulsets
  obtain ⟨daemonsets, hdaemonsets, hDd'⟩ := h.daemonsets
  constructor
  · rw [hDd]
    exact toWorkloads_keyed deploymentKind_lawful hC.deployments (hfilter _) hdeployments
  · rw [hDs]
    exact toWorkloads_keyed statefulsetKind_lawful hC.statefulsets (hfilter _) hstatefulsets
  · rw [hDd']
    exact toWorkloads_keyed daemonsetKind_lawful hC.daemonsets (hfilter _) hdaemonsets
  · rw [h.services]
    exact desiredServices_keyed hns C.services

/-- A converted stack, read through its children. -/
theorem children_of_stackToStack {rt : Runtime} {stack : Latest.Stack} {strategy : ServiceStrategy}
    {C D : StackState} (h : (stackToStack rt stack strategy C).1 = .ok D) :
    ∃ spec, stack.spec = some spec ∧
      Children (stackContexts rt stack spec strategy) C (isStackDirty stack.status) D := by
  obtain ⟨spec, hspec, -, rss, hrss, rfl⟩ := stackToStack_ok_iff.mp h
  exact ⟨spec, hspec, children_of_resources hrss⟩

theorem stackContexts_namespace {rt : Runtime} {stack : Latest.Stack} {spec : Latest.StackSpec}
    {strategy : ServiceStrategy} :
    ∀ ctx ∈ stackContexts rt stack spec strategy,
      ctx.stackNamespace = stack.objectMeta.namespace_ :=
  fun _ hctx => (mem_serviceContexts hctx).1

theorem stackContexts_strategy {rt : Runtime} {stack : Latest.Stack} {spec : Latest.StackSpec}
    {strategy : ServiceStrategy} :
    ∀ ctx ∈ stackContexts rt stack spec strategy, ctx.strategy = strategy := by
  intro ctx hctx
  obtain ⟨_, -, rfl⟩ := List.mem_map.mp hctx
  rfl

theorem stackContexts_rt {rt : Runtime} {stack : Latest.Stack} {spec : Latest.StackSpec}
    {strategy : ServiceStrategy} :
    ∀ ctx ∈ stackContexts rt stack spec strategy, ctx.rt = rt := by
  intro ctx hctx
  obtain ⟨_, -, rfl⟩ := List.mem_map.mp hctx
  rfl

end ComposeKube

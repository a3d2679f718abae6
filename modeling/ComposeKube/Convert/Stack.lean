import ComposeKube.Convert.Service
import ComposeKube.Convert.Workload

/-!
# From a stack to its children

`stack.go`: every service of a stack becomes its services and one workload.
The three branches of `toStackResources` are one definition, `toWorkload`, at
three kinds of workload.

`stackToStack` sorts the services of the stack it is given, in place. Its
second result is that stack as the caller sees it afterwards.
-/

namespace ComposeKube

open Go

/-- `IsStackDirty`. -/
def isStackDirty (status : Option Latest.StackStatus) : Bool :=
  match status with
  | none => true
  | some status =>
    status.phase = Latest.stackReconciliationPending || status.phase = Latest.stackFailure

/-! ## Workloads -/

/-- What the three branches of `toStackResources` differ in. -/
structure WorkloadKind (α : Type) where
  /-- the pod template of the original -/
  template : α → PodTemplateSpec
  /-- `toDeployment`, `toStatefulSet` or `toDaemonSet` -/
  build : Latest.ServiceConfig → ObjectMeta → PodTemplateSpec → Map String → α → α
  /-- the calls of `setExpectedGeneration`, for an original and the built object -/
  stamp : α → α → α

def deploymentKind : WorkloadKind Deployment where
  template d := d.spec.template
  build := toDeployment
  stamp original res :=
    let objectMeta := setExpectedGeneration original.objectMeta res.objectMeta
      (semanticDeepEqual Semantic.deploymentSpec original.spec res.spec)
    -- the deployment api also increments the generation on changes of the annotations
    let objectMeta := setExpectedGeneration original.objectMeta objectMeta
      (semanticDeepEqual (MapRef.canon id) original.objectMeta.annotations objectMeta.annotations)
    { res with objectMeta := objectMeta }

def statefulsetKind : WorkloadKind StatefulSet where
  template s := s.spec.template
  build := toStatefulSet
  stamp original res :=
    { res with
      objectMeta := setExpectedGeneration original.objectMeta res.objectMeta
        (semanticDeepEqual Semantic.statefulSetSpec original.spec res.spec) }

def daemonsetKind : WorkloadKind DaemonSet where
  template d := d.spec.template
  build _ := toDaemonSet
  stamp original res :=
    { res with
      objectMeta := setExpectedGeneration original.objectMeta res.objectMeta
        (semanticDeepEqual Semantic.daemonSetSpec original.spec res.spec) }

/-- One service of a stack under conversion: what every step reads. -/
structure ServiceContext where
  rt : Runtime
  ord : ServiceOrder
  stackName : String
  stackNamespace : String
  srv : Latest.ServiceConfig
  configuration : Latest.StackSpec
  strategy : ServiceStrategy

namespace ServiceContext

variable (ctx : ServiceContext)

def labelSelector : Map String := Labels.forService ctx.stackName ctx.srv.name

def meta_ : ObjectMeta := objectMeta ctx.ord ctx.srv ctx.labelSelector ctx.stackNamespace

/-- The key of the workload and of the internal service. -/
def key : String := objKey ctx.stackNamespace ctx.srv.name

end ServiceContext

/-- The condition of the skip branch. -/
def skips {α : Type} [KubeObject α] (stackDirty : Bool) (originalSvc : α) : Bool :=
  !stackDirty && generationMatchesExpected (getMeta originalSvc)

/-- One branch of `toStackResources`: the workload of a service. -/
def toWorkload {α : Type} [KubeObject α] (kind : WorkloadKind α) (ctx : ServiceContext)
    (stackDirty : Bool) (originalSvc : α) : Except String α :=
  if skips stackDirty originalSvc then .ok originalSvc
  else do
    let podTemplate ← toPodTemplate ctx.rt ctx.ord ctx.srv ctx.meta_.labels ctx.configuration
      (kind.template originalSvc)
    let res := kind.build ctx.srv ctx.meta_ podTemplate ctx.labelSelector originalSvc
    return kind.stamp originalSvc res

/-! ## Resources of a service, and of a stack -/

/-- The services of `toServices`, in the order in which they are appended. -/
def serviceResources (ctx : ServiceContext) (original : StackState) : List Service :=
  let (headlessService, publishedService, randomPortsService) :=
    toServices ctx.rt ctx.srv ctx.meta_ ctx.labelSelector ctx.strategy original
  [headlessService] ++ publishedService.toList ++ randomPortsService.toList

/-- `toStackResources`. -/
def toStackResources (ctx : ServiceContext) (original : StackState) (stackDirty : Bool) :
    Except String (List Resource) :=
  let resources := (serviceResources ctx original).map Resource.service
  -- one pod for each node
  if isGlobal ctx.srv then
    if hasPersistentVolumes ctx.srv then
      .error "using persistent volumes in a global service is not supported yet"
    else do
      let res ← toWorkload daemonsetKind ctx stackDirty (getOriginal original.daemonsets ctx.key)
      return resources ++ [.daemonset res]
  -- claims need a stateful set
  else if hasPersistentVolumes ctx.srv then do
    let res ← toWorkload statefulsetKind ctx stackDirty (getOriginal original.statefulsets ctx.key)
    return resources ++ [.statefulset res]
  else do
    let res ← toWorkload deploymentKind ctx stackDirty (getOriginal original.deployments ctx.key)
    return resources ++ [.deployment res]

/-- The services of a sorted stack spec, each with its position's map orders. -/
def serviceContexts (rt : Runtime) (stackName stackNamespace : String) (spec : Latest.StackSpec)
    (strategy : ServiceStrategy) : List ServiceContext :=
  spec.services.elems.zipIdx.map fun srv =>
    { rt, ord := rt.order srv.2, stackName, stackNamespace, srv := srv.1, configuration := spec,
      strategy }

/-- The in-place sort of `StackToStack`. -/
def sortSpec (rt : Runtime) (spec : Latest.StackSpec) : Latest.StackSpec :=
  { spec with services := spec.services.map rt.sortServices }

/-- The sort keeps the services. -/
theorem sortSpec_services_perm (rt : Runtime) (spec : Latest.StackSpec) :
    (sortSpec rt spec).services.elems.Perm spec.services.elems := by
  unfold sortSpec
  cases spec.services with
  | none => exact List.Perm.refl _
  | some l => exact rt.sortServices_perm l

/-- `StackToStack`: the desired state or an error, and the caller's stack after
its services have been sorted. -/
def stackToStack (rt : Runtime) (stack : Latest.Stack) (strategy : ServiceStrategy)
    (original : StackState) : Except String StackState × Latest.Stack :=
  match stack.spec with
  | none => (.error "stack spec is nil", stack)
  | some spec =>
    if spec.services.elems.length = 0 then (.error "this stack has no service", stack)
    else
      let stackDirty := isStackDirty stack.status
      let spec := sortSpec rt spec
      let resources := (serviceContexts rt stack.objectMeta.name stack.objectMeta.namespace_ spec
        strategy).mapM fun ctx => toStackResources ctx original stackDirty
      (resources.map fun resources => newStackState resources.flatten,
        { stack with spec := some spec })

/-- The conversion sorts the services of the caller's stack, whether it succeeds or not. -/
theorem stackToStack_spec (rt : Runtime) (stack : Latest.Stack) (strategy : ServiceStrategy)
    (original : StackState) :
    (stackToStack rt stack strategy original).2 =
      { stack with spec := stack.spec.map (sortSpec rt) } := by
  obtain ⟨objectMeta, spec, status⟩ := stack
  unfold stackToStack
  cases spec with
  | none => rfl
  | some spec =>
    dsimp only
    split
    · next hempty =>
      -- without services there is nothing to sort
      have hnil := List.length_eq_zero_iff.mp hempty
      have hsort : spec.services.map rt.sortServices = spec.services := by
        cases hservices : spec.services with
        | none => rfl
        | some l =>
          rw [hservices] at hnil
          obtain rfl : l = [] := hnil
          rw [Option.map_some, (rt.sortServices_perm []).eq_nil]
      rw [Option.map_some, sortSpec, hsort]
    · rfl

/-! ## Examples -/

/-- A stack of the given services. -/
def stackOf (services : List Latest.ServiceConfig) : Latest.Stack :=
  { (default : Latest.Stack) with
    objectMeta := { (default : ObjectMeta) with name := "app", namespace_ := "prod" }
    spec := some { (default : Latest.StackSpec) with services := some services } }

/-- A service that publishes a port. -/
def webService : Latest.ServiceConfig :=
  { (default : Latest.ServiceConfig) with
    name := "web"
    image := "nginx"
    ports := some [{ (default : Latest.ServicePortConfig) with target := 80, published := 8080 }] }

/-- A stack with one service. -/
def webStack : Latest.Stack := stackOf [webService]

end ComposeKube

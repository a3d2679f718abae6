import ComposeKube.Registry.Names

/-!
# The dry run against the controller

`ValidateDryRun` converts a stack with the load-balancer strategy and no live
objects. The controller converts it later with its own strategy, whatever the
status of the stack is by then, on top of the objects that are there, and skips
the workloads that are up to date.

The two run on different machines: maps may be visited in other orders, and
services of one name sorted in another. Both parse quantities by the same library.

* `dryRun_sound` — what the dry run accepts, the controller converts, to objects
  of the same kinds and keys.
-/

namespace ComposeKube

open Go

/-- The kinds and keys of the objects of a state. -/
def StackState.kindKeys (D : StackState) : Set (ChildKind × String) :=
  {kk | (D.find kk.1 kk.2).isSome}

/-- Of the runtime, the parts of a pod template depend on the parser of quantities only. -/
theorem toPodParts_runtime {rt rt' : Runtime} (hparse : rt'.parseQuantity = rt.parseQuantity)
    (ord : ServiceOrder) (srv : Latest.ServiceConfig) (configuration : Latest.StackSpec) :
    toPodParts rt' ord srv configuration = toPodParts rt ord srv configuration := by
  have hresource : toResource rt' = toResource rt := by
    funext res
    unfold toResource
    rw [hparse]
  unfold toPodParts
  rw [hresource]

/-- Two runtimes convert the same services, in one order or another. -/
theorem exists_stackContext {rt rt' : Runtime} {stack stack' : Latest.Stack}
    {spec : Latest.StackSpec} {strategy strategy' : ServiceStrategy} {ctx' : ServiceContext}
    (h : ctx' ∈ stackContexts rt' stack' spec strategy') :
    ∃ ctx ∈ stackContexts rt stack spec strategy, ctx.srv = ctx'.srv := by
  have hsrv : ctx'.srv ∈ spec.services.elems :=
    (map_srv_stackContexts rt' stack' spec strategy').mem_iff.mp (List.mem_map_of_mem h)
  rw [← (map_srv_stackContexts rt stack spec strategy).mem_iff, List.mem_map] at hsrv
  exact hsrv

theorem mem_stackContexts {rt : Runtime} {stack : Latest.Stack} {spec : Latest.StackSpec}
    {strategy : ServiceStrategy} {ctx : ServiceContext}
    (h : ctx ∈ stackContexts rt stack spec strategy) :
    ctx.rt = rt ∧ ctx.configuration = sortSpec rt spec ∧
      ctx.stackNamespace = stack.objectMeta.namespace_ := by
  obtain ⟨_, -, rfl⟩ := List.mem_map.mp h
  exact ⟨rfl, rfl, rfl⟩

/-- The parts of a pod template can be computed by every runtime or by none. -/
theorem exists_parts_runtime {rt rt' : Runtime} (hparse : rt'.parseQuantity = rt.parseQuantity)
    {stack stack' : Latest.Stack} {spec : Latest.StackSpec} {strategy strategy' : ServiceStrategy}
    {ctx ctx' : ServiceContext} (hctx : ctx ∈ stackContexts rt stack spec strategy)
    (hctx' : ctx' ∈ stackContexts rt' stack' spec strategy') (hsrv : ctx.srv = ctx'.srv)
    (h : ∃ parts, ctx.parts = .ok parts) : ∃ parts, ctx'.parts = .ok parts := by
  obtain ⟨hrt, hconfiguration, -⟩ := mem_stackContexts hctx
  obtain ⟨hrt', hconfiguration', -⟩ := mem_stackContexts hctx'
  obtain ⟨parts, hparts⟩ := h
  obtain ⟨-, affinity, -, hparts'⟩ := toPodParts_order ctx.ord ctx'.ord hparts
  refine ⟨{ parts with affinity }, ?_⟩
  -- secrets and configs are looked up in the spec, and sorting does not touch them
  have hspec : toPodParts rt ctx'.ord ctx'.srv (sortSpec rt' spec) =
      toPodParts rt ctx'.ord ctx'.srv (sortSpec rt spec) := rfl
  rw [hrt, hconfiguration, hsrv] at hparts'
  rw [ServiceContext.parts, hrt', hconfiguration', toPodParts_runtime hparse, hspec, hparts']

/-- The kinds and keys of a service's objects depend on the service and the namespace only. -/
theorem kindKeys_congr {ctx ctx' : ServiceContext} (hsrv : ctx.srv = ctx'.srv)
    (hns : ctx.stackNamespace = ctx'.stackNamespace) : ctx.kindKeys = ctx'.kindKeys := by
  simp only [ServiceContext.kindKeys, ServiceContext.roles, ServiceSlot.key, ServiceContext.key,
    hsrv, hns]

/-- The kinds and keys of a converted stack. -/
theorem mem_kindKeys_stackToStack {rt : Runtime} {stack : Latest.Stack} {spec : Latest.StackSpec}
    (hspec : stack.spec = some spec) {strategy : ServiceStrategy} {C D : StackState}
    (hC : C.Filed) (h : (stackToStack rt stack strategy C).1 = .ok D) (kk : ChildKind × String) :
    kk ∈ D.kindKeys ↔ ∃ ctx ∈ stackContexts rt stack spec strategy, kk ∈ ctx.kindKeys := by
  obtain ⟨spec', hspec', -, rss, hrss, rfl⟩ := stackToStack_ok_iff.mp h
  obtain rfl : spec' = spec := Option.some.inj (hspec'.symm.trans hspec)
  rw [StackState.kindKeys, Set.mem_ofPred_eq, StackState.isSome_find_newStackState,
    map_kindKey_flatten hC hrss, List.mem_flatMap]

/-- **The dry run is sound for the controller.** What converts with the
load-balancer strategy from no objects converts for every strategy, every status
and on top of all objects that are under their keys, and gives objects of the
same kinds and keys. -/
theorem dryRun_sound {rt rt' : Runtime} (hparse : rt'.parseQuantity = rt.parseQuantity)
    {stack : Latest.Stack} {D₀ : StackState}
    (hdry : (stackToStack rt stack .loadBalancer emptyStackState).1 = .ok D₀)
    (strategy : ServiceStrategy) (status : Option Latest.StackStatus) {C : StackState}
    (hC : C.Filed) :
    ∃ D, (stackToStack rt' { stack with status } strategy C).1 = .ok D ∧
      D.kindKeys = D₀.kindKeys := by
  obtain ⟨spec, hspec, -⟩ := children_of_stackToStack hdry
  obtain ⟨hne, hall⟩ := (exists_stackToStack_iff hspec).mp ⟨D₀, hdry⟩
  have hspec' : ({ stack with status } : Latest.Stack).spec = some spec := hspec
  -- the dry run has built every pod, and a pod does not depend on what is there
  have hsucceeds : ∃ D, (stackToStack rt' { stack with status } strategy C).1 = .ok D := by
    refine (exists_stackToStack_iff hspec').mpr ⟨hne, fun ctx' hctx' => ?_⟩
    obtain ⟨ctx, hctx, hsrv⟩ := exists_stackContext hctx'
    obtain ⟨hglobal, hparts⟩ := exists_parts_of_dryRun (hall ctx hctx)
    exact exists_toStackResources_iff.mpr
      ⟨hsrv ▸ hglobal, .inr (exists_parts_runtime hparse hctx hctx' hsrv hparts)⟩
  obtain ⟨D, hD⟩ := hsucceeds
  refine ⟨D, hD, Set.ext fun kk => ?_⟩
  rw [mem_kindKeys_stackToStack hspec' hC hD,
    mem_kindKeys_stackToStack hspec (emptyStackState_keyed "").filed hdry]
  -- the keys are those of the services, whichever conversion is looked at
  have hsame : ∀ {rt rt' : Runtime} {stack stack' : Latest.Stack}
      {strategy strategy' : ServiceStrategy}, stack.objectMeta = stack'.objectMeta →
      (∃ ctx ∈ stackContexts rt stack spec strategy, kk ∈ ctx.kindKeys) →
      ∃ ctx ∈ stackContexts rt' stack' spec strategy', kk ∈ ctx.kindKeys := by
    rintro rt rt' stack stack' strategy strategy' hmeta ⟨ctx, hctx, hkk⟩
    obtain ⟨ctx', hctx', hsrv⟩ := exists_stackContext hctx
    refine ⟨ctx', hctx', ?_⟩
    rwa [kindKeys_congr hsrv]
    rw [(mem_stackContexts hctx').2.2, (mem_stackContexts hctx).2.2, hmeta]
  exact ⟨hsame rfl, hsame rfl⟩

/-- A live deployment with the key of the service `web`. -/
def liveWeb : StackState :=
  emptyStackState.add <| .deployment
    { (default : Deployment) with
      objectMeta := { (default : ObjectMeta) with name := "web", namespace_ := "prod" } }

/-- A runtime that visits maps downwards. -/
def downwards : Runtime := { Runtime.reference with order := fun _ => .descending _ }

/-- The controller converts an available stack for node ports, visits maps
downwards and finds a deployment. -/
theorem dryRun_sound_webStack :
    ∃ D₀ D, (stackToStack Runtime.reference webStack .loadBalancer emptyStackState).1 = .ok D₀ ∧
      (stackToStack downwards
        { webStack with status := some { phase := Latest.stackAvailable, message := "" } }
        .nodePort liveWeb).1 = .ok D ∧
      D.kindKeys = D₀.kindKeys := by
  have hparse : downwards.parseQuantity = Runtime.reference.parseQuantity := rfl
  have hlive : liveWeb.Filed := (emptyStackState_keyed "").filed.add _
  have hdry : ∃ D₀, (stackToStack Runtime.reference webStack .loadBalancer emptyStackState).1 =
      .ok D₀ := ⟨_, rfl⟩
  obtain ⟨D₀, hD₀⟩ := hdry
  obtain ⟨D, hD⟩ := dryRun_sound hparse hD₀ .nodePort
    (some { phase := Latest.stackAvailable, message := "" }) hlive
  exact ⟨D₀, D, hD₀, hD⟩

end ComposeKube

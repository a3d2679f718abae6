import ComposeKube.Convert.Children
import ComposeKube.StackResources.Diff

/-!
# The order in which maps are visited

A conversion visits environments, extra hosts, label maps and the node labels
of placement constraints, each in an order that the runtime picks anew. Two
conversions of one stack that differ in nothing else are compared.

Labels are merged into maps, environments and host aliases are sorted after the
loop, so their order is lost. The requirements of a node affinity are not
sorted. The outcome is independent of the orders exactly when no workload that
ends up in the state was built from two or more node labels.

* `exists_stackToStack_order` — whether the conversion succeeds never depends
  on the orders.
* `toWorkloads_order`, `atMostOne_of_sameSpecs` — the two directions for the
  workloads of one kind.
-/

namespace ComposeKube

open Go

/-- The runtime with other map orders. -/
def Runtime.withOrder (rt : Runtime) (order : Nat → ServiceOrder) : Runtime := { rt with order }

/-! ## One service in two orders -/

namespace ServiceContext

variable (ctx : ServiceContext) (order : Nat → ServiceOrder) (ord : ServiceOrder)

/-- The same service under conversion, with other map orders. -/
def reorder : ServiceContext := { ctx with rt := ctx.rt.withOrder order, ord }

theorem meta_reorder : (ctx.reorder order ord).meta_ = ctx.meta_ := objectMeta_order ..

theorem desired_reorder {α : Type} (kind : WorkloadKind α) (parts : PodParts) (original : α) :
    (ctx.reorder order ord).desired kind parts original = ctx.desired kind parts original := by
  unfold desired fill
  rw [meta_reorder]
  rfl

/-- The parts can be computed in every order or in none, and differ in the affinity only. -/
theorem parts_reorder {parts : PodParts} (h : ctx.parts = .ok parts) :
    toNodeAffinity ctx.ord ctx.srv.deploy.placement.constraints = .ok parts.affinity ∧
      ∃ affinity, toNodeAffinity ord ctx.srv.deploy.placement.constraints = .ok affinity ∧
        (ctx.reorder order ord).parts = .ok { parts with affinity } :=
  toPodParts_order ctx.ord ord h

/-- The node labels in the placement constraints of the service. -/
def nodeLabels : Map Latest.Constraint :=
  (ctx.srv.deploy.placement.constraints.getD default).matchLabels.entries

/-- With at most one node label the parts are the same in every order. -/
theorem parts_reorder_iff (hlabels : ctx.nodeLabels.AtMostOne) (parts : PodParts) :
    (ctx.reorder order ord).parts = .ok parts ↔ ctx.parts = .ok parts := by
  have hforward : ∀ (ctx : ServiceContext) (order : Nat → ServiceOrder) (ord : ServiceOrder),
      ctx.nodeLabels.AtMostOne → ctx.parts = .ok parts →
        (ctx.reorder order ord).parts = .ok parts := by
    intro ctx order ord hlabels h
    obtain ⟨haffinity, affinity, haffinity', hparts⟩ := ctx.parts_reorder order ord h
    rw [toNodeAffinity_of_atMostOne ord ctx.ord hlabels, haffinity] at haffinity'
    obtain rfl := Except.ok.inj haffinity'
    exact hparts
  -- going back to the first orders restores the first context
  exact ⟨hforward (ctx.reorder order ord) ctx.rt.order ctx.ord hlabels,
    hforward ctx order ord hlabels⟩

end ServiceContext

/-- Two conversions of one service that differ in the map orders only. -/
def SameService (ctx ctx' : ServiceContext) : Prop := ∃ order ord, ctx' = ctx.reorder order ord

theorem ServiceSlot.desired_reorder (ctx : ServiceContext) (order : Nat → ServiceOrder)
    (ord : ServiceOrder) (role : ServiceRole) (original : Service) :
    ServiceSlot.desired (ctx.reorder order ord, role) original =
      ServiceSlot.desired (ctx, role) original := by
  unfold ServiceSlot.desired
  simp only [ServiceContext.meta_reorder]
  rfl

/-- Whether a service converts does not depend on the orders. -/
theorem exists_toStackResources_order {ctx ctx' : ServiceContext} (h : SameService ctx ctx')
    {C : StackState} {stackDirty : Bool}
    (hok : ∃ rs, toStackResources ctx C stackDirty = .ok rs) :
    ∃ rs, toStackResources ctx' C stackDirty = .ok rs := by
  obtain ⟨order, ord, rfl⟩ := h
  rw [exists_toStackResources_iff] at hok ⊢
  obtain ⟨hglobal, hskip | ⟨parts, hparts⟩⟩ := hok
  · exact ⟨hglobal, Or.inl hskip⟩
  · obtain ⟨-, affinity, -, hparts'⟩ := ctx.parts_reorder order ord hparts
    exact ⟨hglobal, Or.inr ⟨_, hparts'⟩⟩

/-! ## The workloads of one kind in two orders -/

section Workloads

variable {α : Type} [KubeObject α] [Inhabited α]

/-- The key under which the workload of a service is filed: its own if it is
skipped, and else the key of the service. -/
def ServiceContext.filingKey (stackDirty : Bool) (m : Map α) (ctx : ServiceContext) : String :=
  if skips stackDirty (getOriginal m ctx.key) then keyOf (getOriginal m ctx.key) else ctx.key

/-- The workload of the service is built, and it is the last one filed under its key. -/
def Contributes (stackDirty : Bool) (m : Map α) (ctxs : List ServiceContext)
    (ctx : ServiceContext) : Prop :=
  skips stackDirty (getOriginal m ctx.key) = false ∧
    lastWith (ServiceContext.filingKey stackDirty m) ctxs ctx.key = some ctx

theorem filingKey_of_sameService {ctx ctx' : ServiceContext} (h : SameService ctx ctx')
    (stackDirty : Bool) (m : Map α) :
    ctx'.filingKey stackDirty m = ctx.filingKey stackDirty m := by
  obtain ⟨order, ord, rfl⟩ := h
  rfl

variable {kind : WorkloadKind α} (hkind : kind.Lawful)

include hkind

/-- The workload under a key, without assumptions on the current objects. -/
theorem lookup_workload_filing_iff {m : Map α} {ctxs : List ServiceContext} {stackDirty : Bool}
    {l : List α} (h : toWorkloads kind stackDirty m ctxs = .ok l) (k : String) (x : α) :
    (byKey l).lookup k = some x ↔
      ∃ ctx, lastWith (ServiceContext.filingKey stackDirty m) ctxs k = some ctx ∧
        toWorkload kind ctx stackDirty (getOriginal m ctx.key) = .ok x := by
  refine lookup_fileBy_mapM h (fun ctx _ x hx => ?_) k x
  rcases toWorkload_eq_ok.mp hx with ⟨hskip, rfl⟩ | ⟨hskip, parts, -, rfl⟩
  · rw [ServiceContext.filingKey, if_pos hskip]
  · rw [ServiceContext.filingKey, if_neg (by simp [hskip])]
    exact keyOf_desired hkind ctx parts _

/-- **The workloads do not depend on the orders** when none that ends up in the
state is built from two node labels. -/
theorem toWorkloads_order {m : Map α} {ctxs ctxs' : List ServiceContext} {stackDirty : Bool}
    (hsame : List.Forall₂ SameService ctxs ctxs') {l l' : List α}
    (h : toWorkloads kind stackDirty m ctxs = .ok l)
    (h' : toWorkloads kind stackDirty m ctxs' = .ok l')
    (hlabels : ∀ ctx, Contributes stackDirty m ctxs ctx → ctx.nodeLabels.AtMostOne) :
    byKey l = byKey l' := by
  refine Finmap.ext_lookup fun k => Option.ext fun x => ?_
  rw [lookup_workload_filing_iff hkind h, lookup_workload_filing_iff hkind h']
  have hlast := lastWith_forall₂ hsame
    (fun ctx _ ctx' hctx => filingKey_of_sameService hctx stackDirty m) k
  generalize hfst : lastWith (ServiceContext.filingKey stackDirty m) ctxs k = last,
    lastWith (ServiceContext.filingKey stackDirty m) ctxs' k = last' at hlast
  cases hlast with
  | none => simp
  | @some ctx ctx' hctx =>
    simp only [Option.some.injEq, exists_eq_left']
    -- the same service decides in both runs; only its affinity could differ
    obtain ⟨order, ord, rfl⟩ := hctx
    have hiff : toWorkload kind ctx stackDirty (getOriginal m ctx.key) = .ok x ↔
        toWorkload kind (ctx.reorder order ord) stackDirty (getOriginal m ctx.key) = .ok x := by
      rw [toWorkload_eq_ok, toWorkload_eq_ok]
      by_cases hskip : skips stackDirty (getOriginal m ctx.key) = true
      · simp [hskip]
      · have hfalse := Bool.eq_false_iff.mpr hskip
        have hcontributes : Contributes stackDirty m ctxs ctx := by
          obtain ⟨-, hkey⟩ := lastWith_eq_some hfst
          rw [ServiceContext.filingKey, if_neg hskip] at hkey
          exact ⟨hfalse, hkey ▸ hfst⟩
        simp only [ctx.parts_reorder_iff order ord (hlabels ctx hcontributes),
          ServiceContext.desired_reorder]
    exact hiff

/-- **Two node labels show**: if visiting the maps upwards and downwards gives
workloads with the same specs, none of them was built from two node labels. -/
theorem atMostOne_of_sameSpecs {S : Type} {spec : α → S} (affinityOf : S → Option Affinity)
    (haffinity : ∀ (ctx : ServiceContext) parts x,
      affinityOf (spec (ctx.desired kind parts x)) = some parts.affinity)
    {m : Map α} {ctxs ctxs' : List ServiceContext} {stackDirty : Bool}
    (hsame : List.Forall₂ (fun ctx ctx' => SameService ctx ctx' ∧
      ctx.ord = RangeOrder.ascending _ ∧ ctx'.ord = RangeOrder.descending _) ctxs ctxs')
    {l l' : List α} (h : toWorkloads kind stackDirty m ctxs = .ok l)
    (h' : toWorkloads kind stackDirty m ctxs' = .ok l')
    (hspecs : ∀ k, ((byKey l).lookup k).map spec = ((byKey l').lookup k).map spec)
    {ctx : ServiceContext} (hctx : Contributes stackDirty m ctxs ctx) :
    ctx.nodeLabels.AtMostOne := by
  obtain ⟨hskip, hlast⟩ := hctx
  have hrel := lastWith_forall₂ hsame
    (fun ctx _ ctx' hctx => filingKey_of_sameService hctx.1 stackDirty m) ctx.key
  rw [hlast] at hrel
  cases hlast' : lastWith (ServiceContext.filingKey stackDirty m) ctxs' ctx.key with
  | none =>
    rw [hlast'] at hrel
    cases hrel
  | some ctx' =>
    rw [hlast'] at hrel
    cases hrel with
    | some hctx' =>
    obtain ⟨⟨order, ord, rfl⟩, hup, hdown⟩ := hctx'
    -- both runs build the workload, and file it under the key of the service
    obtain ⟨x, hx⟩ := exists_mapM_eq_ok_iff.mp ⟨l, h⟩ ctx (lastWith_eq_some hlast).1
    obtain ⟨x', hx'⟩ := exists_mapM_eq_ok_iff.mp ⟨l', h'⟩ _ (lastWith_eq_some hlast').1
    have hspec := hspecs ctx.key
    rw [(lookup_workload_filing_iff hkind h ctx.key x).mpr ⟨ctx, hlast, hx⟩,
      (lookup_workload_filing_iff hkind h' ctx.key x').mpr ⟨_, hlast', hx'⟩] at hspec
    replace hspec : spec x = spec x' := Option.some.inj hspec
    obtain ⟨parts, hparts, rfl⟩ : ∃ parts, ctx.parts = .ok parts ∧
        x = ctx.desired kind parts (getOriginal m ctx.key) := by
      rcases toWorkload_eq_ok.mp hx with ⟨htrue, -⟩ | ⟨-, hbuilt⟩
      · rw [hskip] at htrue
        cases htrue
      · exact hbuilt
    obtain ⟨parts', hparts', rfl⟩ : ∃ parts', (ctx.reorder order ord).parts = .ok parts' ∧
        x' = (ctx.reorder order ord).desired kind parts' (getOriginal m ctx.key) := by
      rcases toWorkload_eq_ok.mp hx' with ⟨htrue, -⟩ | ⟨-, hbuilt⟩
      · rw [show skips stackDirty (getOriginal m (ctx.reorder order ord).key) = false from hskip]
          at htrue
        cases htrue
      · exact hbuilt
    have heq := congrArg affinityOf hspec
    rw [haffinity, haffinity] at heq
    have hok := (ctx.parts_reorder order ord hparts).1
    have hok' := ((ctx.reorder order ord).parts_reorder order ord hparts').1
    rw [hup, Option.some.inj heq] at hok
    rw [hdown] at hok'
    exact atMostOne_of_toNodeAffinity hok hok'

end Workloads

/-! ## Whole stacks in two orders -/

/-- The services of two conversions that differ in the map orders. -/
theorem stackContexts_withOrder (rt : Runtime) (stack : Latest.Stack) (spec : Latest.StackSpec)
    (strategy : ServiceStrategy) (order order' : Nat → ServiceOrder) :
    List.Forall₂ (fun ctx ctx' => SameService ctx ctx' ∧
        ∃ i, ctx.ord = order i ∧ ctx'.ord = order' i)
      (stackContexts (rt.withOrder order) stack spec strategy)
      (stackContexts (rt.withOrder order') stack spec strategy) := by
  unfold stackContexts serviceContexts
  rw [List.forall₂_map_left_iff, List.forall₂_map_right_iff]
  refine List.forall₂_same.mpr fun srv _ => ⟨⟨order', order' srv.2, rfl⟩, srv.2, rfl, rfl⟩

theorem stackContexts_sameService (rt : Runtime) (stack : Latest.Stack) (spec : Latest.StackSpec)
    (strategy : ServiceStrategy) (order order' : Nat → ServiceOrder) :
    List.Forall₂ SameService (stackContexts (rt.withOrder order) stack spec strategy)
      (stackContexts (rt.withOrder order') stack spec strategy) :=
  (stackContexts_withOrder rt stack spec strategy order order').imp fun _ _ h => h.1

/-- Services that differ in their orders only have the same kinds of workload. -/
theorem contextsOf_forall₂ {R : ServiceContext → ServiceContext → Prop}
    (hR : ∀ ctx ctx', R ctx ctx' → SameService ctx ctx') {ctxs ctxs' : List ServiceContext}
    (h : List.Forall₂ R ctxs ctxs') (w : Workload) :
    List.Forall₂ R (contextsOf w ctxs) (contextsOf w ctxs') := by
  refine List.rel_filter (fun ctx ctx' hctx => ?_) h
  obtain ⟨order, ord, rfl⟩ := hR ctx ctx' hctx
  exact Iff.rfl

/-- The Kubernetes services never depend on the orders. -/
theorem desiredServices_order (m : Map Service) {ctxs ctxs' : List ServiceContext}
    (h : List.Forall₂ SameService ctxs ctxs') :
    desiredServices m (serviceSlots ctxs) = desiredServices m (serviceSlots ctxs') := by
  induction h with
  | nil => rfl
  | cons hctx _ ih =>
    obtain ⟨order, ord, rfl⟩ := hctx
    unfold desiredServices serviceSlots at ih ⊢
    simp only [List.flatMap_cons, List.map_append, List.map_map, ih]
    congr 1
    exact List.map_congr_left fun role _ => (ServiceSlot.desired_reorder _ order ord role _).symm

/-- **Whether a stack converts does not depend on the orders.** -/
theorem exists_stackToStack_order {rt : Runtime} {stack : Latest.Stack}
    {strategy : ServiceStrategy} {C : StackState} (order order' : Nat → ServiceOrder)
    (h : ∃ D, (stackToStack (rt.withOrder order) stack strategy C).1 = .ok D) :
    ∃ D, (stackToStack (rt.withOrder order') stack strategy C).1 = .ok D := by
  obtain ⟨D, hD⟩ := h
  obtain ⟨spec, hspec, -⟩ := children_of_stackToStack hD
  obtain ⟨hne, hall⟩ := (exists_stackToStack_iff hspec).mp ⟨D, hD⟩
  refine (exists_stackToStack_iff hspec).mpr ⟨hne, ?_⟩
  have hcontexts := stackContexts_sameService rt stack spec strategy order order'
  intro ctx' hctx'
  -- the context of the same service under the other order
  obtain ⟨ctx, hctx, hsame⟩ : ∃ ctx ∈ stackContexts (rt.withOrder order) stack spec strategy,
      SameService ctx ctx' := by
    obtain ⟨i, hi, rfl⟩ := List.mem_iff_getElem.mp hctx'
    rw [List.forall₂_iff_get] at hcontexts
    have hi' : i < (stackContexts (rt.withOrder order) stack spec strategy).length := by
      rw [hcontexts.1]
      exact hi
    exact ⟨_, List.getElem_mem hi', hcontexts.2 i hi' hi⟩
  exact exists_toStackResources_order hsame (hall ctx hctx)

/-- The objects of converted stacks are filed under their own keys. -/
theorem Children.filedBy {ctxs : List ServiceContext} {C D : StackState} {stackDirty : Bool}
    (h : Children ctxs C stackDirty D) :
    FiledBy keyOf D.deployments ∧ FiledBy keyOf D.statefulsets ∧ FiledBy keyOf D.daemonsets ∧
      FiledBy keyOf D.services := by
  have hbyKey : ∀ {α : Type} [KubeObject α] (l : List α), FiledBy keyOf (byKey l) := by
    intro α _ l k x hx
    rw [byKey, lookup_fileBy] at hx
    exact (lastWith_eq_some hx).2
  obtain ⟨_, -, hdep⟩ := h.deployments
  obtain ⟨_, -, hsts⟩ := h.statefulsets
  obtain ⟨_, -, hds⟩ := h.daemonsets
  rw [hdep, hsts, hds, h.services]
  exact ⟨hbyKey _, hbyKey _, hbyKey _, hbyKey _⟩

/-- Two conversions both fail, or return states whose objects have the same
specs and labels and between which there is no difference. -/
def Agree (r r' : Except String StackState) : Prop :=
  ((∀ D, r ≠ .ok D) ∧ ∀ D', r' ≠ .ok D') ∨
    ∃ D D', r = .ok D ∧ r' = .ok D' ∧ D.SameSpecs D' ∧ ∀ ord, (computeDiff ord D D').empty

/-- No workload that ends up in the converted state is built from two node labels. -/
structure SingleNodeLabels (ctxs : List ServiceContext) (stackDirty : Bool) (C : StackState) :
    Prop where
  deployments : ∀ ctx, Contributes stackDirty C.deployments (contextsOf .deployment ctxs) ctx →
    ctx.nodeLabels.AtMostOne
  statefulsets : ∀ ctx, Contributes stackDirty C.statefulsets (contextsOf .statefulset ctxs) ctx →
    ctx.nodeLabels.AtMostOne
  daemonsets : ∀ ctx, Contributes stackDirty C.daemonsets (contextsOf .daemonset ctxs) ctx →
    ctx.nodeLabels.AtMostOne

/-- It is enough that no service has two node labels. -/
theorem SingleNodeLabels.of_forall {ctxs : List ServiceContext}
    (h : ∀ ctx ∈ ctxs, ctx.nodeLabels.AtMostOne) (stackDirty : Bool) (C : StackState) :
    SingleNodeLabels ctxs stackDirty C := by
  have hof : ∀ {α : Type} [KubeObject α] [Inhabited α] (m : Map α) w ctx,
      Contributes stackDirty m (contextsOf w ctxs) ctx → ctx.nodeLabels.AtMostOne :=
    fun m w ctx hctx => h ctx (List.mem_of_mem_filter (lastWith_eq_some hctx.2).1)
  exact ⟨hof _ _, hof _ _, hof _ _⟩

section Stack

variable {rt : Runtime} {stack : Latest.Stack} {strategy : ServiceStrategy} {C D D' : StackState}
  {spec : Latest.StackSpec} {order order' : Nat → ServiceOrder}

/-- The condition does not depend on the orders in which it is read. -/
theorem Contributes.sameService {α : Type} [KubeObject α] [Inhabited α] {stackDirty : Bool}
    {m : Map α} {ctxs ctxs' : List ServiceContext} (h : List.Forall₂ SameService ctxs ctxs')
    {ctx : ServiceContext} (hctx : Contributes stackDirty m ctxs ctx) :
    ∃ ctx', SameService ctx ctx' ∧ Contributes stackDirty m ctxs' ctx' := by
  obtain ⟨hskip, hlast⟩ := hctx
  have hrel := lastWith_forall₂ h
    (fun ctx _ ctx' hctx => filingKey_of_sameService hctx stackDirty m) ctx.key
  rw [hlast] at hrel
  generalize hlast' : lastWith (ServiceContext.filingKey stackDirty m) ctxs' ctx.key = last' at hrel
  cases hrel with
  | @some _ ctx' hsame =>
    obtain ⟨order, ord, rfl⟩ := hsame
    exact ⟨_, ⟨order, ord, rfl⟩, hskip, hlast'⟩

theorem SingleNodeLabels.sameService {ctxs ctxs' : List ServiceContext} {stackDirty : Bool}
    (h : List.Forall₂ SameService ctxs ctxs') (hsingle : SingleNodeLabels ctxs' stackDirty C) :
    SingleNodeLabels ctxs stackDirty C := by
  -- the constraints are those of the service, in whatever order
  have hof := contextsOf_forall₂ (fun _ _ hctx => hctx) h
  constructor
  · intro ctx hctx
    obtain ⟨_, ⟨order, ord, rfl⟩, hctx'⟩ := hctx.sameService (hof _)
    have hlabels := hsingle.deployments _ hctx'
    exact hlabels
  · intro ctx hctx
    obtain ⟨_, ⟨order, ord, rfl⟩, hctx'⟩ := hctx.sameService (hof _)
    have hlabels := hsingle.statefulsets _ hctx'
    exact hlabels
  · intro ctx hctx
    obtain ⟨_, ⟨order, ord, rfl⟩, hctx'⟩ := hctx.sameService (hof _)
    have hlabels := hsingle.daemonsets _ hctx'
    exact hlabels

/-- Without two node labels the two conversions return one state. -/
theorem Children.eq_of_singleNodeLabels {ctxs ctxs' : List ServiceContext} {stackDirty : Bool}
    (hsame : List.Forall₂ SameService ctxs ctxs') (hsingle : SingleNodeLabels ctxs stackDirty C)
    (h : Children ctxs C stackDirty D) (h' : Children ctxs' C stackDirty D') : D = D' := by
  have hof := contextsOf_forall₂ (fun _ _ hctx => hctx) hsame
  obtain ⟨l1, hl1, hD1⟩ := h.deployments
  obtain ⟨l2, hl2, hD2⟩ := h.statefulsets
  obtain ⟨l3, hl3, hD3⟩ := h.daemonsets
  obtain ⟨l1', hl1', hD1'⟩ := h'.deployments
  obtain ⟨l2', hl2', hD2'⟩ := h'.statefulsets
  obtain ⟨l3', hl3', hD3'⟩ := h'.daemonsets
  -- with one label at most there is one order
  have h1 := toWorkloads_order deploymentKind_lawful (hof _) hl1 hl1' hsingle.deployments
  have h2 := toWorkloads_order statefulsetKind_lawful (hof _) hl2 hl2' hsingle.statefulsets
  have h3 := toWorkloads_order daemonsetKind_lawful (hof _) hl3 hl3' hsingle.daemonsets
  have h4 := congrArg byKey (desiredServices_order C.services hsame)
  rw [← hD1, ← hD1'] at h1
  rw [← hD2, ← hD2'] at h2
  rw [← hD3, ← hD3'] at h3
  rw [← h.services, ← h'.services] at h4
  cases D
  cases D'
  simp_all

theorem forceRestartPolicy_affinity (podTemplate : PodTemplateSpec) (policy : RestartPolicy) :
    (forceRestartPolicy podTemplate policy).spec.affinity = podTemplate.spec.affinity := by
  unfold forceRestartPolicy
  split <;> rfl

theorem deployment_affinity (ctx : ServiceContext) (parts : PodParts) (x : Deployment) :
    (ctx.desired deploymentKind parts x).spec.template.spec.affinity = some parts.affinity :=
  forceRestartPolicy_affinity ..

theorem statefulset_affinity (ctx : ServiceContext) (parts : PodParts) (x : StatefulSet) :
    (ctx.desired statefulsetKind parts x).spec.template.spec.affinity = some parts.affinity :=
  forceRestartPolicy_affinity ..

theorem daemonset_affinity (ctx : ServiceContext) (parts : PodParts) (x : DaemonSet) :
    (ctx.desired daemonsetKind parts x).spec.template.spec.affinity = some parts.affinity := rfl

/-- States with the same specs, from maps visited upwards and downwards, hold no
workload built from two node labels. -/
theorem Children.singleNodeLabels {ctxs ctxs' : List ServiceContext} {stackDirty : Bool}
    (hsame : List.Forall₂ (fun ctx ctx' => SameService ctx ctx' ∧
      ctx.ord = RangeOrder.ascending _ ∧ ctx'.ord = RangeOrder.descending _) ctxs ctxs')
    (h : Children ctxs C stackDirty D) (h' : Children ctxs' C stackDirty D')
    (hspecs : D.SameSpecs D') : SingleNodeLabels ctxs stackDirty C := by
  have hof := contextsOf_forall₂ (fun _ _ hctx => hctx.1) hsame
  obtain ⟨l1, hl1, hD1⟩ := h.deployments
  obtain ⟨l2, hl2, hD2⟩ := h.statefulsets
  obtain ⟨l3, hl3, hD3⟩ := h.daemonsets
  obtain ⟨l1', hl1', hD1'⟩ := h'.deployments
  obtain ⟨l2', hl2', hD2'⟩ := h'.statefulsets
  obtain ⟨l3', hl3', hD3'⟩ := h'.daemonsets
  -- two labels would come out in two orders, and the specifications differ
  constructor
  · intro ctx hctx
    have hk := hspecs.deployments
    rw [hD1, hD1'] at hk
    exact atMostOne_of_sameSpecs deploymentKind_lawful (fun s => s.1.template.spec.affinity)
      deployment_affinity (hof _) hl1 hl1'
      hk hctx
  · intro ctx hctx
    have hk := hspecs.statefulsets
    rw [hD2, hD2'] at hk
    exact atMostOne_of_sameSpecs statefulsetKind_lawful (fun s => s.1.template.spec.affinity)
      statefulset_affinity (hof _) hl2 hl2'
      hk hctx
  · intro ctx hctx
    have hk := hspecs.daemonsets
    rw [hD3, hD3'] at hk
    exact atMostOne_of_sameSpecs daemonsetKind_lawful (fun s => s.1.template.spec.affinity)
      daemonset_affinity (hof _) hl3 hl3'
      hk hctx

end Stack

/-- **When a conversion is independent of map orders.** Whether it succeeds always
is. If it succeeds, then all orders give objects with the same specs and labels
exactly when no workload of the result was built from two node labels. -/
theorem stackToStack_orderIndependent_iff (rt : Runtime) (stack : Latest.Stack)
    (spec : Latest.StackSpec) (strategy : ServiceStrategy) (C : StackState)
    (hspec : stack.spec = some spec) :
    (∀ order order',
      (∃ D, (stackToStack (rt.withOrder order) stack strategy C).1 = .ok D) ↔
        ∃ D, (stackToStack (rt.withOrder order') stack strategy C).1 = .ok D) ∧
    ((∃ D, (stackToStack rt stack strategy C).1 = .ok D) →
      ((∀ order order', Agree (stackToStack (rt.withOrder order) stack strategy C).1
          (stackToStack (rt.withOrder order') stack strategy C).1) ↔
        SingleNodeLabels (stackContexts rt stack spec strategy) (isStackDirty stack.status)
          C)) := by
  constructor
  · exact fun order order' =>
      ⟨exists_stackToStack_order order order', exists_stackToStack_order order' order⟩
  · intro hok
    have hok' : ∃ D, (stackToStack (rt.withOrder rt.order) stack strategy C).1 = .ok D := hok
    have hrun : ∀ order, ∃ D, (stackToStack (rt.withOrder order) stack strategy C).1 = .ok D ∧
        Children (stackContexts (rt.withOrder order) stack spec strategy) C
          (isStackDirty stack.status) D := by
      intro order
      obtain ⟨D, hD⟩ := exists_stackToStack_order rt.order order hok'
      obtain ⟨spec', hspec', hchildren⟩ := children_of_stackToStack hD
      obtain rfl : spec' = spec := Option.some.inj (hspec'.symm.trans hspec)
      exact ⟨D, hD, hchildren⟩
    constructor
    · intro hagree
      -- the orders that tell two labels apart
      obtain ⟨D, hD, hchildren⟩ := hrun fun _ => RangeOrder.ascending _
      obtain ⟨D', hD', hchildren'⟩ := hrun fun _ => RangeOrder.descending _
      have hspecs : D.SameSpecs D' := by
        rcases hagree (fun _ => RangeOrder.ascending _) (fun _ => RangeOrder.descending _) with
          ⟨hfail, -⟩ | ⟨E, E', hE, hE', hsame, -⟩
        · exact absurd hD (hfail D)
        · obtain rfl := Except.ok.inj (hD.symm.trans hE)
          obtain rfl := Except.ok.inj (hD'.symm.trans hE')
          exact hsame
      have hcontexts := stackContexts_withOrder rt stack spec strategy
        (fun _ => RangeOrder.ascending _) (fun _ => RangeOrder.descending _)
      refine SingleNodeLabels.sameService (stackContexts_sameService rt stack spec strategy
        rt.order fun _ => RangeOrder.ascending _) (hchildren.singleNodeLabels ?_ hchildren' hspecs)
      exact hcontexts.imp fun ctx ctx' ⟨hsame, _, hup, hdown⟩ => ⟨hsame, hup, hdown⟩
    · intro hsingle order order'
      obtain ⟨D, hD, hchildren⟩ := hrun order
      obtain ⟨D', hD', hchildren'⟩ := hrun order'
      have hsingle' := hsingle.sameService
        (stackContexts_sameService rt stack spec strategy order rt.order)
      obtain rfl := hchildren.eq_of_singleNodeLabels
        (stackContexts_sameService rt stack spec strategy order order') hsingle' hchildren'
      obtain ⟨h1, h2, h3, h4⟩ := hchildren.filedBy
      exact Or.inr ⟨D, D, hD, hD', .refl D, fun ord => computeDiff_self ord h1 h2 h3 h4⟩

/-- A stack without placement constraints converts to one state in all orders. -/
theorem stackToStack_orderIndependent_webStack :
    (∃ D, (stackToStack Runtime.reference webStack .loadBalancer emptyStackState).1 = .ok D) ∧
      ∀ order order', Agree
        (stackToStack (Runtime.reference.withOrder order) webStack .loadBalancer emptyStackState).1
        (stackToStack (Runtime.reference.withOrder order') webStack .loadBalancer
          emptyStackState).1 := by
  obtain ⟨spec, hspec⟩ : ∃ spec, webStack.spec = some spec := ⟨_, rfl⟩
  refine ⟨⟨_, rfl⟩, ?_⟩
  refine ((stackToStack_orderIndependent_iff Runtime.reference webStack spec .loadBalancer
    emptyStackState hspec).2 ⟨_, rfl⟩).mpr (SingleNodeLabels.of_forall ?_ _ _)
  intro ctx hctx
  cases hspec
  obtain ⟨-, -, hsrv⟩ := mem_serviceContexts hctx
  have hnone : ctx.nodeLabels = ∅ := by
    rw [ServiceContext.nodeLabels, List.mem_singleton.mp hsrv]
    rfl
  intro k k' hk
  rw [hnone] at hk
  exact absurd hk (Finmap.notMem_empty)

/-- A service that is to run on nodes with two labels. -/
def placedService : Latest.ServiceConfig :=
  { webService with
    deploy := { webService.deploy with
      placement := {
        constraints := some { (default : Latest.Constraints) with
          matchLabels := some (((∅ : Map Latest.Constraint).insert "disk"
            { value := "ssd", operator := "==" }).insert "zone"
            { value := "a", operator := "==" }) } } } }

/-- **Two node labels are enough**: visited upwards and downwards, they make two
deployments between which `ComputeDiff` sees an update. -/
theorem stackToStack_order_placedService :
    ∃ D D', (stackToStack (Runtime.reference.withOrder fun _ => RangeOrder.ascending _)
        (stackOf [placedService]) .loadBalancer emptyStackState).1 = .ok D ∧
      (stackToStack (Runtime.reference.withOrder fun _ => RangeOrder.descending _)
        (stackOf [placedService]) .loadBalancer emptyStackState).1 = .ok D' ∧
      ¬D.SameSpecs D' ∧ ¬(computeDiff (RangeOrder.ascending _) D D').empty := by
  obtain ⟨D, hD, hup⟩ : ∃ D, (stackToStack
        (Runtime.reference.withOrder fun _ => RangeOrder.ascending _)
        (stackOf [placedService]) .loadBalancer emptyStackState).1 = .ok D ∧
      ((D.deployments.lookup "prod/web").map fun x => x.spec.template.spec.affinity) =
        some (some (nodeAffinity [
          { key := "disk", operator := .in_, values := some ["ssd"] },
          { key := "zone", operator := .in_, values := some ["a"] },
          { key := kubernetesOs, operator := .in_, values := some ["linux"] },
          { key := kubernetesArch, operator := .in_, values := some ["amd64"] }])) :=
    ⟨_, rfl, rfl⟩
  obtain ⟨D', hD', hdown⟩ : ∃ D', (stackToStack
        (Runtime.reference.withOrder fun _ => RangeOrder.descending _)
        (stackOf [placedService]) .loadBalancer emptyStackState).1 = .ok D' ∧
      ((D'.deployments.lookup "prod/web").map fun x => x.spec.template.spec.affinity) =
        some (some (nodeAffinity [
          { key := "zone", operator := .in_, values := some ["a"] },
          { key := "disk", operator := .in_, values := some ["ssd"] },
          { key := kubernetesOs, operator := .in_, values := some ["linux"] },
          { key := kubernetesArch, operator := .in_, values := some ["amd64"] }])) :=
    ⟨_, rfl, rfl⟩
  -- two labels, in ascending and in descending order
  have hne : ((D.deployments.lookup "prod/web").map fun x => x.spec.template.spec.affinity) ≠
      (D'.deployments.lookup "prod/web").map fun x => x.spec.template.spec.affinity := by
    rw [hup, hdown]
    decide
  refine ⟨D, D', hD, hD', ?_, ?_⟩
  · intro hsame
    have h := congrArg (Option.map fun s => s.1.template.spec.affinity)
      (hsame.deployments "prod/web")
    rw [Option.map_map, Option.map_map] at h
    exact hne h
  · -- the difference is seen, and would be applied
    intro hempty
    obtain ⟨_, -, hchildren⟩ := children_of_stackToStack hD'
    obtain ⟨hdep, -⟩ := computeDiff_isDiff (RangeOrder.ascending _) D
      (hchildren.keyed (emptyStackState_keyed _) stackContexts_namespace)
    have hrel := hdep.isEmpty_iff.mp hempty.1 "prod/web"
    generalize D.deployments.lookup "prod/web" = x, D'.deployments.lookup "prod/web" = x'
      at hrel hne
    cases hrel with
    | none => exact hne rfl
    | some h => exact hne (congrArg some (affinity_of_normalizeEqualDeployment h))

end ComposeKube

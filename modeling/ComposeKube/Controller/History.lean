import ComposeKube.Controller.Soundness
import ComposeKube.Convert.Inherit

/-!
# What children keep of their past

A stack is reconciled with one spec and then with another. The result has the
children of the second spec alone, with the same labels. Their specs are those
of the second spec alone as well, except for what the children of the first
spec hand down: this is `Inherits` for workloads and `inheritService` for
Kubernetes services.

* `workloads_history`, `services_history` — the argument for one kind.
* `reconcileChildren_history` — two reconciliations of a stack.
-/

namespace ComposeKube

open Go

/-- The objects of `C₂`, reconciled on top of `C₁`, and those of `E`, reconciled
from nothing: the same keys with the same labels, and specs that are related
once the spec of the object in `C₁` is known. -/
def SameBut {α S : Type} [KubeObject α] [Inhabited α] (spec : α → S) (rel : S → S → S → Prop)
    (C₁ C₂ E : Map α) : Prop :=
  ∀ k, Option.Rel (fun x y => (getMeta x).labels = (getMeta y).labels ∧
    rel (spec (getOriginal C₁ k)) (spec y) (spec x)) (C₂.lookup k) (E.lookup k)

/-! ## Workloads -/

section Workloads

variable {α S : Type} [KubeObject α] [Inhabited α] {kind : WorkloadKind α}
  (hkind : kind.Lawful) {spec : α → S} {podSpec : S → PodSpec} {setPodSpec : S → PodSpec → S}
  {inherit : S → S → S} {Built : S → Prop}
  (hI : Inheritance kind spec podSpec setPodSpec inherit Built)
  (server : Server) (child : ChildKind)

omit [Inhabited α] in
/-- The owner is no label. -/
theorem labels_setOwner (stack : Latest.Stack) (x : α) :
    (getMeta (setOwner stack x)).labels = (getMeta x).labels := by
  simp [setOwner]

include hkind

/-- What is desired under a key when nothing is skipped: the workload of the last
service that claims the key, built on top of what is there. -/
theorem lookup_desired {namespace_ : String} {m : Map α} (hm : Keyed namespace_ m)
    {ctxs : List ServiceContext} {dirty : Bool} {l : List α}
    (hskip : ∀ k, skips dirty (getOriginal m k) = false)
    (hl : toWorkloads kind dirty m ctxs = .ok l) (stack : Latest.Stack) (k : String) :
    (lastWith ServiceContext.key ctxs k = none ∧
      ((byKey l).mapValues (setOwner stack)).lookup k = none) ∨
    ∃ ctx parts, lastWith ServiceContext.key ctxs k = some ctx ∧ ctx.parts = .ok parts ∧
      ((byKey l).mapValues (setOwner stack)).lookup k =
        some (setOwner stack (ctx.desired kind parts (getOriginal m k))) := by
  have hlookup := lookup_workload_iff hkind hm.filedByKey hl k
  rw [Map.lookup_mapValues]
  cases hlast : lastWith ServiceContext.key ctxs k with
  | none =>
    have hnone := lookup_workload_eq_none hkind hm.filedByKey hl hlast
    exact Or.inl ⟨rfl, by rw [hnone, Option.map_none]⟩
  | some ctx =>
    obtain ⟨hctx, hkey⟩ := lastWith_eq_some hlast
    obtain ⟨d, hd⟩ := exists_mapM_eq_ok_iff.mp ⟨l, hl⟩ ctx hctx
    rw [hkey] at hd
    -- nothing is skipped, hence the workload is built on the one that is there
    rcases toWorkload_eq_ok.mp hd with ⟨hskipped, -⟩ | ⟨-, parts, hparts, rfl⟩
    · rw [hskip k] at hskipped
      cases hskipped
    · refine Or.inr ⟨ctx, parts, rfl, hparts, ?_⟩
      rw [(hlookup _).mpr ⟨ctx, hlast, hd⟩, Option.map_some]

include hI

/-- **Reconciled from nothing**: under the key of a service is its workload, built
from nothing. -/
theorem lookup_fromNothing {ctxs : List ServiceContext} {dirty : Bool} {l : List α}
    (hl : toWorkloads kind dirty ∅ ctxs = .ok l) {same : α → α → Bool} {stack : Latest.Stack}
    {C : Map α} (hC : ∀ k, C.lookup k = settle (workloadComparison same) (server.store child) ∅
      ((byKey l).mapValues (setOwner stack)) k) (k : String) :
    (lastWith ServiceContext.key ctxs k = none ∧ C.lookup k = none) ∨
    ∃ ctx parts x, lastWith ServiceContext.key ctxs k = some ctx ∧ ctx.parts = .ok parts ∧
      C.lookup k = some x ∧ spec x = spec (ctx.desired kind parts default) ∧
      (getMeta x).labels = ctx.meta_.labels := by
  have hm : Keyed "" (∅ : Map α) := fun k x hx => by
    rw [Finmap.lookup_empty] at hx
    cases hx
  rcases lookup_desired hkind hm (skips_empty hkind dirty) hl stack k with
    ⟨hlast, hD⟩ | ⟨ctx, parts, hlast, hparts, hD⟩
  · exact Or.inl ⟨hlast, by rw [hC k, settle, hD]⟩
  · rw [getOriginal_of_none (Finmap.lookup_empty k)] at hD
    -- there was nothing before, so that what is there was written
    rcases lookup_settled server child rfl hC hD with ⟨c, hc, -⟩ | ⟨-, x, hx, hstored⟩
    · rw [Finmap.lookup_empty] at hc
      cases hc
    · refine Or.inr ⟨ctx, parts, x, hlast, hparts, hx, ?_, ?_⟩
      · obtain ⟨_, _, rfl⟩ := hstored
        rw [hI.spec_setMeta, setOwner, hI.spec_setMeta]
      · rw [hstored.labels, labels_setOwner, labels_desired hkind]

/-- Workloads that were reconciled from nothing are ones the conversion builds; so
is the default it starts from where there is none. -/
theorem built_fromNothing {ctxs : List ServiceContext} {dirty : Bool} {l : List α}
    (hl : toWorkloads kind dirty ∅ ctxs = .ok l) {same : α → α → Bool} {stack : Latest.Stack}
    {C : Map α} (hC : ∀ k, C.lookup k = settle (workloadComparison same) (server.store child) ∅
      ((byKey l).mapValues (setOwner stack)) k) (k : String) :
    Built (spec (getOriginal C k)) := by
  rcases lookup_fromNothing hkind hI server child hl hC k with
    ⟨-, hnone⟩ | ⟨ctx, parts, x, -, -, hx, hspec, -⟩
  · rw [getOriginal_of_none hnone]
    exact hI.built_default
  · rw [getOriginal_of_lookup hx, hspec]
    exact hI.built_desired ctx parts

/-- **The workloads of one kind inherit**: reconciled on top of workloads that were
reconciled from nothing, and compared with what is reconciled from nothing. -/
theorem workloads_history [DecidableEq S] {namespace_ : String}
    {ctxs₁ ctxs₂ : List ServiceContext} {dirty : Bool} {l₁ l₂ l : List α} {S₁ S₂ : Latest.Stack}
    {C₁ C₂ E : Map α} (hkeyed : Keyed namespace_ C₁)
    (hl₁ : toWorkloads kind dirty ∅ ctxs₁ = .ok l₁)
    (hC₁ : ∀ k, C₁.lookup k =
      settle (workloadComparison (normalizeEqual spec podSpec setPodSpec)) (server.store child) ∅
        ((byKey l₁).mapValues (setOwner S₁)) k)
    (hl₂ : toWorkloads kind true C₁ ctxs₂ = .ok l₂)
    (hC₂ : ∀ k, C₂.lookup k =
      settle (workloadComparison (normalizeEqual spec podSpec setPodSpec)) (server.store child) C₁
        ((byKey l₂).mapValues (setOwner S₂)) k)
    (hl : toWorkloads kind true ∅ ctxs₂ = .ok l)
    (hE : ∀ k, E.lookup k =
      settle (workloadComparison (normalizeEqual spec podSpec setPodSpec)) (server.store child) ∅
        ((byKey l).mapValues (setOwner S₂)) k) :
    SameBut spec (Inherits podSpec setPodSpec inherit) C₁ C₂ E := by
  intro k
  rcases lookup_fromNothing hkind hI server child hl hE k with
    ⟨hlast, hEk⟩ | ⟨ctx, parts, y, hlast, hparts, hEk, hspecy, hlabelsy⟩
  · rcases lookup_desired hkind hkeyed (fun _ => rfl) hl₂ S₂ k with
      ⟨-, hD⟩ | ⟨ctx, _, hlast', -⟩
    · rw [hEk, hC₂ k, settle, hD]
      exact .none
    · rw [hlast] at hlast'
      cases hlast'
  · rcases lookup_desired hkind hkeyed (fun _ => rfl) hl₂ S₂ k with
      ⟨hlast', -⟩ | ⟨ctx', parts', hlast', hparts', hD⟩
    · rw [hlast] at hlast'
      cases hlast'
    · cases hlast.symm.trans hlast'
      cases hparts.symm.trans hparts'
      -- what was there before, if anything, was built from nothing
      have hbuilt := built_fromNothing hkind hI server child hl₁ hC₁ k
      have hdesired : spec (setOwner S₂ (ctx.desired kind parts (getOriginal C₁ k))) =
          inherit (spec (getOriginal C₁ k)) (spec y) := by
        rw [setOwner, hI.spec_setMeta, hI.desired_eq ctx parts _ hparts hbuilt, hspecy]
      rw [hEk]
      rcases lookup_settled server child rfl hC₂ hD with ⟨c, hc, hsame, hx⟩ | ⟨-, x, hx, hstored⟩
      · -- the object compares equal and is left alone
        rw [hx]
        refine .some ⟨?_, ?_⟩
        · have hlabels := of_decide_eq_true (Bool.and_eq_true_iff.mp hsame).2
          rw [hlabels, labels_setOwner, labels_desired hkind, hlabelsy]
        · rw [getOriginal_of_lookup hc] at hdesired ⊢
          rcases lookup_fromNothing hkind hI server child hl₁ hC₁ k with
            ⟨-, hnone⟩ | ⟨ctx₁, parts₁, o, -, -, ho, hspec, -⟩
          · cases hc.symm.trans hnone
          · cases hc.symm.trans ho
            refine hI.of_normalizeEqual ?_ ?_ rfl hdesired ?_
            · rw [hspec]
              exact hI.pod_desired ctx₁ parts₁
            · rw [hspecy]
              exact hI.pod_desired ctx parts
            · rw [getOriginal_of_lookup hc] at hsame
              exact hsame
      · rw [hx]
        refine .some ⟨?_, Or.inl ?_⟩
        · rw [hstored.labels, labels_setOwner, labels_desired hkind, hlabelsy]
        · rw [← hdesired]
          obtain ⟨_, _, rfl⟩ := hstored
          exact hI.spec_setMeta ..

end Workloads

/-! ## Kubernetes services -/

section Services

variable (server : Server)

/-- Which service is wanted under a key. -/
theorem lookup_desiredServices (m : Map Service) (slots : List ServiceSlot) (stack : Latest.Stack)
    (k : String) :
    ((byKey (desiredServices m slots)).mapValues (setOwner stack)).lookup k =
      (lastWith ServiceSlot.key slots k).map
        fun slot => setOwner stack (slot.desired (getOriginal m k)) := by
  rw [Map.lookup_mapValues, lookup_service_eq, Option.map_map]
  rfl

/-- What a settled key of the services holds: the spec and the labels that are
desired, also where the service was left alone. -/
theorem lookup_settledServices {C C' : Map Service} {slots : List ServiceSlot}
    {stack : Latest.Stack}
    (hC' : ∀ k, C'.lookup k = settle serviceComparison (server.store .service) C
      ((byKey (desiredServices C slots)).mapValues (setOwner stack)) k) (k : String) :
    (lastWith ServiceSlot.key slots k = none ∧ C'.lookup k = none) ∨
    ∃ slot x, lastWith ServiceSlot.key slots k = some slot ∧ C'.lookup k = some x ∧
      x.spec = (slot.desired (getOriginal C k)).spec ∧
      x.objectMeta.labels = slot.1.meta_.labels := by
  have hD := lookup_desiredServices C slots stack k
  cases hlast : lastWith ServiceSlot.key slots k with
  | none =>
    rw [hlast] at hD
    exact Or.inl ⟨rfl, by rw [hC' k, settle, show Finmap.lookup k _ = none from hD]⟩
  | some slot =>
    rw [hlast] at hD
    rcases lookup_settled server .service rfl hC' hD with
      ⟨c, -, hsame, hc⟩ | ⟨-, x, hx, hstored⟩
    · -- kept, as one that is the same
      obtain ⟨hspec, hlabels⟩ := Bool.and_eq_true_iff.mp hsame
      exact Or.inr ⟨slot, c, rfl, hc, of_decide_eq_true hspec, of_decide_eq_true hlabels⟩
    · obtain ⟨_, _, rfl⟩ := hstored
      exact Or.inr ⟨slot, _, rfl, hx, rfl, rfl⟩

/-- **The Kubernetes services inherit** the type or the cluster IP, also where the
same name is taken by services in different roles. -/
theorem services_history {strategy : ServiceStrategy} {namespace_ : String}
    {slots₁ slots₂ : List ServiceSlot} {S₁ S₂ : Latest.Stack} {C₁ C₂ E : Map Service}
    (h₁ : ∀ slot ∈ slots₁, slot.1.strategy = strategy ∧ slot.1.stackNamespace = namespace_)
    (h₂ : ∀ slot ∈ slots₂, slot.1.strategy = strategy ∧ slot.1.stackNamespace = namespace_)
    (hC₁ : ∀ k, C₁.lookup k = settle serviceComparison (server.store .service) ∅
      ((byKey (desiredServices ∅ slots₁)).mapValues (setOwner S₁)) k)
    (hC₂ : ∀ k, C₂.lookup k = settle serviceComparison (server.store .service) C₁
      ((byKey (desiredServices C₁ slots₂)).mapValues (setOwner S₂)) k)
    (hE : ∀ k, E.lookup k = settle serviceComparison (server.store .service) ∅
      ((byKey (desiredServices ∅ slots₂)).mapValues (setOwner S₂)) k) :
    SameBut Service.spec (fun o y x => x = inheritService o y) C₁ C₂ E := by
  intro k
  rcases lookup_settledServices server hE k with
    ⟨hlast, hEk⟩ | ⟨slot, y, hlast, hEk, hspecy, hlabelsy⟩ <;>
  rcases lookup_settledServices server hC₂ k with
    ⟨hlast', hC₂k⟩ | ⟨slot', x, hlast', hC₂k, hspecx, hlabelsx⟩
  · rw [hEk, hC₂k]
    exact .none
  · cases hlast.symm.trans hlast'
  · cases hlast.symm.trans hlast'
  · cases hlast.symm.trans hlast'
    rw [hEk, hC₂k]
    refine .some ⟨hlabelsx.trans hlabelsy.symm, ?_⟩
    rw [getOriginal_of_none (Finmap.lookup_empty k)] at hspecy
    obtain ⟨hslot, hkey⟩ := lastWith_eq_some hlast
    obtain ⟨hstrategy, hns⟩ := h₂ slot hslot
    -- what was there before: nothing, or a service built from nothing in some role
    have hbefore : ∃ role', BuiltService slot.1.strategy role' (getOriginal C₁ k).spec ∧
        (slot.2 = .randomPorts → role' ≠ some .published) := by
      rcases lookup_settledServices server hC₁ k with
        ⟨-, hnone⟩ | ⟨slot₁, o, hlast₁, ho, hspec, -⟩
      · rw [getOriginal_of_none hnone]
        exact ⟨none, builtService_default _, fun _ h => nomatch h⟩
      · obtain ⟨hslot₁, hkey₁⟩ := lastWith_eq_some hlast₁
        obtain ⟨hstrategy₁, hns₁⟩ := h₁ slot₁ hslot₁
        refine ⟨some slot₁.2, ?_, ?_⟩
        · rw [getOriginal_of_lookup ho, hspec, getOriginal_of_none (Finmap.lookup_empty k),
            hstrategy, ← hstrategy₁]
          exact builtService_spec ..
        · intro hrole hrole₁
          have hnames := hkey₁.trans hkey.symm
          rw [ServiceSlot.key, ServiceSlot.key, hns, hns₁, objKey_inj, hrole,
            Option.some.inj hrole₁] at hnames
          exact ServiceRole.published_ne_randomPorts _ _ hnames
    obtain ⟨role', hbuilt, hroles⟩ := hbefore
    rw [hspecx, hspecy]
    exact spec_of_built _ _ _ _ hbuilt hroles

end Services

/-! ## The whole stack -/

/-- The children `C₂`, reconciled on top of `C₁`, and the children `E`, reconciled
from nothing: the same children with the same labels, and the same specs but
for what is inherited. -/
structure History (C₁ C₂ E : StackState) : Prop where
  deployments : SameBut Deployment.spec
    (Inherits (fun s => s.template.spec)
      (fun s p => { s with template := { s.template with spec := p } }) inheritDeployment)
    C₁.deployments C₂.deployments E.deployments
  statefulsets : SameBut StatefulSet.spec
    (Inherits (fun s => s.template.spec)
      (fun s p => { s with template := { s.template with spec := p } }) inheritStatefulset)
    C₁.statefulsets C₂.statefulsets E.statefulsets
  daemonsets : SameBut DaemonSet.spec
    (Inherits (fun s => s.template.spec)
      (fun s p => { s with template := { s.template with spec := p } }) inheritDaemonset)
    C₁.daemonsets C₂.daemonsets E.daemonsets
  services : SameBut Service.spec (fun o y x => x = inheritService o y)
    C₁.services C₂.services E.services

/-- The services of a dirty stack convert whatever the current children are. -/
theorem exists_toStackResources_dirty {ctx : ServiceContext} {C : StackState} (C' : StackState)
    (h : ∃ rs, toStackResources ctx C true = .ok rs) :
    ∃ rs, toStackResources ctx C' true = .ok rs := by
  rw [exists_toStackResources_iff, skipsWorkload_dirty] at h ⊢
  exact h

/-- Whether a dirty stack can be converted does not depend on what is there. -/
theorem exists_stackToStack_dirty {rt : Runtime} {stack : Latest.Stack}
    {strategy : ServiceStrategy} {C D : StackState} (C' : StackState)
    (hdirty : isStackDirty stack.status = true)
    (h : (stackToStack rt stack strategy C).1 = .ok D) :
    ∃ D', (stackToStack rt stack strategy C').1 = .ok D' := by
  obtain ⟨spec, hspec, -⟩ := children_of_stackToStack h
  obtain ⟨hne, hall⟩ := (exists_stackToStack_iff hspec).mp ⟨D, h⟩
  rw [hdirty] at hall
  refine (exists_stackToStack_iff hspec).mpr ⟨hne, fun ctx hctx => ?_⟩
  rw [hdirty]
  exact exists_toStackResources_dirty C' (hall ctx hctx)

/-- What the slots of a stack have in common. -/
theorem serviceSlots_stackContexts {rt : Runtime} {stack : Latest.Stack} {spec : Latest.StackSpec}
    {strategy : ServiceStrategy} :
    ∀ slot ∈ serviceSlots (stackContexts rt stack spec strategy),
      slot.1.strategy = strategy ∧ slot.1.stackNamespace = stack.objectMeta.namespace_ := by
  intro slot hslot
  have hctx := (mem_serviceSlots.mp hslot).1
  exact ⟨stackContexts_strategy slot.1 hctx, stackContexts_namespace slot.1 hctx⟩

/-- A reconciliation, after another one. -/
theorem Children.history {server : Server} {strategy : ServiceStrategy} {namespace_ : String}
    {ctxs₁ ctxs₂ : List ServiceContext} {dirty : Bool} {S₁ S₂ : Latest.Stack}
    {C₁ C₂ E D₁ D₂ D : StackState}
    (hslots₁ : ∀ slot ∈ serviceSlots ctxs₁,
      slot.1.strategy = strategy ∧ slot.1.stackNamespace = namespace_)
    (hslots₂ : ∀ slot ∈ serviceSlots ctxs₂,
      slot.1.strategy = strategy ∧ slot.1.stackNamespace = namespace_)
    (hC₁ : C₁.Keyed namespace_)
    (h₁ : Children ctxs₁ emptyStackState dirty D₁)
    (hs₁ : Settled server emptyStackState (setStackOwnership D₁ S₁) C₁)
    (h₂ : Children ctxs₂ C₁ true D₂) (hs₂ : Settled server C₁ (setStackOwnership D₂ S₂) C₂)
    (h : Children ctxs₂ emptyStackState true D)
    (hs : Settled server emptyStackState (setStackOwnership D S₂) E) : History C₁ C₂ E := by
  obtain ⟨⟨_, hdep₁, hDdep₁⟩, ⟨_, hsts₁, hDsts₁⟩, ⟨_, hds₁, hDds₁⟩, hsvc₁⟩ := h₁
  obtain ⟨⟨_, hdep₂, hDdep₂⟩, ⟨_, hsts₂, hDsts₂⟩, ⟨_, hds₂, hDds₂⟩, hsvc₂⟩ := h₂
  obtain ⟨⟨_, hdep, hDdep⟩, ⟨_, hsts, hDsts⟩, ⟨_, hds, hDds⟩, hsvc⟩ := h
  obtain ⟨hsdep₁, hssts₁, hsds₁, hssvc₁⟩ := hs₁
  obtain ⟨hsdep₂, hssts₂, hsds₂, hssvc₂⟩ := hs₂
  obtain ⟨hsdep, hssts, hsds, hssvc⟩ := hs
  simp only [setStackOwnership, hDdep₁, hDsts₁, hDds₁, hsvc₁] at hsdep₁ hssts₁ hsds₁ hssvc₁
  simp only [setStackOwnership, hDdep₂, hDsts₂, hDds₂, hsvc₂] at hsdep₂ hssts₂ hsds₂ hssvc₂
  simp only [setStackOwnership, hDdep, hDsts, hDds, hsvc] at hsdep hssts hsds hssvc
  -- kind by kind
  constructor
  · exact workloads_history deploymentKind_lawful deployment_inheritance server .deployment
      hC₁.deployments hdep₁ hsdep₁ hdep₂ hsdep₂ hdep hsdep
  · exact workloads_history statefulsetKind_lawful statefulset_inheritance server .statefulset
      hC₁.statefulsets hsts₁ hssts₁ hsts₂ hssts₂ hsts hssts
  · exact workloads_history daemonsetKind_lawful daemonset_inheritance server .daemonset
      hC₁.daemonsets hds₁ hsds₁ hds₂ hsds₂ hds hsds
  · exact services_history server hslots₁ hslots₂ hssvc₁ hssvc₂ hssvc

/-- A second reconciliation leaves what the children of the first hand down. -/
theorem history_of_reconcileChildren {rt : Runtime} {server : Server} {ord : DiffOrder}
    {strategy : ServiceStrategy} {S₁ S₂ : Latest.Stack} {C₁ C₂ E : StackState}
    (hns : S₁.objectMeta.namespace_ = S₂.objectMeta.namespace_)
    (hdirty : isStackDirty S₂.status = true)
    (h₁ : reconcileChildren rt server ord strategy S₁ emptyStackState = .ok C₁)
    (h₂ : reconcileChildren rt server ord strategy S₂ C₁ = .ok C₂)
    (hE : reconcileChildren rt server ord strategy S₂ emptyStackState = .ok E) :
    History C₁ C₂ E := by
  have hC₁ : C₁.Keyed S₂.objectMeta.namespace_ :=
    hns ▸ reconcileChildren_keyed (emptyStackState_keyed _) h₁
  obtain ⟨D₁, hD₁, hs₁⟩ := (reconcileChildren_ok_iff (emptyStackState_keyed _)).mp h₁
  obtain ⟨D₂, hD₂, hs₂⟩ := (reconcileChildren_ok_iff hC₁).mp h₂
  obtain ⟨D, hD, hs⟩ := (reconcileChildren_ok_iff (emptyStackState_keyed _)).mp hE
  obtain ⟨spec₁, -, hchildren₁⟩ := children_of_stackToStack hD₁
  obtain ⟨spec₂, hspec₂, hchildren₂⟩ := children_of_stackToStack hD₂
  obtain ⟨spec, hspec, hchildren⟩ := children_of_stackToStack hD
  -- the update and the fresh start convert the same specification
  obtain rfl : spec = spec₂ := Option.some.inj (hspec.symm.trans hspec₂)
  rw [hdirty] at hchildren hchildren₂
  refine Children.history ?_ serviceSlots_stackContexts hC₁ hchildren₁ hs₁ hchildren₂ hs₂
    hchildren hs
  rw [← hns]
  exact serviceSlots_stackContexts

/-- **What a stack keeps of its past.** Reconcile `S₁` from no children and then
`S₂`, which is dirty: that goes through when `S₂` alone does, and leaves the
children of `S₂` alone with the same labels and, up to what they inherit from
the children of `S₁`, the same specs. -/
theorem reconcileChildren_history (rt : Runtime) (server : Server) (ord : DiffOrder)
    (strategy : ServiceStrategy) (S₁ S₂ : Latest.Stack) (C₁ E : StackState)
    (hns : S₁.objectMeta.namespace_ = S₂.objectMeta.namespace_)
    (hdirty : isStackDirty S₂.status = true)
    (h₁ : reconcileChildren rt server ord strategy S₁ emptyStackState = .ok C₁)
    (hE : reconcileChildren rt server ord strategy S₂ emptyStackState = .ok E) :
    ∃ C₂, reconcileChildren rt server ord strategy S₂ C₁ = .ok C₂ ∧ History C₁ C₂ E := by
  have hC₁ : C₁.Keyed S₂.objectMeta.namespace_ :=
    hns ▸ reconcileChildren_keyed (emptyStackState_keyed _) h₁
  obtain ⟨D, hD, -⟩ := (reconcileChildren_ok_iff (emptyStackState_keyed _)).mp hE
  obtain ⟨D₂, hD₂⟩ := exists_stackToStack_dirty C₁ hdirty hD
  obtain ⟨C₂, hC₂⟩ := exists_reconcileChildren server ord hC₁ hD₂
  exact ⟨C₂, hC₂, history_of_reconcileChildren hns hdirty h₁ hC₂ hE⟩

/-- A service with a grace period of twenty seconds. -/
def patientService : Latest.ServiceConfig :=
  { webService with stopGracePeriod := some 20000000000 }

/-- The example stacks, reconciled on the constant server. -/
def reconcileExample : Latest.Stack → StackState → Except ReconcileError StackState :=
  reconcileChildren Runtime.reference Server.constant (RangeOrder.ascending DiffLoop) .loadBalancer

/-- The grace period is taken away from a service. -/
theorem reconcileChildren_history_patientService :
    ∃ C₁ C₂ E, reconcileExample (stackOf [patientService]) emptyStackState = .ok C₁ ∧
      reconcileExample webStack C₁ = .ok C₂ ∧
      reconcileExample webStack emptyStackState = .ok E ∧ History C₁ C₂ E := by
  obtain ⟨C₁, hC₁⟩ : ∃ C₁, reconcileExample (stackOf [patientService]) emptyStackState = .ok C₁ :=
    exists_reconcileChildren _ _ (emptyStackState_keyed _) rfl
  obtain ⟨E, hE⟩ : ∃ E, reconcileExample webStack emptyStackState = .ok E :=
    exists_reconcileChildren _ _ (emptyStackState_keyed _) rfl
  obtain ⟨C₂, hC₂, hhistory⟩ := reconcileChildren_history _ _ _ _ (stackOf [patientService])
    webStack C₁ E rfl (by decide) hC₁ hE
  exact ⟨C₁, C₂, E, hC₁, hC₂, hE, hhistory⟩

/-- **A setting that was taken away stays.** The service no longer asks for a grace
period, but its Deployment keeps the one it had. -/
theorem reconcileChildren_keeps_gracePeriod :
    ∃ C₁ C₂ E, reconcileExample (stackOf [patientService]) emptyStackState = .ok C₁ ∧
      reconcileExample webStack C₁ = .ok C₂ ∧
      reconcileExample webStack emptyStackState = .ok E ∧
      (C₂.deployments.lookup "prod/web").map
        (·.spec.template.spec.terminationGracePeriodSeconds) = some (some 20) ∧
      (E.deployments.lookup "prod/web").map
        (·.spec.template.spec.terminationGracePeriodSeconds) = some none ∧ ¬C₂.SameSpecs E := by
  obtain ⟨C₁, hC₁, hgrace₁⟩ : ∃ C₁,
      reconcileExample (stackOf [patientService]) emptyStackState = .ok C₁ ∧
      (getOriginal C₁.deployments "prod/web").spec.template.spec.terminationGracePeriodSeconds =
        some 20 := ⟨_, rfl, rfl⟩
  obtain ⟨E, hE, hgraceE⟩ : ∃ E, reconcileExample webStack emptyStackState = .ok E ∧
      (E.deployments.lookup "prod/web").map
        (·.spec.template.spec.terminationGracePeriodSeconds) = some none := ⟨_, rfl, rfl⟩
  have hns : (stackOf [patientService]).objectMeta.namespace_ = webStack.objectMeta.namespace_ :=
    rfl
  have hC₁keyed : C₁.Keyed webStack.objectMeta.namespace_ :=
    hns ▸ reconcileChildren_keyed (emptyStackState_keyed _) hC₁
  obtain ⟨D₂, hD₂⟩ := exists_stackToStack_dirty C₁ (by decide)
    (show (stackToStack Runtime.reference webStack .loadBalancer emptyStackState).1 = .ok _
      from rfl)
  obtain ⟨C₂, hC₂⟩ := exists_reconcileChildren Server.constant (RangeOrder.ascending DiffLoop)
    hC₁keyed hD₂
  -- built anew or left alone, the Deployment has the grace period of the one in `C₁`
  have hgrace₂ : (C₂.deployments.lookup "prod/web").map
      (·.spec.template.spec.terminationGracePeriodSeconds) = some (some 20) := by
    have hrel := (history_of_reconcileChildren hns (by decide) hC₁ hC₂ hE).deployments "prod/web"
    obtain ⟨y, hy, hgracey⟩ := Option.map_eq_some_iff.mp hgraceE
    rw [hy] at hrel
    cases hx : C₂.deployments.lookup "prod/web" with
    | none =>
      rw [hx] at hrel
      cases hrel
    | some x =>
      rw [hx] at hrel
      obtain ⟨-, hspec | ⟨hspec, -⟩⟩ := Option.rel_some_some.mp hrel
      · rw [Option.map_some, hspec]
        show some (y.spec.template.spec.terminationGracePeriodSeconds.or _) = _
        rw [hgracey, hgrace₁]
        rfl
      · rw [Option.map_some, hspec, hgrace₁]
  refine ⟨C₁, C₂, E, hC₁, hC₂, hE, hgrace₂, hgraceE, fun hsame => ?_⟩
  have hspecs := congrArg
    (Option.map fun p : DeploymentSpec × _ => p.1.template.spec.terminationGracePeriodSeconds)
    (hsame.deployments "prod/web")
  rw [Option.map_map, Option.map_map] at hspecs
  exact absurd (hgrace₂.symm.trans (hspecs.trans hgraceE)) (by decide)

end ComposeKube

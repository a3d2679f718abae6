import ComposeKube.Controller.Apply

/-!
# Diff soundness and completeness

The difference between the current and the desired children, executed in the
updater's order, turns the one into the other:

* what is desired is there afterwards and nothing else is;
* an object that compares equal is left alone, and only such an object is;
* every other desired object is stored as it was desired;
* a difference towards a converted stack always goes through.
-/

namespace ComposeKube

open Go

/-- The object `o` is the object `d` as a server stores it: it may differ in the
resource version and in the generation. -/
def StoredAs {α : Type} [KubeObject α] (d o : α) : Prop :=
  ∃ resourceVersion generation,
    o = setMeta d { getMeta d with resourceVersion := resourceVersion, generation := generation }

/-- The server stores what it is sent. -/
theorem storedAs_store {α : Type} [KubeObject α] (server : Server) (kind : ChildKind) (d : α) :
    StoredAs d (server.store kind d) := ⟨_, _, rfl⟩

/-- So it does when the version was adopted first. -/
theorem storedAs_store_adopt {α : Type} [KubeObject α] (server : Server) (kind : ChildKind)
    (c d : α) : StoredAs d (server.store kind (adoptResourceVersion c d)) := by
  refine ⟨(server.assign kind (getMeta (adoptResourceVersion c d))).1,
    (server.assign kind (getMeta (adoptResourceVersion c d))).2, ?_⟩
  simp [Server.store, adoptResourceVersion]

/-- The labels are stored as they were sent. -/
theorem StoredAs.labels {α : Type} [KubeObject α] {d o : α} (h : StoredAs d o) :
    (getMeta o).labels = (getMeta d).labels := by
  obtain ⟨_, _, rfl⟩ := h
  rw [KubeObject.getMeta_setMeta]

/-- **What a desired key holds afterwards**: the current object if that compares
equal, and otherwise the desired object, stored. -/
theorem lookup_settled {α : Type} [KubeObject α] {cmp : Comparison α} (server : Server)
    (kind : ChildKind) (hadopt : cmp.adopt = adoptResourceVersion) {C D C' : Map α}
    (hC' : ∀ k, C'.lookup k = settle cmp (server.store kind) C D k) {k : String} {d : α}
    (hDk : D.lookup k = some d) :
    (∃ c, C.lookup k = some c ∧ cmp.same c d = true ∧ C'.lookup k = some c) ∨
    ((∀ c, C.lookup k = some c → cmp.same c d = false) ∧
      ∃ o, C'.lookup k = some o ∧ StoredAs d o) := by
  rw [hC' k, settle, hDk]
  cases hCk : C.lookup k with
  -- created
  | none => exact Or.inr ⟨(fun c hc => nomatch hc), _, rfl, storedAs_store server kind d⟩
  | some c =>
    by_cases hsame : cmp.same c d = true
    · exact Or.inl ⟨c, rfl, hsame, if_pos hsame⟩
    · refine Or.inr ⟨?_, ?_⟩
      · intro c' hc'
        cases hc'
        exact Bool.eq_false_iff.mpr hsame
      · -- a re-created object is the desired one, an updated one adopts a version first
        simp only [if_neg hsame]
        by_cases hre : cmp.recreate c d = true
        · exact ⟨_, if_pos hre, storedAs_store server kind d⟩
        · refine ⟨_, if_neg hre, ?_⟩
          rw [hadopt]
          exact storedAs_store_adopt server kind c d

/-- A settled map is kept well: what is in it was in one of the two maps. -/
theorem settled_keyed {α : Type} [KubeObject α] {cmp : Comparison α} (server : Server)
    (kind : ChildKind) (hadopt : cmp.adopt = adoptResourceVersion) {namespace_ : String}
    {C D C' : Map α} (hC' : ∀ k, C'.lookup k = settle cmp (server.store kind) C D k)
    (hC : Keyed namespace_ C) (hD : Keyed namespace_ D) : Keyed namespace_ C' := by
  intro k x hx
  cases hDk : D.lookup k with
  | none =>
    rw [hC' k, settle, hDk] at hx
    cases hx
  | some d =>
    rcases lookup_settled server kind hadopt hC' hDk with ⟨c, hCk, -, hc⟩ | ⟨-, o, ho, hstored⟩
    · -- kept as it was
      cases hx.symm.trans hc
      exact hC k x hCk
    · cases hx.symm.trans ho
      obtain ⟨_, _, rfl⟩ := hstored
      simpa [keyOf] using hD k d hDk

/-- What comes out is filed as what went in. -/
theorem Settled.keyed {server : Server} {C D C' : StackState} {namespace_ : String}
    (h : Settled server C D C') (hC : C.Keyed namespace_) (hD : D.Keyed namespace_) :
    C'.Keyed namespace_ where
  deployments := settled_keyed server .deployment rfl h.deployments hC.deployments hD.deployments
  statefulsets :=
    settled_keyed server .statefulset rfl h.statefulsets hC.statefulsets hD.statefulsets
  daemonsets := settled_keyed server .daemonset rfl h.daemonsets hC.daemonsets hD.daemonsets
  services := settled_keyed server .service rfl h.services hC.services hD.services

/-- The changes `ch`, executed on a store holding `C`, have left `C'`. -/
structure Executed {α : Type} [KubeObject α] (same : α → α → Bool) (namespace_ : String)
    (ch : Changes α) (C D C' : Map α) : Prop where
  /-- exactly the keys of `D` are there -/
  keys : ∀ k, k ∈ C' ↔ k ∈ D
  /-- an object that compares equal is the current one -/
  kept : ∀ k c d, C.lookup k = some c → D.lookup k = some d → same c d = true →
    C'.lookup k = some c
  /-- every other object is the desired one -/
  written : ∀ k d, D.lookup k = some d → (∀ c, C.lookup k = some c → same c d = false) →
    ∃ o, C'.lookup k = some o ∧ StoredAs d o
  /-- no operation names a key exactly when both have it and compare equal -/
  untouched : ∀ k, k ∈ C ∨ k ∈ D →
    ((∀ x ∈ ch.toAdd ++ ch.toDelete ++ ch.toUpdate, nameKey namespace_ x ≠ k) ↔
      ∃ c d, C.lookup k = some c ∧ D.lookup k = some d ∧ same c d = true)

/-- A settled store is one on which the changes have been executed. -/
theorem executed_of_settled {α : Type} [KubeObject α] {cmp : Comparison α} {namespace_ : String}
    {C D : Map α} {ch : Changes α} (server : Server) (kind : ChildKind)
    (hadopt : cmp.adopt = adoptResourceVersion)
    (h : IsDiff cmp (nameKey namespace_) C D ch) (hC : Keyed namespace_ C)
    (hD : Keyed namespace_ D) {C' : Map α}
    (hC' : ∀ k, C'.lookup k = settle cmp (server.store kind) C D k) :
    Executed cmp.same namespace_ ch C D C' := by
  have hkeys : ∀ c d, nameKey namespace_ (cmp.adopt c d) = nameKey namespace_ d := by
    rw [hadopt]
    exact nameKey_adoptResourceVersion namespace_
  constructor
  case keys =>
    intro k
    rw [Finmap.mem_iff, Finmap.mem_iff, hC' k]
    exact settle_isSome _ k
  -- an object that is the same as the wanted one is not touched
  case kept =>
    intro k c d hCk hDk hsame
    rcases lookup_settled server kind hadopt hC' hDk with ⟨c', hCk', -, hc'⟩ | ⟨hdiff, -⟩
    · cases hCk.symm.trans hCk'
      exact hc'
    · rw [hdiff c hCk] at hsame
      cases hsame
  -- and one that is not has been written
  case written =>
    intro k d hDk hdiff
    rcases lookup_settled server kind hadopt hC' hDk with ⟨c, hCk, hsame, -⟩ | ⟨-, hwritten⟩
    · rw [hdiff c hCk] at hsame
      cases hsame
    · exact hwritten
  case untouched =>
    exact fun k hk => h.untouched_iff hC.filedBy hD.filedBy hkeys hk

/-! ## Differences towards a converted stack -/

/-- The objects of `D` that would be created carry no resource version: an
object that is missing in `C` was built from nothing, and a service is always
built with new metadata. -/
structure Fresh (C D : StackState) : Prop where
  deployments : ∀ k x, D.deployments.lookup k = some x → C.deployments.lookup k = none →
    x.objectMeta.resourceVersion = ""
  statefulsets : ∀ k x, D.statefulsets.lookup k = some x → C.statefulsets.lookup k = none →
    x.objectMeta.resourceVersion = ""
  daemonsets : ∀ k x, D.daemonsets.lookup k = some x → C.daemonsets.lookup k = none →
    x.objectMeta.resourceVersion = ""
  services : ∀ k x, D.services.lookup k = some x → x.objectMeta.resourceVersion = ""

/-- Objects with no version of their own can be created. -/
theorem creatable_of_fresh {C D : StackState} (ord : DiffOrder) {namespace_ : String}
    (hD : D.Keyed namespace_) (h : Fresh C D) : Creatable (computeDiff ord C D) := by
  -- workloads are never recreated, so that what is added was not there; services may be
  obtain ⟨hdep, hsts, hds, hsvc⟩ := computeDiff_isDiff ord C hD
  constructor
  · intro x hx
    obtain ⟨k, hDk, hnone | ⟨c, -, -, hre⟩⟩ := (hdep.mem_toAdd x).mp hx
    · exact h.deployments k x hDk hnone
    · cases hre
  · intro x hx
    obtain ⟨k, hDk, hnone | ⟨c, -, -, hre⟩⟩ := (hsts.mem_toAdd x).mp hx
    · exact h.statefulsets k x hDk hnone
    · cases hre
  · intro x hx
    obtain ⟨k, hDk, hnone | ⟨c, -, -, hre⟩⟩ := (hds.mem_toAdd x).mp hx
    · exact h.daemonsets k x hDk hnone
    · cases hre
  · intro x hx
    obtain ⟨k, hDk, -⟩ := (hsvc.mem_toAdd x).mp hx
    exact h.services k x hDk

/-- A workload without a current object is built with new metadata. -/
theorem toWorkloads_fresh {α : Type} [KubeObject α] [Inhabited α] {kind : WorkloadKind α}
    (hkind : kind.Lawful) {namespace_ : String} {m : Map α} (hm : Keyed namespace_ m)
    {ctxs : List ServiceContext} {stackDirty : Bool} {l : List α}
    (h : toWorkloads kind stackDirty m ctxs = .ok l) {k : String} {x : α}
    (hx : (byKey l).lookup k = some x) (hnone : m.lookup k = none) :
    (getMeta x).resourceVersion = "" := by
  obtain ⟨ctx, -, hx⟩ := (lookup_workload_iff hkind hm.filedByKey h k x).mp hx
  rcases toWorkload_eq_ok.mp hx with ⟨hskip, -⟩ | ⟨-, parts, -, rfl⟩
  · rw [exists_lookup_of_skips hkind hskip] at hnone
    cases hnone
  · obtain ⟨annotations, hmeta⟩ := getMeta_desired hkind ctx parts (getOriginal m k)
    rw [hmeta]
    rfl

/-- The objects that a stack asks for are fresh where there is none yet. -/
theorem Children.fresh {ctxs : List ServiceContext} {C D : StackState} {stackDirty : Bool}
    {namespace_ : String} (h : Children ctxs C stackDirty D) (hC : C.Keyed namespace_) :
    Fresh C D := by
  obtain ⟨deployments, hdeployments, hDd⟩ := h.deployments
  obtain ⟨statefulsets, hstatefulsets, hDs⟩ := h.statefulsets
  obtain ⟨daemonsets, hdaemonsets, hDd'⟩ := h.daemonsets
  constructor
  · intro k x hx hnone
    rw [hDd] at hx
    exact toWorkloads_fresh deploymentKind_lawful hC.deployments hdeployments hx hnone
  · intro k x hx hnone
    rw [hDs] at hx
    exact toWorkloads_fresh statefulsetKind_lawful hC.statefulsets hstatefulsets hx hnone
  · intro k x hx hnone
    rw [hDd'] at hx
    exact toWorkloads_fresh daemonsetKind_lawful hC.daemonsets hdaemonsets hx hnone
  · intro k x hx
    -- a service is built without a version in any case
    rw [h.services, lookup_service_eq] at hx
    obtain ⟨slot, -, rfl⟩ := Option.map_eq_some_iff.mp hx
    rfl

/-- Owner references do not change what can be created. -/
theorem Fresh.setStackOwnership {C D : StackState} (h : Fresh C D) (stack : Latest.Stack) :
    Fresh C (setStackOwnership D stack) := by
  -- the owner is set in each object, which keeps its version
  constructor
  · intro k x hx hnone
    obtain ⟨y, hy, rfl⟩ := Option.map_eq_some_iff.mp ((Map.lookup_mapValues _ _ k).symm.trans hx)
    exact h.deployments k y hy hnone
  · intro k x hx hnone
    obtain ⟨y, hy, rfl⟩ := Option.map_eq_some_iff.mp ((Map.lookup_mapValues _ _ k).symm.trans hx)
    exact h.statefulsets k y hy hnone
  · intro k x hx hnone
    obtain ⟨y, hy, rfl⟩ := Option.map_eq_some_iff.mp ((Map.lookup_mapValues _ _ k).symm.trans hx)
    exact h.daemonsets k y hy hnone
  · intro k x hx
    obtain ⟨y, hy, rfl⟩ := Option.map_eq_some_iff.mp ((Map.lookup_mapValues _ _ k).symm.trans hx)
    exact h.services k y hy

/-- The objects to be created for a converted stack carry no resource version. -/
theorem creatable_of_stackToStack {rt : Runtime} {stack : Latest.Stack}
    {strategy : ServiceStrategy} {C D : StackState} (ord : DiffOrder)
    (hC : C.Keyed stack.objectMeta.namespace_)
    (h : (stackToStack rt stack strategy C).1 = .ok D) :
    (setStackOwnership D stack).Keyed stack.objectMeta.namespace_ ∧
      Creatable (computeDiff ord C (setStackOwnership D stack)) := by
  obtain ⟨spec, -, hchildren⟩ := children_of_stackToStack h
  have hD : (setStackOwnership D stack).Keyed stack.objectMeta.namespace_ :=
    setStackOwnership_keyed (hchildren.keyed hC stackContexts_namespace) stack
  exact ⟨hD, creatable_of_fresh ord hD ((hchildren.fresh hC).setStackOwnership stack)⟩

/-- **What reconciling leaves**: it succeeds when the stack converts, and settles
the current children towards the converted ones. -/
theorem reconcileChildren_ok_iff {rt : Runtime} {server : Server} {ord : DiffOrder}
    {strategy : ServiceStrategy} {stack : Latest.Stack} {C C' : StackState}
    (hC : C.Keyed stack.objectMeta.namespace_) :
    reconcileChildren rt server ord strategy stack C = .ok C' ↔
      ∃ D, (stackToStack rt stack strategy C).1 = .ok D ∧
        Settled server C (setStackOwnership D stack) C' := by
  unfold reconcileChildren
  -- what a conversion asks for can be created, which is the only other way to fail
  rw [bind_eq_ok]
  simp only [mapError_eq_ok]
  constructor
  · rintro ⟨D, hD, happly⟩
    obtain ⟨hkeyed, -⟩ := creatable_of_stackToStack ord hC hD
    exact ⟨D, hD, ((applyStackDiff_ok_iff server stack ord hC hkeyed).mp happly).2⟩
  · rintro ⟨D, hD, hsettled⟩
    obtain ⟨hkeyed, hcreate⟩ := creatable_of_stackToStack ord hC hD
    exact ⟨D, hD, (applyStackDiff_ok_iff server stack ord hC hkeyed).mpr ⟨hcreate, hsettled⟩⟩

/-- A stack that can be converted can be reconciled. -/
theorem exists_reconcileChildren {rt : Runtime} (server : Server) (ord : DiffOrder)
    {strategy : ServiceStrategy} {stack : Latest.Stack} {C D : StackState}
    (hC : C.Keyed stack.objectMeta.namespace_)
    (h : (stackToStack rt stack strategy C).1 = .ok D) :
    ∃ C', reconcileChildren rt server ord strategy stack C = .ok C' := by
  obtain ⟨hkeyed, hcreate⟩ := creatable_of_stackToStack ord hC h
  obtain ⟨C', happly⟩ := (exists_applyStackDiff_iff server stack ord hC hkeyed).mpr hcreate
  exact ⟨C', (reconcileChildren_ok_iff hC).mpr
    ⟨D, h, ((applyStackDiff_ok_iff server stack ord hC hkeyed).mp happly).2⟩⟩

/-- A reconciliation keeps objects under their keys. -/
theorem reconcileChildren_keyed {rt : Runtime} {server : Server} {ord : DiffOrder}
    {strategy : ServiceStrategy} {stack : Latest.Stack} {C C' : StackState}
    (hC : C.Keyed stack.objectMeta.namespace_)
    (h : reconcileChildren rt server ord strategy stack C = .ok C') :
    C'.Keyed stack.objectMeta.namespace_ := by
  obtain ⟨D, hD, hsettled⟩ := (reconcileChildren_ok_iff hC).mp h
  exact hsettled.keyed hC (creatable_of_stackToStack ord hC hD).1

/-- **Diff soundness and completeness.** Whatever children `D` are desired in the
namespace of the stack, executing the difference to the current children `C`
leaves `D` for every kind, in the sense of `Executed`; and when `D` is the
converted stack with owner references, no operation fails. -/
theorem applyStackDiff_sound_complete (server : Server) (ord : DiffOrder) (stack : Latest.Stack)
    (C : StackState) (hC : C.Keyed stack.objectMeta.namespace_) :
    (∀ D C' : StackState, D.Keyed stack.objectMeta.namespace_ →
      applyStackDiff server stack (computeDiff ord C D) C = .ok C' →
      Executed normalizeEqualDeployment stack.objectMeta.namespace_
        (computeDiff ord C D).deployments C.deployments D.deployments C'.deployments ∧
      Executed normalizeEqualStatefulset stack.objectMeta.namespace_
        (computeDiff ord C D).statefulsets C.statefulsets D.statefulsets C'.statefulsets ∧
      Executed normalizeEqualDaemonset stack.objectMeta.namespace_
        (computeDiff ord C D).daemonsets C.daemonsets D.daemonsets C'.daemonsets ∧
      Executed normalizeEqualService stack.objectMeta.namespace_
        (computeDiff ord C D).services C.services D.services C'.services) ∧
    (∀ (rt : Runtime) (strategy : ServiceStrategy) (D : StackState),
      (stackToStack rt stack strategy C).1 = .ok D →
      (setStackOwnership D stack).Keyed stack.objectMeta.namespace_ ∧
      ∃ C', applyStackDiff server stack (computeDiff ord C (setStackOwnership D stack)) C =
        .ok C') := by
  constructor
  · intro D C' hD happly
    obtain ⟨-, hsettled⟩ := (applyStackDiff_ok_iff server stack ord hC hD).mp happly
    obtain ⟨hdep, hsts, hds, hsvc⟩ := computeDiff_isDiff ord C hD
    exact ⟨executed_of_settled server .deployment rfl hdep hC.deployments hD.deployments
        hsettled.deployments,
      executed_of_settled server .statefulset rfl hsts hC.statefulsets hD.statefulsets
        hsettled.statefulsets,
      executed_of_settled server .daemonset rfl hds hC.daemonsets hD.daemonsets
        hsettled.daemonsets,
      executed_of_settled server .service rfl hsvc hC.services hD.services hsettled.services⟩
  · intro rt strategy D hstack
    obtain ⟨hD, hcreate⟩ := creatable_of_stackToStack ord hC hstack
    exact ⟨hD, (exists_applyStackDiff_iff server stack ord hC hD).mpr hcreate⟩

/-- A server that assigns the version 1 and keeps generations as they are. -/
def Server.constant : Server where
  assign _ m := ("1", m.generation)

/-- The children of `webStack` in a cluster that has changed since they were created: the
deployment is an empty one, another deployment is left over, and the internal service has an
address. The published service is as it was. -/
def driftedWeb : StackState :=
  let created := setStackOwnership ((stackToStack Runtime.reference webStack .loadBalancer
    emptyStackState).1.toOption.getD emptyStackState) webStack
  let named (name : String) : ObjectMeta :=
    { (default : ObjectMeta) with name := name, namespace_ := "prod" }
  { emptyStackState with
    deployments := byKey [{ (default : Deployment) with objectMeta := named "web" },
      { (default : Deployment) with objectMeta := named "old" }]
    services := byKey ({ (default : Service) with
        objectMeta := named "web"
        spec := { (default : ServiceSpec) with clusterIP := "10.0.0.6" } } ::
      (created.services.lookup "prod/web-published").toList) }

/-- The objects of the example are under their keys. -/
theorem driftedWeb_keyed : driftedWeb.Keyed "prod" where
  deployments := byKey_keyed (by decide +kernel)
  statefulsets := keyed_empty _
  daemonsets := keyed_empty _
  services := byKey_keyed (by decide +kernel)

/-- The difference updates the deployment, deletes the one that is left over, re-creates the
internal service and leaves the published one alone; and it goes through. -/
theorem applyStackDiff_webStack :
    ∃ D C', (stackToStack Runtime.reference webStack .loadBalancer driftedWeb).1 = .ok D ∧
      let diff := computeDiff (RangeOrder.ascending DiffLoop) driftedWeb
        (setStackOwnership D webStack)
      diff.deployments.toUpdate.map keyOf = ["prod/web"] ∧
      diff.deployments.toDelete.map keyOf = ["prod/old"] ∧
      diff.services.toDelete.map keyOf = ["prod/web"] ∧
      diff.services.toAdd.map keyOf = ["prod/web"] ∧
      diff.services.toUpdate = [] ∧
      C'.services.lookup "prod/web-published" =
        driftedWeb.services.lookup "prod/web-published" ∧
      applyStackDiff Server.constant webStack diff driftedWeb = .ok C' ∧
      Executed normalizeEqualDeployment "prod" diff.deployments driftedWeb.deployments
        (setStackOwnership D webStack).deployments C'.deployments ∧
      Executed normalizeEqualService "prod" diff.services driftedWeb.services
        (setStackOwnership D webStack).services C'.services := by
  obtain ⟨hexec, hok⟩ := applyStackDiff_sound_complete Server.constant
    (RangeOrder.ascending DiffLoop) webStack driftedWeb driftedWeb_keyed
  obtain ⟨hkeyed, C', hC'⟩ := hok Runtime.reference .loadBalancer _ rfl
  obtain ⟨hdeployments, -, -, hservices⟩ := hexec _ C' hkeyed hC'
  have hkept := hservices.kept "prod/web-published" _ _ rfl rfl rfl
  exact ⟨_, C', rfl, rfl, rfl, rfl, rfl, rfl, hkept, hC', hdeployments, hservices⟩
end ComposeKube

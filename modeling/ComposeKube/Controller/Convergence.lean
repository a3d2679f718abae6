import ComposeKube.Controller.Soundness

/-!
# One-step convergence

After the difference to the converted stack has been executed, converting the
same stack again asks for nothing: reconciliation reaches its fixed point in
one step, whatever the children looked like before and whatever resource
versions and generations the cluster assigns.

The argument goes key by key. A child is skipped (then it is what it was), or
compares equal to what was desired (then the same is desired again), or has
just been written. In the last case building it again on top of itself changes
neither spec nor labels, which is `Stable` for the four kinds.
-/

namespace ComposeKube

open Go

/-! ## Building on top of what was built -/

/-- The comparison of a kind does not tell a stored object from what is built on
top of it. -/
structure Stable {α : Type} [KubeObject α] (kind : WorkloadKind α) (same : α → α → Bool) :
    Prop where
  same_self : ∀ x, same x x = true
  same_desired : ∀ (ctx : ServiceContext) (parts : PodParts) (o x : α),
    StoredAs (ctx.desired kind parts o) x → same x (ctx.desired kind parts x) = true

/-- A strategy that was derived once is derived as itself. -/
theorem toDeploymentStrategy_idem (s : Latest.ServiceConfig) (o : DeploymentStrategy) :
    toDeploymentStrategy s (toDeploymentStrategy s o) = toDeploymentStrategy s o := by
  unfold toDeploymentStrategy
  cases updateParallelism s <;> rfl

/-- The strategy of a stateful set is derived as itself. -/
theorem toStatefulSetUpdateStrategy_idem (s : Latest.ServiceConfig)
    (o : StatefulSetUpdateStrategy) :
    toStatefulSetUpdateStrategy s (toStatefulSetUpdateStrategy s o) =
      toStatefulSetUpdateStrategy s o := by
  unfold toStatefulSetUpdateStrategy
  cases updateParallelism s <;> rfl

/-- **A deployment that was written is found to be as it should.** -/
theorem deployment_stable : Stable deploymentKind normalizeEqualDeployment where
  same_self x := normalizeEqual_of_eq rfl rfl
  same_desired ctx parts o x h := by
    refine normalizeEqual_of_eq ?_ ?_
    · have hspec : x.spec = (ctx.desired deploymentKind parts o).spec := by
        obtain ⟨_, _, rfl⟩ := h
        rfl
      -- the built spec is a function of the original spec, and a fixed point of it
      show x.spec = (toDeployment ctx.srv ctx.meta_ (ctx.fill parts x.spec.template)
        ctx.labelSelector x).spec
      unfold toDeployment
      rw [hspec]
      simp only [ServiceContext.desired, deploymentKind, toDeployment, ServiceContext.fill,
        forceRestartPolicy_fillPodTemplate _ _ _ _ _ .always (by decide),
        toDeploymentStrategy_idem]
    · rw [h.labels, labels_desired deploymentKind_lawful, labels_desired deploymentKind_lawful]

/-- Likewise for a stateful set. -/
theorem statefulset_stable : Stable statefulsetKind normalizeEqualStatefulset where
  same_self x := normalizeEqual_of_eq rfl rfl
  same_desired ctx parts o x h := by
    refine normalizeEqual_of_eq ?_ ?_
    · -- what is stored has the specification that was sent
      have hspec : x.spec = (ctx.desired statefulsetKind parts o).spec := by
        obtain ⟨_, _, rfl⟩ := h
        rfl
      show x.spec = (toStatefulSet ctx.srv ctx.meta_ (ctx.fill parts x.spec.template)
        ctx.labelSelector x).spec
      unfold toStatefulSet
      rw [hspec]
      simp only [ServiceContext.desired, statefulsetKind, toStatefulSet, ServiceContext.fill,
        forceRestartPolicy_fillPodTemplate _ _ _ _ _ .always (by decide),
        toStatefulSetUpdateStrategy_idem, toPersistentVolumeClaims_idem]
    · rw [h.labels, labels_desired statefulsetKind_lawful, labels_desired statefulsetKind_lawful]

/-- Likewise for a daemon set. -/
theorem daemonset_stable : Stable daemonsetKind normalizeEqualDaemonset where
  same_self x := normalizeEqual_of_eq rfl rfl
  same_desired ctx parts o x h := by
    refine normalizeEqual_of_eq ?_ ?_
    · -- what is stored has the specification that was sent
      have hspec : x.spec = (ctx.desired daemonsetKind parts o).spec := by
        obtain ⟨_, _, rfl⟩ := h
        rfl
      show x.spec = (toDaemonSet ctx.meta_ (ctx.fill parts x.spec.template)
        ctx.labelSelector x).spec
      unfold toDaemonSet
      rw [hspec]
      simp only [ServiceContext.desired, daemonsetKind, toDaemonSet, ServiceContext.fill,
        fillPodTemplate_idem]
    · rw [h.labels, labels_desired daemonsetKind_lawful, labels_desired daemonsetKind_lawful]

/-- Likewise for a service. -/
theorem service_stable (slot : ServiceSlot) (o x : Service) (h : StoredAs (slot.desired o) x) :
    normalizeEqualService x (slot.desired x) = true := by
  obtain ⟨_, _, rfl⟩ := h
  exact normalizeEqualService_of_eq (ServiceRole.spec_idem ..).symm rfl

/-! ## Key by key -/

section Workloads

variable {α : Type} [KubeObject α] [Inhabited α] {kind : WorkloadKind α} (hkind : kind.Lawful)
  {same : α → α → Bool} (hstable : Stable kind same)

include hkind hstable

/-- The workload of one service after the difference has been executed: it is
there, it converts again, and it compares equal to what it converts to. A stack
that was clean stays clean, so what was skipped is skipped again. -/
theorem toWorkload_settled (server : Server) (child : ChildKind) {C D C' : Map α}
    (hC' : ∀ k, C'.lookup k = settle (workloadComparison same) (server.store child) C D k)
    {ctx : ServiceContext} {dirty dirty' : Bool} (hdirty : dirty' = true → dirty = true) {d : α}
    (hd : toWorkload kind ctx dirty (getOriginal C ctx.key) = .ok d)
    (hDk : D.lookup ctx.key = some d) :
    ∃ x d', C'.lookup ctx.key = some x ∧
      toWorkload kind ctx dirty' (getOriginal C' ctx.key) = .ok d' ∧ same x d' = true := by
  -- whatever `x` is there: if `x` is skipped, or what is built on it compares equal, we are done
  have hdone : ∀ x, C'.lookup ctx.key = some x →
      (skips dirty' x = true ∨ ∃ parts, ctx.parts = .ok parts ∧
        same x (ctx.desired kind parts x) = true) →
      ∃ x d', C'.lookup ctx.key = some x ∧
        toWorkload kind ctx dirty' (getOriginal C' ctx.key) = .ok d' ∧ same x d' = true := by
    intro x hx hcase
    rw [getOriginal_of_lookup hx]
    by_cases hskip : skips dirty' x = true
    · exact ⟨x, x, hx, toWorkload_eq_ok.mpr (Or.inl ⟨hskip, rfl⟩), hstable.same_self x⟩
    · rcases hcase with h | ⟨parts, hparts, hsame⟩
      · exact absurd h hskip
      · exact ⟨x, _, hx, toWorkload_eq_ok.mpr (Or.inr ⟨by simpa using hskip, parts, hparts, rfl⟩),
          hsame⟩
  rcases toWorkload_eq_ok.mp hd with ⟨hskip, rfl⟩ | ⟨-, parts, hparts, rfl⟩
  · -- skipped: the object is as it was, and a stack that is clean now was clean before
    have hCk := exists_lookup_of_skips hkind hskip
    have hkept : C'.lookup ctx.key = some (getOriginal C ctx.key) := by
      rcases lookup_settled server child rfl hC' hDk with ⟨c, hc, -, hc'⟩ | ⟨hdiff, -⟩
      · cases hCk.symm.trans hc
        exact hc'
      · exact absurd (hstable.same_self _) (Bool.eq_false_iff.mp (hdiff _ hCk))
    refine hdone _ hkept (Or.inl ?_)
    cases dirty' with
    | false =>
      rw [skips, Bool.and_eq_true] at hskip
      rw [skips, hskip.2]
      rfl
    | true =>
      rw [hdirty rfl, skips, Bool.not_true, Bool.false_and] at hskip
      cases hskip
  · rcases lookup_settled server child rfl hC' hDk with ⟨c, hCk, hsame, hc'⟩ | ⟨-, o, ho, hstored⟩
    · rw [getOriginal_of_lookup hCk] at hsame
      exact hdone c hc' (Or.inr ⟨parts, hparts, hsame⟩)
    · exact hdone o ho (Or.inr ⟨parts, hparts, hstable.same_desired ctx parts _ o hstored⟩)

/-- **The workloads of one kind converge**: every service of the kind converts
again, and under every key the stored object compares equal to the desired one. -/
theorem workloads_converge (server : Server) (child : ChildKind) {namespace_ : String}
    {C C' : Map α} (hC : Keyed namespace_ C) {ctxs : List ServiceContext}
    (hkeys : (ctxs.map ServiceContext.key).Nodup) {dirty dirty' : Bool}
    (hdirty : dirty' = true → dirty = true) {l : List α}
    (hl : toWorkloads kind dirty C ctxs = .ok l)
    (hC' : ∀ k, C'.lookup k =
      settle (workloadComparison same) (server.store child) C (byKey l) k) :
    (∀ ctx ∈ ctxs, ∃ x d', C'.lookup ctx.key = some x ∧
      toWorkload kind ctx dirty' (getOriginal C' ctx.key) = .ok d' ∧ same x d' = true) ∧
    ∀ k, (∀ ctx ∈ ctxs, ctx.key ≠ k) → C'.lookup k = none := by
  have hlookup := lookup_workload_iff hkind hC.filedByKey hl
  constructor
  · -- no other service has the key, so that this one's workload was written there
    intro ctx hctx
    have hlast := lastWith_of_mem hkeys hctx
    obtain ⟨d, hd⟩ := exists_mapM_eq_ok_iff.mp ⟨l, hl⟩ ctx hctx
    exact toWorkload_settled hkind hstable server child hC' hdirty hd
      ((hlookup ctx.key d).mpr ⟨ctx, hlast, hd⟩)
  · -- no service wants an object here
    intro k hnone
    have hDk := lookup_workload_eq_none hkind hC.filedByKey hl (lastWith_eq_none.mpr hnone)
    rw [hC' k, settle, hDk]

omit hstable in
/-- Converged workloads and the workloads they convert to agree under every key. -/
theorem rel_of_converged {namespace_ : String} {C' : Map α} (hC' : Keyed namespace_ C')
    {ctxs : List ServiceContext} (hkeys : (ctxs.map ServiceContext.key).Nodup) {dirty' : Bool}
    (hall : ∀ ctx ∈ ctxs, ∃ x d', C'.lookup ctx.key = some x ∧
      toWorkload kind ctx dirty' (getOriginal C' ctx.key) = .ok d' ∧ same x d' = true)
    (hnone : ∀ k, (∀ ctx ∈ ctxs, ctx.key ≠ k) → C'.lookup k = none) {l' : List α}
    (hl' : toWorkloads kind dirty' C' ctxs = .ok l') (k : String) :
    Option.Rel (fun c d => same c d = true) (C'.lookup k) ((byKey l').lookup k) := by
  have hlookup := lookup_workload_iff hkind hC'.filedByKey hl'
  cases hlast : lastWith ServiceContext.key ctxs k with
  -- under a key of no service there is nothing, and nothing is wanted
  | none =>
    have hDk := lookup_workload_eq_none hkind hC'.filedByKey hl' hlast
    rw [hnone k (lastWith_eq_none.mp hlast), hDk]
    exact .none
  | some ctx =>
    obtain ⟨hctx, rfl⟩ := lastWith_eq_some hlast
    obtain ⟨x, d', hx, hd', hsame⟩ := hall ctx hctx
    rw [hx, (hlookup ctx.key d').mpr ⟨ctx, lastWith_of_mem hkeys hctx, hd'⟩]
    exact .some hsame

end Workloads

/-- **The services converge**, also where two slots claim one key: the last one
decides, in every run. -/
theorem services_converge (server : Server) {C C' : Map Service} {slots : List ServiceSlot}
    (hC' : ∀ k, C'.lookup k = settle serviceComparison (server.store .service) C
      (byKey (desiredServices C slots)) k) (k : String) :
    Option.Rel (fun c d => normalizeEqualService c d = true) (C'.lookup k)
      ((byKey (desiredServices C' slots)).lookup k) := by
  have hD := lookup_service_eq C slots k
  rw [lookup_service_eq]
  cases hlast : lastWith ServiceSlot.key slots k with
  | none =>
    rw [hlast] at hD
    rw [hC' k, settle, show (byKey (desiredServices C slots)).lookup k = none from hD]
    exact .none
  | some slot =>
    rw [hlast] at hD
    -- what is there is the current service, or the desired one as the server stored it
    have hcase : ∃ x, C'.lookup k = some x ∧ normalizeEqualService x (slot.desired x) = true := by
      rcases lookup_settled server .service rfl hC' hD with
        ⟨c, hCk, hsame, hc'⟩ | ⟨-, o, ho, hstored⟩
      · rw [getOriginal_of_lookup hCk] at hsame
        exact ⟨c, hc', hsame⟩
      · exact ⟨o, ho, service_stable slot _ o hstored⟩
    obtain ⟨x, hx, hsame⟩ := hcase
    rw [hx, Option.map_some, getOriginal_of_lookup hx]
    exact .some hsame

/-! ## The whole stack -/

/-- Services with distinct names claim distinct keys. -/
theorem stackContexts_keys_nodup (rt : Runtime) (stack : Latest.Stack) {spec : Latest.StackSpec}
    (strategy : ServiceStrategy) (hnames : (spec.services.elems.map (·.name)).Nodup) :
    ((stackContexts rt stack spec strategy).map ServiceContext.key).Nodup := by
  -- the keys are those of the services' names, in sorted order
  have hkeys : (stackContexts rt stack spec strategy).map ServiceContext.key =
      ((sortSpec rt spec).services.elems.map (·.name)).map
        (objKey stack.objectMeta.namespace_) := by
    unfold stackContexts serviceContexts
    rw [List.map_map, List.map_map]
    conv_rhs => rw [← List.zipIdx_map_fst 0 (sortSpec rt spec).services.elems, List.map_map]
    rfl
  rw [hkeys]
  exact (((sortSpec_services_perm rt spec).map _).nodup_iff.mpr hnames).map
    fun _ _ h => objKey_inj.mp h

/-- Sorting a spec with distinct names twice is sorting it once. -/
theorem sortSpec_idem (rt : Runtime) {spec : Latest.StackSpec}
    (hnames : (spec.services.elems.map (·.name)).Nodup) :
    sortSpec rt (sortSpec rt spec) = sortSpec rt spec := by
  unfold sortSpec
  cases hservices : spec.services with
  | none => rfl
  | some l =>
    rw [hservices] at hnames
    simp only [Option.map_some, rt.sortServices_idem (show (l.map (·.name)).Nodup from hnames)]

/-- Once the difference has been executed, the same services convert again and
ask for nothing. -/
theorem Children.converge {server : Server} {ctxs : List ServiceContext} {namespace_ : String}
    {C D C' : StackState} {dirty dirty' : Bool} (h : Children ctxs C dirty D)
    (hok : ∀ ctx ∈ ctxs, ∃ rs, toStackResources ctx C dirty = .ok rs)
    (hkeys : (ctxs.map ServiceContext.key).Nodup)
    (hns : ∀ ctx ∈ ctxs, ctx.stackNamespace = namespace_) (hC : C.Keyed namespace_)
    (hdirty : dirty' = true → dirty = true) (hsettled : Settled server C D C') :
    (∀ ctx ∈ ctxs, ∃ rs, toStackResources ctx C' dirty' = .ok rs) ∧
    ∀ D' ord, Children ctxs C' dirty' D' → (computeDiff ord C' D').empty := by
  have hkeysOf : ∀ w, ((contextsOf w ctxs).map ServiceContext.key).Nodup :=
    fun w => hkeys.sublist (List.filter_sublist.map _)
  have hC' : C'.Keyed namespace_ := hsettled.keyed hC (h.keyed hC hns)
  obtain ⟨hsdep, hssts, hsds, hssvc⟩ := hsettled
  obtain ⟨ldep, hldep, hDdep⟩ := h.deployments
  obtain ⟨lsts, hlsts, hDsts⟩ := h.statefulsets
  obtain ⟨lds, hlds, hDds⟩ := h.daemonsets
  rw [hDdep] at hsdep
  rw [hDsts] at hssts
  rw [hDds] at hsds
  rw [h.services] at hssvc
  -- kind by kind, every service finds its own workload as it should be
  obtain ⟨hdep, hdep'⟩ := workloads_converge deploymentKind_lawful deployment_stable server
    .deployment hC.deployments (hkeysOf _) hdirty hldep hsdep
  obtain ⟨hsts, hsts'⟩ := workloads_converge statefulsetKind_lawful statefulset_stable server
    .statefulset hC.statefulsets (hkeysOf _) hdirty hlsts hssts
  obtain ⟨hds, hds'⟩ := workloads_converge daemonsetKind_lawful daemonset_stable server
    .daemonset hC.daemonsets (hkeysOf _) hdirty hlds hsds
  constructor
  · -- the second conversion succeeds
    intro ctx hctx
    have hmem : ∀ w, workloadOf ctx.srv = w → ctx ∈ contextsOf w ctxs :=
      fun w hw => List.mem_filter.mpr ⟨hctx, decide_eq_true hw⟩
    refine exists_toStackResources_iff.mpr ⟨(exists_toStackResources_iff.mp (hok ctx hctx)).1, ?_⟩
    unfold ServiceContext.skipsWorkload
    cases hw : workloadOf ctx.srv with
    | deployment =>
      obtain ⟨_, d', -, hd', -⟩ := hdep ctx (hmem _ hw)
      exact exists_toWorkload_iff.mp ⟨d', hd'⟩
    | statefulset =>
      obtain ⟨_, d', -, hd', -⟩ := hsts ctx (hmem _ hw)
      exact exists_toWorkload_iff.mp ⟨d', hd'⟩
    | daemonset =>
      obtain ⟨_, d', -, hd', -⟩ := hds ctx (hmem _ hw)
      exact exists_toWorkload_iff.mp ⟨d', hd'⟩
  · -- and what it asks for is what is there
    intro D' ord h'
    obtain ⟨l1, hl1, hD1⟩ := h'.deployments
    obtain ⟨l2, hl2, hD2⟩ := h'.statefulsets
    obtain ⟨l3, hl3, hD3⟩ := h'.daemonsets
    obtain ⟨hdiff1, hdiff2, hdiff3, hdiff4⟩ := computeDiff_isDiff ord C' (h'.keyed hC' hns)
    refine ⟨hdiff1.isEmpty_iff.mpr ?_, hdiff2.isEmpty_iff.mpr ?_, hdiff3.isEmpty_iff.mpr ?_,
      hdiff4.isEmpty_iff.mpr ?_⟩
    · rw [hD1]
      exact rel_of_converged deploymentKind_lawful hC'.deployments (hkeysOf _) hdep hdep' hl1
    · rw [hD2]
      exact rel_of_converged statefulsetKind_lawful hC'.statefulsets (hkeysOf _) hsts hsts' hl2
    · rw [hD3]
      exact rel_of_converged daemonsetKind_lawful hC'.daemonsets (hkeysOf _) hds hds' hl3
    · rw [h'.services]
      exact services_converge server hssvc

/-- **One-step convergence.** Execute the difference between the children and the
converted stack. That goes through, and converting the stack again, with its
status unchanged or clean and its services as they were or as the conversion
left them, succeeds and asks for nothing. -/
theorem reconciliation_converges (rt : Runtime) (server : Server) (ord ord' : DiffOrder)
    (strategy : ServiceStrategy) (S S' : Latest.Stack) (C D : StackState)
    (hC : C.Keyed S.objectMeta.namespace_)
    (hnames : ∀ spec, S.spec = some spec → (spec.services.elems.map (·.name)).Nodup)
    (hD : (stackToStack rt S strategy C).1 = .ok D)
    (hmeta : S'.objectMeta = S.objectMeta)
    (hspec' : S'.spec = S.spec ∨ S'.spec = (stackToStack rt S strategy C).2.spec)
    (hstatus : S'.status = S.status ∨ isStackDirty S'.status = false) :
    ∃ C', applyStackDiff server S (computeDiff ord C D) C = .ok C' ∧
      ∃ D', (stackToStack rt S' strategy C').1 = .ok D' ∧ (computeDiff ord' C' D').empty := by
  obtain ⟨spec, hspec, hchildren⟩ := children_of_stackToStack hD
  obtain ⟨hne, hok⟩ := (exists_stackToStack_iff hspec).mp ⟨D, hD⟩
  have hDkeyed := hchildren.keyed hC stackContexts_namespace
  obtain ⟨C', hC'⟩ := (exists_applyStackDiff_iff server S ord hC hDkeyed).mpr
    (creatable_of_fresh ord hDkeyed (hchildren.fresh hC))
  obtain ⟨-, hsettled⟩ := (applyStackDiff_ok_iff server S ord hC hDkeyed).mp hC'
  have hdirty : isStackDirty S'.status = true → isStackDirty S.status = true := by
    rcases hstatus with h | h
    · exact fun h' => h ▸ h'
    · rw [h]
      exact fun h' => nomatch h'
  obtain ⟨hok', hempty⟩ := hchildren.converge hok
    (stackContexts_keys_nodup rt S strategy (hnames spec hspec)) stackContexts_namespace hC hdirty
    hsettled
  -- the second conversion sees the same sorted services
  have hsorted : (stackToStack rt S strategy C).2.spec = some (sortSpec rt spec) := by
    unfold stackToStack
    rw [hspec]
    simp [hne]
  obtain ⟨spec', hspec'', hne', hcontexts⟩ : ∃ spec', S'.spec = some spec' ∧
      spec'.services.elems ≠ [] ∧
      stackContexts rt S' spec' strategy = stackContexts rt S spec strategy := by
    unfold stackContexts
    rcases hspec' with h | h
    · exact ⟨spec, h.trans hspec, hne, by rw [hmeta]⟩
    · refine ⟨sortSpec rt spec, h.trans hsorted, ?_, ?_⟩
      · intro hnil
        have hperm := sortSpec_services_perm rt spec
        rw [hnil] at hperm
        exact hne hperm.nil_eq.symm
      · rw [hmeta, sortSpec_idem rt (hnames spec hspec)]
  refine ⟨C', hC', ?_⟩
  rw [← hcontexts] at hok' hempty
  obtain ⟨D', hD'⟩ := (exists_stackToStack_iff hspec'').mpr ⟨hne', hok'⟩
  obtain ⟨spec2, hspec2, hchildren'⟩ := children_of_stackToStack hD'
  obtain rfl : spec2 = spec' := Option.some.inj (hspec2.symm.trans hspec'')
  exact ⟨D', hD', hempty D' ord' hchildren'⟩

/-- The stack converges on an empty cluster, also after it has become available. -/
theorem reconciliation_converges_webStack :
    ∃ D C', (stackToStack Runtime.reference webStack .loadBalancer emptyStackState).1 = .ok D ∧
      applyStackDiff Server.constant webStack
        (computeDiff (RangeOrder.ascending DiffLoop) emptyStackState D) emptyStackState = .ok C' ∧
      ∃ D', (stackToStack Runtime.reference
          { webStack with status := some { phase := Latest.stackAvailable, message := "" } }
          .loadBalancer C').1 = .ok D' ∧
        (computeDiff (RangeOrder.ascending DiffLoop) C' D').empty := by
  obtain ⟨D, hD⟩ : ∃ D, (stackToStack Runtime.reference webStack .loadBalancer
      emptyStackState).1 = .ok D := ⟨_, rfl⟩
  obtain ⟨C', hC', hconverged⟩ := reconciliation_converges Runtime.reference Server.constant
    (RangeOrder.ascending DiffLoop) (RangeOrder.ascending DiffLoop) .loadBalancer webStack
    { webStack with status := some { phase := Latest.stackAvailable, message := "" } }
    emptyStackState D (emptyStackState_keyed _)
    (by rintro spec ⟨⟩; decide) hD rfl (Or.inl rfl) (Or.inr (by decide))
  exact ⟨D, C', hD, hC', hconverged⟩

end ComposeKube

import ComposeKube.Registry.Validate

/-!
# Names of generated objects

The objects of a stack are named after its services: a workload and an internal
service by the service's name, an exposed service by the name and a suffix.
`NewStackState` files them in maps, where an object silently replaces another
one of its kind and key.

The checks look at each name alone. What keeps the generated objects apart is a
condition on pairs of services, `NamesApart`.

* `kindKeys_disjoint_iff` — two services are apart when no object of the one has
  the kind and key of an object of the other.
* `newStackState_holds` — objects that are apart are all filed.
-/

namespace ComposeKube

open Go

/-! ## Kinds and keys -/

/-- The state holds the object, under its key. -/
def StackState.Holds (D : StackState) : Resource → Prop
  | .deployment d => D.deployments.lookup (keyOf d) = some d
  | .statefulset s => D.statefulsets.lookup (keyOf s) = some s
  | .daemonset d => D.daemonsets.lookup (keyOf d) = some d
  | .service s => D.services.lookup (keyOf s) = some s

/-- Objects of one kind, out of objects with distinct kinds and keys: each is found. -/
theorem lookup_byKey_of_nodup {α : Type} [KubeObject α] {as : Resource → Option α}
    {of : α → Resource} {kind : ChildKind} (has : ∀ r x, as r = some x ↔ of x = r)
    (hkind : ∀ x, (of x).kindKey = (kind, keyOf x)) {rs : List Resource}
    (h : (rs.map Resource.kindKey).Nodup) {x : α} (hx : of x ∈ rs) :
    (byKey (rs.filterMap as)).lookup (keyOf x) = some x := by
  -- the objects of one kind, among all of them
  have hsub : ((rs.filterMap as).map of).Sublist rs := by
    have hfilter : (rs.filterMap as).map of = rs.filter fun r => (as r).isSome := by
      rw [List.map_filterMap, ← List.filterMap_eq_filter]
      refine List.filterMap_congr fun r _ => ?_
      cases hr : as r with
      | none => simp [Option.guard, hr]
      | some y => simp [Option.guard, hr, (has r y).mp hr]
    rw [hfilter]
    exact List.filter_sublist
  have hkeys : ((rs.filterMap as).map keyOf).Nodup := by
    refine List.Nodup.of_map (Prod.mk kind) ?_
    have heq : ((rs.filterMap as).map keyOf).map (Prod.mk kind) =
        ((rs.filterMap as).map of).map Resource.kindKey := by
      rw [List.map_map, List.map_map]
      exact List.map_congr_left fun y _ => (hkind y).symm
    rw [heq]
    exact h.sublist (hsub.map _)
  rw [byKey, lookup_fileBy]
  exact lastWith_of_mem hkeys (List.mem_filterMap.mpr ⟨of x, hx, (has _ x).mpr rfl⟩)

/-- **Objects with distinct kinds and keys are all filed.** -/
theorem newStackState_holds {rs : List Resource} (h : (rs.map Resource.kindKey).Nodup)
    {r : Resource} (hr : r ∈ rs) : (newStackState rs).Holds r := by
  rw [newStackState_eq]
  cases r with
  | deployment d =>
    exact lookup_byKey_of_nodup (by rintro ⟨⟩ x <;> simp [Resource.asDeployment, eq_comm])
      (fun _ => rfl) h hr
  | statefulset s =>
    exact lookup_byKey_of_nodup (by rintro ⟨⟩ x <;> simp [Resource.asStatefulset, eq_comm])
      (fun _ => rfl) h hr
  | daemonset d =>
    exact lookup_byKey_of_nodup (by rintro ⟨⟩ x <;> simp [Resource.asDaemonset, eq_comm])
      (fun _ => rfl) h hr
  | service s =>
    exact lookup_byKey_of_nodup (by rintro ⟨⟩ x <;> simp [Resource.asService, eq_comm])
      (fun _ => rfl) h hr

/-! ## The objects of one service -/

/-- The kind of a workload as a child of the stack. -/
def Workload.childKind : Workload → ChildKind
  | deployment => .deployment
  | statefulset => .statefulset
  | daemonset => .daemonset

/-- The kinds and keys of the objects of a service. -/
def ServiceContext.kindKeys (ctx : ServiceContext) : List (ChildKind × String) :=
  (ctx.roles.map fun role => (ChildKind.service, ServiceSlot.key (ctx, role))) ++
    [((workloadOf ctx.srv).childKind, ctx.key)]

/-- The objects that `toStackResources` returns have these kinds and keys. -/
theorem map_kindKey_toStackResources {C : StackState} (hC : C.Filed) {ctx : ServiceContext}
    {stackDirty : Bool} {rs : List Resource} (h : toStackResources ctx C stackDirty = .ok rs) :
    rs.map Resource.kindKey = ctx.kindKeys := by
  obtain ⟨hdep, hsts, hds, -⟩ := hC.maps
  have hservices : ((serviceResources ctx C).map Resource.service).map Resource.kindKey =
      ctx.roles.map fun role => (ChildKind.service, ServiceSlot.key (ctx, role)) := by
    rw [serviceResources_eq, List.map_map, List.map_map]
    rfl
  -- the services come first, then the workload
  obtain ⟨hw, -, res, hres, rfl⟩ | ⟨hw, -, res, hres, rfl⟩ | ⟨hw, -, res, hres, rfl⟩ :=
    toStackResources_eq_ok h
  · rw [List.map_append, hservices, ServiceContext.kindKeys, hw,
      ← keyOf_toWorkload daemonsetKind_lawful hds hres]
    rfl
  · rw [List.map_append, hservices, ServiceContext.kindKeys, hw,
      ← keyOf_toWorkload statefulsetKind_lawful hsts hres]
    rfl
  · rw [List.map_append, hservices, ServiceContext.kindKeys, hw,
      ← keyOf_toWorkload deploymentKind_lawful hdep hres]
    rfl

/-! ## Two services -/

/-- The services share no name, and neither has the name of an exposed service
of the other. -/
structure NamesApart (s t : Latest.ServiceConfig) : Prop where
  name : s.name ≠ t.name
  published : ServiceRole.published.emitted s = true → t.name ≠ s.name ++ publishedServiceSuffix
  randomPorts : ServiceRole.randomPorts.emitted s = true →
    t.name ≠ s.name ++ publishedOnRandomPortSuffix
  published' : ServiceRole.published.emitted t = true → s.name ≠ t.name ++ publishedServiceSuffix
  randomPorts' : ServiceRole.randomPorts.emitted t = true →
    s.name ≠ t.name ++ publishedOnRandomPortSuffix

instance (s t : Latest.ServiceConfig) : Decidable (NamesApart s t) :=
  decidable_of_iff
    (s.name ≠ t.name ∧
      (ServiceRole.published.emitted s = true → t.name ≠ s.name ++ publishedServiceSuffix) ∧
      (ServiceRole.randomPorts.emitted s = true → t.name ≠ s.name ++ publishedOnRandomPortSuffix) ∧
      (ServiceRole.published.emitted t = true → s.name ≠ t.name ++ publishedServiceSuffix) ∧
      (ServiceRole.randomPorts.emitted t = true → s.name ≠ t.name ++ publishedOnRandomPortSuffix))
    ⟨fun h => ⟨h.1, h.2.1, h.2.2.1, h.2.2.2.1, h.2.2.2.2⟩,
      fun h => ⟨h.name, h.published, h.randomPorts, h.published', h.randomPorts'⟩⟩

theorem NamesApart.symm {s t : Latest.ServiceConfig} (h : NamesApart s t) : NamesApart t s :=
  ⟨h.name.symm, h.published', h.randomPorts', h.published, h.randomPorts⟩

/-- Two services are apart when no roles of theirs give one name. -/
theorem namesApart_iff {s t : Latest.ServiceConfig} :
    NamesApart s t ↔ ∀ role role' : ServiceRole, role.emitted s = true →
      role'.emitted t = true → role.nameFor s.name ≠ role'.nameFor t.name := by
  constructor
  · intro h role role' hrole hrole'
    -- the service's own name, and the names with either suffix
    cases role <;> cases role'
    · exact h.name
    · exact h.published' hrole'
    · exact h.randomPorts' hrole'
    · exact (h.published hrole).symm
    · exact fun heq => h.name (append_right_injective heq)
    · exact ServiceRole.published_ne_randomPorts _ _
    · exact (h.randomPorts hrole).symm
    · exact (ServiceRole.published_ne_randomPorts _ _).symm
    · exact fun heq => h.name (append_right_injective heq)
  · intro h
    refine ⟨h .internal .internal rfl rfl, ?_, ?_, h .internal .published rfl,
      h .internal .randomPorts rfl⟩
    · exact fun hrole => (h .published .internal hrole rfl).symm
    · exact fun hrole => (h .randomPorts .internal hrole rfl).symm

theorem mem_roles {ctx : ServiceContext} {role : ServiceRole} :
    role ∈ ctx.roles ↔ role.emitted ctx.srv = true := by
  unfold ServiceContext.roles ServiceRole.all
  cases role <;> simp

/-- **Two services are apart when their objects are**: a workload can only be
shared along with the internal service. -/
theorem kindKeys_disjoint_iff {ctx ctx' : ServiceContext}
    (hns : ctx.stackNamespace = ctx'.stackNamespace) :
    ctx.kindKeys.Disjoint ctx'.kindKeys ↔ NamesApart ctx.srv ctx'.srv := by
  rw [namesApart_iff]
  constructor
  · intro hdisjoint role role' hrole hrole' heq
    refine hdisjoint (a := (ChildKind.service, ServiceSlot.key (ctx, role))) ?_ ?_
    · exact List.mem_append_left _ (List.mem_map_of_mem (mem_roles.mpr hrole))
    · have hkey : ServiceSlot.key (ctx, role) = ServiceSlot.key (ctx', role') := by
        simp only [ServiceSlot.key, heq, hns]
      rw [hkey]
      exact List.mem_append_left _ (List.mem_map_of_mem (mem_roles.mpr hrole'))
  · intro happart kk hmem hmem'
    -- a key of a service is that of a role
    have hservice : ∀ (c : ServiceContext) k, (ChildKind.service, k) ∈ c.kindKeys →
        ∃ role : ServiceRole, role.emitted c.srv = true ∧ k = ServiceSlot.key (c, role) := by
      intro c k hk
      rcases List.mem_append.mp hk with hk | hk
      · obtain ⟨role, hrole, heq⟩ := List.mem_map.mp hk
        exact ⟨role, mem_roles.mp hrole, (congrArg Prod.snd heq).symm⟩
      · have hkind := congrArg Prod.fst (List.mem_singleton.mp hk)
        cases hw : workloadOf c.srv <;> simp [hw, Workload.childKind] at hkind
    -- a key of a workload is that of the service itself
    have hworkload : ∀ (c : ServiceContext) kind k, kind ≠ ChildKind.service →
        (kind, k) ∈ c.kindKeys → k = c.key := by
      intro c kind k hkind hk
      rcases List.mem_append.mp hk with hk | hk
      · obtain ⟨role, -, heq⟩ := List.mem_map.mp hk
        exact absurd (congrArg Prod.fst heq).symm hkind
      · exact congrArg Prod.snd (List.mem_singleton.mp hk)
    obtain ⟨kind, k⟩ := kk
    by_cases hkind : kind = ChildKind.service
    · subst hkind
      obtain ⟨role, hrole, rfl⟩ := hservice ctx k hmem
      obtain ⟨role', hrole', heq⟩ := hservice ctx' _ hmem'
      simp only [ServiceSlot.key, hns, objKey_inj] at heq
      exact happart role role' hrole hrole' heq
    · have hkey := hworkload ctx kind k hkind hmem
      rw [hworkload ctx' kind k hkind hmem', ServiceContext.key, ServiceContext.key, hns,
        objKey_inj] at hkey
      exact happart .internal .internal rfl rfl hkey.symm

/-- The objects of one service are apart from each other. -/
theorem kindKeys_nodup (ctx : ServiceContext) : ctx.kindKeys.Nodup := by
  refine List.nodup_append.mpr ⟨?_, List.nodup_singleton _, ?_⟩
  · refine List.Nodup.map_on ?_ (List.Nodup.filter _ (by decide))
    intro role _ role' _ heq
    have hname : role.nameFor ctx.srv.name = role'.nameFor ctx.srv.name := by
      simpa [ServiceSlot.key] using heq
    exact ServiceRole.nameFor_injective hname
  · rintro ⟨kind, k⟩ hmem b hb rfl
    obtain ⟨role, -, heq⟩ := List.mem_map.mp hmem
    have hkind := congrArg Prod.fst (heq.trans (List.mem_singleton.mp hb))
    cases hw : workloadOf ctx.srv <;> simp [hw, Workload.childKind] at hkind

/-! ## All services -/

theorem map_kindKey_flatten {C : StackState} (hC : C.Filed) {ctxs : List ServiceContext}
    {stackDirty : Bool} {rss : List (List Resource)}
    (h : (ctxs.mapM fun ctx => toStackResources ctx C stackDirty) = .ok rss) :
    rss.flatten.map Resource.kindKey = ctxs.flatMap ServiceContext.kindKeys := by
  induction mapM_eq_ok_iff.mp h with
  | nil => rfl
  | cons hctx hrest ih =>
    rw [List.flatten_cons, List.map_append, List.flatMap_cons,
      map_kindKey_toStackResources hC hctx, ih (mapM_eq_ok_iff.mpr hrest)]

/-- The objects of a stack have distinct kinds and keys when its services are
apart, two by two. -/
theorem kindKeys_nodup_iff {ctxs : List ServiceContext} {namespace_ : String}
    (hns : ∀ ctx ∈ ctxs, ctx.stackNamespace = namespace_) :
    (ctxs.flatMap ServiceContext.kindKeys).Nodup ↔
      (ctxs.map (·.srv)).Pairwise NamesApart := by
  rw [List.nodup_flatMap, List.pairwise_map]
  constructor
  · rintro ⟨-, hpairs⟩
    exact hpairs.imp_of_mem fun hctx hctx' hdisjoint =>
      (kindKeys_disjoint_iff ((hns _ hctx).trans (hns _ hctx').symm)).mp hdisjoint
  · intro hpairs
    refine ⟨fun ctx _ => kindKeys_nodup ctx, hpairs.imp_of_mem fun hctx hctx' hapart => ?_⟩
    exact (kindKeys_disjoint_iff ((hns _ hctx).trans (hns _ hctx').symm)).mpr hapart

/-- A service that converts from no objects has a pod template: there is nothing
yet that could be skipped. -/
theorem exists_parts_of_dryRun {ctx : ServiceContext} {stackDirty : Bool}
    (h : ∃ rs, toStackResources ctx emptyStackState stackDirty = .ok rs) :
    ¬(isGlobal ctx.srv = true ∧ hasPersistentVolumes ctx.srv = true) ∧
      ∃ parts, ctx.parts = .ok parts := by
  obtain ⟨hglobal, hok⟩ := exists_toStackResources_iff.mp h
  refine ⟨hglobal, hok.resolve_left fun hskip => ?_⟩
  unfold ServiceContext.skipsWorkload at hskip
  cases hw : workloadOf ctx.srv <;> simp only [hw] at hskip
  · exact Bool.false_ne_true ((skips_empty deploymentKind_lawful _ _).symm.trans hskip)
  · exact Bool.false_ne_true ((skips_empty statefulsetKind_lawful _ _).symm.trans hskip)
  · exact Bool.false_ne_true ((skips_empty daemonsetKind_lawful _ _).symm.trans hskip)

/-- What the dry run accepts converts for every strategy and on top of every state. -/
theorem exists_stackToStack_of_dryRun {rt : Runtime} {stack : Latest.Stack} {D : StackState}
    (h : (stackToStack rt stack .loadBalancer emptyStackState).1 = .ok D)
    (strategy : ServiceStrategy) (C : StackState) :
    ∃ D', (stackToStack rt stack strategy C).1 = .ok D' := by
  obtain ⟨spec, hspec, -⟩ := children_of_stackToStack h
  obtain ⟨hne, hall⟩ := (exists_stackToStack_iff hspec).mp ⟨D, h⟩
  refine (exists_stackToStack_iff hspec).mpr ⟨hne, ?_⟩
  intro ctx hctx
  -- the same service in the dry run
  obtain ⟨srv, hsrv, rfl⟩ := List.mem_map.mp hctx
  obtain ⟨hglobal, hparts⟩ := exists_parts_of_dryRun (hall _ (List.mem_map_of_mem hsrv))
  exact exists_toStackResources_iff.mpr ⟨hglobal, Or.inr hparts⟩

/-- What the dry run accepts, service by service, for every strategy and on top
of every state. -/
theorem accepted_conversion {rt : Runtime} {loader : Loader} {stack : Internal.Stack}
    (hdry : (validateDryRun rt loader stack).1 = []) (strategy : ServiceStrategy)
    (C : StackState) :
    ∃ latest spec rss, stackFromInternalV1alpha3 loader stack default = .ok latest ∧
      latest.spec = some spec ∧
      (stackToStack rt latest strategy C).1 = .ok (newStackState rss.flatten) ∧
      List.Forall₂ (fun ctx rs => toStackResources ctx C (isStackDirty latest.status) = .ok rs)
        (stackContexts rt latest spec strategy) rss := by
  obtain ⟨latest, D₀, hlatest, hD₀⟩ := validateDryRun_eq_nil.mp hdry
  obtain ⟨D, hD⟩ := exists_stackToStack_of_dryRun hD₀ strategy C
  obtain ⟨spec, hspec, -, rss, hrss, rfl⟩ := stackToStack_ok_iff.mp hD
  exact ⟨latest, spec, rss, hlatest, hspec, hD, mapM_eq_ok_iff.mp hrss⟩

/-- **When no generated object is lost.** Of a stack that passes the dry run, for
every strategy and on top of every state: the objects that its services emit
have distinct kinds and keys, and are all in the converted state, exactly when
the services are apart, two by two. Whether the names pass the other checks
does not matter. -/
theorem stackToStack_holds_iff (rt : Runtime) (loader : Loader) (stack : Internal.Stack)
    (hdry : (validateDryRun rt loader stack).1 = []) (strategy : ServiceStrategy) (C : StackState)
    (hC : C.Keyed stack.objectMeta.namespace_) :
    ∃ latest spec rss D, stackFromInternalV1alpha3 loader stack default = .ok latest ∧
      latest.spec = some spec ∧
      ((stackContexts rt latest spec strategy).mapM fun ctx =>
        toStackResources ctx C (isStackDirty latest.status)) = .ok rss ∧
      (stackToStack rt latest strategy C).1 = .ok D ∧
      (((rss.flatten.map Resource.kindKey).Nodup ∧ ∀ r ∈ rss.flatten, D.Holds r) ↔
        spec.services.elems.Pairwise NamesApart) := by
  obtain ⟨latest, spec, rss, hlatest, hspec, hD, hrss⟩ := accepted_conversion hdry strategy C
  have hrss := mapM_eq_ok_iff.mpr hrss
  refine ⟨latest, spec, rss, _, hlatest, hspec, hrss, hD, ?_⟩
  have hns : latest.objectMeta.namespace_ = stack.objectMeta.namespace_ := by
    obtain ⟨status, h⟩ := stackFromInternalV1alpha3_eq loader stack default
    rw [hlatest] at h
    rw [Except.ok.inj h]
  have hiff : (rss.flatten.map Resource.kindKey).Nodup ↔
      spec.services.elems.Pairwise NamesApart := by
    rw [map_kindKey_flatten hC.filed hrss, kindKeys_nodup_iff stackContexts_namespace]
    exact (map_srv_stackContexts rt latest spec strategy).pairwise_iff NamesApart.symm
  rw [← hiff]
  exact ⟨fun h => h.1, fun h => ⟨h, fun r hr => newStackState_holds h hr⟩⟩

/-- Two services that publish a port each. -/
def apartServices : List Latest.ServiceConfig := [webService, { webService with name := "api" }]

/-- A stack whose names are apart loses nothing. -/
theorem stackToStack_holds_apartServices :
    ∃ spec rss D, (stackOf apartServices).spec = some spec ∧
      ((stackContexts Runtime.reference (stackOf apartServices) spec .loadBalancer).mapM fun ctx =>
        toStackResources ctx emptyStackState (isStackDirty none)) = .ok rss ∧
      (stackToStack Runtime.reference (stackOf apartServices) .loadBalancer emptyStackState).1 =
        .ok D ∧
      (rss.flatten.map Resource.kindKey).Nodup ∧ ∀ r ∈ rss.flatten, D.Holds r := by
  obtain ⟨latest, spec, rss, D, hlatest, hspec, hrss, hD, hiff⟩ :=
    stackToStack_holds_iff Runtime.reference Loader.failing (storedStackOf apartServices) (by rfl)
      .loadBalancer emptyStackState (emptyStackState_keyed _)
  cases hlatest
  cases hspec
  exact ⟨_, rss, D, rfl, hrss, hD, hiff.mpr (by decide)⟩

/-- A service with the name of the exposed service of `webService`. -/
def shadowService : Latest.ServiceConfig :=
  { (default : Latest.ServiceConfig) with name := "web-published", image := "nginx" }

/-- **An exposed service is lost**: both names pass the checks and so does the dry
run, but of the service that publishes the port of `web` nothing is left. -/
theorem stackToStack_loses_published :
    validateObjectNames (RangeOrder.ascending _) (storedStackOf [webService, shadowService]) = [] ∧
      (validateDryRun Runtime.reference Loader.failing
        (storedStackOf [webService, shadowService])).1 = [] ∧
      ∀ strategy, ∃ rss D,
        ((stackContexts Runtime.reference (stackOf [webService, shadowService])
          ((stackOf [webService, shadowService]).spec.getD default) strategy).mapM fun ctx =>
            toStackResources ctx emptyStackState true) = .ok rss ∧
        (stackToStack Runtime.reference (stackOf [webService, shadowService]) strategy
          emptyStackState).1 = .ok D ∧
        ¬(rss.flatten.map Resource.kindKey).Nodup ∧ ¬∀ r ∈ rss.flatten, D.Holds r := by
  refine ⟨by decide, by rfl, fun strategy => ?_⟩
  cases strategy
  · refine ⟨_, _, rfl, rfl, by decide, fun h => ?_⟩
    have hholds := h _ (.tail _ (.head _))
    have hname := congrArg (Option.map fun s => s.spec.selector.get? Labels.forServiceName) hholds
    exact absurd hname (by decide)
  · refine ⟨_, _, rfl, rfl, by decide, fun h => ?_⟩
    have hholds := h _ (.tail _ (.head _))
    have hname := congrArg (Option.map fun s => s.spec.selector.get? Labels.forServiceName) hholds
    exact absurd hname (by decide)

end ComposeKube

import ComposeKube.Convert.Numbers
import ComposeKube.Convert.Ports
import ComposeKube.Controller.Apply
import ComposeKube.Registry.Names

/-!
# Assigned addresses

Kubernetes assigns a cluster address to a service and node ports to its ports. A
cluster address cannot be changed afterwards; a change takes a new service, with a new
address. So the converter copies the service that is there and matches ports by their
names, and the difference re-creates a service only where the address has to change.
Both are needed: neither of them alone keeps an address.

* `exists_slot_of_lookup` — a desired service, over the current one of its key.
* `requiresReCreate_exposed`, `requiresReCreate_internal` — which services are
  re-created.
* `publishedNodePorts_iff` — which node ports are the published ones.
* `assignedAddresses_kept_iff` — what a reconciliation does to addresses and node ports.
-/

namespace ComposeKube

open Go

/-! ## The spec over a current one -/

section Spec

variable (rt : Runtime) (strategy : ServiceStrategy) (s : Latest.ServiceConfig)
  (labelSelector : Map String)

/-- An exposed service keeps the address. -/
theorem clusterIP_exposed {role : ServiceRole} (hrole : role ≠ .internal)
    (original : ServiceSpec) :
    (role.spec rt strategy s labelSelector original).clusterIP = original.clusterIP := by
  cases role with
  | internal => exact absurd rfl hrole
  | published => rfl
  | randomPorts => rfl

/-- An internal service keeps it unless one of the two is headless. -/
theorem clusterIP_internal (original : ServiceSpec) :
    (ServiceRole.internal.spec rt strategy s labelSelector original).clusterIP =
      if useHeadless s.internalPorts s.internalServiceType then clusterIPNone
      else if original.clusterIP = clusterIPNone then "" else original.clusterIP := by
  unfold ServiceRole.spec
  by_cases hheadless : useHeadless s.internalPorts s.internalServiceType = true
  · simp [hheadless]
  · simp [hheadless]

/-- No service becomes an external name. -/
theorem type_ne_externalName (role : ServiceRole) {original : ServiceSpec}
    (h : original.type ≠ .externalName) :
    (role.spec rt strategy s labelSelector original).type ≠ .externalName := by
  cases role with
  | internal =>
    unfold ServiceRole.spec
    by_cases hheadless : useHeadless s.internalPorts s.internalServiceType = true
    · simpa [hheadless] using h
    · simpa [hheadless] using h
  | published => cases strategy <;> exact fun heq => ServiceType.noConfusion heq
  | randomPorts => cases strategy <;> exact fun heq => ServiceType.noConfusion heq

end Spec

/-! ## Re-creation -/

/-- What `serviceRequiresReCreate` asks for, without external names. -/
theorem requiresReCreate_iff {c d : Service} (hc : c.spec.type ≠ .externalName)
    (hd : d.spec.type ≠ .externalName) :
    serviceRequiresReCreate c d = true ↔
      c.spec.clusterIP ≠ "" ∧ c.spec.clusterIP ≠ d.spec.clusterIP := by
  unfold serviceRequiresReCreate
  by_cases hip : c.spec.clusterIP = ""
  · simp [hip]
  · simp [hc, hd, hip]

/-- A service that is re-created differs. -/
theorem not_same_of_requiresReCreate {c d : Service} (h : serviceRequiresReCreate c d = true) :
    normalizeEqualService c d = false := by
  unfold serviceRequiresReCreate at h
  split at h
  · have hip : c.spec.clusterIP ≠ d.spec.clusterIP := by simpa using h
    have hspec : c.spec ≠ d.spec := fun heq => hip (congrArg ServiceSpec.clusterIP heq)
    simp [normalizeEqualService, hspec]
  · cases h

section Slot

variable (slot : ServiceSlot) {c d : Service} (hd : d.spec = (slot.desired c).spec)
  (hc : c.spec.type ≠ .externalName)

include hd hc

/-- No service of a stack is of the external type. -/
theorem desired_type_ne_externalName : d.spec.type ≠ .externalName := by
  rw [hd]
  exact type_ne_externalName _ _ _ _ slot.2 hc

/-- **An exposed service is never re-created.** -/
theorem requiresReCreate_exposed (hrole : slot.2 ≠ .internal) :
    serviceRequiresReCreate c d = false := by
  have hip : d.spec.clusterIP = c.spec.clusterIP := by
    rw [hd]
    exact clusterIP_exposed _ _ _ _ hrole _
  rw [← Bool.not_eq_true,
    requiresReCreate_iff hc (desired_type_ne_externalName slot hd hc), hip]
  exact fun h => h.2 rfl

/-- **An internal service is re-created** when it becomes headless, or ceases to be. -/
theorem requiresReCreate_internal (hrole : slot.2 = .internal) (hip : c.spec.clusterIP ≠ "") :
    serviceRequiresReCreate c d = true ↔
      (c.spec.clusterIP = clusterIPNone ↔
        ¬useHeadless slot.1.srv.internalPorts slot.1.srv.internalServiceType = true) := by
  have hdesired : d.spec.clusterIP =
      if useHeadless slot.1.srv.internalPorts slot.1.srv.internalServiceType then clusterIPNone
      else if c.spec.clusterIP = clusterIPNone then "" else c.spec.clusterIP := by
    rw [hd]
    show (slot.2.spec slot.1.rt slot.1.strategy slot.1.srv slot.1.labelSelector
      c.spec).clusterIP = _
    rw [hrole]
    exact clusterIP_internal slot.1.rt slot.1.strategy slot.1.srv slot.1.labelSelector c.spec
  rw [requiresReCreate_iff hc (desired_type_ne_externalName slot hd hc), hdesired,
    and_iff_right hip]
  -- to gain or to lose the address takes a new object
  by_cases hheadless : useHeadless slot.1.srv.internalPorts slot.1.srv.internalServiceType = true
  · simp [hheadless]
  · by_cases hnone : c.spec.clusterIP = clusterIPNone
    · have hempty : clusterIPNone ≠ "" := by decide
      simp [hheadless, hnone, hempty]
    · simp [hheadless, hnone]

end Slot

/-! ## Node ports -/

/-- Ports of one name have one node port, and published ports of the node port strategy
have the one that is asked for. -/
structure NodePortsKept (rt : Runtime) (strategy : ServiceStrategy) (role : ServiceRole)
    (srv : Latest.ServiceConfig) (c d : Service) : Prop where
  inherited : ¬(strategy = .nodePort ∧ role = .published) →
    ∀ p ∈ c.spec.ports.elems, ∀ q ∈ d.spec.ports.elems, q.name = p.name →
      q.nodePort = p.nodePort
  published : strategy = .nodePort ∧ role = .published →
    List.Forall₂ (fun (source : Latest.ServicePortConfig) (q : ServicePort) =>
        q.name = exposedPortName rt source ∧ q.nodePort = source.published.toInt32 ∧
        (FitsInt32 source.published.toNat → q.nodePort.toInt = source.published.toNat))
      (portsOf true srv) d.spec.ports.elems

/-- With distinct names, the port that is found is the port of the name. -/
theorem findPortOrDefault_of_mem {ports : Slice ServicePort}
    (hports : (ports.elems.map (·.name)).Nodup) {p : ServicePort} (hp : p ∈ ports.elems) :
    findPortOrDefault ports p.name = p := by
  unfold findPortOrDefault
  cases hfind : ports.elems.find? fun q => decide (q.name = p.name) with
  | none =>
    rw [List.find?_eq_none] at hfind
    exact absurd (decide_eq_true rfl) (hfind p hp)
  | some q =>
    have hname : q.name = p.name := by simpa using List.find?_some hfind
    exact List.inj_on_of_nodup_map hports (List.mem_of_find?_eq_some hfind) hp hname

/-- Without the strategy, or a published port, the port of the node is taken over. -/
theorem nodePort_exposedPort_of_not {rt : Runtime} {strategy : ServiceStrategy}
    {source : Latest.ServicePortConfig} (h : ¬(strategy = .nodePort ∧ source.published ≠ 0))
    (nodePort : Int32) : (exposedPort rt strategy source nodePort).nodePort = nodePort :=
  if_neg h

/-- The ports of a service that are not given a node port keep the one of their name. -/
theorem nodePort_of_mem_exposedPorts {rt : Runtime} {strategy : ServiceStrategy}
    {published : Bool} {s : Latest.ServiceConfig} {original : Slice ServicePort}
    (h : ¬(strategy = .nodePort ∧ published = true))
    (hports : (original.elems.map (·.name)).Nodup) {p q : ServicePort} (hp : p ∈ original.elems)
    (hq : q ∈ exposedPorts rt strategy published s original) (hname : q.name = p.name) :
    q.nodePort = p.nodePort := by
  obtain ⟨source, hsource, rfl⟩ := List.mem_map.mp hq
  have hflag : source.published ≠ 0 ↔ published = true := published_of_mem_portsOf hsource
  have hkept : ¬(strategy = .nodePort ∧ source.published ≠ 0) := by rwa [hflag]
  have hname' : exposedPortName rt source = p.name := hname
  rw [nodePort_exposedPort_of_not hkept, hname', findPortOrDefault_of_mem hports hp]

/-- The ports of an exposed service are made on top of the current ones. -/
theorem ports_desired (slot : ServiceSlot) (hrole : slot.2 ≠ .internal) {c d : Service}
    (hd : d.spec = (slot.desired c).spec) :
    d.spec.ports.elems = exposedPorts slot.1.rt slot.1.strategy (decide (slot.2 = .published))
      slot.1.srv c.spec.ports := by
  have hspec : d.spec = slot.2.spec slot.1.rt slot.1.strategy slot.1.srv slot.1.labelSelector
    c.spec := hd
  rw [hspec]
  obtain ⟨ctx, role⟩ := slot
  cases role with
  | internal => exact absurd rfl hrole
  | published => exact Slice.elems_ofAppends _
  | randomPorts => exact Slice.elems_ofAppends _

/-- Whatever is found in the current service, the published number is written over it. -/
theorem nodePort_exposedPort_of_published {rt : Runtime} {s : Latest.ServiceConfig}
    {source : Latest.ServicePortConfig} (h : source ∈ portsOf true s) (nodePort : Int32) :
    (exposedPort rt .nodePort source nodePort).nodePort = source.published.toInt32 :=
  if_pos ⟨rfl, (published_of_mem_portsOf h).mpr rfl⟩

/-- **The node ports of an exposed service.** -/
theorem nodePortsKept_desired (slot : ServiceSlot) (hrole : slot.2 ≠ .internal) {c d : Service}
    (hd : d.spec = (slot.desired c).spec) (hports : (c.spec.ports.elems.map (·.name)).Nodup) :
    NodePortsKept slot.1.rt slot.1.strategy slot.2 slot.1.srv c d := by
  have hdports := ports_desired slot hrole hd
  constructor
  · intro hstrategy p hp q hq hname
    rw [hdports] at hq
    exact nodePort_of_mem_exposedPorts (fun h => hstrategy ⟨h.1, of_decide_eq_true h.2⟩)
      hports hp hq hname
  · -- under this strategy the published number is used, cut to 32 bits
    rintro ⟨hstrategy, hpublished⟩
    rw [hdports, hstrategy, decide_eq_true hpublished, exposedPorts, List.forall₂_map_right_iff]
    refine List.forall₂_same.mpr fun source hsource => ?_
    refine ⟨rfl, nodePort_exposedPort_of_published hsource _, fun hfits => ?_⟩
    rw [nodePort_exposedPort_of_published hsource]
    exact (toInt_toInt32_iff _).mpr hfits

/-- Each port has the node port that is asked for, as a number. -/
def PublishedNodePorts (rt : Runtime) (srv : Latest.ServiceConfig) (d : Service) : Prop :=
  List.Forall₂ (fun (source : Latest.ServicePortConfig) (q : ServicePort) =>
      q.name = exposedPortName rt source ∧ q.nodePort.toInt = source.published.toNat)
    (portsOf true srv) d.spec.ports.elems

/-- **Which node ports are the published ones**: the published number is narrowed to a signed
32-bit integer, so all of them exactly when all of the numbers fit. -/
theorem publishedNodePorts_iff (ctx : ServiceContext) (hstrategy : ctx.strategy = .nodePort)
    {c d : Service} (hd : d.spec = (ServiceSlot.desired (ctx, .published) c).spec) :
    PublishedNodePorts ctx.rt ctx.srv d ↔
      ∀ p ∈ ctx.srv.ports.elems, FitsInt32 p.published.toNat := by
  have hdports : d.spec.ports.elems =
      exposedPorts ctx.rt ctx.strategy true ctx.srv c.spec.ports :=
    ports_desired (ctx, .published) (fun h => ServiceRole.noConfusion h) hd
  rw [PublishedNodePorts, hdports, hstrategy, exposedPorts, List.forall₂_map_right_iff]
  show List.Forall₂ _ (portsOf true ctx.srv) (portsOf true ctx.srv) ↔ _
  rw [List.forall₂_same]
  constructor
  · intro h p hp
    -- a port without a published number is not listed, and zero fits
    by_cases hzero : p.published = 0
    · rw [hzero]
      decide
    · have hmem : p ∈ portsOf true ctx.srv := List.mem_filter.mpr ⟨hp, by simp [hzero]⟩
      have hnode := (h p hmem).2
      rw [nodePort_exposedPort_of_published hmem] at hnode
      exact (toInt_toInt32_iff _).mp hnode
  · intro h p hmem
    refine ⟨rfl, ?_⟩
    rw [nodePort_exposedPort_of_published hmem]
    exact (toInt_toInt32_iff _).mpr (h p (List.mem_filter.mp hmem).1)

/-! ## The desired services -/

/-- The services are apart, so no two slots claim one key. -/
theorem serviceSlots_keys_nodup {rt : Runtime} {stack : Latest.Stack} {spec : Latest.StackSpec}
    {strategy : ServiceStrategy} (h : spec.services.elems.Pairwise NamesApart) :
    ((serviceSlots (stackContexts rt stack spec strategy)).map ServiceSlot.key).Nodup := by
  have hkinds : ((stackContexts rt stack spec strategy).flatMap ServiceContext.kindKeys).Nodup := by
    rw [kindKeys_nodup_iff stackContexts_namespace]
    exact ((map_srv_stackContexts rt stack spec strategy).pairwise_iff NamesApart.symm).mpr h
  refine List.Nodup.of_map (Prod.mk ChildKind.service) (hkinds.sublist ?_)
  -- the keys of the slots are among the kinds and keys of the services
  induction stackContexts rt stack spec strategy with
  | nil => exact List.Sublist.slnil
  | cons ctx rest ih =>
    simp only [serviceSlots, List.flatMap_cons, List.map_append, List.map_map] at ih ⊢
    exact List.Sublist.append (List.sublist_append_left _ _) ih

/-- The desired state, or the one with the owners set. -/
def Owned (stack : Latest.Stack) (D D' : StackState) : Prop :=
  D' = D ∨ D' = setStackOwnership D stack

/-- Setting owners leaves the specs and the keys alone. -/
theorem Owned.lookup_service {stack : Latest.Stack} {D D' : StackState} (h : Owned stack D D')
    {k : String} {d' : Service} (hd' : D'.services.lookup k = some d') :
    ∃ d, D.services.lookup k = some d ∧ d'.spec = d.spec ∧ keyOf d' = keyOf d := by
  rcases h with rfl | rfl
  · exact ⟨d', hd', rfl, rfl⟩
  · rw [setStackOwnership, Map.lookup_mapValues, Option.map_eq_some_iff] at hd'
    obtain ⟨d, hd, rfl⟩ := hd'
    exact ⟨d, hd, rfl, rfl⟩

/-- **A desired service over the current one**: it is built by the slot of its key. -/
theorem exists_slot_of_lookup {rt : Runtime} {stack : Latest.Stack} {spec : Latest.StackSpec}
    (hspec : stack.spec = some spec) {strategy : ServiceStrategy} {C D D' : StackState}
    (hD : (stackToStack rt stack strategy C).1 = .ok D) (hD' : Owned stack D D') {k : String}
    {c d : Service} (hc : C.services.lookup k = some c) (hd : D'.services.lookup k = some d) :
    ∃ slot ∈ serviceSlots (stackContexts rt stack spec strategy),
      slot.key = k ∧ d.spec = (slot.desired c).spec := by
  obtain ⟨spec', hspec', hchildren⟩ := children_of_stackToStack hD
  obtain rfl : spec' = spec := Option.some.inj (hspec'.symm.trans hspec)
  obtain ⟨d₀, hd₀, hdspec, -⟩ := hD'.lookup_service hd
  rw [hchildren.services, lookup_service_eq, Option.map_eq_some_iff] at hd₀
  obtain ⟨slot, hlast, rfl⟩ := hd₀
  obtain ⟨hmem, hkey⟩ := lastWith_eq_some hlast
  rw [getOriginal_of_lookup hc] at hdspec
  exact ⟨slot, hmem, hkey, hdspec⟩

/-- Every slot has a desired service. -/
theorem exists_lookup_of_slot {rt : Runtime} {stack : Latest.Stack} {spec : Latest.StackSpec}
    (hspec : stack.spec = some spec) {strategy : ServiceStrategy} {C D D' : StackState}
    (hD : (stackToStack rt stack strategy C).1 = .ok D) (hD' : Owned stack D D')
    {slot : ServiceSlot} (hslot : slot ∈ serviceSlots (stackContexts rt stack spec strategy)) :
    ∃ d, D'.services.lookup slot.key = some d := by
  obtain ⟨spec', hspec', hchildren⟩ := children_of_stackToStack hD
  obtain rfl : spec' = spec := Option.some.inj (hspec'.symm.trans hspec)
  obtain ⟨last, hlast⟩ := exists_lastWith_of_mem ServiceSlot.key hslot
  have hd : D.services.lookup slot.key =
      some (last.desired (getOriginal C.services slot.key)) := by
    rw [hchildren.services, lookup_service_eq, hlast]
    rfl
  rcases hD' with rfl | rfl
  · exact ⟨_, hd⟩
  · exact ⟨_, (Map.lookup_mapValues _ _ _).trans (congrArg (Option.map _) hd)⟩

/-- The desired services are under their keys. -/
theorem filedBy_owned {rt : Runtime} {stack : Latest.Stack} {strategy : ServiceStrategy}
    {C D D' : StackState} (hD : (stackToStack rt stack strategy C).1 = .ok D)
    (hD' : Owned stack D D') : FiledBy keyOf D'.services := by
  intro k d' hd'
  obtain ⟨d, hd, -, hkey⟩ := hD'.lookup_service hd'
  obtain ⟨spec, -, hchildren⟩ := children_of_stackToStack hD
  rw [hchildren.services] at hd
  rw [hkey]
  exact (desiredServices_keyed stackContexts_namespace C.services k d hd).2

/-! ## A reconciliation -/

/-- What the changes do to the address of a service of the role `role`. -/
structure AddressKept (role : ServiceRole) (srv : Latest.ServiceConfig) (changes : Changes Service)
    (c d : Service) : Prop where
  exposed : role ≠ .internal → c ∉ changes.toDelete ∧ d ∉ changes.toAdd
  internal : role = .internal → c.spec.clusterIP ≠ "" →
    ((c ∈ changes.toDelete ∧ d ∈ changes.toAdd) ↔
      (c.spec.clusterIP = clusterIPNone ↔
        ¬useHeadless srv.internalPorts srv.internalServiceType = true))

/-- In the differences, a service that is there and desired is deleted, and created,
when it has to be re-created. -/
theorem mem_recreated_iff {C D : Map Service} {changes : Changes Service}
    (h : IsDiff serviceComparison keyOf C D changes) (hC : FiledBy keyOf C)
    (hD : FiledBy keyOf D) {k : String} {c d : Service} (hc : C.lookup k = some c)
    (hd : D.lookup k = some d) :
    (c ∈ changes.toDelete ↔ serviceRequiresReCreate c d = true) ∧
      (d ∈ changes.toAdd ↔ serviceRequiresReCreate c d = true) := by
  constructor
  · rw [h.mem_toDelete]
    constructor
    · rintro ⟨k', hc', hreason⟩
      -- an object is listed under its own key only
      obtain rfl : k' = k := (hC k' c hc').symm.trans (hC k c hc)
      rcases hreason with hnone | ⟨d', hd', -, hrecreate⟩
      · rw [hnone] at hd
        cases hd
      · obtain rfl : d' = d := Option.some.inj (hd'.symm.trans hd)
        exact hrecreate
    · exact fun hrecreate =>
        ⟨k, hc, Or.inr ⟨d, hd, not_same_of_requiresReCreate hrecreate, hrecreate⟩⟩
  · rw [h.mem_toAdd]
    constructor
    · rintro ⟨k', hd', hreason⟩
      obtain rfl : k' = k := (hD k' d hd').symm.trans (hD k d hd)
      rcases hreason with hnone | ⟨c', hc', -, hrecreate⟩
      · rw [hnone] at hc
        cases hc
      · obtain rfl : c' = c := Option.some.inj (hc'.symm.trans hc)
        exact hrecreate
    · exact fun hrecreate =>
        ⟨k, hd, Or.inr ⟨c, hc, not_same_of_requiresReCreate hrecreate, hrecreate⟩⟩

/-- What a reconciliation keeps: no update changes an address, and every service that is
there and desired keeps its address and its node ports. -/
structure AddressesKept (rt : Runtime) (strategy : ServiceStrategy) (ctxs : List ServiceContext)
    (C D : Map Service) (changes : Changes Service) : Prop where
  updates : ∀ x ∈ changes.toUpdate, ∃ c, C.lookup (keyOf x) = some c ∧
    (c.spec.clusterIP ≠ "" → x.spec.clusterIP = c.spec.clusterIP)
  services : ∀ ctx ∈ ctxs, ∀ role : ServiceRole, role.emitted ctx.srv = true → ∀ c d,
    C.lookup (ServiceSlot.key (ctx, role)) = some c →
    D.lookup (ServiceSlot.key (ctx, role)) = some d →
    AddressKept role ctx.srv changes c d ∧
      (role ≠ .internal → NodePortsKept rt strategy role ctx.srv c d)

/-- And the node ports of published services are the published ones where they are asked
for. -/
structure AddressesSurvive (rt : Runtime) (strategy : ServiceStrategy)
    (ctxs : List ServiceContext) (C D : Map Service) (changes : Changes Service) : Prop
    extends AddressesKept rt strategy ctxs C D changes where
  published : strategy = .nodePort → ∀ ctx ∈ ctxs,
    ServiceRole.published.emitted ctx.srv = true → ∀ c d,
      C.lookup (ServiceSlot.key (ctx, .published)) = some c →
      D.lookup (ServiceSlot.key (ctx, .published)) = some d →
      PublishedNodePorts rt ctx.srv d

/-- The published ports of the services that have a published service in the cluster fit
into a signed 32-bit integer. -/
def PublishedPortsFit (stack : Latest.Stack) (spec : Latest.StackSpec) (C : Map Service) : Prop :=
  ∀ srv ∈ spec.services.elems, ∀ c,
    C.lookup (objKey stack.objectMeta.namespace_ (srv.name ++ publishedServiceSuffix)) = some c →
    ∀ p ∈ srv.ports.elems, FitsInt32 p.published.toNat

section Reconciliation

variable {rt : Runtime} {stack : Latest.Stack} {spec : Latest.StackSpec}
  (hspec : stack.spec = some spec) (hnames : spec.services.elems.Pairwise NamesApart)
  {strategy : ServiceStrategy} {C D D' : StackState}
  (hD : (stackToStack rt stack strategy C).1 = .ok D) (hD' : Owned stack D D')

include hspec hnames hD hD'

/-- The service is the one of its slot: no other slot claims the key. -/
theorem spec_of_lookup {ctx : ServiceContext} (hctx : ctx ∈ stackContexts rt stack spec strategy)
    {role : ServiceRole} (hrole : role.emitted ctx.srv = true) {c d : Service}
    (hc : C.services.lookup (ServiceSlot.key (ctx, role)) = some c)
    (hd : D'.services.lookup (ServiceSlot.key (ctx, role)) = some d) :
    d.spec = (ServiceSlot.desired (ctx, role) c).spec := by
  have hmem : ((ctx, role) : ServiceSlot) ∈ serviceSlots (stackContexts rt stack spec strategy) :=
    mem_serviceSlots.mpr ⟨hctx, hrole⟩
  obtain ⟨slot, hslot, hkey, hdspec⟩ := exists_slot_of_lookup hspec hD hD' hc hd
  obtain rfl : slot = (ctx, role) :=
    List.inj_on_of_nodup_map (serviceSlots_keys_nodup hnames) hslot hmem hkey
  exact hdspec

/-- **What becomes of the addresses**, for all services of a stack. -/
theorem addressesKept (ord : DiffOrder) (hC : FiledBy keyOf C.services)
    (htype : ∀ k c, C.services.lookup k = some c → c.spec.type ≠ .externalName)
    (hports : ∀ k c, C.services.lookup k = some c → (c.spec.ports.elems.map (·.name)).Nodup) :
    AddressesKept rt strategy (stackContexts rt stack spec strategy) C.services D'.services
      (computeDiff ord C D').services := by
  have hfiled := filedBy_owned hD hD'
  have hdiff : IsDiff serviceComparison keyOf C.services D'.services
      (computeDiff ord C D').services :=
    computeServicesDiff_isDiff ord _ hfiled keyOf_adoptResourceVersion
  constructor
  · intro x hx
    obtain ⟨k, c, d, hd, hc, -, hrecreate, rfl⟩ := (hdiff.mem_toUpdate x).mp hx
    obtain ⟨slot, -, -, hdspec⟩ := exists_slot_of_lookup hspec hD hD' hc hd
    have hkey : keyOf (serviceComparison.adopt c d) = k :=
      (keyOf_adoptResourceVersion c d).trans (hfiled k d hd)
    refine ⟨c, by rw [hkey, hc], fun hip => ?_⟩
    -- otherwise it would not be an update
    by_contra hne
    have hrequires : serviceRequiresReCreate c d = true :=
      (requiresReCreate_iff (htype k c hc)
        (desired_type_ne_externalName slot hdspec (htype k c hc))).mpr ⟨hip, fun h => hne h.symm⟩
    exact Bool.false_ne_true (hrecreate.symm.trans hrequires)
  · intro ctx hctx role hrole c d hc hd
    have hdspec := spec_of_lookup hspec hnames hD hD' hctx hrole hc hd
    obtain ⟨hdelete, hadd⟩ := mem_recreated_iff hdiff hC hfiled hc hd
    refine ⟨⟨fun hexposed => ?_, fun hinternal hip => ?_⟩, fun hexposed => ?_⟩
    · rw [hdelete, hadd, requiresReCreate_exposed (ctx, role) hdspec (htype _ c hc) hexposed]
      exact ⟨Bool.false_ne_true, Bool.false_ne_true⟩
    · rw [hdelete, hadd, and_self]
      exact requiresReCreate_internal (ctx, role) hdspec (htype _ c hc) hinternal hip
    · have hkept := nodePortsKept_desired (ctx, role) hexposed hdspec (hports _ c hc)
      rw [stackContexts_strategy ctx hctx, stackContexts_rt ctx hctx] at hkept
      exact hkept

/-- A published service has the node ports that are asked for when the numbers of its own
ports fit. -/
theorem publishedNodePorts_lookup_iff (hstrategy : strategy = .nodePort) {ctx : ServiceContext}
    (hctx : ctx ∈ stackContexts rt stack spec strategy)
    (hrole : ServiceRole.published.emitted ctx.srv = true) {c d : Service}
    (hc : C.services.lookup (ServiceSlot.key (ctx, .published)) = some c)
    (hd : D'.services.lookup (ServiceSlot.key (ctx, .published)) = some d) :
    PublishedNodePorts rt ctx.srv d ↔
      ∀ p ∈ ctx.srv.ports.elems, FitsInt32 p.published.toNat := by
  have hdspec := spec_of_lookup hspec hnames hD hD' hctx hrole hc hd
  have hiff := publishedNodePorts_iff ctx
    ((stackContexts_strategy ctx hctx).trans hstrategy) hdspec
  rwa [stackContexts_rt ctx hctx] at hiff

end Reconciliation

/-- The services of the spec are those of the contexts. -/
theorem exists_context_of_mem (rt : Runtime) (stack : Latest.Stack) {spec : Latest.StackSpec}
    (strategy : ServiceStrategy) {srv : Latest.ServiceConfig} (h : srv ∈ spec.services.elems) :
    ∃ ctx ∈ stackContexts rt stack spec strategy, ctx.srv = srv :=
  List.mem_map.mp ((map_srv_stackContexts rt stack spec strategy).mem_iff.mpr h)

/-- The key of a service's published object. -/
theorem key_published {rt : Runtime} {stack : Latest.Stack} {spec : Latest.StackSpec}
    {strategy : ServiceStrategy} {ctx : ServiceContext}
    (hctx : ctx ∈ stackContexts rt stack spec strategy) :
    ServiceSlot.key (ctx, .published) =
      objKey stack.objectMeta.namespace_ (ctx.srv.name ++ publishedServiceSuffix) :=
  congrArg (objKey · (ctx.srv.name ++ publishedServiceSuffix)) (stackContexts_namespace ctx hctx)

/-- **Assigned addresses survive a reconciliation.** For every stack whose generated names
do not collide, every strategy, and every current state of services under their keys that
are no external names and have distinct port names: no update changes an address; an
exposed service that is there is neither deleted nor created; an internal service with an
address is re-created exactly when it becomes headless or ceases to be; and the ports of
exposed services keep their node ports. A published port of the node port strategy has
the published number as its node port where that fits into 32 bits with a sign, so all
of them have it exactly when all of them fit. -/
theorem assignedAddresses_kept_iff (rt : Runtime) (ord : DiffOrder) (stack : Latest.Stack)
    (spec : Latest.StackSpec) (hspec : stack.spec = some spec)
    (hnames : spec.services.elems.Pairwise NamesApart) (strategy : ServiceStrategy)
    (C D D' : StackState) (hC : FiledBy keyOf C.services)
    (htype : ∀ k c, C.services.lookup k = some c → c.spec.type ≠ .externalName)
    (hports : ∀ k c, C.services.lookup k = some c → (c.spec.ports.elems.map (·.name)).Nodup)
    (hD : (stackToStack rt stack strategy C).1 = .ok D) (hD' : Owned stack D D') :
    let ctxs := stackContexts rt stack spec strategy
    let changes := (computeDiff ord C D').services
    AddressesKept rt strategy ctxs C.services D'.services changes ∧
      (AddressesSurvive rt strategy ctxs C.services D'.services changes ↔
        strategy ≠ .nodePort ∨ PublishedPortsFit stack spec C.services) := by
  intro ctxs changes
  have hkept := addressesKept hspec hnames hD hD' ord hC htype hports
  refine ⟨hkept, ?_, ?_⟩
  · intro hsurvive
    by_cases hstrategy : strategy = .nodePort
    · refine Or.inr fun srv hsrv c hc p hp => ?_
      by_cases hzero : p.published = 0
      · rw [hzero]
        decide
      -- the service has a published port, so its published service is desired as well
      obtain ⟨ctx, hctx, rfl⟩ := exists_context_of_mem rt stack strategy hsrv
      have hrole : ServiceRole.published.emitted ctx.srv = true :=
        List.any_eq_true.mpr ⟨p, hp, by simpa using hzero⟩
      rw [← key_published hctx] at hc
      obtain ⟨d, hd⟩ := exists_lookup_of_slot hspec hD hD'
        (mem_serviceSlots.mpr ⟨hctx, hrole⟩ : ((ctx, .published) : ServiceSlot) ∈ _)
      exact (publishedNodePorts_lookup_iff hspec hnames hD hD' hstrategy hctx hrole hc hd).mp
        (hsurvive.published hstrategy ctx hctx hrole c d hc hd) p hp
    · exact Or.inl hstrategy
  · intro hcondition
    refine ⟨hkept, fun hstrategy ctx hctx hrole c d hc hd => ?_⟩
    have hfits := hcondition.resolve_left (not_not.mpr hstrategy)
    refine (publishedNodePorts_lookup_iff hspec hnames hD hD' hstrategy hctx hrole hc hd).mpr ?_
    rw [key_published hctx] at hc
    exact hfits ctx.srv ((map_srv_stackContexts rt stack spec strategy).mem_iff.mp
      (List.mem_map_of_mem hctx)) c hc

/-! ### A cluster with assigned addresses -/

/-- A service of the stack `app`, as it is in a cluster. -/
def assignedService (name clusterIP portName : String) (nodePort : Int32) : Service :=
  { (default : Service) with
    objectMeta := { (default : ObjectMeta) with name := name, namespace_ := "prod" }
    spec := { (default : ServiceSpec) with
      clusterIP := clusterIP
      ports := some [{ (default : ServicePort) with name := portName, nodePort := nodePort }] } }

def stateWith (services : List Service) : StackState :=
  { emptyStackState with services := byKey services }

/-- What is found there is one of the services, filed under its key. -/
theorem lookup_stateWith {services : List Service} {k : String} {c : Service}
    (h : (stateWith services).services.lookup k = some c) : c ∈ services ∧ keyOf c = k :=
  lastWith_eq_some ((lookup_fileBy _ _ _).symm.trans h)

/-- A service with a published port and one that is not. -/
def portedService : Latest.ServiceConfig :=
  { webService with
    ports := some [{ (default : Latest.ServicePortConfig) with target := 80, published := 8080 },
      { (default : Latest.ServicePortConfig) with target := 90 }] }

/-- The three services of `portedService`; the internal one has an address. -/
def assignedServices : List Service :=
  [assignedService "web" "10.0.0.6" "" 0,
    assignedService "web-published" "10.0.0.7" "8080-tcp" 30080,
    assignedService "web-random-ports" "10.0.0.8" "90-tcp" 31090]

/-- Under the node port strategy the stack takes the published port over from the service,
keeps the random one, and re-creates only the internal service, which becomes headless. -/
theorem assignedAddresses_kept_ported :
    ∃ D, (stackToStack Runtime.reference (stackOf [portedService]) .nodePort
        (stateWith assignedServices)).1 = .ok D ∧
      AddressesSurvive Runtime.reference .nodePort
        (stackContexts Runtime.reference (stackOf [portedService])
          { (default : Latest.StackSpec) with services := some [portedService] } .nodePort)
        (stateWith assignedServices).services D.services
        (computeDiff (RangeOrder.ascending _) (stateWith assignedServices) D).services ∧
      (D.services.lookup "prod/web-published").map (·.spec.ports.elems.map (·.nodePort)) =
        some [8080] ∧
      (D.services.lookup "prod/web-random-ports").map (·.spec.ports.elems.map (·.nodePort)) =
        some [31090] ∧
      (computeDiff (RangeOrder.ascending _) (stateWith assignedServices) D).services.toDelete.map
        keyOf = ["prod/web"] := by
  have htypes : ∀ c ∈ assignedServices, c.spec.type ≠ .externalName := by decide
  have hports : ∀ c ∈ assignedServices, (c.spec.ports.elems.map (·.name)).Nodup := by decide
  have hkept := assignedAddresses_kept_iff Runtime.reference (RangeOrder.ascending _)
    (stackOf [portedService]) _ rfl (List.pairwise_singleton _ _) .nodePort
    (stateWith assignedServices) _ _ (fun _ _ hc => (lookup_stateWith hc).2)
    (fun _ c hc => htypes c (lookup_stateWith hc).1)
    (fun _ c hc => hports c (lookup_stateWith hc).1) rfl (Or.inl rfl)
  refine ⟨_, rfl, hkept.2.mpr (Or.inr fun srv hsrv c hc => ?_), rfl, rfl, rfl⟩
  obtain rfl := List.mem_singleton.mp hsrv
  decide

/-- A service that publishes the largest unsigned 32-bit number. -/
def highPortService : Latest.ServiceConfig :=
  { webService with
    ports := some
      [{ (default : Latest.ServicePortConfig) with target := 80, published := 4294967295 }] }

/-- Its published service, with the port under its generated name. -/
def highPortServices : List Service :=
  [assignedService "web-published" "10.0.0.7" "4294967295-tcp" 30080]

/-- The node port of a published port need not be the published port: it is -1 here. -/
theorem highPort_nodePort :
    ∃ D, (stackToStack Runtime.reference (stackOf [highPortService]) .nodePort
        (stateWith highPortServices)).1 = .ok D ∧
      (D.services.lookup "prod/web-published").map
        (·.spec.ports.elems.map fun q => (q.name, q.nodePort)) = some [("4294967295-tcp", -1)] ∧
      ¬AddressesSurvive Runtime.reference .nodePort
        (stackContexts Runtime.reference (stackOf [highPortService])
          { (default : Latest.StackSpec) with services := some [highPortService] } .nodePort)
        (stateWith highPortServices).services D.services
        (computeDiff (RangeOrder.ascending _) (stateWith highPortServices) D).services := by
  refine ⟨_, rfl, rfl, fun hsurvive => ?_⟩
  have hports := hsurvive.published rfl _ List.mem_cons_self rfl _ _ rfl rfl
  cases hports with
  | cons hport _ => exact absurd hport.2 (by decide)

end ComposeKube

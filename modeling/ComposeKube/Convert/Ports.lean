import ComposeKube.Convert.Stack

/-!
# Ports of the exposed services

`toServices` divides the ports of a compose service between the published and the
random-ports service. Kubernetes refuses a service in which two ports have one name,
or one number and one protocol.

The name of a published port is made of the published number. The load balancer
strategy takes the number of the port from there as well; the node port strategy
takes the target port, and publishing one target twice is ordinary input.

* `portName_inj` — a name says what it was made of.
* `portsAccepted_iff` — when the ports of one service do not clash.
* `toServices_ports_iff` — when Kubernetes accepts the ports of both services.
-/

namespace ComposeKube

open Go

/-! ## Names -/

theorem toProtocol_cases (value : String) :
    toProtocol value = "UDP" ∨ toProtocol value = "TCP" := by
  unfold toProtocol
  split
  · exact Or.inl rfl
  · exact Or.inr rfl

theorem toLower_toProtocol (rt : Runtime) (value : String) :
    rt.toLower (toProtocol value) = if toProtocol value = "UDP" then "udp" else "tcp" := by
  rcases toProtocol_cases value with h | h
  · rw [h, rt.toLower_ascii _ (by simp)]
    decide
  · rw [h, rt.toLower_ascii _ (by simp)]
    decide

/-- **A name of a port says what it was made of**: the suffixes of the two protocols
are equally long, and what is left are the digits of the number. -/
theorem portName_inj {rt : Runtime} {m n : Nat} {p q : String}
    (h : portName rt m (toProtocol p) = portName rt n (toProtocol q)) :
    m = n ∧ toProtocol p = toProtocol q := by
  unfold portName at h
  rw [toLower_toProtocol, toLower_toProtocol] at h
  have hlist := congrArg String.toList h
  simp only [String.toList_append, List.append_assoc] at hlist
  rw [toList_formatInt, toList_formatInt] at hlist
  -- both protocols have three letters, so that the name can be split from its end
  have hlength : ∀ protocol : String,
      (if protocol = "UDP" then "udp" else "tcp").toList.length = 3 := by
    intro protocol
    split
    · decide
    · decide
  obtain ⟨hnumber, hsuffix⟩ := List.append_inj' hlist (by
    rw [List.length_append, List.length_append, hlength, hlength])
  constructor
  · rw [← digitsValue_toDigits m, hnumber, digitsValue_toDigits]
  · rcases toProtocol_cases p with hp | hp <;> rcases toProtocol_cases q with hq | hq <;>
      rw [hp, hq] at hsuffix ⊢
    · exact absurd hsuffix (by decide)
    · exact absurd hsuffix (by decide)

/-! ## The ports of one service -/

/-- The entries of `Ports` that are published (or that are not). -/
def portsOf (published : Bool) (s : Latest.ServiceConfig) : List Latest.ServicePortConfig :=
  s.ports.elems.filter fun p => decide (p.published ≠ 0) = published

/-- The service port is the one of the entry. -/
structure Exposes (rt : Runtime) (source : Latest.ServicePortConfig) (port : ServicePort) :
    Prop where
  name : port.name = exposedPortName rt source
  targetPort : port.targetPort = .fromInt source.target.toNat
  protocol : port.protocol = toProtocol source.protocol

/-- The ports of one service: of its entries, each once and in order, with distinct
names and distinct pairs of a number and a protocol. -/
structure PortsAccepted (rt : Runtime) (sources : List Latest.ServicePortConfig)
    (ports : List ServicePort) : Prop where
  entries : List.Forall₂ (Exposes rt) sources ports
  names : (ports.map (·.name)).Nodup
  numbers : (ports.map fun p => (p.port, p.protocol)).Nodup

section Exposed

variable (rt : Runtime) (strategy : ServiceStrategy) (published : Bool) (s : Latest.ServiceConfig)
  (original : Slice ServicePort)

theorem exposedPorts_forall₂ :
    List.Forall₂ (Exposes rt) (portsOf published s)
      (exposedPorts rt strategy published s original) := by
  unfold exposedPorts portsOf
  rw [List.forall₂_map_right_iff, List.forall₂_same]
  exact fun _ _ => ⟨rfl, rfl, rfl⟩

/-- The number from which the name of a port is made, and the protocol. -/
def namedNumber (source : Latest.ServicePortConfig) : UInt32 × String :=
  (if source.published ≠ 0 then source.published else source.target, toProtocol source.protocol)

/-- The name of a port tells its number and protocol. -/
theorem exposedPortName_inj {p q : Latest.ServicePortConfig}
    (h : exposedPortName rt p = exposedPortName rt q) : namedNumber p = namedNumber q := by
  have hname : ∀ source : Latest.ServicePortConfig, exposedPortName rt source =
      portName rt (namedNumber source).1.toNat (toProtocol source.protocol) := by
    intro source
    unfold exposedPortName namedNumber
    split
    · rfl
    · rfl
  rw [hname, hname] at h
  obtain ⟨hnumber, hproto⟩ := portName_inj h
  exact Prod.ext (UInt32.toNat_inj.mp hnumber) hproto

/-- The names are distinct when what they are made of is. -/
theorem exposedPorts_names (h : ((portsOf published s).map namedNumber).Nodup) :
    ((exposedPorts rt strategy published s original).map (·.name)).Nodup := by
  have hnames : (exposedPorts rt strategy published s original).map (·.name) =
      (portsOf published s).map (exposedPortName rt) := by
    unfold exposedPorts portsOf
    rw [List.map_map]
    rfl
  rw [hnames]
  -- a name says which number and protocol it is made of, so it is enough to compare those
  refine List.Nodup.map_on ?_ h.of_map
  intro p hp q hq heq
  exact List.inj_on_of_nodup_map h hp hq (exposedPortName_inj rt heq)

/-- The number of a port, and the protocol. -/
def portNumber (source : Latest.ServicePortConfig) : UInt32 × String :=
  (if strategy = .loadBalancer ∧ source.published ≠ 0 then source.published else source.target,
    toProtocol source.protocol)

/-- The numbers are distinct when they are before they are narrowed. -/
theorem exposedPorts_numbers :
    ((exposedPorts rt strategy published s original).map fun p => (p.port, p.protocol)).Nodup ↔
      ((portsOf published s).map (portNumber strategy)).Nodup := by
  have hnumbers : (exposedPorts rt strategy published s original).map
        (fun p => (p.port, p.protocol)) =
      ((portsOf published s).map (portNumber strategy)).map fun n => (n.1.toInt32, n.2) := by
    unfold exposedPorts portsOf
    rw [List.map_map, List.map_map]
    refine List.map_congr_left fun p _ => ?_
    refine Prod.ext ?_ rfl
    show (if strategy = .loadBalancer ∧ p.published ≠ 0 then p.published.toInt32
      else p.target.toInt32) = (portNumber strategy p).1.toInt32
    unfold portNumber
    split
    · rfl
    · rfl
  rw [hnumbers]
  -- `int32(x)` loses no information, negative as it may be
  refine List.nodup_map_iff fun n n' heq => ?_
  obtain ⟨hnumber, hproto⟩ := Prod.mk.inj heq
  exact Prod.ext (congrArg Int32.toUInt32 hnumber) hproto

/-- **When the ports of one service are accepted**, given that the numbers in their
names are distinct. -/
theorem portsAccepted_iff (h : ((portsOf published s).map namedNumber).Nodup) :
    PortsAccepted rt (portsOf published s) (exposedPorts rt strategy published s original) ↔
      ((portsOf published s).map (portNumber strategy)).Nodup := by
  rw [← exposedPorts_numbers rt strategy published s original]
  constructor
  · exact fun haccepted => haccepted.numbers
  · intro hnumbers
    exact ⟨exposedPorts_forall₂ rt strategy published s original,
      exposedPorts_names rt strategy published s original h, hnumbers⟩

end Exposed

/-! ## Both services -/

/-- The target of an entry, and the protocol. -/
def targetNumber (source : Latest.ServicePortConfig) : UInt32 × String :=
  (source.target, toProtocol source.protocol)

/-- The published number of an entry, and the protocol. -/
def publishedNumber (source : Latest.ServicePortConfig) : UInt32 × String :=
  (source.published, toProtocol source.protocol)

theorem published_of_mem_portsOf {published : Bool} {s : Latest.ServiceConfig}
    {p : Latest.ServicePortConfig} (h : p ∈ portsOf published s) :
    p.published ≠ 0 ↔ published = true := by
  have hdecide : decide (p.published ≠ 0) = published := by
    simpa [portsOf] using (List.mem_filter.mp h).2
  rw [← hdecide, decide_eq_true_eq]

/-- Both strategies name a port by its published number, if it has one. -/
theorem map_namedNumber (published : Bool) (s : Latest.ServiceConfig) :
    (portsOf published s).map namedNumber =
      if published = true then (portsOf published s).map publishedNumber
      else (portsOf published s).map targetNumber := by
  split
  case isTrue hpublished =>
    refine List.map_congr_left fun p hp => ?_
    rw [namedNumber, if_pos ((published_of_mem_portsOf hp).mpr hpublished), publishedNumber]
  case isFalse hpublished =>
    refine List.map_congr_left fun p hp => ?_
    rw [namedNumber, if_neg fun h => hpublished ((published_of_mem_portsOf hp).mp h),
      targetNumber]

/-- Only the load balancer strategy takes the published number, and only of published
ports. -/
theorem map_portNumber (strategy : ServiceStrategy) (published : Bool) (s : Latest.ServiceConfig) :
    (portsOf published s).map (portNumber strategy) =
      if strategy = .loadBalancer ∧ published = true then (portsOf published s).map publishedNumber
      else (portsOf published s).map targetNumber := by
  split
  case isTrue hlb =>
    refine List.map_congr_left fun p hp => ?_
    rw [portNumber, if_pos ⟨hlb.1, (published_of_mem_portsOf hp).mpr hlb.2⟩, publishedNumber]
  case isFalse hnode =>
    refine List.map_congr_left fun p hp => ?_
    rw [portNumber, if_neg fun h => hnode ⟨h.1, (published_of_mem_portsOf hp).mp h.2⟩,
      targetNumber]

/-- The ports of a service, if there is one. -/
def servicePorts (service : Option Service) : List ServicePort :=
  service.elim [] fun service => service.spec.ports.elems

/-- The ports of the two exposed services, each on top of the original of its key. -/
theorem servicePorts_toServices (rt : Runtime) (s : Latest.ServiceConfig) (objectMeta : ObjectMeta)
    (labelSelector : Map String) (strategy : ServiceStrategy) (original : StackState) :
    let originalPorts := fun role : ServiceRole => (getOriginal original.services
      (objKey objectMeta.namespace_ (role.nameFor objectMeta.name))).spec.ports
    servicePorts (toServices rt s objectMeta labelSelector strategy original).2.1 =
        exposedPorts rt strategy true s (originalPorts .published) ∧
      servicePorts (toServices rt s objectMeta labelSelector strategy original).2.2 =
        exposedPorts rt strategy false s (originalPorts .randomPorts) := by
  intro originalPorts
  rw [toServices_eq]
  dsimp only
  -- a service that is not emitted has no entries
  constructor
  · by_cases hemitted : ServiceRole.published.emitted s = true
    · rw [if_pos hemitted]
      exact Slice.elems_ofAppends _
    · have hnil := (exposedPorts_published_length rt strategy s
        (originalPorts .published)).mpr hemitted
      rw [if_neg hemitted, List.length_eq_zero_iff.mp hnil]
      rfl
  · by_cases hemitted : ServiceRole.randomPorts.emitted s = true
    · rw [if_pos hemitted]
      exact Slice.elems_ofAppends _
    · have hnil := (exposedPorts_randomPorts_length rt strategy s
        (originalPorts .randomPorts)).mpr hemitted
      rw [if_neg hemitted, List.length_eq_zero_iff.mp hnil]
      rfl

/-- **When Kubernetes accepts the exposed ports.** For every service whose published
ports have distinct published numbers and whose other ports have distinct targets,
each together with the protocol, and every original state: each entry of `Ports` is
in one of the two services, once and in order, and no two ports of a service clash,
exactly when the strategy is the load balancer or the published ports have distinct
targets as well. -/
theorem toServices_ports_iff (rt : Runtime) (s : Latest.ServiceConfig) (objectMeta : ObjectMeta)
    (labelSelector : Map String) (strategy : ServiceStrategy) (original : StackState)
    (hpublished : ((portsOf true s).map publishedNumber).Nodup)
    (hunpublished : ((portsOf false s).map targetNumber).Nodup) :
    PortsAccepted rt (portsOf true s)
          (servicePorts (toServices rt s objectMeta labelSelector strategy original).2.1) ∧
        PortsAccepted rt (portsOf false s)
          (servicePorts (toServices rt s objectMeta labelSelector strategy original).2.2) ↔
      strategy = .loadBalancer ∨ ((portsOf true s).map targetNumber).Nodup := by
  obtain ⟨hp, hr⟩ := servicePorts_toServices rt s objectMeta labelSelector strategy original
  have hnamed : ((portsOf true s).map namedNumber).Nodup := by
    rw [map_namedNumber, if_pos rfl]
    exact hpublished
  have hnamed' : ((portsOf false s).map namedNumber).Nodup := by
    rw [map_namedNumber, if_neg Bool.false_ne_true]
    exact hunpublished
  rw [hp, hr, portsAccepted_iff rt strategy true s _ hnamed,
    portsAccepted_iff rt strategy false s _ hnamed', map_portNumber, map_portNumber]
  cases strategy with
  | loadBalancer => simp [hpublished, hunpublished]
  | nodePort => simp [hunpublished]

/-- A service with two published ports and two others; one target has two protocols. -/
def fourPorts : Latest.ServiceConfig :=
  { (default : Latest.ServiceConfig) with
    name := "web"
    ports := some
      [{ (default : Latest.ServicePortConfig) with published := 8080, target := 80 },
       { (default : Latest.ServicePortConfig) with target := 53, protocol := "udp" },
       { (default : Latest.ServicePortConfig) with published := 8443, target := 443 },
       { (default : Latest.ServicePortConfig) with target := 53 }] }

/-- Its ports are accepted in both services. -/
theorem toServices_ports_fourPorts :
    PortsAccepted Runtime.reference (portsOf true fourPorts)
        (servicePorts (toServices Runtime.reference fourPorts default ∅ .nodePort
          emptyStackState).2.1) ∧
      PortsAccepted Runtime.reference (portsOf false fourPorts)
        (servicePorts (toServices Runtime.reference fourPorts default ∅ .nodePort
          emptyStackState).2.2) :=
  (toServices_ports_iff Runtime.reference fourPorts default ∅ .nodePort emptyStackState
    (by decide) (by decide)).mpr (Or.inr (by decide))

/-- A service that publishes its one target twice. -/
def twicePublished : Latest.ServiceConfig :=
  { (default : Latest.ServiceConfig) with
    name := "web"
    ports := some
      [{ (default : Latest.ServicePortConfig) with published := 8080, target := 80 },
       { (default : Latest.ServicePortConfig) with published := 8081, target := 80 }] }

/-- **Two ports clash**: with the node port strategy both get the number of the target,
and Kubernetes refuses the service. -/
theorem toServices_ports_clash :
    ((portsOf true twicePublished).map publishedNumber).Nodup ∧
      ((portsOf false twicePublished).map targetNumber).Nodup ∧
      (servicePorts (toServices Runtime.reference twicePublished default ∅ .nodePort
        emptyStackState).2.1).map (fun p => (p.port, p.protocol)) = [(80, "TCP"), (80, "TCP")] := by
  refine ⟨by decide, by decide, ?_⟩
  rfl

end ComposeKube

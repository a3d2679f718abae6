import ComposeKube.Convert.Pod
import ComposeKube.StackResources.State

/-!
# Services

`service.go`: the internal service of a compose service, and up to two exposed
ones, for the published ports and for the others. Each is built on top of the
Kubernetes service that has its key.

Results:

* `toServices_eq` — the services by role: each is built from the original of its
  own key, and whether it exists depends on the stack only.
* `ServiceRole.spec_idem` — building a service again on top of the built one
  leaves its spec unchanged.
-/

namespace ComposeKube

open Go

def publishedServiceSuffix : String := "-published"

def publishedOnRandomPortSuffix : String := "-random-ports"

def headlessPortName : String := "headless"

def headlessPort : Int32 := 55555

def clusterIPNone : String := "None"

/-! ## Strategies -/

/-- The two implementations of `ServiceStrategy`. -/
inductive ServiceStrategy where
  | loadBalancer
  | nodePort
  deriving DecidableEq, Inhabited

/-- `findPortOrDefault`. -/
def findPortOrDefault (ports : Slice ServicePort) (name : String) : ServicePort :=
  (ports.elems.find? fun p => p.name = name).getD { (default : ServicePort) with name }

/-- `fmt.Sprintf("%d-%s", port, strings.ToLower(protocol))`. -/
def portName (rt : Runtime) (port : Int) (protocol : String) : String :=
  formatInt port ++ "-" ++ rt.toLower protocol

namespace ServiceStrategy

/-- `ServiceStrategyFor`. -/
def serviceStrategyFor : ServiceType → Except String ServiceStrategy
  | .loadBalancer => .ok .loadBalancer
  | .nodePort => .ok .nodePort
  | .unset => .error "No strategy for service type "
  | .clusterIP => .error "No strategy for service type ClusterIP"
  | .externalName => .error "No strategy for service type ExternalName"

def randomServiceType : ServiceStrategy → ServiceType
  | loadBalancer => .nodePort
  | nodePort => .nodePort

def publishedServiceType : ServiceStrategy → ServiceType
  | loadBalancer => .loadBalancer
  | nodePort => .nodePort

/-- `convertServicePort`; the flag tells published ports from the others. -/
def convertServicePort (rt : Runtime) (strategy : ServiceStrategy)
    (source : Latest.ServicePortConfig) (originalPublished originalRandom : Slice ServicePort) :
    ServicePort × Bool :=
  let proto := toProtocol source.protocol
  match strategy with
  | loadBalancer =>
    if source.published ≠ 0 then
      let p := findPortOrDefault originalPublished (portName rt source.published.toNat proto)
      ({ p with
          port := source.published.toInt32
          protocol := proto
          targetPort := .fromInt source.target.toNat }, true)
    else
      let p := findPortOrDefault originalRandom (portName rt source.target.toNat proto)
      ({ p with
          protocol := proto
          port := source.target.toInt32
          targetPort := .fromInt source.target.toNat }, false)
  | nodePort =>
    if source.published ≠ 0 then
      let p := findPortOrDefault originalPublished (portName rt source.published.toNat proto)
      -- the published port is the node's port here, the service listens on the target port
      ({ p with
          nodePort := source.published.toInt32
          protocol := proto
          port := source.target.toInt32
          targetPort := .fromInt source.target.toNat }, true)
    else
      let p := findPortOrDefault originalRandom (portName rt source.target.toNat proto)
      ({ p with
          protocol := proto
          targetPort := .fromInt source.target.toNat
          port := source.target.toInt32 }, false)

end ServiceStrategy

/-! ## The three services -/

/-- The `useHeadless` of `toInternalService`. -/
def useHeadless (internalPorts : Slice Latest.InternalPort) (internalServiceType : String) : Bool :=
  if internalServiceType = "Headless" then true
  else if internalServiceType = "" then internalPorts.elems.length = 0
  else false

/-- The one port of a headless service. -/
def headlessServicePort : ServicePort :=
  { (default : ServicePort) with
    name := headlessPortName
    port := headlessPort
    targetPort := .fromInt headlessPort.toInt
    protocol := "TCP" }

/-- A port of an internal service that is not headless. -/
def internalServicePort (rt : Runtime) (p : Latest.InternalPort) : ServicePort :=
  { (default : ServicePort) with
    name := portName rt p.port.toInt p.protocol
    port := p.port
    targetPort := .fromInt p.port.toInt
    protocol := p.protocol }

/-- `toInternalService`. -/
def toInternalService (rt : Runtime) (objectMeta : ObjectMeta) (labelSelector : Map String)
    (original : Service) (internalPorts : Slice Latest.InternalPort)
    (internalServiceType : String) : Service :=
  if useHeadless internalPorts internalServiceType then
    { original with
      objectMeta := objectMeta
      spec := { original.spec with
        selector := some labelSelector
        clusterIP := clusterIPNone
        ports := some [headlessServicePort] } }
  else
    { original with
      objectMeta := objectMeta
      spec := { original.spec with
        selector := some labelSelector
        -- the `None` of a service that was headless is not taken over
        clusterIP := if original.spec.clusterIP = clusterIPNone then "" else original.spec.clusterIP
        ports := some (internalPorts.elems.map (internalServicePort rt)) } }

/-- `toExposedService`. -/
def toExposedService (objectMeta : ObjectMeta) (servicePorts : List ServicePort)
    (svcType : ServiceType) (labelSelector : Map String) (original : Service) : Option Service :=
  if servicePorts.length = 0 then none
  else some { original with
    objectMeta := objectMeta
    spec := { original.spec with
      type := svcType
      selector := some labelSelector
      ports := Slice.ofAppends servicePorts } }

/-- `publishedObjectMeta`. -/
def publishedObjectMeta (objectMeta : ObjectMeta) : ObjectMeta :=
  { objectMeta with name := objectMeta.name ++ publishedServiceSuffix }

/-- `randomPortsObjectMeta`. -/
def randomPortsObjectMeta (objectMeta : ObjectMeta) : ObjectMeta :=
  { objectMeta with name := objectMeta.name ++ publishedOnRandomPortSuffix }

/-- The map lookup of a struct value: a missing key reads as the zero value. -/
def getOriginal {α : Type} [Inhabited α] (m : Map α) (key : String) : α :=
  (m.lookup key).getD default

/-- `toServices`: the internal, the published and the random-ports service. -/
def toServices (rt : Runtime) (s : Latest.ServiceConfig) (objectMeta : ObjectMeta)
    (labelSelector : Map String) (strategy : ServiceStrategy) (original : StackState) :
    Service × Option Service × Option Service :=
  let headlessMeta := objectMeta
  let publishedMeta := publishedObjectMeta objectMeta
  let randomPortsMeta := randomPortsObjectMeta objectMeta
  let originalHL :=
    getOriginal original.services (objKey headlessMeta.namespace_ headlessMeta.name)
  let hl := toInternalService rt headlessMeta labelSelector originalHL s.internalPorts
    s.internalServiceType
  let originalRandom :=
    getOriginal original.services (objKey randomPortsMeta.namespace_ randomPortsMeta.name)
  let originalPublished :=
    getOriginal original.services (objKey publishedMeta.namespace_ publishedMeta.name)
  -- each port goes to one of the two services that are exposed
  let ports := s.ports.elems.map fun p =>
    strategy.convertServicePort rt p originalPublished.spec.ports originalRandom.spec.ports
  let publishedPorts := (ports.filter fun p => p.2).map Prod.fst
  let randomPorts := (ports.filter fun p => !p.2).map Prod.fst
  -- a service without ports is not built
  let published := toExposedService publishedMeta publishedPorts strategy.publishedServiceType
    labelSelector originalPublished
  let random := toExposedService randomPortsMeta randomPorts strategy.randomServiceType
    labelSelector originalRandom
  (hl, published, random)

/-! ## Ports, given the node port they inherit -/

/-- A port that is looked up has the name, found or not. -/
theorem findPortOrDefault_name (ports : Slice ServicePort) (name : String) :
    (findPortOrDefault ports name).name = name := by
  unfold findPortOrDefault
  cases h : ports.elems.find? fun p => decide (p.name = name) with
  | none => rfl
  | some p => simpa using List.find?_some h

/-- The name of the service port that a port becomes. -/
def exposedPortName (rt : Runtime) (source : Latest.ServicePortConfig) : String :=
  portName rt (if source.published ≠ 0 then source.published.toNat else source.target.toNat)
    (toProtocol source.protocol)

/-- The service port that a port becomes, given the node port of the original
port of its name. -/
def exposedPort (rt : Runtime) (strategy : ServiceStrategy) (source : Latest.ServicePortConfig)
    (nodePort : Int32) : ServicePort :=
  { name := exposedPortName rt source
    protocol := toProtocol source.protocol
    port :=
      if strategy = .loadBalancer ∧ source.published ≠ 0 then source.published.toInt32
      else source.target.toInt32
    targetPort := .fromInt source.target.toNat
    nodePort :=
      if strategy = .nodePort ∧ source.published ≠ 0 then source.published.toInt32
      else nodePort }

/-- Of the original port only the node port survives. -/
theorem convertServicePort_eq (rt : Runtime) (strategy : ServiceStrategy)
    (source : Latest.ServicePortConfig) (originalPublished originalRandom : Slice ServicePort) :
    strategy.convertServicePort rt source originalPublished originalRandom =
      (exposedPort rt strategy source
        (findPortOrDefault (if source.published ≠ 0 then originalPublished else originalRandom)
          (exposedPortName rt source)).nodePort,
        decide (source.published ≠ 0)) := by
  -- a port is its five fields, and the name is the one that was looked up
  by_cases hp : source.published ≠ 0
  · cases strategy <;>
      simp [ServiceStrategy.convertServicePort, exposedPort, exposedPortName, hp,
        findPortOrDefault_name]
  · have hp' : source.published = 0 := not_not.mp hp
    cases strategy <;>
      simp [ServiceStrategy.convertServicePort, exposedPort, exposedPortName, hp',
        findPortOrDefault_name]

/-- The ports of the published (or of the random-ports) service. -/
def exposedPorts (rt : Runtime) (strategy : ServiceStrategy) (published : Bool)
    (s : Latest.ServiceConfig) (original : Slice ServicePort) : List ServicePort :=
  (s.ports.elems.filter fun p => decide (p.published ≠ 0) = published).map fun p =>
    exposedPort rt strategy p (findPortOrDefault original (exposedPortName rt p)).nodePort

/-- Which service exposes a port depends on the port only. -/
theorem exposedPorts_eq (rt : Runtime) (strategy : ServiceStrategy) (s : Latest.ServiceConfig)
    (originalPublished originalRandom : Slice ServicePort) :
    ((s.ports.elems.map fun p =>
        strategy.convertServicePort rt p originalPublished originalRandom).filter
          fun p => p.2).map Prod.fst = exposedPorts rt strategy true s originalPublished ∧
    ((s.ports.elems.map fun p =>
        strategy.convertServicePort rt p originalPublished originalRandom).filter
          fun p => !p.2).map Prod.fst = exposedPorts rt strategy false s originalRandom := by
  unfold exposedPorts
  induction s.ports.elems with
  | nil => exact ⟨rfl, rfl⟩
  | cons p rest ih =>
    obtain ⟨ihPublished, ihRandom⟩ := ih
    by_cases hp : p.published = 0
    · simp [convertServicePort_eq, hp] at ihPublished ihRandom ⊢
      exact ⟨ihPublished, ihRandom⟩
    · simp [convertServicePort_eq, hp] at ihPublished ihRandom ⊢
      exact ⟨ihPublished, ihRandom⟩

/-- Exposing the ports again on top of the exposed ones changes nothing: ports
of one name have all inherited the same node port. -/
theorem exposedPorts_idem (rt : Runtime) (strategy : ServiceStrategy) (published : Bool)
    (s : Latest.ServiceConfig) (original : Slice ServicePort) :
    exposedPorts rt strategy published s
        (Slice.ofAppends (exposedPorts rt strategy published s original)) =
      exposedPorts rt strategy published s original := by
  refine List.map_congr_left fun p hp => ?_
  set built := exposedPorts rt strategy published s original with hbuilt
  have hmem : exposedPort rt strategy p
      (findPortOrDefault original (exposedPortName rt p)).nodePort ∈ built :=
    List.mem_map_of_mem hp
  unfold findPortOrDefault
  rw [Slice.elems_ofAppends]
  cases hfind : built.find? fun q => decide (q.name = exposedPortName rt p) with
  | none =>
    rw [List.find?_eq_none] at hfind
    exact absurd (decide_eq_true rfl) (hfind _ hmem)
  | some q =>
    -- the port found was built from a port `p'` of the same name
    have hq : q ∈ built := List.mem_of_find?_eq_some hfind
    have hname : q.name = exposedPortName rt p := by simpa using List.find?_some hfind
    rw [hbuilt] at hq
    obtain ⟨p', hp', rfl⟩ := List.mem_map.mp hq
    have hname' : exposedPortName rt p' = exposedPortName rt p := hname
    have hflag : ∀ p'' ∈ s.ports.elems.filter fun p => decide (p.published ≠ 0) = published,
        decide (p''.published ≠ 0) = published :=
      fun p'' h => by simpa using (List.mem_filter.mp h).2
    have hsame : p'.published ≠ 0 ↔ p.published ≠ 0 := by
      rw [← decide_eq_decide, hflag p' hp', hflag p hp]
    rw [hname', Option.getD_some]
    -- either the node port is overwritten in both, or inherited in both
    by_cases hover : strategy = .nodePort ∧ p.published ≠ 0
    · simp [exposedPort, hover.1, hover.2]
    · have hover' : ¬(strategy = .nodePort ∧ p'.published ≠ 0) :=
        fun h => hover ⟨h.1, hsame.mp h.2⟩
      have hnode : (exposedPort rt strategy p'
          (findPortOrDefault original (exposedPortName rt p)).nodePort).nodePort =
          (findPortOrDefault original (exposedPortName rt p)).nodePort := if_neg hover'
      rw [hnode]
      rfl

/-! ## Roles

The three services of a compose service differ in their name, in when they
exist, and in what they take over from the original. -/

/-- The role of a generated service. -/
inductive ServiceRole where
  | internal
  | published
  | randomPorts
  deriving DecidableEq

namespace ServiceRole

/-- All roles, in the order in which the services are emitted. -/
def all : List ServiceRole := [internal, published, randomPorts]

/-- The name of the service in this role. -/
def nameFor (role : ServiceRole) (name : String) : String :=
  match role with
  | internal => name
  | published => name ++ publishedServiceSuffix
  | randomPorts => name ++ publishedOnRandomPortSuffix

/-- The two kinds of exposed services never share a name. -/
theorem published_ne_randomPorts (s t : String) :
    published.nameFor s ≠ randomPorts.nameFor t :=
  append_ne_of_getLast (by decide) (by decide) (by decide)

/-- The names of a service in its roles have three different lengths. -/
theorem nameFor_injective {role role' : ServiceRole} {name : String}
    (h : role.nameFor name = role'.nameFor name) : role = role' := by
  have hlength := congrArg (fun s : String => s.toList.length) h
  cases role <;> cases role' <;>
    simp [nameFor, publishedServiceSuffix, publishedOnRandomPortSuffix] at hlength ⊢

/-- Whether a compose service has a service in this role. -/
def emitted (role : ServiceRole) (s : Latest.ServiceConfig) : Bool :=
  match role with
  | internal => true
  | published => s.ports.elems.any fun p => p.published ≠ 0
  | randomPorts => s.ports.elems.any fun p => p.published = 0

/-- The spec of the service in this role, on top of an original spec. -/
def spec (rt : Runtime) (strategy : ServiceStrategy) (s : Latest.ServiceConfig)
    (labelSelector : Map String) (role : ServiceRole) (original : ServiceSpec) : ServiceSpec :=
  match role with
  | internal =>
    if useHeadless s.internalPorts s.internalServiceType then
      { original with
        selector := some labelSelector
        clusterIP := clusterIPNone
        ports := some [headlessServicePort] }
    else
      { original with
        selector := some labelSelector
        clusterIP := if original.clusterIP = clusterIPNone then "" else original.clusterIP
        ports := some (s.internalPorts.elems.map (internalServicePort rt)) }
  | published =>
    { original with
      type := strategy.publishedServiceType
      selector := some labelSelector
      ports := Slice.ofAppends (exposedPorts rt strategy true s original.ports) }
  | randomPorts =>
    { original with
      type := strategy.randomServiceType
      selector := some labelSelector
      ports := Slice.ofAppends (exposedPorts rt strategy false s original.ports) }

/-- **The spec of a service is a fixed point**: built again on top of itself it
stays as it is. -/
theorem spec_idem (rt : Runtime) (strategy : ServiceStrategy) (s : Latest.ServiceConfig)
    (labelSelector : Map String) (role : ServiceRole) (original : ServiceSpec) :
    role.spec rt strategy s labelSelector (role.spec rt strategy s labelSelector original) =
      role.spec rt strategy s labelSelector original := by
  cases role with
  | internal =>
    unfold spec
    by_cases hhl : useHeadless s.internalPorts s.internalServiceType = true
    · simp only [hhl, if_true]
    · by_cases hip : original.clusterIP = clusterIPNone
      · simp [hhl, hip]
      · simp [hhl, hip]
  | published => simp only [spec, exposedPorts_idem]
  | randomPorts => simp only [spec, exposedPorts_idem]

/-- The selector is the given one in every role. -/
theorem spec_selector (rt : Runtime) (strategy : ServiceStrategy) (s : Latest.ServiceConfig)
    (labelSelector : Map String) (role : ServiceRole) (original : ServiceSpec) :
    (role.spec rt strategy s labelSelector original).selector = some labelSelector := by
  cases role with
  | internal =>
    unfold spec
    by_cases hhl : useHeadless s.internalPorts s.internalServiceType = true <;> simp [hhl]
  | published => rfl
  | randomPorts => rfl

/-- The service in this role, on top of an original. -/
def build (rt : Runtime) (strategy : ServiceStrategy) (s : Latest.ServiceConfig)
    (objectMeta : ObjectMeta) (labelSelector : Map String) (role : ServiceRole)
    (original : Service) : Service :=
  { original with
    objectMeta := { objectMeta with name := role.nameFor objectMeta.name }
    spec := role.spec rt strategy s labelSelector original.spec }

end ServiceRole

/-- A published service exists when some port is published. -/
theorem exposedPorts_published_length (rt : Runtime) (strategy : ServiceStrategy)
    (s : Latest.ServiceConfig) (original : Slice ServicePort) :
    (exposedPorts rt strategy true s original).length = 0 ↔
      ¬ServiceRole.published.emitted s = true := by
  rw [exposedPorts, List.length_map, List.length_eq_zero_iff, List.filter_eq_nil_iff]
  simp [ServiceRole.emitted]

/-- A random-ports service exists when some port is not published. -/
theorem exposedPorts_randomPorts_length (rt : Runtime) (strategy : ServiceStrategy)
    (s : Latest.ServiceConfig) (original : Slice ServicePort) :
    (exposedPorts rt strategy false s original).length = 0 ↔
      ¬ServiceRole.randomPorts.emitted s = true := by
  rw [exposedPorts, List.length_map, List.length_eq_zero_iff, List.filter_eq_nil_iff]
  simp [ServiceRole.emitted]

theorem toInternalService_eq (rt : Runtime) (strategy : ServiceStrategy)
    (s : Latest.ServiceConfig) (objectMeta : ObjectMeta) (labelSelector : Map String)
    (original : Service) :
    toInternalService rt objectMeta labelSelector original s.internalPorts s.internalServiceType =
      ServiceRole.internal.build rt strategy s objectMeta labelSelector original := by
  unfold toInternalService ServiceRole.build ServiceRole.spec
  by_cases hhl : useHeadless s.internalPorts s.internalServiceType = true
  · rw [if_pos hhl, if_pos hhl]
    rfl
  · rw [if_neg hhl, if_neg hhl]
    rfl

/-- **The services of a compose service, by role**: each is built from the
original that has its own key, and whether it exists is a matter of the stack. -/
theorem toServices_eq (rt : Runtime) (s : Latest.ServiceConfig) (objectMeta : ObjectMeta)
    (labelSelector : Map String) (strategy : ServiceStrategy) (original : StackState) :
    let built := fun role : ServiceRole =>
      role.build rt strategy s objectMeta labelSelector
        (getOriginal original.services
          (objKey objectMeta.namespace_ (role.nameFor objectMeta.name)))
    toServices rt s objectMeta labelSelector strategy original =
      (built .internal,
        if ServiceRole.published.emitted s then some (built .published) else none,
        if ServiceRole.randomPorts.emitted s then some (built .randomPorts) else none) := by
  intro built
  unfold toServices
  simp only [(exposedPorts_eq rt strategy s _ _).1, (exposedPorts_eq rt strategy s _ _).2,
    toExposedService, exposedPorts_published_length, exposedPorts_randomPorts_length]
  refine Prod.ext (toInternalService_eq ..) (Prod.ext ?_ ?_)
  · show (if ¬ServiceRole.published.emitted s = true then none else some (built .published)) = _
    rw [ite_not]
  · show (if ¬ServiceRole.randomPorts.emitted s = true then none
      else some (built .randomPorts)) = _
    rw [ite_not]

end ComposeKube

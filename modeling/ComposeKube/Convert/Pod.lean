import ComposeKube.Convert.Placement
import ComposeKube.Convert.Volumes

/-!
# Pod templates

`pod.go`: the pod template of a service, built on top of the template the
workload already has. What can fail does not look at that template
(`toPodParts`); what looks at it cannot fail (`fillPodTemplate`).

Results:

* `fillPodTemplate_idem`, `forceRestartPolicy_fillPodTemplate` — building the
  template again on top of the built one changes nothing, with and without the
  forced restart policy.
* `toPodParts_order` — of the parts, only the node affinity depends on the
  order in which maps are visited.
-/

namespace ComposeKube

open Go

/-! ## The parts -/

/-- `toImagePullPolicy`. -/
def toImagePullPolicy (image specifiedPolicy : String) : Except String PullPolicy :=
  if specifiedPolicy = "" then
    if hasSuffix image ":latest" then .ok .always else .ok .ifNotPresent
  else if specifiedPolicy = "Always" then .ok .always
  else if specifiedPolicy = "IfNotPresent" then .ok .ifNotPresent
  else if specifiedPolicy = "Never" then .ok .never
  else .error ("invalid pull policy " ++ quote specifiedPolicy ++ ", must be " ++ quote "Always" ++
    ", " ++ quote "IfNotPresent" ++ " or " ++ quote "Never")

/-- The first loop of `toHostAliases`: the address of each host name, the last
entry counting. -/
def hostAddresses (extraHosts : List String) : Except String (Map String) :=
  extraHosts.foldlM (fun byHostnames host =>
    match cut ':' host with
    | none => .error ("malformed host " ++ host)
    | some (name, ip) => .ok (byHostnames.insert name ip)) ∅

/-- The aliases of the given addresses, sorted by address. -/
def hostAliases (ord : ServiceOrder) (byHostnames : Map String) : List HostAlias :=
  let byIPs := groupByValue (ord.range .byHostnames byHostnames)
  let aliases := (ord.range .byIPs byIPs).map fun e =>
    ({ ip := e.1, hostnames := some (sortStrings e.2) } : HostAlias)
  sortBy (·.ip) aliases

/-- `toHostAliases`. -/
def toHostAliases (ord : ServiceOrder) (extraHosts : Slice String) :
    Except String (Slice HostAlias) :=
  match extraHosts with
  | none => .ok none
  | some extraHosts => do
    let byHostnames ← hostAddresses extraHosts
    return some (hostAliases ord byHostnames)

/-- `toHostPID`. -/
def toHostPID (pid : String) : Bool := "host" = pid

/-- `toHostIPC`. -/
def toHostIPC (ipc : String) : Bool := "host" = ipc

/-- `toTerminationGracePeriodSeconds`. -/
def toTerminationGracePeriodSeconds (rt : Runtime) (duration original : Option Int64) :
    Option Int64 :=
  match duration with
  | none => original
  | some duration => some (rt.seconds duration)

/-- `toSecondsOrDefault`. -/
def toSecondsOrDefault (rt : Runtime) (duration : Option Int64) (defaultValue : Int32) : Int32 :=
  match duration with
  | none => defaultValue
  | some duration => rt.seconds32 duration

/-- The conversion `int32(v)` of a `uint64`, which keeps the low 32 bits. -/
def toInt32 (v : UInt64) : Int32 := v.toUInt32.toInt32

/-- `toLivenessProbe`. -/
def toLivenessProbe (rt : Runtime) (hc : Option Latest.HealthCheckConfig) : Option Probe :=
  match hc with
  | none => none
  | some hc =>
    match hc.test.elems with
    -- no test, or the test `NONE`: there is no probe
    | [] => none
    | kind :: command =>
      if kind = "NONE" then none
      else
        -- any other first word is dropped, `CMD` or not
        let command := if kind = "CMD-SHELL" then ["sh", "-c"] ++ command else command
        some { (default : Probe) with
          timeoutSeconds := toSecondsOrDefault rt hc.timeout 1
          periodSeconds := toSecondsOrDefault rt hc.interval 1
          failureThreshold := toInt32 (hc.retries.getD 3)
          exec := some (some command) }

/-- `toEnvVar`. -/
def toEnvVar (key value : String) : EnvVar := { (default : EnvVar) with name := key, value }

/-- The body of the loop of `toEnv`. -/
def toEnvEntry (e : String × Option String) : Except String EnvVar :=
  match e.2 with
  | none => .error (e.1 ++ " has no value, unsetting an environment variable is not supported")
  | some value => .ok (toEnvVar e.1 value)

/-- `toEnv`. -/
def toEnv (ord : ServiceOrder) (env : MapRef (Option String)) : Except String (Slice EnvVar) := do
  let envVars ← (ord.range .environment env.entries).mapM toEnvEntry
  return Slice.ofAppends (sortBy (·.name) envVars)

/-- `toProtocol`. -/
def toProtocol (value : String) : String := if value = "udp" then "UDP" else "TCP"

/-- `toPorts`. -/
def toPorts (list : Slice Latest.ServicePortConfig) : Slice ContainerPort :=
  Slice.ofAppends <| list.elems.map fun v =>
    { (default : ContainerPort) with
      containerPort := v.target.toInt32, protocol := toProtocol v.protocol }

/-- `toRestartPolicy`; `none` is the policy of the original. -/
def toRestartPolicy (s : Latest.ServiceConfig) : Except String (Option RestartPolicy) :=
  match s.deploy.restartPolicy with
  | none => .ok none
  | some policy =>
    if policy.condition = "any" then .ok (some .always)
    else if policy.condition = "none" then .ok (some .never)
    else if policy.condition = "on-failure" then .ok (some .onFailure)
    else .error ("unsupported restart policy " ++ policy.condition)

/-- `toResource`. -/
def toResource (rt : Runtime) (res : Option Latest.Resource) : Except String ResourceList :=
  match res with
  | none => .ok none
  | some res => do
    let list : Map Quantity := ∅
    -- a value that is empty or 0 is left out
    let list ← if res.nanoCPUs ≠ "" then do
        let cpus ← rt.parseQuantity res.nanoCPUs
        pure (list.insert "cpu" cpus)
      else pure list
    let list ← if res.memoryBytes ≠ 0 then do
        let memory ← rt.parseQuantity (formatInt res.memoryBytes.toInt)
        pure (list.insert "memory" memory)
      else pure list
    return some list

/-- `toBoolPointer`. -/
def toBoolPointer (value : Bool) : Option Bool := if value then some value else none

/-- `toCapabilities`. -/
def toCapabilities (list : Slice String) : Slice String := Slice.ofAppends list.elems

/-- `toSecurityContext`. -/
def toSecurityContext (s : Latest.ServiceConfig) : Option SecurityContext :=
  let isPrivileged := toBoolPointer s.privileged
  let isReadOnly := toBoolPointer s.readOnly
  let capabilities : Option Capabilities :=
    if s.capAdd ≠ none ∨ s.capDrop ≠ none then
      some { add := toCapabilities s.capAdd, drop := toCapabilities s.capDrop }
    else none
  if isPrivileged = none ∧ isReadOnly = none ∧ capabilities = none ∧ s.user = none then none
  else some { (default : SecurityContext) with
    runAsUser := s.user
    privileged := isPrivileged
    readOnlyRootFilesystem := isReadOnly
    capabilities }

/-- Everything `toPodTemplate` computes before it writes. -/
structure PodParts where
  affinity : Affinity
  hostAliases : Slice HostAlias
  env : Slice EnvVar
  restartPolicy : Option RestartPolicy
  limits : ResourceList
  requests : ResourceList
  volumes : Slice Volume
  volumeMounts : Slice VolumeMount
  pullPolicy : PullPolicy
  deriving DecidableEq, Inhabited

/-- The first half of `toPodTemplate`; the first error wins. -/
def toPodParts (rt : Runtime) (ord : ServiceOrder) (serviceConfig : Latest.ServiceConfig)
    (configuration : Latest.StackSpec) : Except String PodParts := do
  let affinity ← toNodeAffinity ord serviceConfig.deploy.placement.constraints
  let hostAliases ← toHostAliases ord serviceConfig.extraHosts
  let env ← toEnv ord serviceConfig.environment
  let restartPolicy ← toRestartPolicy serviceConfig
  let limits ← toResource rt serviceConfig.deploy.resources.limits
  let requests ← toResource rt serviceConfig.deploy.resources.reservations
  let volumes ← toVolumes serviceConfig configuration
  let volumeMounts ← toVolumeMounts serviceConfig configuration
  let pullPolicy ← toImagePullPolicy serviceConfig.image serviceConfig.pullPolicy
  return { affinity, hostAliases, env, restartPolicy, limits, requests, volumes, volumeMounts,
           pullPolicy }

/-- The volumes and mounts among the parts. -/
theorem toPodParts_volumes {rt : Runtime} {ord : ServiceOrder} {srv : Latest.ServiceConfig}
    {configuration : Latest.StackSpec} {parts : PodParts}
    (h : toPodParts rt ord srv configuration = .ok parts) :
    toVolumes srv configuration = .ok parts.volumes ∧
      toVolumeMounts srv configuration = .ok parts.volumeMounts := by
  unfold toPodParts at h
  obtain ⟨affinity, -, h⟩ := bind_eq_ok.mp h
  obtain ⟨hostAliases, -, h⟩ := bind_eq_ok.mp h
  obtain ⟨env, -, h⟩ := bind_eq_ok.mp h
  obtain ⟨restartPolicy, -, h⟩ := bind_eq_ok.mp h
  obtain ⟨limits, -, h⟩ := bind_eq_ok.mp h
  obtain ⟨requests, -, h⟩ := bind_eq_ok.mp h
  obtain ⟨volumes, hvolumes, h⟩ := bind_eq_ok.mp h
  obtain ⟨mounts, hmounts, h⟩ := bind_eq_ok.mp h
  obtain ⟨pullPolicy, -, h⟩ := bind_eq_ok.mp h
  obtain rfl := pure_eq_ok.mp h
  exact ⟨hvolumes, hmounts⟩

/-! ## Writing them into a template -/

/-- What `toPodTemplate` writes into the container of the service. -/
def fillContainer (rt : Runtime) (serviceConfig : Latest.ServiceConfig) (parts : PodParts)
    (c : Container) : Container :=
  { c with
    name := serviceConfig.name
    image := serviceConfig.image
    imagePullPolicy := parts.pullPolicy
    command := serviceConfig.entrypoint
    args := serviceConfig.command
    workingDir := serviceConfig.workingDir
    tty := serviceConfig.tty
    stdin := serviceConfig.stdinOpen
    ports := toPorts serviceConfig.ports
    livenessProbe := toLivenessProbe rt serviceConfig.healthCheck
    env := parts.env
    volumeMounts := parts.volumeMounts
    securityContext := toSecurityContext serviceConfig
    resources := { limits := parts.limits, requests := parts.requests } }

/-- The index of the container of a service: the first of its name, else 0. -/
def containerIndex (name : String) (containers : List Container) : Nat :=
  (containers.findIdx? fun c => c.name = name).getD 0

/-- The containers: other containers stay, an empty list gets one. -/
def fillContainers (rt : Runtime) (serviceConfig : Latest.ServiceConfig) (parts : PodParts)
    (original : List Container) : List Container :=
  let containers := if original.length = 0 then [default] else original
  containers.modify (containerIndex serviceConfig.name containers)
    (fillContainer rt serviceConfig parts)

/-- The pull secrets: the service's own is appended unless it is there. -/
def addPullSecret (pullSecret : String) (original : Slice LocalObjectReference) :
    Slice LocalObjectReference :=
  if pullSecret ≠ "" ∧ !(original.elems.any fun ps => ps.name = pullSecret) then
    original.push { name := pullSecret }
  else original

/-- The second half of `toPodTemplate`. -/
def fillPodTemplate (rt : Runtime) (serviceConfig : Latest.ServiceConfig) (labels : MapRef String)
    (parts : PodParts) (tpl : PodTemplateSpec) : PodTemplateSpec :=
  -- the metadata of the template is replaced as a whole
  { objectMeta :=
      { (default : ObjectMeta) with labels, annotations := serviceConfig.labels }
    spec :=
      -- what a service does not speak of stays as it is in the template
      { tpl.spec with
        restartPolicy := parts.restartPolicy.getD tpl.spec.restartPolicy
        volumes := parts.volumes
        hostPID := toHostPID serviceConfig.pid
        hostIPC := toHostIPC serviceConfig.ipc
        hostname := serviceConfig.hostname
        terminationGracePeriodSeconds :=
          toTerminationGracePeriodSeconds rt serviceConfig.stopGracePeriod
            tpl.spec.terminationGracePeriodSeconds
        hostAliases := parts.hostAliases
        affinity := some parts.affinity
        containers := some (fillContainers rt serviceConfig parts tpl.spec.containers.elems)
        imagePullSecrets := addPullSecret serviceConfig.pullSecret tpl.spec.imagePullSecrets } }

/-- `toPodTemplate`. -/
def toPodTemplate (rt : Runtime) (ord : ServiceOrder) (serviceConfig : Latest.ServiceConfig)
    (labels : MapRef String) (configuration : Latest.StackSpec) (original : PodTemplateSpec) :
    Except String PodTemplateSpec := do
  let parts ← toPodParts rt ord serviceConfig configuration
  return fillPodTemplate rt serviceConfig labels parts original

/-- `forceRestartPolicy`. -/
def forceRestartPolicy (podTemplate : PodTemplateSpec) (forcedRestartPolicy : RestartPolicy) :
    PodTemplateSpec :=
  if podTemplate.spec.restartPolicy ≠ .unset then
    { podTemplate with spec := { podTemplate.spec with restartPolicy := forcedRestartPolicy } }
  else podTemplate

/-- What forcing a policy does to a template. -/
theorem forceRestartPolicy_eq (tpl : PodTemplateSpec) (p : RestartPolicy) :
    forceRestartPolicy tpl p =
      { tpl with spec := { tpl.spec with
        restartPolicy := if tpl.spec.restartPolicy ≠ .unset then p else .unset } } := by
  unfold forceRestartPolicy
  by_cases h : tpl.spec.restartPolicy = .unset
  · obtain ⟨objectMeta, spec⟩ := tpl
    obtain ⟨⟩ := spec
    simp only at h
    simp [h]
  · rw [if_pos h, if_pos h]

/-! ## Building a template twice -/

section Idempotence

variable (rt : Runtime) (srv : Latest.ServiceConfig) (labels : MapRef String) (parts : PodParts)

/-- The container that has been filled is the one the next run finds: it is now
the first of its name, and nothing before it has that name. -/
theorem containerIndex_modify (containers : List Container) (hne : containers ≠ []) :
    containerIndex srv.name
        (containers.modify (containerIndex srv.name containers) (fillContainer rt srv parts)) =
      containerIndex srv.name containers := by
  cases hfind : containers.findIdx? fun c => decide (c.name = srv.name) with
  | none =>
    -- no container of that name: index 0 is renamed, and found
    have hix : containerIndex srv.name containers = 0 := by simp [containerIndex, hfind]
    rw [hix]
    cases containers with
    | nil => exact absurd rfl hne
    | cons c rest => simp [containerIndex, List.modify_cons, List.findIdx?_cons, fillContainer]
  | some ix =>
    have hix : containerIndex srv.name containers = ix := by simp [containerIndex, hfind]
    rw [hix]
    obtain ⟨hlt, hname, hbefore⟩ := List.findIdx?_eq_some_iff_getElem.mp hfind
    have hfind' : (containers.modify ix (fillContainer rt srv parts)).findIdx?
        (fun c => decide (c.name = srv.name)) = some ix := by
      rw [List.findIdx?_eq_some_iff_getElem]
      refine ⟨by simpa using hlt, by simp [fillContainer], fun j hj => ?_⟩
      rw [List.getElem_modify_ne _ _ (by omega)]
      exact hbefore j hj
    rw [containerIndex, hfind']
    rfl

/-- A list without containers is given one, so there is one to fill. -/
theorem exists_fillContainers_eq (original : List Container) :
    ∃ containers : List Container, containers ≠ [] ∧ fillContainers rt srv parts original =
      containers.modify (containerIndex srv.name containers) (fillContainer rt srv parts) := by
  refine ⟨if original.length = 0 then [default] else original, ?_, rfl⟩
  split
  · exact List.cons_ne_nil _ _
  · next h => exact fun hnil => h (by rw [hnil]; rfl)

/-- A container that was filled is filled as itself. -/
theorem fillContainers_idem (original : List Container) :
    fillContainers rt srv parts (fillContainers rt srv parts original) =
      fillContainers rt srv parts original := by
  obtain ⟨containers, hne, hfill⟩ := exists_fillContainers_eq rt srv parts original
  set ix := containerIndex srv.name containers with hix
  have hlen : (containers.modify ix (fillContainer rt srv parts)).length ≠ 0 := by
    rw [List.length_modify]
    exact fun h => hne (List.eq_nil_of_length_eq_zero h)
  rw [hfill, fillContainers, if_neg hlen, hix, containerIndex_modify rt srv parts _ hne,
    List.modify_modify_eq]
  rfl

theorem addPullSecret_idem (pullSecret : String) (original : Slice LocalObjectReference) :
    addPullSecret pullSecret (addPullSecret pullSecret original) =
      addPullSecret pullSecret original := by
  by_cases h : pullSecret ≠ "" ∧ !(original.elems.any fun ps => ps.name = pullSecret)
  · have hadd : addPullSecret pullSecret original = original.push { name := pullSecret } :=
      if_pos h
    rw [hadd]
    refine if_neg ?_
    simp
  · have hkeep : addPullSecret pullSecret original = original := if_neg h
    rw [hkeep, hkeep]

theorem toTerminationGracePeriodSeconds_idem (duration original : Option Int64) :
    toTerminationGracePeriodSeconds rt duration
        (toTerminationGracePeriodSeconds rt duration original) =
      toTerminationGracePeriodSeconds rt duration original := by
  cases duration <;> rfl

theorem getD_getD_self (o : Option RestartPolicy) (r : RestartPolicy) :
    o.getD (o.getD r) = o.getD r := by
  cases o <;> rfl

/-- **Building a template on top of the built one changes nothing.** -/
theorem fillPodTemplate_idem (tpl : PodTemplateSpec) :
    fillPodTemplate rt srv labels parts (fillPodTemplate rt srv labels parts tpl) =
      fillPodTemplate rt srv labels parts tpl := by
  simp only [fillPodTemplate, Slice.elems_some, fillContainers_idem, addPullSecret_idem,
    toTerminationGracePeriodSeconds_idem, getD_getD_self]

/-- Forcing the restart policy in between does not matter when it is forced at
the end: an unset policy stays unset, every other one is replaced. -/
theorem forceRestartPolicy_fillPodTemplate (tpl : PodTemplateSpec) (p : RestartPolicy)
    (hp : p ≠ .unset) :
    forceRestartPolicy (fillPodTemplate rt srv labels parts
        (forceRestartPolicy (fillPodTemplate rt srv labels parts tpl) p)) p =
      forceRestartPolicy (fillPodTemplate rt srv labels parts tpl) p := by
  by_cases h : (fillPodTemplate rt srv labels parts tpl).spec.restartPolicy = .unset
  · have hkeep : forceRestartPolicy (fillPodTemplate rt srv labels parts tpl) p =
        fillPodTemplate rt srv labels parts tpl := if_neg (not_not.mpr h)
    rw [hkeep, fillPodTemplate_idem, hkeep]
  · -- only the policy differs from the unforced template, and the policy is replaced again
    have hforce : ∀ t : PodTemplateSpec, t.spec.restartPolicy ≠ .unset →
        forceRestartPolicy t p = { t with spec := { t.spec with restartPolicy := p } } :=
      fun t ht => if_pos ht
    rw [hforce _ h]
    have hspec : fillPodTemplate rt srv labels parts
        { fillPodTemplate rt srv labels parts tpl with
          spec := { (fillPodTemplate rt srv labels parts tpl).spec with restartPolicy := p } } =
        { fillPodTemplate rt srv labels parts tpl with
          spec := { (fillPodTemplate rt srv labels parts tpl).spec with
            restartPolicy := parts.restartPolicy.getD p } } := by
      simp only [fillPodTemplate, Slice.elems_some, fillContainers_idem, addPullSecret_idem,
        toTerminationGracePeriodSeconds_idem]
    have hset : parts.restartPolicy.getD p ≠ .unset := by
      cases hr : parts.restartPolicy with
      | none => exact hp
      | some r =>
        intro hr'
        apply h
        simp only [fillPodTemplate, hr]
        exact hr'
    rw [hspec, hforce _ hset]

end Idempotence

/-! ## Dependence on the order of maps -/

section Order

variable (ord ord' : ServiceOrder)

/-- The names listed for an address, sorted, do not depend on the order. -/
theorem lookup_hostGroups (byHostnames : Map String) (ip : String) :
    ((groupByValue (ord.range .byHostnames byHostnames)).lookup ip).map sortStrings =
      ((groupByValue (ord'.range .byHostnames byHostnames)).lookup ip).map sortStrings := by
  have hperm := keysWith_perm (ord.range_perm ord' .byHostnames .byHostnames byHostnames) ip
  have hnodup := keysWith_nodup (ord.nodup_range .byHostnames byHostnames) ip
  have hsort : sortStrings (keysWith (ord.range .byHostnames byHostnames) ip) =
      sortStrings (keysWith (ord'.range .byHostnames byHostnames) ip) :=
    sortBy_eq_of_perm id hperm (by simpa using hnodup)
  have hnil : keysWith (ord.range .byHostnames byHostnames) ip = [] ↔
      keysWith (ord'.range .byHostnames byHostnames) ip = [] := by
    rw [← List.length_eq_zero_iff, ← List.length_eq_zero_iff, hperm.length_eq]
  rw [lookup_groupByValue, lookup_groupByValue]
  by_cases h : keysWith (ord.range .byHostnames byHostnames) ip = []
  · rw [if_pos h, if_pos (hnil.mp h)]
  · rw [if_neg h, if_neg (fun h' => h (hnil.mpr h')), Option.map_some, Option.map_some, hsort]

/-- The unsorted aliases of one order are among those of another. -/
theorem mem_hostAliases_of_mem (byHostnames : Map String) {a : HostAlias}
    (h : a ∈ (ord.range .byIPs (groupByValue (ord.range .byHostnames byHostnames))).map fun e =>
      ({ ip := e.1, hostnames := some (sortStrings e.2) } : HostAlias)) :
    a ∈ (ord'.range .byIPs (groupByValue (ord'.range .byHostnames byHostnames))).map fun e =>
      ({ ip := e.1, hostnames := some (sortStrings e.2) } : HostAlias) := by
  obtain ⟨⟨ip, hosts⟩, hmem, rfl⟩ := List.mem_map.mp h
  have hlookup := (ord.mem_range _ _ _ _).mp hmem
  have hsorted := lookup_hostGroups ord ord' byHostnames ip
  rw [hlookup, Option.map_some] at hsorted
  obtain ⟨hosts', hlookup', heq⟩ := Option.map_eq_some_iff.mp hsorted.symm
  refine List.mem_map.mpr ⟨(ip, hosts'), (ord'.mem_range _ _ _ _).mpr hlookup', ?_⟩
  show ({ ip := ip, hostnames := some (sortStrings hosts') } : HostAlias) = _
  rw [heq]

theorem hostAliases_order (byHostnames : Map String) :
    hostAliases ord byHostnames = hostAliases ord' byHostnames := by
  have hips : ∀ o : ServiceOrder,
      (((o.range .byIPs (groupByValue (o.range .byHostnames byHostnames))).map fun e =>
        ({ ip := e.1, hostnames := some (sortStrings e.2) } : HostAlias)).map (·.ip)).Nodup := by
    intro o
    rw [List.map_map]
    exact o.nodup_range _ _
  refine sortBy_eq_of_perm HostAlias.ip ?_ (hips ord)
  rw [List.perm_ext_iff_of_nodup (hips ord).of_map (hips ord').of_map]
  exact fun a => ⟨mem_hostAliases_of_mem ord ord' byHostnames,
    mem_hostAliases_of_mem ord' ord byHostnames⟩

/-- Host aliases are sorted, so that the order of the map does not matter. -/
theorem toHostAliases_order (extraHosts : Slice String) :
    toHostAliases ord extraHosts = toHostAliases ord' extraHosts := by
  cases extraHosts with
  | none => rfl
  | some hosts =>
    have h : hostAliases ord = hostAliases ord' := funext (hostAliases_order ord ord')
    simp only [toHostAliases, h]

/-- Each visited entry becomes a variable of its name. -/
theorem toEnvEntry_names {entries : List (String × Option String)} {vars : List EnvVar}
    (h : entries.mapM toEnvEntry = .ok vars) : vars.map (·.name) = entries.map Prod.fst := by
  induction mapM_eq_ok_iff.mp h with
  | nil => rfl
  | @cons e var _ _ hhead htail ih =>
    rw [List.map_cons, List.map_cons, ih (mapM_eq_ok_iff.mpr htail)]
    congr 1
    unfold toEnvEntry at hhead
    split at hhead
    · cases hhead
    · cases hhead
      rfl

/-- The variables come out sorted by name, and names are distinct. -/
theorem toEnv_order {env : MapRef (Option String)} {vars : Slice EnvVar}
    (h : toEnv ord env = .ok vars) : toEnv ord' env = .ok vars := by
  obtain ⟨envVars, hvars, hret⟩ := bind_eq_ok.mp h
  obtain ⟨envVars', hvars', hperm⟩ :=
    mapM_perm (ord.range_perm ord' .environment .environment _) hvars
  have hsort : sortBy (·.name) envVars = sortBy (·.name) envVars' := by
    refine sortBy_eq_of_perm _ hperm ?_
    rw [toEnvEntry_names hvars]
    exact ord.nodup_range _ _
  unfold toEnv
  rw [hvars', ok_bind, ← hsort]
  exact hret

/-- **Only the affinity depends on the order**: if the parts can be computed in
one order they can in every other, and all but the affinity are the same. -/
theorem toPodParts_order {rt : Runtime} {srv : Latest.ServiceConfig}
    {configuration : Latest.StackSpec} {parts : PodParts}
    (h : toPodParts rt ord srv configuration = .ok parts) :
    toNodeAffinity ord srv.deploy.placement.constraints = .ok parts.affinity ∧
      ∃ affinity', toNodeAffinity ord' srv.deploy.placement.constraints = .ok affinity' ∧
        toPodParts rt ord' srv configuration = .ok { parts with affinity := affinity' } := by
  unfold toPodParts at h
  obtain ⟨affinity, haffinity, h⟩ := bind_eq_ok.mp h
  obtain ⟨hostAliases, hhosts, h⟩ := bind_eq_ok.mp h
  obtain ⟨env, henv, h⟩ := bind_eq_ok.mp h
  obtain ⟨restartPolicy, hrestart, h⟩ := bind_eq_ok.mp h
  obtain ⟨limits, hlimits, h⟩ := bind_eq_ok.mp h
  obtain ⟨requests, hrequests, h⟩ := bind_eq_ok.mp h
  obtain ⟨volumes, hvolumes, h⟩ := bind_eq_ok.mp h
  obtain ⟨mounts, hmounts, h⟩ := bind_eq_ok.mp h
  obtain ⟨pullPolicy, hpull, h⟩ := bind_eq_ok.mp h
  obtain rfl := pure_eq_ok.mp h
  -- only the affinity depends on the order
  obtain ⟨affinity', haffinity'⟩ :=
    (toNodeAffinity_ok_iff_order ord ord' _).mp ⟨affinity, haffinity⟩
  refine ⟨haffinity, affinity', haffinity', ?_⟩
  unfold toPodParts
  rw [haffinity', ← toHostAliases_order ord ord', toEnv_order ord ord' henv, hhosts, hrestart,
    hlimits, hrequests, hvolumes, hmounts, hpull]
  rfl

end Order

end ComposeKube

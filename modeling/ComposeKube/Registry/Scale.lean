import ComposeKube.Registry.DryRun
import ComposeKube.Registry.Preparation

/-!
# Scaling a stack

`scale.go`: the scale subresource shows the number of replicas of each service
and how many of them are available, and takes new numbers. `Get` encodes a
global service as -1 and unset replicas as 1; `Update` decodes every number it is
given, also those that the client has left alone.

Both go through `Spec.Stack` without looking whether it is there. A nil
dereference is a failure of its own here.

* `scaling_iff` — which requests change only what was asked for.
* `scale_no_nilPointer` — which requests keep the stored stacks fit for scaling.
-/

namespace ComposeKube

open Go Transition

/-! ## The subresource -/

/-- `latest.Scale`; its metadata is never set. -/
structure Scale where
  spec : Map Int64
  status : Map Int64

/-- How a request can fail: with an error, or by the panic of a nil dereference. -/
inductive ScaleFailure where
  | nilPointer
  | error (message : String)

/-- The range loops of `scale.go`. -/
inductive ScaleLoop where
  | newScale
  | status (kind : ChildKind)

/-- What the subresource depends on: the services of the conversion, the orders
of map loops, and the API server. -/
structure StackScaleRest where
  rt : Runtime
  loader : Loader
  ord : RangeOrder ScaleLoop
  /-- `appsv1.NewForConfig` -/
  newForConfig : Except String Unit
  /-- the available replicas in the answer to a `Get` call, nothing after any error -/
  available : ChildKind → (namespace_ name : String) → Option Int32

/-- The count that `Get` shows for a service. -/
def scaleCount (s : Latest.ServiceConfig) : Int64 :=
  if s.deploy.mode = "global" then -1
  else
    match s.deploy.replicas with
    | some replicas => replicas.toInt64
    | none => 1

/-- The first loop of `Get`. -/
def scaleSpec (services : List Latest.ServiceConfig) : Map Int64 :=
  services.foldl (fun spec s => spec.insert s.name (scaleCount s)) ∅

namespace StackScaleRest

variable (r : StackScaleRest)

/-- One of the last three loops of `Get`. -/
def statusOf {α : Type} [KubeObject α] (kind : ChildKind) (namespace_ : String) (objects : Map α)
    (status : Map Int64) : Map Int64 :=
  (r.ord.range (.status kind) objects).foldl (fun status v =>
    match r.available kind namespace_ (getMeta v.2).name with
    | some replicas => status.insert (getMeta v.2).name replicas.toInt64
    | none => status) status

/-- `Get`, given what `GetStack` returns. -/
def get (getStack : Except String Internal.Stack) : Except ScaleFailure Scale := do
  let stack ← getStack.mapError .error
  match stack.spec.stack with
  -- a stack that could not be parsed is dereferenced all the same
  | none => .error .nilPointer
  | some spec =>
    let scale := scaleSpec spec.services.elems
    r.newForConfig.mapError .error
    let stackLatest ← (stackFromInternalV1alpha3 r.loader stack default).mapError .error
    -- the objects that are asked for their replicas are those of a conversion from nothing
    let stackDef ← (stackToStack r.rt stackLatest .loadBalancer emptyStackState).1.mapError .error
    let namespace_ := stack.objectMeta.namespace_
    let status := r.statusOf .deployment namespace_ stackDef.deployments ∅
    let status := r.statusOf .statefulset namespace_ stackDef.statefulsets status
    let status := r.statusOf .daemonset namespace_ stackDef.daemonsets status
    return { spec := scale, status }

/-- The transformation that `Update` hands to `UpdateStack`. Without a count there
is no service to look for, and no dereference. -/
def transform (newScale : Scale) (oldObj : Internal.Stack) :
    Except ScaleFailure Internal.Stack :=
  let counts := r.ord.range .newScale newScale.spec
  match oldObj.spec.stack with
  | none => if counts = [] then .ok (bumpGeneration oldObj oldObj) else .error .nilPointer
  | some _ => (scaleTransform counts oldObj).mapError .error

end StackScaleRest

/-! ## What `Get` shows -/

/-- The count of a service is that of the last service with its name. -/
theorem lookup_foldl_scaleSpec (services : List Latest.ServiceConfig) (spec : Map Int64)
    (k : String) :
    (services.foldl (fun spec s => spec.insert s.name (scaleCount s)) spec).lookup k =
      ((lastWith (·.name) services k).map scaleCount).or (spec.lookup k) := by
  induction services generalizing spec with
  | nil => rfl
  | cons s rest ih =>
    rw [List.foldl_cons, ih, lastWith_cons]
    by_cases hk : s.name = k
    · subst hk
      cases lastWith (·.name) rest s.name <;> simp
    · have hne : k ≠ s.name := fun h => hk h.symm
      rw [Finmap.lookup_insert_of_ne _ hne, if_neg hk, Option.or_none]

theorem lookup_scaleSpec (services : List Latest.ServiceConfig) (k : String) :
    (scaleSpec services).lookup k = (lastWith (·.name) services k).map scaleCount := by
  rw [scaleSpec, lookup_foldl_scaleSpec, Finmap.lookup_empty, Option.or_none]

namespace StackScaleRest

variable {r : StackScaleRest} {stack : Internal.Stack} {spec : Latest.StackSpec}

/-- What `Get` converts. -/
def latestOf (stack : Internal.Stack) (spec : Latest.StackSpec) : Latest.Stack where
  objectMeta := stack.objectMeta
  spec := some spec
  status := stack.status

/-- When `Get` returns: the client can be made and the stack converts. -/
theorem exists_get_iff (hspec : stack.spec.stack = some spec) :
    (∃ scale, r.get (.ok stack) = .ok scale) ↔
      r.newForConfig = .ok () ∧
        ∃ D, (stackToStack r.rt (latestOf stack spec) .loadBalancer emptyStackState).1 = .ok D := by
  have hlatest := stackFromInternalV1alpha3_of_some r.loader hspec default
  unfold get
  simp only [Except.mapError, ok_bind, hspec, hlatest]
  cases hclient : r.newForConfig with
  | error e => simp
  | ok u =>
    cases hD : (stackToStack r.rt (latestOf stack spec) .loadBalancer emptyStackState).1 with
    | error e =>
      unfold latestOf at hD
      simp [hD]
    | ok D =>
      unfold latestOf at hD
      simp [hD]

/-- `Get` shows the counts of the stored services. -/
theorem get_spec (hspec : stack.spec.stack = some spec) {scale : Scale}
    (h : r.get (.ok stack) = .ok scale) : scale.spec = scaleSpec spec.services.elems := by
  unfold get at h
  simp only [Except.mapError, ok_bind, hspec] at h
  obtain ⟨_, -, h⟩ := bind_eq_ok.mp h
  obtain ⟨stackLatest, -, h⟩ := bind_eq_ok.mp h
  obtain ⟨stackDef, -, h⟩ := bind_eq_ok.mp h
  obtain rfl := pure_eq_ok.mp h
  rfl

end StackScaleRest

/-! ## What `Update` writes -/

/-- A service with another number of replicas. -/
def setReplicas (srv : Latest.ServiceConfig) (count : Int64) : Latest.ServiceConfig :=
  { srv with deploy := { srv.deploy with replicas := some count.toUInt64 } }

/-- A service with the number of replicas that a list of counts asks for. -/
def rescale (counts : List (String × Int64)) (srv : Latest.ServiceConfig) :
    Latest.ServiceConfig :=
  match counts.find? fun e => e.1 = srv.name with
  | some e => setReplicas srv e.2
  | none => srv

/-- Among services with distinct names, the first one with a name is the only one. -/
theorem scaleService_eq {target : String} {count : Int64} {services : List Latest.ServiceConfig}
    (hnames : (services.map (·.name)).Nodup) :
    scaleService target count.toUInt64 services =
      if target ∈ services.map (·.name) then
        some (services.map fun s => if s.name = target then setReplicas s count else s)
      else none := by
  induction services with
  | nil => rfl
  | cons srv rest ih =>
    rw [List.map_cons, List.nodup_cons] at hnames
    rw [scaleService, ih hnames.2]
    by_cases htarget : srv.name = target
    · -- the others have other names
      have hrest : ∀ s ∈ rest, (if s.name = target then setReplicas s count else s) = s := by
        intro s hs
        refine if_neg fun h => hnames.1 ?_
        rw [htarget, ← h]
        exact List.mem_map_of_mem hs
      rw [if_pos htarget, if_pos (by simp [htarget]), List.map_cons, if_pos htarget,
        List.map_congr_left hrest, List.map_id']
      rfl
    · by_cases hrest : target ∈ rest.map (·.name)
      · have hmem : target ∈ (srv :: rest).map (·.name) := List.mem_cons_of_mem _ hrest
        rw [if_neg htarget, if_pos hrest, if_pos hmem, List.map_cons, if_neg htarget]
        rfl
      · have hnot : target ∉ (srv :: rest).map (·.name) := by
          rw [List.map_cons, List.mem_cons, not_or]
          exact ⟨fun h => htarget h.symm, hrest⟩
        rw [if_neg htarget, if_neg hrest, if_neg hnot]
        rfl

/-- Scaled services have the same names. -/
theorem map_name_setReplicas (target : String) (count : Int64)
    (services : List Latest.ServiceConfig) :
    (services.map fun s => if s.name = target then setReplicas s count else s).map (·.name) =
      services.map (·.name) := by
  rw [List.map_map]
  refine List.map_congr_left fun s _ => ?_
  by_cases hs : s.name = target <;> simp [hs, setReplicas]

/-- A name that no service has is an error. -/
theorem scaleServices_unknown {counts : List (String × Int64)}
    {services : List Latest.ServiceConfig} (hnames : (services.map (·.name)).Nodup)
    (h : ∃ e ∈ counts, e.1 ∉ services.map (·.name)) :
    ∃ err, scaleServices counts services = .error err := by
  induction counts generalizing services with
  | nil =>
    obtain ⟨e, he, -⟩ := h
    exact absurd he List.not_mem_nil
  | cons e rest ih =>
    obtain ⟨target, count⟩ := e
    rw [scaleServices, scaleService_eq hnames]
    by_cases htarget : target ∈ services.map (·.name)
    · rw [if_pos htarget]
      -- the scaled services have the same names
      have hsame := map_name_setReplicas target count services
      obtain ⟨e', he', hunknown⟩ := h
      have he' : e' ∈ rest := by
        rcases List.mem_cons.mp he' with rfl | he'
        · exact absurd htarget hunknown
        · exact he'
      rw [← hsame] at hnames hunknown
      exact ih hnames ⟨e', he', hunknown⟩
    · rw [if_neg htarget]
      exact ⟨_, rfl⟩

/-- Counts of known services are all written. -/
theorem scaleServices_known {counts : List (String × Int64)}
    {services : List Latest.ServiceConfig} (hnames : (services.map (·.name)).Nodup)
    (hcounts : (counts.map Prod.fst).Nodup) (h : ∀ e ∈ counts, e.1 ∈ services.map (·.name)) :
    scaleServices counts services = .ok (services.map (rescale counts)) := by
  induction counts generalizing services with
  | nil => rw [scaleServices, show rescale [] = id from rfl, List.map_id]
  | cons e rest ih =>
    obtain ⟨target, count⟩ := e
    rw [List.map_cons, List.nodup_cons] at hcounts
    rw [scaleServices, scaleService_eq hnames, if_pos (h _ (List.mem_cons_self ..))]
    -- to set the replicas keeps the names
    have hsame := map_name_setReplicas target count services
    rw [← hsame] at hnames h
    have hrest := ih hnames hcounts.2 fun e he => h e (List.mem_cons_of_mem _ he)
    show scaleServices rest _ = _
    rw [hrest, List.map_map]
    refine congrArg Except.ok (List.map_congr_left fun s _ => ?_)
    by_cases hs : s.name = target
    · -- the target is not named again
      have hnone : rest.find? (fun e => decide (e.1 = target)) = none := by
        rw [List.find?_eq_none]
        intro e he htarget
        rw [decide_eq_true_eq] at htarget
        exact hcounts.1 (List.mem_map.mpr ⟨e, he, htarget⟩)
      simp [rescale, hs, setReplicas, hnone]
    · have hs' : ¬target = s.name := fun h => hs h.symm
      simp [rescale, hs, hs']

/-! ## Conversion does not depend on replicas -/

/-- The parts of a pod template do not depend on the number of replicas, nor on the
other services of the stack. -/
theorem toPodParts_rescaled (rt : Runtime) (ord : ServiceOrder) {s t : Latest.ServiceConfig}
    (h : SameButReplicas s t) {spec spec' : Latest.StackSpec}
    (hsecrets : spec'.secrets = spec.secrets) (hconfigs : spec'.configs = spec.configs) :
    toPodParts rt ord t spec' = toPodParts rt ord s spec := by
  obtain ⟨services, secrets, configs⟩ := spec
  obtain ⟨services', secrets', configs'⟩ := spec'
  obtain rfl : secrets' = secrets := hsecrets
  obtain rfl : configs' = configs := hconfigs
  rw [h]
  rfl

/-- A stack that converts does so with other numbers of replicas. -/
theorem exists_stackToStack_rescaled {rt rt' : Runtime}
    (hparse : rt'.parseQuantity = rt.parseQuantity) {stack stack' : Latest.Stack}
    {spec spec' : Latest.StackSpec} (hspec : stack.spec = some spec)
    (hspec' : stack'.spec = some spec') {f : Latest.ServiceConfig → Latest.ServiceConfig}
    (hf : ∀ s, SameButReplicas s (f s))
    (hservices : spec'.services.elems = spec.services.elems.map f)
    (hsecrets : spec'.secrets = spec.secrets) (hconfigs : spec'.configs = spec.configs)
    (h : ∃ D, (stackToStack rt stack .loadBalancer emptyStackState).1 = .ok D) :
    ∃ D, (stackToStack rt' stack' .loadBalancer emptyStackState).1 = .ok D := by
  obtain ⟨hne, hall⟩ := (exists_stackToStack_iff hspec).mp h
  refine (exists_stackToStack_iff hspec').mpr ⟨?_, fun ctx' hctx' => ?_⟩
  · rw [hservices, ne_eq, List.map_eq_nil_iff]
    exact hne
  · -- the service before it was rescaled
    have hsrv' : ctx'.srv ∈ spec'.services.elems :=
      (map_srv_stackContexts rt' stack' spec' .loadBalancer).mem_iff.mp (List.mem_map_of_mem hctx')
    rw [hservices] at hsrv'
    obtain ⟨s, hs, hsrv'⟩ := List.mem_map.mp hsrv'
    obtain ⟨ctx, hctx, rfl⟩ := List.mem_map.mp
      ((map_srv_stackContexts rt stack spec .loadBalancer).mem_iff.mpr hs)
    have hsame : SameButReplicas ctx.srv ctx'.srv := hsrv' ▸ hf ctx.srv
    obtain ⟨hglobal, parts, hparts⟩ := exists_parts_of_dryRun (hall ctx hctx)
    obtain ⟨hrt, hconfiguration, -⟩ := mem_stackContexts hctx
    obtain ⟨hrt', hconfiguration', -⟩ := mem_stackContexts hctx'
    obtain ⟨-, affinity, -, hparts'⟩ := toPodParts_order ctx.ord ctx'.ord hparts
    -- the pod of a service does not depend on its replicas
    have hrescaled : toPodParts rt ctx'.ord ctx'.srv (sortSpec rt' spec') =
        toPodParts rt ctx'.ord ctx.srv (sortSpec rt spec) :=
      toPodParts_rescaled rt ctx'.ord hsame hsecrets hconfigs
    refine exists_toStackResources_iff.mpr ⟨?_, .inr ⟨{ parts with affinity }, ?_⟩⟩
    · rw [hsame]
      exact hglobal
    · rw [ServiceContext.parts, hrt', toPodParts_runtime hparse, hconfiguration', hrescaled,
        ← hparts', hrt, hconfiguration]

/-! ## Scaling changes only what was asked for -/

/-- What a scaled stack should be: the replicas differ only where the count does,
and a following `Get` shows the counts that were asked for. -/
structure ScaledAsAsked (r : StackScaleRest) (newScale : Scale) (oldObj : Internal.Stack)
    (spec : Latest.StackSpec) (newObj : Internal.Stack) : Prop where
  frame : ∃ spec', newObj.spec = { oldObj.spec with stack := some spec' } ∧
    spec'.secrets = spec.secrets ∧ spec'.configs = spec.configs ∧
    List.Forall₂ (fun srv srv' => SameButReplicas srv srv' ∧
      (newScale.spec.lookup srv.name = some (scaleCount srv) →
        srv'.deploy.replicas = srv.deploy.replicas)) spec.services.elems spec'.services.elems
  reported : ∀ r' : StackScaleRest, r'.newForConfig = .ok () →
    r'.rt.parseQuantity = r.rt.parseQuantity →
      ∃ scale, r'.get (.ok newObj) = .ok scale ∧ scale.spec = newScale.spec

/-- A service that survives a request: its replicas are what an unchanged count
stands for, and a changed count is not that of a global service. -/
structure Rescalable (newScale : Scale) (srv : Latest.ServiceConfig) : Prop where
  unchanged : newScale.spec.lookup srv.name = some (scaleCount srv) →
    srv.deploy.replicas = some (scaleCount srv).toUInt64
  changed : newScale.spec.lookup srv.name ≠ some (scaleCount srv) → srv.deploy.mode ≠ "global"

theorem sameButReplicas_rescale (counts : List (String × Int64)) (srv : Latest.ServiceConfig) :
    SameButReplicas srv (rescale counts srv) := by
  unfold rescale
  split <;> rfl

/-- What is shown for a service after its replicas were set. -/
theorem scaleCount_setReplicas (srv : Latest.ServiceConfig) (count : Int64) :
    scaleCount (setReplicas srv count) = if srv.deploy.mode = "global" then -1 else count := by
  simp [scaleCount, setReplicas]

section Scaling

variable {r : StackScaleRest} {stack : Internal.Stack} {spec : Latest.StackSpec}
  {newScale : Scale}

/-- A count that is given is written. -/
theorem rescale_range {srv : Latest.ServiceConfig} {count : Int64}
    (h : newScale.spec.lookup srv.name = some count) :
    rescale (r.ord.range .newScale newScale.spec) srv = setReplicas srv count := by
  have hfind := RangeOrder.find?_of_mem (r.ord.nodup_range .newScale newScale.spec)
    ((r.ord.mem_range .newScale newScale.spec srv.name count).mpr h)
  rw [rescale, hfind]

/-- The transformation of a stack whose services are all known. -/
theorem transform_known (hspec : stack.spec.stack = some spec)
    (hnames : (spec.services.elems.map (·.name)).Nodup)
    (hknown : ∀ name ∈ newScale.spec, name ∈ spec.services.elems.map (·.name)) :
    ∃ newObj spec', r.transform newScale stack = .ok newObj ∧
      newObj.spec = { stack.spec with stack := some spec' } ∧
      spec'.secrets = spec.secrets ∧ spec'.configs = spec.configs ∧
      spec'.services.elems =
        spec.services.elems.map (rescale (r.ord.range .newScale newScale.spec)) := by
  -- every count names a service
  have hcounts : ∀ e ∈ r.ord.range .newScale newScale.spec,
      e.1 ∈ spec.services.elems.map (·.name) := by
    intro e he
    exact hknown _ (Finmap.mem_of_lookup_eq_some ((r.ord.mem_range _ _ e.1 e.2).mp he))
  have hscaled := scaleServices_known hnames (r.ord.nodup_range .newScale newScale.spec) hcounts
  let services := spec.services.elems.map (rescale (r.ord.range .newScale newScale.spec))
  let spec' : Latest.StackSpec := { spec with services := spec.services.map fun _ => services }
  refine ⟨bumpGeneration stack { stack with spec := { stack.spec with stack := some spec' } },
    spec', ?_, bumpGeneration_spec _ _, rfl, rfl, ?_⟩
  · unfold StackScaleRest.transform
    simp only [hspec]
    unfold scaleTransform
    simp only [hspec, hscaled, ok_bind]
    rfl
  · show Slice.elems (spec.services.map fun _ => services) = services
    unfold services
    cases spec.services <;> rfl

/-- The transformation of a stack that lacks one of the services. -/
theorem transform_unknown (hspec : stack.spec.stack = some spec)
    (hnames : (spec.services.elems.map (·.name)).Nodup)
    (hunknown : ∃ name ∈ newScale.spec, name ∉ spec.services.elems.map (·.name)) :
    ∃ err, r.transform newScale stack = .error (.error err) := by
  obtain ⟨name, hname, hnot⟩ := hunknown
  obtain ⟨count, hcount⟩ := Finmap.mem_iff.mp hname
  obtain ⟨err, herr⟩ := scaleServices_unknown hnames
    ⟨(name, count), (r.ord.mem_range .newScale newScale.spec name count).mpr hcount, hnot⟩
  refine ⟨err, ?_⟩
  unfold StackScaleRest.transform
  simp only [hspec]
  unfold scaleTransform
  simp only [hspec, herr, error_bind]
  rfl

/-- The counts that are shown after known services were scaled. -/
theorem lookup_scaleSpec_rescale (hnames : (spec.services.elems.map (·.name)).Nodup)
    {srv : Latest.ServiceConfig} (hsrv : srv ∈ spec.services.elems) {count : Int64}
    (hcount : newScale.spec.lookup srv.name = some count) :
    (scaleSpec (spec.services.elems.map
      (rescale (r.ord.range .newScale newScale.spec)))).lookup srv.name =
      some (scaleCount (setReplicas srv count)) := by
  have hname : ∀ s ∈ spec.services.elems,
      (rescale (r.ord.range .newScale newScale.spec) s).name = s.name := by
    intro s _
    rw [sameButReplicas_rescale _ s]
  rw [lookup_scaleSpec, lastWith_map hname, lastWith_of_mem hnames hsrv, Option.map_some,
    Option.map_some, rescale_range hcount]

section Known

variable (hnames : (spec.services.elems.map (·.name)).Nodup)
  (hknown : ∀ name ∈ newScale.spec, name ∈ spec.services.elems.map (·.name))
  (hcounted : ∀ srv ∈ spec.services.elems, ∃ count, newScale.spec.lookup srv.name = some count)

include hnames hknown hcounted

/-- The counts that were asked for are shown unless one of a global service was
changed: that goes on to show -1. -/
theorem scaleSpec_rescale_iff :
    scaleSpec (spec.services.elems.map (rescale (r.ord.range .newScale newScale.spec))) =
        newScale.spec ↔
      ∀ srv ∈ spec.services.elems, newScale.spec.lookup srv.name ≠ some (scaleCount srv) →
        srv.deploy.mode ≠ "global" := by
  constructor
  · -- a global service shows no count, whatever it was set to
    intro hshown srv hsrv hdiffers hglobal
    obtain ⟨count, hcount⟩ := hcounted srv hsrv
    have hlookup := lookup_scaleSpec_rescale (r := r) hnames hsrv hcount
    rw [hshown, hcount, scaleCount_setReplicas, if_pos hglobal] at hlookup
    refine hdiffers (hcount.trans (hlookup.trans ?_))
    rw [scaleCount, if_pos hglobal]
  · intro h
    refine Finmap.ext_lookup fun k => ?_
    by_cases hk : k ∈ spec.services.elems.map (·.name)
    · obtain ⟨srv, hsrv, rfl⟩ := List.mem_map.mp hk
      obtain ⟨count, hcount⟩ := hcounted srv hsrv
      rw [lookup_scaleSpec_rescale hnames hsrv hcount, hcount, scaleCount_setReplicas]
      split
      · next hglobal =>
        have hsame : newScale.spec.lookup srv.name = some (scaleCount srv) := by
          by_contra hdiffers
          exact h srv hsrv hdiffers hglobal
        rw [hcount, scaleCount, if_pos hglobal] at hsame
        exact hsame.symm
      · rfl
    · -- neither map has other names
      have hnone : newScale.spec.lookup k = none := by
        rw [Finmap.lookup_eq_none]
        exact fun hmem => hk (hknown k hmem)
      have hlast : lastWith (·.name) (spec.services.elems.map
          (rescale (r.ord.range .newScale newScale.spec))) k = none := by
        rw [lastWith_eq_none, List.forall_mem_map]
        intro srv hsrv hname
        rw [sameButReplicas_rescale _ srv] at hname
        exact hk (List.mem_map.mpr ⟨srv, hsrv, hname⟩)
      rw [lookup_scaleSpec, hlast, hnone, Option.map_none]

/-- A scaled stack, service by service. -/
theorem scaledAsAsked_iff (hspec : stack.spec.stack = some spec) {scale : Scale}
    (hget : r.get (.ok stack) = .ok scale) {newObj : Internal.Stack} {spec' : Latest.StackSpec}
    (hnew : newObj.spec = { stack.spec with stack := some spec' })
    (hsecrets : spec'.secrets = spec.secrets) (hconfigs : spec'.configs = spec.configs)
    (hservices : spec'.services.elems =
      spec.services.elems.map (rescale (r.ord.range .newScale newScale.spec))) :
    ScaledAsAsked r newScale stack spec newObj ↔
      ∀ srv ∈ spec.services.elems, Rescalable newScale srv := by
  have hnewStack : newObj.spec.stack = some spec' := by rw [hnew]
  have hshown := scaleSpec_rescale_iff (r := r) hnames hknown hcounted
  obtain ⟨hclient, hconverts⟩ := (StackScaleRest.exists_get_iff hspec).mp ⟨scale, hget⟩
  constructor
  · -- what is reported afterwards tells what was set
    intro h
    obtain ⟨scale', hget', hscale'⟩ := h.reported r hclient rfl
    rw [StackScaleRest.get_spec hnewStack hget', hservices, hshown] at hscale'
    refine fun srv hsrv => ⟨fun hsame => ?_, hscale' srv hsrv⟩
    obtain ⟨spec'', hspec'', -, -, hframe⟩ := h.frame
    obtain rfl : spec'' = spec' :=
      Option.some.inj (congrArg Internal.StackSpec.stack (hspec''.symm.trans hnew))
    rw [hservices, List.forall₂_map_right_iff, List.forall₂_same] at hframe
    have hreplicas := (hframe srv hsrv).2 hsame
    rw [rescale_range hsame] at hreplicas
    exact hreplicas.symm
  · intro h
    refine ⟨⟨spec', hnew, hsecrets, hconfigs, ?_⟩, fun r' hclient' hparse => ?_⟩
    · rw [hservices, List.forall₂_map_right_iff, List.forall₂_same]
      refine fun srv hsrv => ⟨sameButReplicas_rescale _ srv, fun hsame => ?_⟩
      rw [rescale_range hsame]
      exact ((h srv hsrv).unchanged hsame).symm
    · -- a following `Get` converts the scaled stack
      have hlatest : (StackScaleRest.latestOf stack spec).spec = some spec := rfl
      obtain ⟨scale', hget'⟩ := (StackScaleRest.exists_get_iff (r := r') hnewStack).mpr
        ⟨hclient', exists_stackToStack_rescaled hparse hlatest rfl (sameButReplicas_rescale _)
          hservices hsecrets hconfigs hconverts⟩
      refine ⟨scale', hget', ?_⟩
      rw [StackScaleRest.get_spec hnewStack hget', hservices, hshown]
      exact fun srv hsrv => (h srv hsrv).changed

end Known

/-- **Which requests change only what was asked for.** Of a scale that was read by
`Get` and had some of its counts changed and some names added: those that name an
unknown service, which are errors; and those for which the replicas of every
service with an unchanged count were explicit (and -1, if it is a global one), and
no count of a global service was changed. -/
theorem scaling_iff (hspec : stack.spec.stack = some spec)
    (hnames : (spec.services.elems.map (·.name)).Nodup) {scale : Scale}
    (hget : r.get (.ok stack) = .ok scale)
    (hchanged : ∀ name ∈ scale.spec, name ∈ newScale.spec) :
    ((∃ err, r.transform newScale stack = .error (.error err)) ∨
      ∃ newObj, r.transform newScale stack = .ok newObj ∧
        ScaledAsAsked r newScale stack spec newObj) ↔
    ((∃ name ∈ newScale.spec, name ∉ spec.services.elems.map (·.name)) ∨
      ∀ srv ∈ spec.services.elems, Rescalable newScale srv) := by
  -- the client changes counts of what it was shown, hence every service has one
  have hcounted : ∀ srv ∈ spec.services.elems, ∃ count,
      newScale.spec.lookup srv.name = some count := by
    intro srv hsrv
    refine Finmap.mem_iff.mp (hchanged _ (Finmap.mem_iff.mpr ⟨scaleCount srv, ?_⟩))
    rw [StackScaleRest.get_spec hspec hget, lookup_scaleSpec, lastWith_of_mem hnames hsrv]
    rfl
  -- an unknown name is an error, as it should be
  by_cases hunknown : ∃ name ∈ newScale.spec, name ∉ spec.services.elems.map (·.name)
  · exact iff_of_true (Or.inl (transform_unknown hspec hnames hunknown)) (Or.inl hunknown)
  have hknown : ∀ name ∈ newScale.spec, name ∈ spec.services.elems.map (·.name) := by
    intro name hname
    by_contra hnot
    exact hunknown ⟨name, hname, hnot⟩
  obtain ⟨newObj, spec', hnew, hnewSpec, hsecrets, hconfigs, hservices⟩ :=
    transform_known (r := r) hspec hnames hknown
  simp only [hnew, reduceCtorEq, exists_false, false_or, Except.ok.injEq, exists_eq_left',
    hunknown]
  exact scaledAsAsked_iff hnames hknown hcounted hspec hget hnewSpec hsecrets hconfigs hservices

end Scaling

/-! ## Examples -/

/-- The subresource of a server whose deployments are not up yet. -/
def webScaleRest : StackScaleRest where
  rt := Runtime.reference
  loader := Loader.failing
  ord := .ascending _
  newForConfig := .ok ()
  available _ _ _ := none

/-- The service `web` with two replicas. -/
def twoWebs : Latest.ServiceConfig :=
  { webService with deploy := { webService.deploy with replicas := some 2 } }

/-- The spec of a stack of the given services. -/
def specOf (services : List Latest.ServiceConfig) : Latest.StackSpec :=
  { (default : Latest.StackSpec) with services := some services }

/-- The count of `web` is changed to three. -/
def Scale.threeWebs (scale : Scale) : Scale := { scale with spec := scale.spec.insert "web" 3 }

/-- Two services with explicit numbers of replicas. -/
def countedServices : List Latest.ServiceConfig :=
  [twoWebs, { webService with
    name := "cache", deploy := { webService.deploy with replicas := some 4 } }]

/-- Services with explicit numbers of replicas are scaled as asked: the one whose count is
changed, and no other. -/
theorem scaling_iff_countedServices :
    ∃ scale newObj spec', webScaleRest.get (.ok (storedStackOf countedServices)) = .ok scale ∧
      webScaleRest.transform scale.threeWebs (storedStackOf countedServices) = .ok newObj ∧
      newObj.spec.stack = some spec' ∧
      spec'.services.elems.map (·.deploy.replicas) = [some 3, some 4] ∧
      ScaledAsAsked webScaleRest scale.threeWebs (storedStackOf countedServices)
        (specOf countedServices) newObj := by
  obtain ⟨scale, hget⟩ : ∃ scale,
      webScaleRest.get (.ok (storedStackOf countedServices)) = .ok scale := ⟨_, rfl⟩
  have hchanged : ∀ name ∈ scale.spec, name ∈ scale.threeWebs.spec :=
    fun name hname => Finmap.mem_insert.mpr (Or.inr hname)
  -- one service is scaled, the other keeps its count
  have hrescalable : ∀ srv ∈ (specOf countedServices).services.elems,
      Rescalable scale.threeWebs srv := by
    cases hget
    intro srv hsrv
    rcases List.mem_cons.mp hsrv with rfl | hsrv
    · exact ⟨fun hsame => (by cases hsame), fun _ => by decide⟩
    · obtain rfl := List.mem_singleton.mp hsrv
      exact ⟨fun _ => rfl, fun hdiffers => absurd rfl hdiffers⟩
  have hscaled := (scaling_iff rfl (by decide) hget hchanged).mpr (Or.inr hrescalable)
  cases hget
  rcases hscaled with ⟨err, herr⟩ | ⟨newObj, hnew, hasked⟩
  · cases herr
  · cases hnew
    exact ⟨_, _, _, rfl, rfl, rfl, rfl, hasked⟩

/-- Three services: two replicas, no number of replicas, and one on each node. -/
def mixedServices : List Latest.ServiceConfig :=
  [twoWebs, { webService with name := "worker" },
    { webService with name := "agent", deploy := { webService.deploy with mode := "global" } }]

/-- Only the count of `web` is changed, and all three get a number of replicas. -/
theorem scaling_touches_others :
    ∃ scale newObj spec', webScaleRest.get (.ok (storedStackOf mixedServices)) = .ok scale ∧
      webScaleRest.transform scale.threeWebs (storedStackOf mixedServices) = .ok newObj ∧
      newObj.spec.stack = some spec' ∧
      spec'.services.elems.map (·.deploy.replicas) =
        [some 3, some 1, some 18446744073709551615] ∧
      ¬ScaledAsAsked webScaleRest scale.threeWebs (storedStackOf mixedServices)
        (specOf mixedServices) newObj := by
  refine ⟨_, _, _, rfl, rfl, rfl, rfl, fun hasked => ?_⟩
  obtain ⟨spec', hspec', -, -, hframe⟩ := hasked.frame
  cases hspec'
  obtain _ | ⟨-, _ | ⟨⟨-, hworker⟩, -⟩⟩ := hframe
  cases hworker rfl

/-! ## A stored stack without a spec -/

theorem Loader.Parses.rejects_iff {loader : Loader} {parse : String → Option Latest.StackSpec}
    (h : loader.Parses parse) (text : String) : loader.Rejects text ↔ parse text = none := by
  -- the loader answers as the parser does
  have hrel := h text
  unfold Loader.Rejects
  cases hload : loader.loadStackData text none with
  | error err =>
    rw [hload] at hrel
    have hnone : parse text = none := by
      generalize parse text = parsed at hrel
      cases hrel
      rfl
    simp [hnone]
  | ok config =>
    rw [hload] at hrel
    have hsome : parse text ≠ none := by
      generalize parse text = parsed at hrel
      cases hrel
      exact Option.some_ne_none _
    simp [hsome]

/-- When a prepared creation has no spec. -/
theorem prepareForCreate_stack_eq_none (loader : Loader) (ctx : Request) (stack : Internal.Stack) :
    (prepareForCreate loader ctx stack).spec.stack = none ↔
      stack.spec.stack = none ∧ (ctx.user = none ∨ loader.Rejects stack.spec.composeFile) := by
  cases huser : ctx.user with
  | none =>
    simp [prepareForCreate, runPrepareSteps, prepareStackOwnership, huser]
  | some user =>
    rw [prepareForCreate_spec loader huser, parsedSpec, Loader.Rejects]
    cases stack.spec.stack <;> cases loader.loadStackData stack.spec.composeFile none <;>
      simp [Except.toOption]

/-- When a prepared update has no spec. -/
theorem prepareForUpdate_stack_eq_none (loader : Loader) {version : APIVersion} (ctx : Request)
    (newStack oldStack : Internal.Stack) (hknown : fieldUpdatesFuncs version ≠ none) :
    (prepareForUpdate loader version ctx newStack oldStack).spec.stack = none ↔
      (ctx.user = none ∧ newStack.spec.stack = none) ∨
      (ctx.user ≠ none ∧ ∃ text, parsedByUpdate version newStack.spec oldStack.spec = some text ∧
        loader.Rejects text) := by
  cases huser : ctx.user with
  | none =>
    simp [prepareForUpdate, runPrepareSteps, prepareStackOwnership, huser]
  | some user =>
    obtain ⟨f, hf⟩ := Option.ne_none_iff_exists'.mp hknown
    rw [prepareForUpdate_spec loader huser hf, parsedByUpdate_eq user newStack oldStack hf,
      parsedSpec]
    unfold Loader.Rejects
    cases hstack : (restoredFields newStack oldStack user f).spec.stack with
    | some spec => simp
    | none =>
      cases hload : loader.loadStackData
          (restoredFields newStack oldStack user f).spec.composeFile none <;>
        simp [Except.toOption, hload]

/-- What the shared checks let pass has a spec, and keeps it when it is sorted. -/
theorem stack_ne_none_of_checks {checks : Checks} {loader : Loader} {stack stack' : Internal.Stack}
    (h : runValidateSteps (checks.steps loader) stack = ([], stack')) :
    stack'.spec.stack ≠ none := by
  have haccepted : (runValidateSteps (checks.steps loader) stack).1 = [] := by rw [h]
  have hstack := (acceptable_iff.mp haccepted).stackNotNil
  rw [checks_snd h]
  simpa [Runtime.sortStack] using hstack

/-- When an accepted creation has no spec. -/
theorem createStack_stack_eq_none {checks : Checks} {loader : Loader} {ctx : Request}
    {newStack stack : Internal.Stack} (h : createStack checks loader ctx newStack = .ok stack) :
    stack.spec.stack = none ↔ ctx.skipValidation = true ∧ newStack.spec.stack = none ∧
      (ctx.user = none ∨ loader.Rejects newStack.spec.composeFile) := by
  cases hskip : ctx.skipValidation with
  | true =>
    rw [createStack_validated h, if_pos hskip, prepareForCreate_stack_eq_none]
    simp
  | false =>
    have hne : stack.spec.stack ≠ none := by
      unfold createStack validate at h
      simp only [hskip, Bool.false_eq_true, if_false] at h
      split at h
      · next heq =>
        cases h
        exact stack_ne_none_of_checks (runValidateSteps_cons heq)
      · cases h
    simp [hne]

/-- When an accepted update has no spec. -/
theorem updateStack_stack_eq_none {checks : Checks} {loader : Loader} {version : APIVersion}
    {ctx : Request} {newStack oldStack stack : Internal.Stack}
    (hknown : fieldUpdatesFuncs version ≠ none)
    (h : updateStack checks loader version ctx newStack oldStack = .ok stack) :
    stack.spec.stack = none ↔ ctx.skipValidation = true ∧
      ((ctx.user = none ∧ newStack.spec.stack = none) ∨
        (ctx.user ≠ none ∧ ∃ text, parsedByUpdate version newStack.spec oldStack.spec = some text ∧
          loader.Rejects text)) := by
  cases hskip : ctx.skipValidation with
  | true =>
    rw [updateStack_validated h, if_pos hskip, prepareForUpdate_stack_eq_none loader ctx _ _ hknown]
    simp
  | false =>
    have hne : stack.spec.stack ≠ none := by
      unfold updateStack validateUpdate at h
      simp only [hskip, Bool.false_eq_true, if_false] at h
      split at h
      · next heq =>
        cases h
        exact stack_ne_none_of_checks heq
      · cases h
    simp [hne]

/-- A request that leaves a stack with a spec: a validated one; or one with a user
whose compose file parses, if it comes to that; or one that sends a spec. -/
def LeavesStack (parse : String → Option Latest.StackSpec) (s : Option Internal.Stack) :
    StackEvent → Prop
  | .create ctx creation => ctx.skipValidation = true → creation.object.spec.stack = none →
    ctx.user ≠ none ∧ parse creation.object.spec.composeFile ≠ none
  | .update ctx update => ctx.skipValidation = true → ∀ stored obj, s = some stored →
    update.object stored = .ok obj →
      (ctx.user = none → obj.spec.stack ≠ none) ∧
      (ctx.user ≠ none → ∀ text, parsedByUpdate update.version obj.spec stored.spec = some text →
        parse text ≠ none)
  | .delete => True

/-- Exactly these requests leave a stack with a spec. -/
theorem leavesStack_iff {parse : String → Option Latest.StackSpec} {s : Option Internal.Stack}
    {event : StackEvent} {stack : Internal.Stack} (h : StoreStep parse s event (some stack)) :
    stack.spec.stack ≠ none ↔ LeavesStack parse s event := by
  cases h with
  | @create ctx creation new checks loader hparses objectMeta hnew =>
    have hiff := createStack_stack_eq_none hnew
    rw [hparses.rejects_iff] at hiff
    show ¬new.spec.stack = none ↔ _
    rw [hiff, LeavesStack]
    simp only [not_and, not_or, ne_eq]
  -- every client's version is a known one
  | @update ctx update stored obj new checks loader hparses objectMeta hobj hnew =>
    have hknown : fieldUpdatesFuncs update.version ≠ none := by
      cases update <;> exact Option.some_ne_none _
    have hiff := updateStack_stack_eq_none hknown hnew
    simp only [hparses.rejects_iff] at hiff
    show ¬new.spec.stack = none ↔ _
    rw [hiff, LeavesStack]
    simp only [not_and, not_or, ne_eq, not_exists]
    constructor
    · rintro h hskip _ obj' ⟨⟩ hobj'
      cases hobj.symm.trans hobj'
      exact h hskip
    · exact fun h hskip => h hskip stored obj rfl hobj

/-- Neither `Get` nor the transformation of `Update` dereferences nil. -/
def ScaleSafe (r : StackScaleRest) (stack : Internal.Stack) : Prop :=
  r.get (.ok stack) ≠ .error .nilPointer ∧
    ∀ newScale, r.transform newScale stack ≠ .error .nilPointer

/-- Exactly the stacks with a spec are safe. -/
theorem scaleSafe_iff {r : StackScaleRest} {stack : Internal.Stack} :
    ScaleSafe r stack ↔ stack.spec.stack ≠ none := by
  constructor
  · intro h hnone
    refine h.1 ?_
    unfold StackScaleRest.get
    simp [Except.mapError, hnone]
  · intro h
    obtain ⟨spec, hspec⟩ := Option.ne_none_iff_exists'.mp h
    -- every other failure is an error
    have hbind : ∀ {α β : Type} (x : Except String α) (f : α → Except ScaleFailure β),
        (∀ a, f a ≠ .error .nilPointer) → (x.mapError .error >>= f) ≠ .error .nilPointer := by
      intro α β x f hf
      cases x with
      | error e => simp [Except.mapError]
      | ok a => exact hf a
    refine ⟨?_, fun newScale => ?_⟩
    · have hstack : (Except.ok stack : Except String Internal.Stack).mapError ScaleFailure.error =
          .ok stack := rfl
      unfold StackScaleRest.get
      rw [hstack, ok_bind]
      simp only [hspec]
      exact hbind _ _ fun _ => hbind _ _ fun _ => hbind _ _ fun _ => nofun
    · unfold StackScaleRest.transform
      simp only [hspec]
      cases scaleTransform _ stack <;> simp [Except.mapError]

/-- **Scaling and missing specs.** After requests that leave a spec, scaling never
dereferences nil. A request of any other kind that is accepted stores a stack for
which `Get` does. -/
theorem scale_no_nilPointer (parse : String → Option Latest.StackSpec) :
    (∀ s, (stackStore parse).ReachableUnder (LeavesStack parse) s →
      ∀ stack, s = some stack → ∀ r : StackScaleRest, ScaleSafe r stack) ∧
    ∀ s event stack, StoreStep parse s event (some stack) → ¬LeavesStack parse s event →
      ∀ r : StackScaleRest, r.get (.ok stack) = .error .nilPointer := by
  constructor
  · intro s hs
    have hspec : ∀ stack, s = some stack → stack.spec.stack ≠ none := by
      refine hs.induct (I := fun s => ∀ stack, s = some stack → stack.spec.stack ≠ none) ?_ ?_
      · rintro s rfl stack hstack
        cases hstack
      · rintro s event s' - hleaves hstep stack rfl
        exact (leavesStack_iff hstep).mpr hleaves
    exact fun stack hstack r => scaleSafe_iff.mpr (hspec stack hstack)
  · intro s event stack hstep hleaves r
    have hnone : stack.spec.stack = none := by
      by_contra hsome
      exact hleaves ((leavesStack_iff hstep).mp hsome)
    unfold StackScaleRest.get
    simp [Except.mapError, hnone]

/-- The one compose file that parses is stored without validation, and can be scaled. -/
theorem scale_no_nilPointer_web :
    ∃ stack, (stackStore parseWeb).ReachableUnder (LeavesStack parseWeb) (some stack) ∧
      ScaleSafe webScaleRest stack := by
  have hleaves : LeavesStack parseWeb none
      (.create webRequest (.composeFile "prod" "app" "web")) :=
    fun _ _ => ⟨Option.some_ne_none _, Option.some_ne_none _⟩
  have hcreated : (stackStore parseWeb).ReachableUnder (LeavesStack parseWeb) (some _) :=
    .step (.init rfl) hleaves (.create webChecks webLoader_parses default rfl)
  exact ⟨_, hcreated, (scale_no_nilPointer parseWeb).1 _ hcreated _ rfl webScaleRest⟩

/-- Any other compose file is stored without validation as well, and then every
request for the scale panics. -/
theorem unparsable_nilPointer :
    ∃ stack, (stackStore parseWeb).Reachable (some stack) ∧
      webScaleRest.get (.ok stack) = .error .nilPointer ∧
      webScaleRest.transform { spec := Finmap.singleton "web" 3, status := ∅ } stack =
        .error .nilPointer := by
  have hcreated : (stackStore parseWeb).Reachable (some _) :=
    .step (.init rfl) (a := .create webRequest (.composeFile "prod" "app" "version")) trivial
      (.create webChecks webLoader_parses default rfl)
  exact ⟨_, hcreated, rfl, rfl⟩

end ComposeKube

import ComposeKube.Lib.Transition
import ComposeKube.Lib.Versioned
import ComposeKube.Controller.Apply

/-!
# The expected generation is exact

The controller writes into every workload the generation that the API server is
about to give it, and later takes a workload whose generation is the expected
one for untouched.

The server counts: a created object has generation 1, and an update adds 1 when
it changes the spec semantically (for deployments: the spec or the annotations).
It refuses an update that names another resource version than the stored one.
Other clients edit what they like except for the expected generation.

For deployments the prediction is made twice, and the second one compares the
annotations that the first one has just written. It is right because what is
stored never expects a generation that is still to come.

* `predicts_deployment` — the two predictions together.
* `WorkloadApi.Lawful.expects_created`, `WorkloadApi.Lawful.expects_updated` — what
  the objects of a computed difference expect.
* `objectStep_inv`, `objectStep_matches` — what one write keeps and leaves.
* `generation_predicted` — all runs.
-/

namespace ComposeKube

open Go Transition Versioned

/-! ## The API server -/

/-- Where an object is stored. -/
structure Address where
  namespace_ : String
  name : String
  deriving DecidableEq

abbrev ObjectStore (α : Type) := Objects Address α

def resourceVersionOf {α : Type} [KubeObject α] (x : α) : String := (getMeta x).resourceVersion

/-- An object as it is stored: the server gives it a resource version and a generation. -/
def storedAs {α : Type} [KubeObject α] (resourceVersion : String) (generation : Int64) (x : α) :
    α :=
  setMeta x { getMeta x with resourceVersion, generation }

/-- A kind of workload: how the controller converts and compares it, and which
updates the server counts. -/
structure WorkloadApi (α : Type) where
  kind : WorkloadKind α
  same : α → α → Bool
  /-- replacing the first object by the second adds 1 to the generation -/
  bumps : α → α → Bool
  ofState : StackState → Map α
  ofDiff : StackStateDiff → Changes α

def deploymentApi : WorkloadApi Deployment where
  kind := deploymentKind
  same := normalizeEqualDeployment
  bumps c x := !semanticDeepEqual Semantic.deploymentSpec c.spec x.spec ||
    !semanticDeepEqual (MapRef.canon id) c.objectMeta.annotations x.objectMeta.annotations
  ofState := StackState.deployments
  ofDiff := StackStateDiff.deployments

def statefulsetApi : WorkloadApi StatefulSet where
  kind := statefulsetKind
  same := normalizeEqualStatefulset
  bumps c x := !semanticDeepEqual Semantic.statefulSetSpec c.spec x.spec
  ofState := StackState.statefulsets
  ofDiff := StackStateDiff.statefulsets

def daemonsetApi : WorkloadApi DaemonSet where
  kind := daemonsetKind
  same := normalizeEqualDaemonset
  bumps c x := !semanticDeepEqual Semantic.daemonSetSpec c.spec x.spec
  ofState := StackState.daemonsets
  ofDiff := StackStateDiff.daemonsets

namespace WorkloadApi

variable {α : Type} [KubeObject α] (api : WorkloadApi α)

/-- The generation of an object that replaces another. -/
def generationAfter (c x : α) : Int64 :=
  if api.bumps c x then (getMeta c).generation + 1 else (getMeta c).generation

/-- The controller reconciles a stack from a snapshot of its caches, and sends an
object that the difference holds in one of its lists. -/
def Issues (snapshot : StackState → Prop) (changed : Changes α → List α) (at_ : Address) (x : α) :
    Prop :=
  ∃ (rt : Runtime) (strategy : ServiceStrategy) (stack : Latest.Stack) (ord : DiffOrder)
    (current D : StackState), snapshot current ∧
      (stackToStack rt stack strategy current).1 = .ok D ∧
      x ∈ changed (api.ofDiff (computeDiff ord current (setStackOwnership D stack))) ∧
      at_ = { namespace_ := stack.objectMeta.namespace_, name := (getMeta x).name }

end WorkloadApi

/-- Who writes: the controller, and where, or somebody else. -/
inductive WorkloadEvent where
  | controller (at_ : Address)
  | other

/-- The writes to the objects of one kind. The server adds 1 to a generation, so
it does not go over the last one. -/
inductive ObjectStep {α : Type} [KubeObject α] (api : WorkloadApi α)
    (snapshot : StackState → Prop) : ObjectStore α → WorkloadEvent → ObjectStore α → Prop
  -- a new object starts with generation 1
  | create {s : ObjectStore α} {at_ : Address} {x : α} {rv : String}
      (hissued : api.Issues snapshot Changes.toAdd at_ x) (habsent : s.stored at_ = none)
      (hfresh : s.Fresh resourceVersionOf rv) :
      ObjectStep api snapshot s (.controller at_) (s.put at_ (storedAs rv 1 x))
  -- an update goes through only under the version that is stored
  | update {s : ObjectStore α} {at_ : Address} {x c : α} {rv : String}
      (hissued : api.Issues snapshot Changes.toUpdate at_ x) (hstored : s.stored at_ = some c)
      (hversion : resourceVersionOf x = resourceVersionOf c)
      (hroom : api.bumps c x = true → (getMeta c).generation < Int64.maxValue)
      (hfresh : s.Fresh resourceVersionOf rv) :
      ObjectStep api snapshot s (.controller at_)
        (s.put at_ (storedAs rv (api.generationAfter c x) x))
  | otherCreate {s : ObjectStore α} {at_ : Address} {x : α} {rv : String}
      (hexpects : (getMeta x).annotations.get? expectedGenerationAnnotation = none)
      (habsent : s.stored at_ = none) (hfresh : s.Fresh resourceVersionOf rv) :
      ObjectStep api snapshot s .other (s.put at_ (storedAs rv 1 x))
  -- others change the object, and leave the annotation as it is
  | otherUpdate {s : ObjectStore α} {at_ : Address} {x c : α} {rv : String}
      (hstored : s.stored at_ = some c)
      (hexpects : (getMeta x).annotations.get? expectedGenerationAnnotation =
        (getMeta c).annotations.get? expectedGenerationAnnotation)
      (hroom : api.bumps c x = true → (getMeta c).generation < Int64.maxValue)
      (hfresh : s.Fresh resourceVersionOf rv) :
      ObjectStep api snapshot s .other (s.put at_ (storedAs rv (api.generationAfter c x) x))
  | delete {s : ObjectStore α} {at_ : Address} : ObjectStep api snapshot s .other (s.drop at_)

/-- The workloads of the cluster. -/
structure WorkloadCluster where
  deployments : ObjectStore Deployment
  statefulsets : ObjectStore StatefulSet
  daemonsets : ObjectStore DaemonSet

namespace WorkloadCluster

/-- The metadata of a stored workload. -/
def metaAt (s : WorkloadCluster) : Workload → Address → Option ObjectMeta
  | .deployment, at_ => (s.deployments.stored at_).map getMeta
  | .statefulset, at_ => (s.statefulsets.stored at_).map getMeta
  | .daemonset, at_ => (s.daemonsets.stored at_).map getMeta

/-- What the caches may hold: under its own key, what has been stored at some time. -/
structure Snapshot (s : WorkloadCluster) (current : StackState) : Prop where
  filed : current.Filed
  deployments : ∀ k x, current.deployments.lookup k = some x → x ∈ s.deployments.versions
  statefulsets : ∀ k x, current.statefulsets.lookup k = some x → x ∈ s.statefulsets.versions
  daemonsets : ∀ k x, current.daemonsets.lookup k = some x → x ∈ s.daemonsets.versions

end WorkloadCluster

inductive WorkloadStep : WorkloadCluster → Workload × WorkloadEvent → WorkloadCluster → Prop
  | deployment {s : WorkloadCluster} {event : WorkloadEvent} {objects : ObjectStore Deployment}
      (h : ObjectStep deploymentApi s.Snapshot s.deployments event objects) :
      WorkloadStep s (.deployment, event) { s with deployments := objects }
  | statefulset {s : WorkloadCluster} {event : WorkloadEvent} {objects : ObjectStore StatefulSet}
      (h : ObjectStep statefulsetApi s.Snapshot s.statefulsets event objects) :
      WorkloadStep s (.statefulset, event) { s with statefulsets := objects }
  | daemonset {s : WorkloadCluster} {event : WorkloadEvent} {objects : ObjectStore DaemonSet}
      (h : ObjectStep daemonsetApi s.Snapshot s.daemonsets event objects) :
      WorkloadStep s (.daemonset, event) { s with daemonsets := objects }

/-- A cluster without workloads. -/
def WorkloadCluster.empty : WorkloadCluster :=
  { deployments := .empty, statefulsets := .empty, daemonsets := .empty }

def workloadSystem : System WorkloadCluster (Workload × WorkloadEvent) where
  init s := s = .empty
  step := WorkloadStep

/-! ## Expected and actual generations -/

/-- An expected generation is one that the object has reached. -/
def ExpectedWithin (m : ObjectMeta) : Prop :=
  ∀ expected, m.annotations.get? expectedGenerationAnnotation = some expected →
    ∃ e, parseInt64 expected = some e ∧ 1 ≤ e ∧ e ≤ m.generation

/-- The object expects a generation. -/
def Expects (m : ObjectMeta) (generation : Int64) : Prop :=
  m.annotations.get? expectedGenerationAnnotation = some (formatInt generation.toInt)

/-- A generation that is expected matches. -/
theorem Expects.matches {m : ObjectMeta} (h : Expects m m.generation) (hpos : 1 ≤ m.generation) :
    generationMatchesExpected m = true := by
  unfold generationMatchesExpected
  rw [if_neg (Int64.not_lt.mpr hpos)]
  obtain ⟨annotations, hannotations, hlookup⟩ := Option.bind_eq_some_iff.mp h
  simp only [hannotations, hlookup, parseInt64_formatInt, decide_true]

/-- It is within what has been reached. -/
theorem Expects.within {m : ObjectMeta} (h : Expects m m.generation) (hpos : 1 ≤ m.generation) :
    ExpectedWithin m := by
  intro expected hexpected
  rw [h] at hexpected
  refine ⟨m.generation, ?_, hpos, Int64.le_refl _⟩
  rw [← Option.some.inj hexpected, parseInt64_formatInt]

/-- What is stored does not expect the next generation. -/
theorem ExpectedWithin.not_next {m : ObjectMeta} (h : ExpectedWithin m) :
    ¬Expects m (m.generation + 1) := by
  intro hnext
  obtain ⟨e, he, hpos, hle⟩ := h _ hnext
  rw [parseInt64_formatInt] at he
  obtain rfl := Option.some.inj he
  -- the next generation is larger, or negative after an overflow
  have hone : (1 : Int64).toInt = 1 := rfl
  have hlow := m.generation.le_toInt
  have hhigh := m.generation.toInt_lt
  rw [Int64.le_iff_toInt_le, Int64.toInt_add, hone, Int.bmod_def] at hpos hle
  split at hle
  · omega
  · omega

/-- Adding 1 where there is room. -/
theorem le_add_one_of_room {g : Int64} (hroom : g < Int64.maxValue) : g ≤ g + 1 := by
  have hone : (1 : Int64).toInt = 1 := rfl
  have hmax : Int64.maxValue.toInt = 2 ^ 63 - 1 := rfl
  have hlow := g.le_toInt
  rw [Int64.lt_iff_toInt_lt, hmax] at hroom
  rw [Int64.le_iff_toInt_le, Int64.toInt_add, hone, Int.bmod_eq_of_le (by omega) (by omega)]
  omega

/-- The generation does not go back, as long as it does not overflow. -/
theorem WorkloadApi.le_generationAfter {α : Type} [KubeObject α] (api : WorkloadApi α) {c x : α}
    (hroom : api.bumps c x = true → (getMeta c).generation < Int64.maxValue) :
    (getMeta c).generation ≤ api.generationAfter c x := by
  unfold generationAfter
  split
  case isTrue h => exact le_add_one_of_room (hroom h)
  case isFalse => exact Int64.le_refl _

/-! ## The prediction -/

theorem setExpectedGeneration_annotations {originalMeta m : ObjectMeta} {same : Bool} :
    (setExpectedGeneration originalMeta m same).annotations =
      some (m.annotations.entries.insert expectedGenerationAnnotation (formatInt
        (if !same then originalMeta.generation + 1 else originalMeta.generation).toInt)) := rfl

/-- What is written is the generation that the update is to lead to. -/
theorem setExpectedGeneration_expects (originalMeta m : ObjectMeta) (same : Bool) :
    Expects (setExpectedGeneration originalMeta m same)
      (if !same then originalMeta.generation + 1 else originalMeta.generation) := by
  rw [Expects, setExpectedGeneration_annotations, MapRef.get?_some, Finmap.lookup_insert]

/-- Semantically equal annotations expect the same. -/
theorem Expects.congr {m m' : ObjectMeta} {g : Int64}
    (h : semanticDeepEqual (MapRef.canon id) m.annotations m'.annotations = true)
    (hm' : Expects m' g) : Expects m g := by
  have hcanon : m.annotations.canon id = m'.annotations.canon id := of_decide_eq_true h
  have hget := congrArg (MapRef.get? · expectedGenerationAnnotation) hcanon
  simp only [MapRef.get?_canon, Option.map_id, id_eq] at hget
  rw [Expects, hget]
  exact hm'

/-- **The two predictions for a deployment together are right**, because the
original does not expect the next generation. -/
theorem predicts_deployment {o b : Deployment} (ho : ExpectedWithin o.objectMeta) :
    Expects (deploymentKind.stamp o b).objectMeta
      (deploymentApi.generationAfter o (deploymentKind.stamp o b)) := by
  -- the metadata after the first and after the second call
  let sameSpec := semanticDeepEqual Semantic.deploymentSpec o.spec b.spec
  let m₁ := setExpectedGeneration o.objectMeta b.objectMeta sameSpec
  let sameAnnotations := semanticDeepEqual (MapRef.canon id) o.objectMeta.annotations m₁.annotations
  let m₂ := setExpectedGeneration o.objectMeta m₁ sameAnnotations
  have hm₁ : Expects m₁ _ := setExpectedGeneration_expects o.objectMeta b.objectMeta sameSpec
  have hm₂ : Expects m₂ _ := setExpectedGeneration_expects o.objectMeta m₁ sameAnnotations
  have hbumps : deploymentApi.bumps o (deploymentKind.stamp o b) =
      (!sameSpec || !semanticDeepEqual (MapRef.canon id) o.objectMeta.annotations m₂.annotations) :=
    rfl
  suffices hgeneration : deploymentApi.generationAfter o (deploymentKind.stamp o b) =
      if !sameAnnotations then o.objectMeta.generation + 1 else o.objectMeta.generation by
    rw [hgeneration]
    exact hm₂
  rw [WorkloadApi.generationAfter, hbumps]
  by_cases hannotations : sameAnnotations = true
  · -- the annotations are as the first call left them, so it has not seen another spec
    have hspec : sameSpec = true := by
      by_contra hspec
      rw [Bool.not_eq_true] at hspec
      rw [hspec] at hm₁
      exact ho.not_next (Expects.congr hannotations hm₁)
    have hsame : m₂.annotations = m₁.annotations := by
      show some (MapRef.entries (some _) |>.insert _ _) = some _
      rw [hannotations, hspec, MapRef.entries_some, Finmap.insert_insert]
    rw [hsame, hspec, hannotations, show semanticDeepEqual (MapRef.canon id)
      o.objectMeta.annotations m₁.annotations = true from hannotations]
    rfl
  · rw [Bool.not_eq_true] at hannotations
    rw [hannotations] at hm₂ ⊢
    -- the second call predicts the next generation, which differs from what is stored
    have hdiffer : semanticDeepEqual (MapRef.canon id) o.objectMeta.annotations m₂.annotations =
        false := by
      by_contra heq
      rw [Bool.not_eq_false] at heq
      exact ho.not_next (Expects.congr heq hm₂)
    rw [hdiffer, Bool.not_false, Bool.or_true]
    rfl

/-! ## What the controller sends -/

/-- What the proofs use of the three kinds. -/
structure WorkloadApi.Lawful {α : Type} [KubeObject α] [Inhabited α] (api : WorkloadApi α) :
    Prop where
  kind : api.kind.Lawful
  /-- the difference of a kind -/
  isDiff : ∀ (ord : DiffOrder) (C D : StackState), FiledBy keyOf (api.ofState D) →
    IsDiff (workloadComparison api.same) keyOf (api.ofState C) (api.ofState D)
      (api.ofDiff (computeDiff ord C D))
  filed : ∀ C : StackState, C.Filed → FiledBy keyOf (api.ofState C)
  owned : ∀ (D : StackState) (stack : Latest.Stack), api.ofState (setStackOwnership D stack) =
    (api.ofState D).mapValues (setOwner stack)
  children : ∀ {ctxs : List ServiceContext} {C D : StackState} {stackDirty : Bool},
    Children ctxs C stackDirty D → ∃ ctxs' l,
      toWorkloads api.kind stackDirty (api.ofState C) ctxs' = .ok l ∧ api.ofState D = byKey l
  /-- a new owner is no reason for an update -/
  same_owned : ∀ (stack : Latest.Stack) (x : α), api.same x (setOwner stack x) = true
  /-- the server looks at specs and annotations only -/
  bumps_setMeta : ∀ (c x : α) (m : ObjectMeta), m.annotations = (getMeta x).annotations →
    api.bumps c (setMeta x m) = api.bumps c x
  /-- a built workload has a selector -/
  bumps_default : ∀ (ctx : ServiceContext) (parts : PodParts),
    api.bumps default (ctx.desired api.kind parts default) = true
  predicts : ∀ o b : α, ExpectedWithin (getMeta o) →
    Expects (getMeta (api.kind.stamp o b)) (api.generationAfter o (api.kind.stamp o b))

/-- What the general argument needs of deployments. -/
theorem deploymentApi_lawful : deploymentApi.Lawful where
  kind := deploymentKind_lawful
  isDiff ord _ _ hD := computeWorkloadsDiff_isDiff ord _ _ _ hD keyOf_adoptResourceVersion
  filed _ hC := hC.maps.1
  owned _ _ := rfl
  children h := ⟨_, h.deployments⟩
  same_owned stack x :=
    show normalizeEqualDeployment x (setOwner stack x) = true from normalizeEqual_of_eq rfl rfl
  bumps_setMeta c x m hm := by
    show (_ || !semanticDeepEqual _ _ m.annotations) = _
    rw [hm]
    rfl
  bumps_default ctx parts := by
    -- the zero object has no selector, and what is built has one
    have hselector : semanticDeepEqual Semantic.deploymentSpec (default : Deployment).spec
        (ctx.desired deploymentKind parts default).spec = false :=
      semanticDeepEqual_eq_false DeploymentSpec.selector nofun
    simp only [deploymentApi, hselector, Bool.not_false, Bool.true_or]
  predicts _ _ ho := predicts_deployment ho

/-- What it needs of stateful sets. -/
theorem statefulsetApi_lawful : statefulsetApi.Lawful where
  kind := statefulsetKind_lawful
  isDiff ord _ _ hD := computeWorkloadsDiff_isDiff ord _ _ _ hD keyOf_adoptResourceVersion
  filed _ hC := hC.maps.2.1
  owned _ _ := rfl
  children h := ⟨_, h.statefulsets⟩
  same_owned stack x :=
    show normalizeEqualStatefulset x (setOwner stack x) = true from normalizeEqual_of_eq rfl rfl
  bumps_setMeta _ _ _ _ := rfl
  bumps_default ctx parts := by
    have hselector : semanticDeepEqual Semantic.statefulSetSpec (default : StatefulSet).spec
        (ctx.desired statefulsetKind parts default).spec = false :=
      semanticDeepEqual_eq_false StatefulSetSpec.selector nofun
    exact congrArg not hselector
  predicts o b _ := setExpectedGeneration_expects o.objectMeta b.objectMeta _

/-- What it needs of daemon sets. -/
theorem daemonsetApi_lawful : daemonsetApi.Lawful where
  kind := daemonsetKind_lawful
  isDiff ord _ _ hD := computeWorkloadsDiff_isDiff ord _ _ _ hD keyOf_adoptResourceVersion
  filed _ hC := hC.maps.2.2.1
  owned _ _ := rfl
  children h := ⟨_, h.daemonsets⟩
  same_owned stack x :=
    show normalizeEqualDaemonset x (setOwner stack x) = true from normalizeEqual_of_eq rfl rfl
  bumps_setMeta _ _ _ _ := rfl
  bumps_default ctx parts := by
    have hselector : semanticDeepEqual Semantic.daemonSetSpec (default : DaemonSet).spec
        (ctx.desired daemonsetKind parts default).spec = false :=
      semanticDeepEqual_eq_false DaemonSetSpec.selector nofun
    exact congrArg not hselector
  predicts o b _ := setExpectedGeneration_expects o.objectMeta b.objectMeta _

section Sent

variable {α : Type} [KubeObject α] [Inhabited α] {api : WorkloadApi α} (hapi : api.Lawful)

include hapi

/-- **What the controller wants under a key**: the current object, skipped, or
one that is built on top of it. -/
theorem WorkloadApi.Lawful.lookup_desired {rt : Runtime} {strategy : ServiceStrategy}
    {stack : Latest.Stack} {current D : StackState} (hcurrent : current.Filed)
    (hD : (stackToStack rt stack strategy current).1 = .ok D) {k : String} {d : α}
    (hd : (api.ofState (setStackOwnership D stack)).lookup k = some d) :
    (∃ c, (api.ofState current).lookup k = some c ∧ d = setOwner stack c) ∨
      ∃ (ctx : ServiceContext) (parts : PodParts),
        d = setOwner stack (ctx.desired api.kind parts (getOriginal (api.ofState current) k)) := by
  obtain ⟨spec, -, -, rss, hrss, rfl⟩ := stackToStack_ok_iff.mp hD
  obtain ⟨ctxs, l, hl, hstate⟩ := hapi.children (children_of_resources hrss)
  rw [hapi.owned, hstate, Map.lookup_mapValues] at hd
  obtain ⟨y, hy, rfl⟩ := Option.map_eq_some_iff.mp hd
  obtain ⟨ctx, -, hworkload⟩ :=
    (lookup_workload_iff hapi.kind (hapi.filed current hcurrent) hl k y).mp hy
  -- either the service was skipped, or its workload was built anew
  rcases toWorkload_eq_ok.mp hworkload with ⟨hskip, rfl⟩ | ⟨-, parts, -, rfl⟩
  · exact Or.inl ⟨_, exists_lookup_of_skips hapi.kind hskip, rfl⟩
  · exact Or.inr ⟨ctx, parts, rfl⟩

/-- The desired objects are filed under their keys. -/
theorem WorkloadApi.Lawful.filed_desired {rt : Runtime} {strategy : ServiceStrategy}
    {stack : Latest.Stack} {current D : StackState}
    (hD : (stackToStack rt stack strategy current).1 = .ok D) :
    FiledBy keyOf (api.ofState (setStackOwnership D stack)) := by
  obtain ⟨spec, -, -, rss, -, rfl⟩ := stackToStack_ok_iff.mp hD
  intro k d hd
  rw [hapi.owned, Map.lookup_mapValues] at hd
  obtain ⟨y, hy, rfl⟩ := Option.map_eq_some_iff.mp hd
  rw [← hapi.filed _ (StackState.newStackState_filed rss.flatten) k y hy]
  simp [keyOf, setOwner]

/-- A built object expects the generation that replacing the original gives it,
also after it has got an owner and a resource version. -/
theorem WorkloadApi.Lawful.expects_built (ctx : ServiceContext) (parts : PodParts) {o : α}
    (ho : ExpectedWithin (getMeta o)) {m : ObjectMeta}
    (hm : m.annotations = (getMeta (ctx.desired api.kind parts o)).annotations) :
    Expects m (api.generationAfter o (setMeta (ctx.desired api.kind parts o) m)) := by
  have hexpects := hapi.predicts o (api.kind.build ctx.srv ctx.meta_
    (ctx.fill parts (api.kind.template o)) ctx.labelSelector o) ho
  rw [Expects, hm, generationAfter, hapi.bumps_setMeta _ _ _ hm]
  exact hexpects

variable {snapshot : StackState → Prop} (hfiled : ∀ current, snapshot current → current.Filed)

include hfiled

/-- A created object expects generation 1. -/
theorem WorkloadApi.Lawful.expects_created {at_ : Address} {x : α}
    (h : api.Issues snapshot Changes.toAdd at_ x) : Expects (getMeta x) 1 := by
  obtain ⟨rt, strategy, stack, ord, current, D, hsnapshot, hD, hx, -⟩ := h
  have hcurrent := hfiled current hsnapshot
  obtain ⟨k, hk, habsent⟩ :=
    ((hapi.isDiff ord current _ (hapi.filed_desired hD)).mem_toAdd x).mp hx
  -- no workload is recreated, so that there was none
  have hnone : (api.ofState current).lookup k = none := by
    rcases habsent with h | ⟨c, -, -, hrecreate⟩
    · exact h
    · cases hrecreate
  rcases hapi.lookup_desired hcurrent hD hk with ⟨c, hc, -⟩ | ⟨ctx, parts, rfl⟩
  · rw [hnone] at hc
    cases hc
  · -- built on the zero object, whose generation is 0
    have hzero : getMeta (default : α) = default := hapi.kind.getMeta_default
    have hwithin : ExpectedWithin (getMeta (default : α)) := by
      rw [hzero]
      nofun
    have hone : api.generationAfter default (setOwner stack (ctx.desired api.kind parts default)) =
        1 := by
      rw [generationAfter, setOwner, hapi.bumps_setMeta, hapi.bumps_default, hzero]
      · rfl
      · rfl
    have hexpects := hapi.expects_built ctx parts hwithin
      (m := getMeta (setOwner stack (ctx.desired api.kind parts default)))
      (by rw [setOwner, KubeObject.getMeta_setMeta])
    rw [setOwner, KubeObject.getMeta_setMeta] at hexpects
    rw [getOriginal_of_none hnone, ← hone, setOwner, KubeObject.getMeta_setMeta]
    exact hexpects

/-- An updated object is built on one of the snapshot and names its resource version. -/
theorem WorkloadApi.Lawful.expects_updated {at_ : Address} {x : α}
    (h : api.Issues snapshot Changes.toUpdate at_ x) :
    ∃ current k c, snapshot current ∧ (api.ofState current).lookup k = some c ∧
      resourceVersionOf x = resourceVersionOf c ∧
      (ExpectedWithin (getMeta c) → Expects (getMeta x) (api.generationAfter c x)) := by
  obtain ⟨rt, strategy, stack, ord, current, D, hsnapshot, hD, hx, -⟩ := h
  obtain ⟨k, c, d, hd, hc, hdiffer, -, rfl⟩ :=
    ((hapi.isDiff ord current _ (hapi.filed_desired hD)).mem_toUpdate x).mp hx
  refine ⟨current, k, c, hsnapshot, hc, ?_, fun hwithin => ?_⟩
  · simp [workloadComparison, resourceVersionOf, adoptResourceVersion]
  · rcases hapi.lookup_desired (hfiled current hsnapshot) hD hd with
      ⟨c', hc', rfl⟩ | ⟨ctx, parts, rfl⟩
    · -- a skipped object equals the current one, so it is not updated
      obtain rfl : c' = c := Option.some.inj (hc'.symm.trans hc)
      have hsame : api.same c' (setOwner stack c') = false := hdiffer
      rw [hapi.same_owned] at hsame
      cases hsame
    · rw [getOriginal_of_lookup hc]
      have hexpects := hapi.expects_built ctx parts hwithin
        (m := getMeta (adoptResourceVersion c (setOwner stack (ctx.desired api.kind parts c))))
        (by simp [adoptResourceVersion, setOwner])
      simp only [workloadComparison, adoptResourceVersion, setOwner, KubeObject.setMeta_setMeta,
        KubeObject.getMeta_setMeta] at hexpects ⊢
      exact hexpects

end Sent

/-! ## Runs -/

section Objects

variable {α : Type} [KubeObject α]

/-- Stored objects have their versions, and expect generations that they have reached. -/
structure ObjectsInv (s : ObjectStore α) : Prop where
  versioned : s.WellVersioned resourceVersionOf
  counted : ∀ x ∈ s.versions, 1 ≤ (getMeta x).generation ∧ ExpectedWithin (getMeta x)

theorem getMeta_storedAs (rv : String) (generation : Int64) (x : α) :
    getMeta (storedAs rv generation x) =
      { getMeta x with resourceVersion := rv, generation := generation } :=
  KubeObject.getMeta_setMeta _ _

/-- Storing an object whose expected generation is reached keeps the invariant. -/
theorem ObjectsInv.put {s : ObjectStore α} (h : ObjectsInv s) (at_ : Address) {x : α} {rv : String}
    {generation : Int64} (hfresh : s.Fresh resourceVersionOf rv) (hpos : 1 ≤ generation)
    (hwithin : ExpectedWithin { getMeta x with resourceVersion := rv, generation := generation }) :
    ObjectsInv (s.put at_ (storedAs rv generation x)) where
  versioned := h.versioned.put at_ (by rwa [resourceVersionOf, getMeta_storedAs])
  counted y hy := by
    rcases List.mem_cons.mp hy with rfl | hy'
    · rw [getMeta_storedAs]
      exact ⟨hpos, hwithin⟩
    · exact h.counted y hy'

/-- A removal keeps the invariant. -/
theorem ObjectsInv.drop {s : ObjectStore α} (h : ObjectsInv s) (at_ : Address) :
    ObjectsInv (s.drop at_) where
  versioned := h.versioned.drop at_
  counted := h.counted

end Objects

section Steps

variable {α : Type} [KubeObject α] [Inhabited α] {api : WorkloadApi α} (hapi : api.Lawful)
  {snapshot : StackState → Prop} (hfiled : ∀ current, snapshot current → current.Filed)
  {s s' : ObjectStore α} {event : WorkloadEvent}
  (hsnapshot : ∀ current, snapshot current →
    ∀ k x, (api.ofState current).lookup k = some x → x ∈ s.versions)

include hapi hfiled hsnapshot

/-- What the controller writes expects the generation that it gets. -/
theorem objectStep_expects {at_ : Address} (hs : ObjectsInv s)
    (h : ObjectStep api snapshot s (.controller at_) s') :
    ∃ x rv generation, 1 ≤ generation ∧ Expects (getMeta x) generation ∧
      s.Fresh resourceVersionOf rv ∧ s' = s.put at_ (storedAs rv generation x) := by
  cases h with
  | @create _ x rv hissued _ hfresh =>
    exact ⟨x, rv, 1, Int64.le_refl _, hapi.expects_created hfiled hissued, hfresh, rfl⟩
  | @update _ x c rv hissued hstored hversion hroom hfresh =>
    obtain ⟨current, k, c', hcurrent, hc', hversion', hexpects⟩ :=
      hapi.expects_updated hfiled hissued
    -- the version that the update names is the stored one
    obtain rfl : c' = c := hs.versioned.eq_of_version (hsnapshot current hcurrent k c' hc')
      hstored (hversion'.symm.trans hversion)
    obtain ⟨hpos, hwithin⟩ := hs.counted c' (hs.versioned.mem_versions _ _ hstored)
    exact ⟨x, rv, _, Int64.le_trans hpos (api.le_generationAfter hroom), hexpects hwithin, hfresh,
      rfl⟩

/-- **A write keeps the invariant.** -/
theorem objectStep_inv (hs : ObjectsInv s) (h : ObjectStep api snapshot s event s') :
    ObjectsInv s' := by
  cases event with
  | controller at_ =>
    obtain ⟨x, rv, generation, hpos, hexpects, hfresh, rfl⟩ :=
      objectStep_expects hapi hfiled hsnapshot hs h
    exact hs.put at_ hfresh hpos (Expects.within hexpects hpos)
  -- others leave the annotation alone
  | other =>
    cases h with
    | @otherCreate at_ x rv hexpects _ hfresh =>
      refine hs.put at_ hfresh (Int64.le_refl _) fun expected hexpected => ?_
      rw [hexpects] at hexpected
      cases hexpected
    | @otherUpdate at_ x c rv hstored hexpects hroom hfresh =>
      obtain ⟨hpos, hwithin⟩ := hs.counted c (hs.versioned.mem_versions _ _ hstored)
      have hle := api.le_generationAfter hroom
      refine hs.put at_ hfresh (Int64.le_trans hpos hle) fun expected hexpected => ?_
      rw [hexpects] at hexpected
      -- the expected generation was reached before, and it only grows
      obtain ⟨e, he, hone, hreached⟩ := hwithin expected hexpected
      exact ⟨e, he, hone, Int64.le_trans hreached hle⟩
    | delete => exact hs.drop _

/-- **Right after a write of the controller the generation is the expected one.** -/
theorem objectStep_matches {at_ : Address} (hs : ObjectsInv s)
    (h : ObjectStep api snapshot s (.controller at_) s') :
    ∃ m, (s'.stored at_).map getMeta = some m ∧ generationMatchesExpected m = true := by
  obtain ⟨x, rv, generation, hpos, hexpects, -, rfl⟩ :=
    objectStep_expects hapi hfiled hsnapshot hs h
  refine ⟨_, by rw [Objects.stored_put_self, Option.map_some], ?_⟩
  rw [getMeta_storedAs]
  exact Expects.matches hexpects hpos

end Steps

/-- The invariant of the cluster. -/
structure WorkloadCluster.Inv (s : WorkloadCluster) : Prop where
  deployments : ObjectsInv s.deployments
  statefulsets : ObjectsInv s.statefulsets
  daemonsets : ObjectsInv s.daemonsets

/-- The store is empty at the start. -/
theorem objectsInv_empty {α : Type} [KubeObject α] : ObjectsInv (.empty : ObjectStore α) where
  versioned := Objects.wellVersioned_empty _
  counted _ h := nomatch h

/-- **The step lemma**, for the three kinds. -/
theorem workloadStep_inv {s s' : WorkloadCluster} {event : Workload × WorkloadEvent} (hs : s.Inv)
    (h : WorkloadStep s event s') : s'.Inv := by
  cases h with
  | deployment h =>
    exact ⟨objectStep_inv deploymentApi_lawful (fun _ hc => hc.filed) (fun _ hc => hc.deployments)
      hs.deployments h, hs.statefulsets, hs.daemonsets⟩
  | statefulset h =>
    exact ⟨hs.deployments, objectStep_inv statefulsetApi_lawful (fun _ hc => hc.filed)
      (fun _ hc => hc.statefulsets) hs.statefulsets h, hs.daemonsets⟩
  | daemonset h =>
    exact ⟨hs.deployments, hs.statefulsets, objectStep_inv daemonsetApi_lawful
      (fun _ hc => hc.filed) (fun _ hc => hc.daemonsets) hs.daemonsets h⟩

/-- After a write of the controller the generation is the expected one. -/
theorem workloadStep_matches {s s' : WorkloadCluster} {workload : Workload} {at_ : Address}
    (hs : s.Inv) (h : WorkloadStep s (workload, .controller at_) s') :
    ∃ m, s'.metaAt workload at_ = some m ∧ generationMatchesExpected m = true := by
  cases h with
  | deployment h =>
    exact objectStep_matches deploymentApi_lawful (fun _ hc => hc.filed)
      (fun _ hc => hc.deployments) hs.deployments h
  | statefulset h =>
    exact objectStep_matches statefulsetApi_lawful (fun _ hc => hc.filed)
      (fun _ hc => hc.statefulsets) hs.statefulsets h
  | daemonset h =>
    exact objectStep_matches daemonsetApi_lawful (fun _ hc => hc.filed)
      (fun _ hc => hc.daemonsets) hs.daemonsets h

/-- In every state the expected generations have been reached. -/
theorem WorkloadCluster.Inv.within {s : WorkloadCluster} (hs : s.Inv) {workload : Workload}
    {at_ : Address} {m : ObjectMeta} (hm : s.metaAt workload at_ = some m) : ExpectedWithin m := by
  have stored {α : Type} [KubeObject α] {objects : ObjectStore α} (hobjects : ObjectsInv objects)
      (hm : (objects.stored at_).map getMeta = some m) : ExpectedWithin m := by
    obtain ⟨x, hx, rfl⟩ := Option.map_eq_some_iff.mp hm
    exact (hobjects.counted x (hobjects.versioned.mem_versions _ _ hx)).2
  cases workload with
  | deployment => exact stored hs.deployments hm
  | statefulset => exact stored hs.statefulsets hm
  | daemonset => exact stored hs.daemonsets hm

/-- **The expected generation is exact.** Whatever the controller and others have
written, no workload expects a generation that it has not reached, and right
after the controller has created or updated a workload its generation is the
expected one. -/
theorem generation_predicted {s : WorkloadCluster} (h : workloadSystem.Reachable s) :
    (∀ workload at_ m, s.metaAt workload at_ = some m → ExpectedWithin m) ∧
      ∀ workload at_ s', workloadSystem.step s (workload, .controller at_) s' →
        ∃ m, s'.metaAt workload at_ = some m ∧ generationMatchesExpected m = true := by
  have hs : s.Inv := by
    refine h.induct (I := WorkloadCluster.Inv) (fun s hs => ?_) fun s event s' hs _ hstep =>
      workloadStep_inv hs hstep
    obtain rfl : s = .empty := hs
    exact ⟨objectsInv_empty, objectsInv_empty, objectsInv_empty⟩
  exact ⟨fun workload at_ m hm => hs.within hm,
    fun workload at_ s' hstep => workloadStep_matches hs hstep⟩

/-- The changes to the deployments when a stack is reconciled. -/
def deploymentChanges (stack : Latest.Stack) (current : StackState) : Changes Deployment :=
  let D := (stackToStack Runtime.reference stack .loadBalancer current).1.toOption.getD default
  (computeDiff (RangeOrder.ascending DiffLoop) current (setStackOwnership D stack)).deployments

/-- The deployment of `webStack`, as it is stored when it is created in an empty cluster. -/
def createdWeb : Deployment :=
  storedAs "1" 1 ((deploymentChanges webStack emptyStackState).toAdd.headD default)

def createdState : StackState := { emptyStackState with deployments := byKey [createdWeb] }

/-- The stack `webStack` with another image. -/
def newImageStack : Latest.Stack := stackOf [{ webService with image := "nginx:2" }]

/-- The cluster after the creation. -/
def createdWorkloads : WorkloadCluster :=
  { WorkloadCluster.empty with
    deployments := (Objects.empty : ObjectStore Deployment).put ⟨"prod", "web"⟩ createdWeb }

theorem snapshot_createdWorkloads : createdWorkloads.Snapshot createdState where
  filed := by
    refine @StackState.Keyed.filed "prod" _ ?_
    exact { emptyStackState_keyed "prod" with deployments := byKey_keyed (by decide +kernel) }
  deployments k x hx := by
    have hlast : lastWith keyOf [createdWeb] k = some x := (lookup_fileBy _ _ _).symm.trans hx
    exact (lastWith_eq_some hlast).1
  statefulsets := by simp [createdState, emptyStackState]
  daemonsets := by simp [createdState, emptyStackState]

/-- The deployment of `webStack` is created in an empty cluster, and updated when the image
changes. -/
theorem generation_predicted_webStack :
    ∃ s', workloadSystem.step .empty (.deployment, .controller ⟨"prod", "web"⟩) createdWorkloads ∧
      workloadSystem.step createdWorkloads (.deployment, .controller ⟨"prod", "web"⟩) s' ∧
      (∃ m, createdWorkloads.metaAt .deployment ⟨"prod", "web"⟩ = some m ∧
        generationMatchesExpected m = true) ∧
      (∃ m, s'.metaAt .deployment ⟨"prod", "web"⟩ = some m ∧ m.generation = 2 ∧
        generationMatchesExpected m = true) := by
  have hempty : WorkloadCluster.empty.Snapshot emptyStackState :=
    ⟨(emptyStackState_keyed "").filed, by simp [emptyStackState], by simp [emptyStackState],
      by simp [emptyStackState]⟩
  have hcreate : workloadSystem.step .empty (.deployment, .controller ⟨"prod", "web"⟩)
      createdWorkloads :=
    .deployment (.create ⟨Runtime.reference, .loadBalancer, webStack, RangeOrder.ascending DiffLoop,
      _, _, hempty, rfl, List.mem_cons_self, rfl⟩ rfl (Objects.fresh_empty _ "1"))
  have hfresh : ∀ x ∈ [createdWeb], resourceVersionOf x ≠ "2" := by decide +kernel
  have hupdate : workloadSystem.step createdWorkloads
      (.deployment, .controller ⟨"prod", "web"⟩) _ :=
    .deployment (@ObjectStep.update _ _ _ _ _ _ _ createdWeb "2"
      ⟨Runtime.reference, .loadBalancer, newImageStack, RangeOrder.ascending DiffLoop, _, _,
        snapshot_createdWorkloads, rfl, List.mem_cons_self, rfl⟩ rfl rfl (by decide +kernel) hfresh)
  have hpredicted := generation_predicted (.step (.init rfl) trivial hcreate)
  obtain ⟨m, hm, hmatches⟩ := hpredicted.2 _ _ _ hupdate
  -- the server has added 1 for the new image
  have hgeneration : m.generation = 2 := by
    obtain rfl := Option.some.inj hm
    decide +kernel
  exact ⟨_, hcreate, hupdate, (generation_predicted (.init rfl)).2 _ _ _ hcreate, m, hm,
    hgeneration, hmatches⟩
end ComposeKube

import ComposeKube.Convert.Children
import ComposeKube.StackResources.Diff

/-!
# Applying a difference to the cluster

`resourceupdater.go` and `setStackOwnership`: the updater deletes, creates and
updates the children of a stack, kind by kind, and stops at the first error it
does not ignore. The cluster is a store that holds the children as a
`StackState`; it refuses to create an object that exists or that carries a
resource version, refuses to update an object that is missing or has another
resource version, and may assign any resource version and any generation to an
object that is written.

* `applyStackDiff_ok_iff` — when a computed difference goes through, and what
  the cluster holds afterwards.
-/

namespace ComposeKube

open Go

/-! ## The cluster -/

/-- Errors of the API server. -/
inductive ApiError where
  | notFound
  | alreadyExists
  | invalid
  | conflict
  deriving DecidableEq

/-- `kerrors.IsNotFound`. -/
def ApiError.isNotFound (e : ApiError) : Bool := e = .notFound

/-- `kerrors.IsConflict`. -/
def ApiError.isConflict (e : ApiError) : Bool := e = .conflict

/-- The API server's part in a write: the resource version and the generation
it assigns to a written object. -/
structure Server where
  assign : ChildKind → ObjectMeta → String × Int64

/-- An object as the server stores it. -/
def Server.store {α : Type} [KubeObject α] (server : Server) (kind : ChildKind) (x : α) : α :=
  let assigned := server.assign kind (getMeta x)
  setMeta x { getMeta x with resourceVersion := assigned.1, generation := assigned.2 }

/-- The rules by which the server accepts writes. -/
def Server.rules {α : Type} [KubeObject α] (server : Server) (kind : ChildKind) :
    Rules α ApiError where
  refuseCreate x := if (getMeta x).resourceVersion ≠ "" then some .invalid else none
  refuseUpdate c x :=
    if (getMeta x).resourceVersion ≠ (getMeta c).resourceVersion then some .conflict else none
  alreadyExists := .alreadyExists
  notFound := .notFound
  write := server.store kind

/-! ## The updater -/

/-- An error with the message that `errors.Wrapf` puts in front of its cause. -/
structure WrappedError where
  message : String
  cause : ApiError
  deriving DecidableEq

/-- The kind in the updater's messages. -/
def ChildKind.text : ChildKind → String
  | deployment => "deployment"
  | statefulset => "statefulset"
  | daemonset => "daemonset"
  | service => "service"

/-- `errors.Wrapf(err, "k8sResourceUpdater: error while … %s in stack %s")`. -/
def wrapUpdaterError {α : Type} [KubeObject α] (originalStack : Latest.Stack) (kind : ChildKind)
    (verb : String) (r : α) (err : ApiError) : WrappedError where
  message := "k8sResourceUpdater: error while " ++ verb ++ " " ++ kind.text ++ " " ++
    (getMeta r).name ++ " in stack " ++
    objKey originalStack.objectMeta.namespace_ originalStack.objectMeta.name
  cause := err

/-- `applyDaemonsets`, `applyDeployments`, `applyStatefulsets` and `applyServices`:
the requests go to the namespace of the stack, under the object's name. -/
def applyChildren {α : Type} [KubeObject α] (server : Server) (originalStack : Latest.Stack)
    (kind : ChildKind) (changes : Changes α) (store : Map α) : Except WrappedError (Map α) :=
  (server.rules kind).apply (nameKey originalStack.objectMeta.namespace_) ApiError.isNotFound
    (wrapUpdaterError originalStack kind "deleting")
    (wrapUpdaterError originalStack kind "creating")
    (wrapUpdaterError originalStack kind "patching") changes store

/-- `applyStackDiff`. -/
def applyStackDiff (server : Server) (originalStack : Latest.Stack) (d : StackStateDiff)
    (store : StackState) : Except WrappedError StackState := do
  let daemonsets ← applyChildren server originalStack .daemonset d.daemonsets store.daemonsets
  let deployments ← applyChildren server originalStack .deployment d.deployments store.deployments
  let statefulsets ←
    applyChildren server originalStack .statefulset d.statefulsets store.statefulsets
  let services ← applyChildren server originalStack .service d.services store.services
  return { deployments, statefulsets, daemonsets, services }

/-! ## Ownership -/

/-- `ownerReference`. -/
def ownerReference (stack : Latest.Stack) : OwnerReference where
  apiVersion := "compose.docker.com/v1alpha3"
  kind := "Stack"
  name := stack.objectMeta.name
  uid := stack.objectMeta.uid
  blockOwnerDeletion := some true
  controller := some true

/-- An object owned by the stack. -/
def setOwner {α : Type} [KubeObject α] (stack : Latest.Stack) (x : α) : α :=
  setMeta x { getMeta x with ownerReferences := some [ownerReference stack] }

/-- `setStackOwnership`: every object of the state gets the owner. -/
def setStackOwnership (state : StackState) (stack : Latest.Stack) : StackState where
  daemonsets := state.daemonsets.mapValues (setOwner stack)
  deployments := state.deployments.mapValues (setOwner stack)
  services := state.services.mapValues (setOwner stack)
  statefulsets := state.statefulsets.mapValues (setOwner stack)

/-- To set the owner keeps objects under their keys. -/
theorem setOwner_keyed {α : Type} [KubeObject α] {namespace_ : String} {m : Map α}
    (h : Keyed namespace_ m) (stack : Latest.Stack) :
    Keyed namespace_ (m.mapValues (setOwner stack)) := by
  intro k x hx
  rw [Map.lookup_mapValues] at hx
  obtain ⟨y, hy, rfl⟩ := Option.map_eq_some_iff.mp hx
  obtain ⟨hns, hkey⟩ := h k y hy
  simp only [keyOf, setOwner, KubeObject.getMeta_setMeta]
  exact ⟨hns, hkey⟩

theorem setStackOwnership_keyed {namespace_ : String} {state : StackState}
    (h : state.Keyed namespace_) (stack : Latest.Stack) :
    (setStackOwnership state stack).Keyed namespace_ where
  deployments := setOwner_keyed h.deployments stack
  statefulsets := setOwner_keyed h.statefulsets stack
  daemonsets := setOwner_keyed h.daemonsets stack
  services := setOwner_keyed h.services stack

/-! ## Reconciling the children -/

/-- What stops `reconcileChildren`. -/
inductive ReconcileError where
  | conversion (message : String)
  | update (err : WrappedError)

/-- `reconcileChildren`, with the cluster holding what the caches say. -/
def reconcileChildren (rt : Runtime) (server : Server) (ord : DiffOrder)
    (serviceStrategy : ServiceStrategy) (stack : Latest.Stack) (current : StackState) :
    Except ReconcileError StackState := do
  let desired ← (stackToStack rt stack serviceStrategy current).1.mapError .conversion
  let desired := setStackOwnership desired stack
  let diff := computeDiff ord current desired
  (applyStackDiff server stack diff current).mapError .update

/-! ## What a difference leaves behind -/

/-- For every kind, each key of `C'` holds what settling `C` towards `D` puts there. -/
structure Settled (server : Server) (C D C' : StackState) : Prop where
  deployments : ∀ k, C'.deployments.lookup k =
    settle (workloadComparison normalizeEqualDeployment) (server.store .deployment)
      C.deployments D.deployments k
  statefulsets : ∀ k, C'.statefulsets.lookup k =
    settle (workloadComparison normalizeEqualStatefulset) (server.store .statefulset)
      C.statefulsets D.statefulsets k
  daemonsets : ∀ k, C'.daemonsets.lookup k =
    settle (workloadComparison normalizeEqualDaemonset) (server.store .daemonset)
      C.daemonsets D.daemonsets k
  services : ∀ k, C'.services.lookup k =
    settle serviceComparison (server.store .service) C.services D.services k

/-- The objects to be created carry no resource version. -/
structure Creatable (d : StackStateDiff) : Prop where
  deployments : ∀ x ∈ d.deployments.toAdd, x.objectMeta.resourceVersion = ""
  statefulsets : ∀ x ∈ d.statefulsets.toAdd, x.objectMeta.resourceVersion = ""
  daemonsets : ∀ x ∈ d.daemonsets.toAdd, x.objectMeta.resourceVersion = ""
  services : ∀ x ∈ d.services.toAdd, x.objectMeta.resourceVersion = ""

/-- One kind of children: an update carries the current resource version, so
only a creation can be refused. -/
theorem applyChildren_ok_iff {α : Type} [KubeObject α] (server : Server) (stack : Latest.Stack)
    (kind : ChildKind) {cmp : Comparison α} (hadopt : cmp.adopt = adoptResourceVersion)
    {C D : Map α} {ch : Changes α}
    (h : IsDiff cmp (nameKey stack.objectMeta.namespace_) C D ch)
    (hC : Keyed stack.objectMeta.namespace_ C) (hD : Keyed stack.objectMeta.namespace_ D)
    {C' : Map α} :
    applyChildren server stack kind ch C = .ok C' ↔
      (∀ x ∈ ch.toAdd, (getMeta x).resourceVersion = "") ∧
        ∀ k, C'.lookup k = settle cmp (server.store kind) C D k := by
  have hkeys : ∀ c d, nameKey stack.objectMeta.namespace_ (cmp.adopt c d) =
      nameKey stack.objectMeta.namespace_ d := by
    rw [hadopt]
    exact nameKey_adoptResourceVersion _
  -- an update carries the version of the object that is there, so that the server takes it
  have hupdate : ∀ c d, (server.rules kind).refuseUpdate c (cmp.adopt c d) = none := by
    intro c d
    rw [hadopt]
    simp [Server.rules, adoptResourceVersion]
  have hrefuse : ∀ x : α, (server.rules kind).refuseCreate x = none ↔
      (getMeta x).resourceVersion = "" := by
    intro x
    simp [Server.rules]
  unfold applyChildren
  rw [(server.rules kind).apply_isDiff h hC.filedBy hD.filedBy hkeys rfl hupdate]
  simp only [hrefuse]
  rfl

/-- **When a computed difference goes through, and what it leaves.** -/
theorem applyStackDiff_ok_iff (server : Server) (stack : Latest.Stack) (ord : DiffOrder)
    {C D C' : StackState} (hC : C.Keyed stack.objectMeta.namespace_)
    (hD : D.Keyed stack.objectMeta.namespace_) :
    applyStackDiff server stack (computeDiff ord C D) C = .ok C' ↔
      Creatable (computeDiff ord C D) ∧ Settled server C D C' := by
  obtain ⟨hdep, hsts, hds, hsvc⟩ := computeDiff_isDiff ord C hD
  have hdep' := @applyChildren_ok_iff _ _ server stack .deployment _ rfl _ _ _ hdep
    hC.deployments hD.deployments
  have hsts' := @applyChildren_ok_iff _ _ server stack .statefulset _ rfl _ _ _ hsts
    hC.statefulsets hD.statefulsets
  have hds' := @applyChildren_ok_iff _ _ server stack .daemonset _ rfl _ _ _ hds
    hC.daemonsets hD.daemonsets
  have hsvc' := @applyChildren_ok_iff _ _ server stack .service _ rfl _ _ _ hsvc
    hC.services hD.services
  -- the four kinds in the order of the source: daemon sets, deployments, stateful sets,
  -- services
  unfold applyStackDiff
  constructor
  · intro h
    obtain ⟨daemonsets, hdaemonsets, h⟩ := bind_eq_ok.mp h
    obtain ⟨deployments, hdeployments, h⟩ := bind_eq_ok.mp h
    obtain ⟨statefulsets, hstatefulsets, h⟩ := bind_eq_ok.mp h
    obtain ⟨services, hservices, h⟩ := bind_eq_ok.mp h
    obtain rfl := pure_eq_ok.mp h
    obtain ⟨c1, s1⟩ := hds'.mp hdaemonsets
    obtain ⟨c2, s2⟩ := hdep'.mp hdeployments
    obtain ⟨c3, s3⟩ := hsts'.mp hstatefulsets
    obtain ⟨c4, s4⟩ := hsvc'.mp hservices
    exact ⟨⟨c2, c3, c1, c4⟩, ⟨s2, s3, s1, s4⟩⟩
  · rintro ⟨hc, hs⟩
    rw [hds'.mpr ⟨hc.daemonsets, hs.daemonsets⟩, ok_bind,
      hdep'.mpr ⟨hc.deployments, hs.deployments⟩, ok_bind,
      hsts'.mpr ⟨hc.statefulsets, hs.statefulsets⟩, ok_bind,
      hsvc'.mpr ⟨hc.services, hs.services⟩, ok_bind]
    rfl

/-- A computed difference goes through when the cluster lets its objects be created. -/
theorem exists_applyStackDiff_iff (server : Server) (stack : Latest.Stack) (ord : DiffOrder)
    {C D : StackState} (hC : C.Keyed stack.objectMeta.namespace_)
    (hD : D.Keyed stack.objectMeta.namespace_) :
    (∃ C', applyStackDiff server stack (computeDiff ord C D) C = .ok C') ↔
      Creatable (computeDiff ord C D) := by
  simp only [applyStackDiff_ok_iff server stack ord hC hD]
  constructor
  · exact fun ⟨_, h⟩ => h.1
  · -- each kind has an outcome, whatever the others do
    intro hcreate
    obtain ⟨hdep, hsts, hds, hsvc⟩ := computeDiff_isDiff ord C hD
    obtain ⟨deployments, h1⟩ := hdep.exists_settled (server.rules .deployment)
      hC.deployments.filedBy hD.deployments.filedBy (nameKey_adoptResourceVersion _)
    obtain ⟨statefulsets, h2⟩ := hsts.exists_settled (server.rules .statefulset)
      hC.statefulsets.filedBy hD.statefulsets.filedBy (nameKey_adoptResourceVersion _)
    obtain ⟨daemonsets, h3⟩ := hds.exists_settled (server.rules .daemonset)
      hC.daemonsets.filedBy hD.daemonsets.filedBy (nameKey_adoptResourceVersion _)
    obtain ⟨services, h4⟩ := hsvc.exists_settled (server.rules .service)
      hC.services.filedBy hD.services.filedBy (nameKey_adoptResourceVersion _)
    exact ⟨⟨deployments, statefulsets, daemonsets, services⟩, hcreate, h1, h2, h3, h4⟩

end ComposeKube

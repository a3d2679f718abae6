import ComposeKube.Controller.Apply

/-!
# The updater's requests, one by one

`applyStackDiff` sends its requests in a fixed order: kind by kind, and within a
kind the deletions, the creations and the updates. It stops at the first error
that it does not ignore, and what has been written by then stays written.

* `applyStackDiff_eq` — applying a difference is performing its requests.
* `find_perform` — what one request does to the cluster.
-/

namespace ComposeKube

open Go

/-! ## Requests -/

def Resource.kind : Resource → ChildKind
  | deployment _ => .deployment
  | statefulset _ => .statefulset
  | daemonset _ => .daemonset
  | service _ => .service

def Resource.setObjectMeta : Resource → ObjectMeta → Resource
  | deployment d, m => .deployment (setMeta d m)
  | statefulset s, m => .statefulset (setMeta s m)
  | daemonset d, m => .daemonset (setMeta d m)
  | service s, m => .service (setMeta s m)

/-- Objects are stored by their kind, under namespace and name. -/
theorem Resource.kindKey_eq (r : Resource) :
    r.kindKey = (r.kind, objKey r.objectMeta.namespace_ r.objectMeta.name) := by
  cases r <;> rfl

instance : KubeObject Resource where
  getMeta := Resource.objectMeta
  setMeta := Resource.setObjectMeta
  getMeta_setMeta r _ := by cases r <;> rfl
  setMeta_setMeta r _ _ := by cases r <;> rfl
  setMeta_getMeta r := by cases r <;> rfl

/-- A request of the updater, for one object. -/
inductive ChildRequest where
  | delete (r : Resource)
  | create (r : Resource)
  | update (r : Resource)

namespace ChildRequest

def resource : ChildRequest → Resource
  | delete r => r
  | create r => r
  | update r => r

/-- What a request is about: the kind and the name of its object, in a namespace. -/
def target (namespace_ : String) (req : ChildRequest) : ChildKind × String :=
  (req.resource.kind, nameKey namespace_ req.resource)

/-- The request is for an object that exists. -/
def Touches : ChildRequest → Prop
  | delete _ => True
  | create _ => False
  | update _ => True

/-- The request writes its object. -/
def Writes : ChildRequest → Prop
  | delete _ => False
  | create _ => True
  | update _ => True

end ChildRequest

/-- The requests for one kind of children, in the order of the loops. -/
def requestsOf {α : Type} (of : α → Resource) (changes : Changes α) : List ChildRequest :=
  changes.toDelete.map (fun x => .delete (of x)) ++
    (changes.toAdd.map (fun x => .create (of x)) ++ changes.toUpdate.map fun x => .update (of x))

/-- The requests of `applyStackDiff`. -/
def StackStateDiff.requests (d : StackStateDiff) : List ChildRequest :=
  requestsOf .daemonset d.daemonsets ++ (requestsOf .deployment d.deployments ++
    (requestsOf .statefulset d.statefulsets ++ requestsOf .service d.services))

/-- An object is filed under a key. -/
def StackState.put (state : StackState) (k : String) : Resource → StackState
  | .deployment r => { state with deployments := state.deployments.insert k r }
  | .statefulset r => { state with statefulsets := state.statefulsets.insert k r }
  | .daemonset r => { state with daemonsets := state.daemonsets.insert k r }
  | .service r => { state with services := state.services.insert k r }

/-- What a write changes. -/
theorem StackState.find_put (state : StackState) (k : String) (r : Resource) (kind : ChildKind)
    (k' : String) :
    (state.put k r).find kind k' = if (r.kind, k) = (kind, k') then some r else
      state.find kind k' := by
  cases r <;> cases kind <;>
    simp only [put, find, Resource.kind, Prod.mk.injEq, reduceCtorEq, false_and, if_false,
      true_and]
  all_goals
    split
    case isTrue hk => rw [hk, Finmap.lookup_insert]; rfl
    case isFalse hk => rw [Finmap.lookup_insert_of_ne _ (Ne.symm hk)]

/-- One request, and the cluster afterwards. -/
def perform (server : Server) (originalStack : Latest.Stack) (store : StackState) :
    ChildRequest → Except WrappedError StackState
  | .delete r =>
    let k := nameKey originalStack.objectMeta.namespace_ r
    match store.find r.kind k with
    -- `kerrors.IsNotFound` is ignored
    | none => .ok store
    | some _ => .ok (store.remove (r.kind, k))
  | .create r =>
    let k := nameKey originalStack.objectMeta.namespace_ r
    match (server.rules r.kind).refuseCreate r with
    | some err => .error (wrapUpdaterError originalStack r.kind "creating" r err)
    | none =>
      match store.find r.kind k with
      | some _ => .error (wrapUpdaterError originalStack r.kind "creating" r .alreadyExists)
      | none => .ok (store.put k (server.store r.kind r))
  | .update r =>
    let k := nameKey originalStack.objectMeta.namespace_ r
    match store.find r.kind k with
    | none => .error (wrapUpdaterError originalStack r.kind "patching" r .notFound)
    | some c =>
      match (server.rules r.kind).refuseUpdate c r with
      | some err => .error (wrapUpdaterError originalStack r.kind "patching" r err)
      | none => .ok (store.put k (server.store r.kind r))

/-! ## Applying a difference -/

/-- One of the four maps of a state. -/
structure ChildMap (α : Type) [KubeObject α] where
  kind : ChildKind
  of : α → Resource
  get : StackState → Map α
  set : StackState → Map α → StackState
  kind_of : ∀ x, (of x).kind = kind
  getMeta_of : ∀ x, getMeta (of x) = getMeta x
  setMeta_of : ∀ x m, setMeta (of x) m = of (setMeta x m)
  find_eq : ∀ s k, s.find kind k = ((get s).lookup k).map of
  put_of : ∀ s k x, s.put k (of x) = set s ((get s).insert k x)
  remove_eq : ∀ s k, s.remove (kind, k) = set s ((get s).erase k)
  get_set : ∀ s m, get (set s m) = m
  set_set : ∀ s m m', set (set s m) m' = set s m'
  set_get : ∀ s, set s (get s) = s

def deploymentMap : ChildMap Deployment where
  kind := .deployment
  of := .deployment
  get := StackState.deployments
  set s m := { s with deployments := m }
  kind_of _ := rfl
  getMeta_of _ := rfl
  setMeta_of _ _ := rfl
  find_eq _ _ := rfl
  put_of _ _ _ := rfl
  remove_eq _ _ := rfl
  get_set _ _ := rfl
  set_set _ _ _ := rfl
  set_get _ := rfl

def statefulsetMap : ChildMap StatefulSet where
  kind := .statefulset
  of := .statefulset
  get := StackState.statefulsets
  set s m := { s with statefulsets := m }
  kind_of _ := rfl
  getMeta_of _ := rfl
  setMeta_of _ _ := rfl
  find_eq _ _ := rfl
  put_of _ _ _ := rfl
  remove_eq _ _ := rfl
  get_set _ _ := rfl
  set_set _ _ _ := rfl
  set_get _ := rfl

def daemonsetMap : ChildMap DaemonSet where
  kind := .daemonset
  of := .daemonset
  get := StackState.daemonsets
  set s m := { s with daemonsets := m }
  kind_of _ := rfl
  getMeta_of _ := rfl
  setMeta_of _ _ := rfl
  find_eq _ _ := rfl
  put_of _ _ _ := rfl
  remove_eq _ _ := rfl
  get_set _ _ := rfl
  set_set _ _ _ := rfl
  set_get _ := rfl

def serviceMap : ChildMap Service where
  kind := .service
  of := .service
  get := StackState.services
  set s m := { s with services := m }
  kind_of _ := rfl
  getMeta_of _ := rfl
  setMeta_of _ _ := rfl
  find_eq _ _ := rfl
  put_of _ _ _ := rfl
  remove_eq _ _ := rfl
  get_set _ _ := rfl
  set_set _ _ _ := rfl
  set_get _ := rfl

namespace ChildMap

variable {α : Type} [KubeObject α] (children : ChildMap α) (server : Server) (stack : Latest.Stack)
  (store : StackState) (x : α)

theorem nameKey_of (namespace_ : String) :
    nameKey namespace_ (children.of x) = nameKey namespace_ x := by
  rw [nameKey, children.getMeta_of, nameKey]

theorem store_of (kind : ChildKind) :
    server.store kind (children.of x) = children.of (server.store kind x) := by
  rw [Server.store, Server.store, children.getMeta_of, children.setMeta_of]

/-- To delete one object is to delete it in the map of its kind. -/
theorem perform_delete :
    perform server stack store (.delete (children.of x)) =
      ((server.rules children.kind).deleteIgnoring (nameKey stack.objectMeta.namespace_)
        (wrapUpdaterError stack children.kind "deleting") ApiError.isNotFound (children.get store)
        x).map (children.set store) := by
  unfold perform Rules.deleteIgnoring Rules.delete
  simp only [children.kind_of, children.nameKey_of, children.find_eq]
  cases (children.get store).lookup (nameKey stack.objectMeta.namespace_ x) with
  | none => exact congrArg Except.ok (children.set_get store).symm
  | some c => exact congrArg Except.ok (children.remove_eq store _)

/-- To create one likewise. -/
theorem perform_create :
    perform server stack store (.create (children.of x)) =
      (((server.rules children.kind).create (nameKey stack.objectMeta.namespace_ x) x
        (children.get store)).mapError (wrapUpdaterError stack children.kind "creating" x)).map
        (children.set store) := by
  -- the server looks at the metadata, which both views share
  have hrefuse : (server.rules children.kind).refuseCreate (children.of x) =
      (server.rules children.kind).refuseCreate x := by
    simp only [Server.rules, children.getMeta_of]
  unfold perform Rules.create wrapUpdaterError
  simp only [children.kind_of, children.nameKey_of, children.find_eq, hrefuse, children.getMeta_of]
  cases (server.rules children.kind).refuseCreate x with
  | some e => rfl
  | none =>
    cases (children.get store).lookup (nameKey stack.objectMeta.namespace_ x) with
    | some c => rfl
    | none =>
      simp only [Option.map_none, children.store_of, children.put_of]
      rfl

/-- To update one likewise. -/
theorem perform_update :
    perform server stack store (.update (children.of x)) =
      (((server.rules children.kind).update (nameKey stack.objectMeta.namespace_ x) x
        (children.get store)).mapError (wrapUpdaterError stack children.kind "patching" x)).map
        (children.set store) := by
  have hrefuse : ∀ c : α,
      (server.rules children.kind).refuseUpdate (children.of c) (children.of x) =
        (server.rules children.kind).refuseUpdate c x := by
    intro c
    simp only [Server.rules, children.getMeta_of]
  unfold perform Rules.update wrapUpdaterError
  simp only [children.kind_of, children.nameKey_of, children.find_eq, children.getMeta_of]
  cases (children.get store).lookup (nameKey stack.objectMeta.namespace_ x) with
  | none => rfl
  | some c =>
    simp only [Option.map_some, hrefuse]
    cases (server.rules children.kind).refuseUpdate c x with
    | some e => rfl
    | none =>
      simp only [children.store_of, children.put_of]
      rfl

/-- The requests for one kind do what `applyChildren` does. -/
theorem foldlM_requestsOf (changes : Changes α) :
    (requestsOf children.of changes).foldlM (perform server stack) store =
      (applyChildren server stack children.kind changes (children.get store)).map
        (children.set store) := by
  -- the three loops
  have hdelete (s : StackState) :
      (changes.toDelete.map fun x => .delete (children.of x)).foldlM (perform server stack) s =
        ((server.rules children.kind).deleteAll (nameKey stack.objectMeta.namespace_)
          (wrapUpdaterError stack children.kind "deleting") ApiError.isNotFound changes.toDelete
          (children.get s)).map (children.set s) :=
    foldlM_component children.get_set children.set_set children.set_get
      (children.perform_delete server stack) _ s
  have hcreate (s : StackState) :
      (changes.toAdd.map fun x => .create (children.of x)).foldlM (perform server stack) s =
        ((server.rules children.kind).createAll (nameKey stack.objectMeta.namespace_)
          (wrapUpdaterError stack children.kind "creating") changes.toAdd (children.get s)).map
          (children.set s) :=
    foldlM_component children.get_set children.set_set children.set_get
      (children.perform_create server stack) _ s
  have hupdate (s : StackState) :
      (changes.toUpdate.map fun x => .update (children.of x)).foldlM (perform server stack) s =
        ((server.rules children.kind).updateAll (nameKey stack.objectMeta.namespace_)
          (wrapUpdaterError stack children.kind "patching") changes.toUpdate (children.get s)).map
          (children.set s) :=
    foldlM_component children.get_set children.set_set children.set_get
      (children.perform_update server stack) _ s
  have hset (s : StackState) (m : Map α) : children.set (children.set s m) = children.set s :=
    funext (children.set_set s m)
  simp only [requestsOf, List.foldlM_append, hdelete, hcreate, hupdate, exceptMap_bind,
    bind_exceptMap, children.get_set, hset, applyChildren, Rules.apply]

end ChildMap

/-- **Applying a difference is performing its requests**, one after another. -/
theorem applyStackDiff_eq (server : Server) (stack : Latest.Stack) (d : StackStateDiff)
    (store : StackState) :
    applyStackDiff server stack d store = d.requests.foldlM (perform server stack) store := by
  -- one block of requests for each kind, each of which moves one component
  have hds (s : StackState) : (requestsOf .daemonset d.daemonsets).foldlM (perform server stack) s =
      (applyChildren server stack .daemonset d.daemonsets s.daemonsets).map
        fun daemonsets => { s with daemonsets } :=
    daemonsetMap.foldlM_requestsOf server stack s d.daemonsets
  have hdep (s : StackState) :
      (requestsOf .deployment d.deployments).foldlM (perform server stack) s =
        (applyChildren server stack .deployment d.deployments s.deployments).map
          fun deployments => { s with deployments } :=
    deploymentMap.foldlM_requestsOf server stack s d.deployments
  have hsts (s : StackState) :
      (requestsOf .statefulset d.statefulsets).foldlM (perform server stack) s =
        (applyChildren server stack .statefulset d.statefulsets s.statefulsets).map
          fun statefulsets => { s with statefulsets } :=
    statefulsetMap.foldlM_requestsOf server stack s d.statefulsets
  have hsvc (s : StackState) : (requestsOf .service d.services).foldlM (perform server stack) s =
      (applyChildren server stack .service d.services s.services).map
        fun services => { s with services } :=
    serviceMap.foldlM_requestsOf server stack s d.services
  simp only [applyStackDiff, StackStateDiff.requests, List.foldlM_append, hds, hdep, hsts, hsvc,
    exceptMap_bind, bind_pure_eq_exceptMap]

/-! ## One request -/

/-- What is at the target of a request afterwards. -/
def ChildRequest.result (server : Server) : ChildRequest → Option Resource
  | delete _ => none
  | create r => some (server.store r.kind r)
  | update r => some (server.store r.kind r)

/-- What the server adds does not change the kind. -/
theorem kind_store (server : Server) (r : Resource) : (server.store r.kind r).kind = r.kind := by
  cases r <;> rfl

/-- A result has been written, with the metadata of the request's object but for
what the server assigns. -/
theorem ChildRequest.result_eq_some {server : Server} {req : ChildRequest} {r : Resource}
    (h : req.result server = some r) :
    req.Writes ∧ r.kind = req.resource.kind ∧ ∃ resourceVersion generation,
      r.objectMeta = { req.resource.objectMeta with resourceVersion, generation } := by
  -- the server writes the version and the generation, and nothing else
  have hstore (r' : Resource) : ∃ resourceVersion generation,
      (server.store r'.kind r').objectMeta =
        { r'.objectMeta with resourceVersion, generation } :=
    ⟨_, _, KubeObject.getMeta_setMeta r' _⟩
  cases req with
  | delete r' => cases h
  | create r' =>
    obtain rfl := Option.some.inj h
    exact ⟨trivial, kind_store server r', hstore r'⟩
  | update r' =>
    obtain rfl := Option.some.inj h
    exact ⟨trivial, kind_store server r', hstore r'⟩

section Perform

variable {server : Server} {stack : Latest.Stack} {store store' : StackState}

/-- **What one request does**: its result at its target, and nothing elsewhere. -/
theorem find_perform {req : ChildRequest} (h : perform server stack store req = .ok store')
    (kind : ChildKind) (k : String) :
    store'.find kind k = if req.target stack.objectMeta.namespace_ = (kind, k) then
      req.result server else store.find kind k := by
  cases req with
  | delete r =>
    unfold perform at h
    simp only at h
    split at h
    case h_1 habsent =>
      -- what is not found counts as deleted
      obtain rfl := Except.ok.inj h
      split
      case isTrue htarget =>
        obtain ⟨rfl, rfl⟩ := Prod.mk.inj htarget
        exact habsent
      case isFalse => rfl
    case h_2 =>
      obtain rfl := Except.ok.inj h
      exact StackState.find_remove store _ kind k
  | create r =>
    unfold perform at h
    simp only at h
    split at h
    case h_1 => cases h
    case h_2 =>
      split at h
      case h_1 => cases h
      case h_2 =>
        obtain rfl := Except.ok.inj h
        rw [StackState.find_put, kind_store]
        rfl
  | update r =>
    unfold perform at h
    simp only at h
    split at h
    case h_1 => cases h
    case h_2 =>
      split at h
      case h_1 => cases h
      case h_2 =>
        obtain rfl := Except.ok.inj h
        rw [StackState.find_put, kind_store]
        rfl

/-- A creation finds nothing at its target. -/
theorem find_of_create {r : Resource} (h : perform server stack store (.create r) = .ok store') :
    store.find r.kind (nameKey stack.objectMeta.namespace_ r) = none := by
  unfold perform at h
  simp only at h
  split at h
  case h_1 => cases h
  case h_2 =>
    split at h
    case h_1 => cases h
    case h_2 habsent => exact habsent

end Perform

end ComposeKube

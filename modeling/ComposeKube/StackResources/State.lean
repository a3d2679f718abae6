import ComposeKube.Lib.Reconcile
import ComposeKube.Convert.Labels

/-!
# Stack states

`stackresources`: the children of a stack, by kind and key. `newStackState`
files a list of objects under their own keys; a later object replaces an
earlier one of the same kind and key (`newStackState_eq`).
-/

namespace ComposeKube

open Go

/-! ## Objects -/

/-- What the four kinds of children have in common: metadata that can be read
and replaced. -/
class KubeObject (α : Type) where
  getMeta : α → ObjectMeta
  setMeta : α → ObjectMeta → α
  getMeta_setMeta : ∀ (x : α) (m : ObjectMeta), getMeta (setMeta x m) = m
  setMeta_setMeta : ∀ (x : α) (m m' : ObjectMeta), setMeta (setMeta x m) m' = setMeta x m'
  setMeta_getMeta : ∀ x : α, setMeta x (getMeta x) = x

export KubeObject (getMeta setMeta)

attribute [simp] KubeObject.getMeta_setMeta KubeObject.setMeta_setMeta KubeObject.setMeta_getMeta

instance : KubeObject Deployment where
  getMeta := Deployment.objectMeta
  setMeta d m := { d with objectMeta := m }
  getMeta_setMeta _ _ := rfl
  setMeta_setMeta _ _ _ := rfl
  setMeta_getMeta _ := rfl

instance : KubeObject StatefulSet where
  getMeta := StatefulSet.objectMeta
  setMeta s m := { s with objectMeta := m }
  getMeta_setMeta _ _ := rfl
  setMeta_setMeta _ _ _ := rfl
  setMeta_getMeta _ := rfl

instance : KubeObject DaemonSet where
  getMeta := DaemonSet.objectMeta
  setMeta d m := { d with objectMeta := m }
  getMeta_setMeta _ _ := rfl
  setMeta_setMeta _ _ _ := rfl
  setMeta_getMeta _ := rfl

instance : KubeObject Service where
  getMeta := Service.objectMeta
  setMeta s m := { s with objectMeta := m }
  getMeta_setMeta _ _ := rfl
  setMeta_setMeta _ _ _ := rfl
  setMeta_getMeta _ := rfl

/-- The key under which an object is filed. -/
def keyOf {α : Type} [KubeObject α] (x : α) : String :=
  objKey (getMeta x).namespace_ (getMeta x).name

/-- The key of an object by its name, in a given namespace. -/
def nameKey {α : Type} [KubeObject α] (namespace_ : String) (x : α) : String :=
  objKey namespace_ (getMeta x).name

/-! ## States -/

/-- `StackState`. -/
structure StackState where
  deployments : Map Deployment
  statefulsets : Map StatefulSet
  daemonsets : Map DaemonSet
  services : Map Service
  deriving DecidableEq

/-- `EmptyStackState`. -/
def emptyStackState : StackState :=
  { deployments := ∅, statefulsets := ∅, daemonsets := ∅, services := ∅ }

instance : Inhabited StackState := ⟨emptyStackState⟩

/-- The kinds of children. -/
inductive ChildKind where
  | deployment
  | statefulset
  | daemonset
  | service
  deriving DecidableEq

/-- A generated object; the `interface{}` of the source, whose other types
`NewStackState` rejects. -/
inductive Resource where
  | deployment (d : Deployment)
  | statefulset (s : StatefulSet)
  | daemonset (d : DaemonSet)
  | service (s : Service)
  deriving DecidableEq

namespace Resource

def objectMeta : Resource → ObjectMeta
  | deployment d => d.objectMeta
  | statefulset s => s.objectMeta
  | daemonset d => d.objectMeta
  | service s => s.objectMeta

/-- The kind of an object, and the key under which it is filed. -/
def kindKey : Resource → ChildKind × String
  | deployment d => (.deployment, keyOf d)
  | statefulset s => (.statefulset, keyOf s)
  | daemonset d => (.daemonset, keyOf d)
  | service s => (.service, keyOf s)

def asDeployment : Resource → Option Deployment
  | deployment d => some d
  | _ => none

def asStatefulset : Resource → Option StatefulSet
  | statefulset s => some s
  | _ => none

def asDaemonset : Resource → Option DaemonSet
  | daemonset d => some d
  | _ => none

def asService : Resource → Option Service
  | service s => some s
  | _ => none

end Resource

/-- One step of the loop of `NewStackState`. -/
def StackState.add (result : StackState) : Resource → StackState
  | .deployment r => { result with deployments := result.deployments.insert (keyOf r) r }
  | .statefulset r => { result with statefulsets := result.statefulsets.insert (keyOf r) r }
  | .daemonset r => { result with daemonsets := result.daemonsets.insert (keyOf r) r }
  | .service r => { result with services := result.services.insert (keyOf r) r }

/-- `NewStackState`. -/
def newStackState (objects : List Resource) : StackState :=
  objects.foldl StackState.add emptyStackState

/-! ## What a state holds -/

/-- A list of objects of one kind, filed under their keys. -/
def byKey {α : Type} [KubeObject α] (objects : List α) : Map α := fileBy keyOf objects

/-- The maps of a state are filled independently of each other. -/
theorem foldl_add (objects : List Resource) (state : StackState) :
    objects.foldl StackState.add state =
      { deployments := (objects.filterMap Resource.asDeployment).foldl
          (fun m x => m.insert (keyOf x) x) state.deployments
        statefulsets := (objects.filterMap Resource.asStatefulset).foldl
          (fun m x => m.insert (keyOf x) x) state.statefulsets
        daemonsets := (objects.filterMap Resource.asDaemonset).foldl
          (fun m x => m.insert (keyOf x) x) state.daemonsets
        services := (objects.filterMap Resource.asService).foldl
          (fun m x => m.insert (keyOf x) x) state.services } := by
  induction objects generalizing state with
  | nil => rfl
  | cons r rest ih =>
    rw [List.foldl_cons, ih]
    cases r <;> rfl

theorem newStackState_eq (objects : List Resource) :
    newStackState objects =
      { deployments := byKey (objects.filterMap Resource.asDeployment)
        statefulsets := byKey (objects.filterMap Resource.asStatefulset)
        daemonsets := byKey (objects.filterMap Resource.asDaemonset)
        services := byKey (objects.filterMap Resource.asService) } :=
  foldl_add objects emptyStackState

/-! ## Well-kept maps -/

/-- A map of objects of one namespace, each under its own key. -/
def Keyed {α : Type} [KubeObject α] (namespace_ : String) (m : Map α) : Prop :=
  ∀ k x, m.lookup k = some x → (getMeta x).namespace_ = namespace_ ∧ keyOf x = k

/-- A state of objects of one namespace, each under its own key. -/
structure StackState.Keyed (namespace_ : String) (state : StackState) : Prop where
  deployments : ComposeKube.Keyed namespace_ state.deployments
  statefulsets : ComposeKube.Keyed namespace_ state.statefulsets
  daemonsets : ComposeKube.Keyed namespace_ state.daemonsets
  services : ComposeKube.Keyed namespace_ state.services

/-- The objects of such a map are found under their names. -/
theorem Keyed.filedBy {α : Type} [KubeObject α] {namespace_ : String} {m : Map α}
    (h : Keyed namespace_ m) : FiledBy (nameKey namespace_) m := by
  intro k x hx
  obtain ⟨hns, hkey⟩ := h k x hx
  rw [← hkey, keyOf, hns, nameKey]

/-- The objects of such a map are under their keys. -/
theorem Keyed.filedByKey {α : Type} [KubeObject α] {namespace_ : String} {m : Map α}
    (h : Keyed namespace_ m) : FiledBy keyOf m := fun k x hx => (h k x hx).2

theorem keyed_empty {α : Type} [KubeObject α] (namespace_ : String) :
    Keyed namespace_ (∅ : Map α) := by
  intro k x hx
  simp at hx

theorem emptyStackState_keyed (namespace_ : String) : emptyStackState.Keyed namespace_ where
  deployments := keyed_empty namespace_
  statefulsets := keyed_empty namespace_
  daemonsets := keyed_empty namespace_
  services := keyed_empty namespace_

/-- Filing objects of one namespace under their keys keeps the map well. -/
theorem byKey_keyed {α : Type} [KubeObject α] {namespace_ : String} {objects : List α}
    (h : ∀ x ∈ objects, (getMeta x).namespace_ = namespace_) :
    Keyed namespace_ (byKey objects) := by
  intro k x hx
  rw [byKey, lookup_fileBy] at hx
  obtain ⟨hmem, hkey⟩ := lastWith_eq_some hx
  exact ⟨h x hmem, hkey⟩

/-! ## Objects of any kind -/

namespace StackState

/-- What a state holds of a kind under a key. -/
def find (state : StackState) : ChildKind → String → Option Resource
  | .deployment, k => (state.deployments.lookup k).map .deployment
  | .statefulset, k => (state.statefulsets.lookup k).map .statefulset
  | .daemonset, k => (state.daemonsets.lookup k).map .daemonset
  | .service, k => (state.services.lookup k).map .service

/-- A state without what it holds of a kind under a key. -/
def remove (state : StackState) : ChildKind × String → StackState
  | (.deployment, k) => { state with deployments := state.deployments.erase k }
  | (.statefulset, k) => { state with statefulsets := state.statefulsets.erase k }
  | (.daemonset, k) => { state with daemonsets := state.daemonsets.erase k }
  | (.service, k) => { state with services := state.services.erase k }

/-- Every object is under its own kind and key. -/
def Filed (state : StackState) : Prop :=
  ∀ kind k r, state.find kind k = some r → r.kindKey = (kind, k)

/-- Kind by kind. -/
theorem Filed.maps {state : StackState} (h : state.Filed) :
    FiledBy keyOf state.deployments ∧ FiledBy keyOf state.statefulsets ∧
      FiledBy keyOf state.daemonsets ∧ FiledBy keyOf state.services := by
  refine ⟨fun k x hx => ?_, fun k x hx => ?_, fun k x hx => ?_, fun k x hx => ?_⟩
  · exact congrArg Prod.snd (h .deployment k _ (congrArg (Option.map Resource.deployment) hx))
  · exact congrArg Prod.snd (h .statefulset k _ (congrArg (Option.map Resource.statefulset) hx))
  · exact congrArg Prod.snd (h .daemonset k _ (congrArg (Option.map Resource.daemonset) hx))
  · exact congrArg Prod.snd (h .service k _ (congrArg (Option.map Resource.service) hx))

theorem Keyed.filed {namespace_ : String} {state : StackState} (h : state.Keyed namespace_) :
    state.Filed := by
  intro kind k r hr
  cases kind <;> obtain ⟨x, hx, rfl⟩ := Option.map_eq_some_iff.mp hr
  · exact congrArg (Prod.mk _) (h.deployments k x hx).2
  · exact congrArg (Prod.mk _) (h.statefulsets k x hx).2
  · exact congrArg (Prod.mk _) (h.daemonsets k x hx).2
  · exact congrArg (Prod.mk _) (h.services k x hx).2

/-- A state is what it holds. -/
theorem ext_find {state state' : StackState}
    (h : ∀ kind k, state.find kind k = state'.find kind k) : state = state' := by
  have inj {α : Type} {of : α → Resource} (hof : Function.Injective of) {m m' : Map α}
      (hm : ∀ k, (m.lookup k).map of = (m'.lookup k).map of) : m = m' :=
    Finmap.ext_lookup fun k => Option.map_injective hof (hm k)
  have hdep := inj (fun _ _ => Resource.deployment.inj) (h .deployment)
  have hsts := inj (fun _ _ => Resource.statefulset.inj) (h .statefulset)
  have hds := inj (fun _ _ => Resource.daemonset.inj) (h .daemonset)
  have hsvc := inj (fun _ _ => Resource.service.inj) (h .service)
  obtain ⟨deployments, statefulsets, daemonsets, services⟩ := state
  obtain ⟨deployments', statefulsets', daemonsets', services'⟩ := state'
  obtain rfl : deployments = deployments' := hdep
  obtain rfl : statefulsets = statefulsets' := hsts
  obtain rfl : daemonsets = daemonsets' := hds
  obtain rfl : services = services' := hsvc
  rfl

/-- What a new object changes. -/
theorem find_add (state : StackState) (r : Resource) (kind : ChildKind) (k : String) :
    (state.add r).find kind k = if r.kindKey = (kind, k) then some r else state.find kind k := by
  cases r <;> cases kind <;>
    simp only [add, find, Resource.kindKey, Prod.mk.injEq, reduceCtorEq, false_and, if_false,
      true_and]
  all_goals
    split
    case isTrue hk => rw [hk, Finmap.lookup_insert]; rfl
    case isFalse hk => rw [Finmap.lookup_insert_of_ne _ (Ne.symm hk)]

/-- What a removal changes. -/
theorem find_remove (state : StackState) (at_ : ChildKind × String) (kind : ChildKind)
    (k : String) :
    (state.remove at_).find kind k = if at_ = (kind, k) then none else state.find kind k := by
  obtain ⟨kind', k'⟩ := at_
  cases kind' <;> cases kind <;>
    simp only [remove, find, Prod.mk.injEq, reduceCtorEq, false_and, if_false, true_and]
  all_goals
    split
    case isTrue hk => rw [hk, Finmap.lookup_erase]; rfl
    case isFalse hk => rw [Finmap.lookup_erase_ne (Ne.symm hk)]

theorem Filed.add {state : StackState} (h : state.Filed) (obj : Resource) :
    (state.add obj).Filed := by
  intro kind k r hr
  rw [find_add] at hr
  split at hr
  case isTrue hk => rw [← Option.some.inj hr, hk]
  case isFalse => exact h kind k r hr

theorem Filed.remove {state : StackState} (h : state.Filed)
    (at_ : ChildKind × String) : (state.remove at_).Filed := by
  intro kind k r hr
  rw [find_remove] at hr
  split at hr
  case isTrue => cases hr
  case isFalse => exact h kind k r hr

/-- A state of filed objects has the kinds and keys of the objects. -/
theorem isSome_find_foldl_add (rs : List Resource) (state : StackState) (kind : ChildKind)
    (k : String) :
    ((rs.foldl add state).find kind k).isSome ↔
      (kind, k) ∈ rs.map Resource.kindKey ∨ (state.find kind k).isSome := by
  induction rs generalizing state with
  | nil => simp
  | cons r rest ih =>
    rw [List.foldl_cons, ih, find_add, List.map_cons, List.mem_cons]
    by_cases hr : r.kindKey = (kind, k)
    · simp [hr]
    · simp [hr, Ne.symm hr]

/-- A new state has the keys of its objects. -/
theorem isSome_find_newStackState (rs : List Resource) (kind : ChildKind) (k : String) :
    ((newStackState rs).find kind k).isSome ↔ (kind, k) ∈ rs.map Resource.kindKey := by
  have hempty : (emptyStackState.find kind k).isSome = false := by cases kind <;> rfl
  rw [newStackState, isSome_find_foldl_add, hempty]
  simp

/-- Objects are filed under their own kinds and keys. -/
theorem newStackState_filed (rs : List Resource) : (newStackState rs).Filed := by
  have hfold : ∀ (rs : List Resource) {state : StackState}, state.Filed →
      (rs.foldl add state).Filed := by
    intro rs
    induction rs with
    | nil => exact fun h => h
    | cons r rest ih => exact fun h => ih (h.add r)
  exact hfold rs (emptyStackState_keyed "").filed

end StackState

/-! ## Comparing states -/

/-- The two states hold objects with the same specs and labels under the same keys. -/
structure StackState.SameSpecs (D D' : StackState) : Prop where
  deployments : ∀ k, (D.deployments.lookup k).map (fun x => (x.spec, x.objectMeta.labels)) =
    (D'.deployments.lookup k).map fun x => (x.spec, x.objectMeta.labels)
  statefulsets : ∀ k, (D.statefulsets.lookup k).map (fun x => (x.spec, x.objectMeta.labels)) =
    (D'.statefulsets.lookup k).map fun x => (x.spec, x.objectMeta.labels)
  daemonsets : ∀ k, (D.daemonsets.lookup k).map (fun x => (x.spec, x.objectMeta.labels)) =
    (D'.daemonsets.lookup k).map fun x => (x.spec, x.objectMeta.labels)
  services : ∀ k, (D.services.lookup k).map (fun x => (x.spec, x.objectMeta.labels)) =
    (D'.services.lookup k).map fun x => (x.spec, x.objectMeta.labels)

theorem StackState.SameSpecs.refl (D : StackState) : D.SameSpecs D where
  deployments _ := rfl
  statefulsets _ := rfl
  daemonsets _ := rfl
  services _ := rfl

end ComposeKube

import ComposeKube.Lib.Client
import ComposeKube.Lib.Collection
import ComposeKube.Registry.Validate
import ComposeKube.Install.Uninstall

/-!
# The cluster that is installed to

The installer is a client of the API server. Here are the objects that it reads and
writes, the requests that it sends, and what the API server does with them.

`perform` is an API server that does what it is asked to, at once. The real one is shared
and far away (`Serves`): others write between two requests, a request may fail, the answer
to one that has been performed may be lost, an object that is deleted may stay for some
time, and a list may come in pages. An error that says that an object is not there, or is
there already, is true.

* `effect_of_serves` — what an answer can mean for the cluster.
* `find_of_effect`, `created_of_effect` — what a request leaves alone, and what is new.
-/

namespace ComposeKube.Install

open Go Client

/-! ## Objects -/

inductive Kind where
  | namespace_
  | secret
  | serviceAccount
  | service
  | deployment
  | clusterRole
  | clusterRoleBinding
  | roleBinding
  | apiService
  | customResourceDefinition
  | stack
  | stackBackup
  deriving DecidableEq

/-- Where an object is found; cluster-wide objects have no namespace. -/
structure Key where
  kind : Kind
  namespace_ : String
  name : String
  deriving DecidableEq

structure PolicyRule where
  apiGroups : List String
  resources : List String
  resourceNames : List String
  verbs : List String
  deriving DecidableEq

structure RoleRef where
  apiGroup : String
  kind : String
  name : String
  deriving DecidableEq

structure Subject where
  kind : String
  name : String
  namespace_ : String
  deriving DecidableEq

/-- A probe with an `httpGet` handler. -/
structure Probe where
  path : String
  port : IntOrString
  scheme : String
  initialDelaySeconds : Int32
  timeoutSeconds : Int32
  failureThreshold : Int32
  deriving DecidableEq

structure ContainerPort where
  name : String
  containerPort : Int32
  deriving DecidableEq

structure Container where
  name : String
  image : String
  imagePullPolicy : PullPolicy
  args : List String
  env : Slice EnvVar
  ports : Slice ContainerPort
  volumeMounts : Slice VolumeMount
  livenessProbe : Option Probe
  /-- `SecurityContext.Privileged` -/
  privileged : Option Bool
  deriving DecidableEq

structure PodSpec where
  serviceAccountName : String
  imagePullSecrets : Slice LocalObjectReference
  containers : List Container
  volumes : Slice Volume
  affinity : Option Affinity
  hostNetwork : Bool
  deriving DecidableEq

structure DeploymentSpec where
  matchLabels : MapRef String
  templateLabels : MapRef String
  templateAnnotations : MapRef String
  podSpec : PodSpec
  replicas : Option Int32
  deriving DecidableEq

structure CustomResourceDefinitionSpec where
  group : String
  version : String
  plural : String
  singular : String
  kind : String
  listKind : String
  scope : String
  deriving DecidableEq

/-- What an object holds beside its metadata. A stack and a backup of a stack differ by
their API version and their kind. -/
inductive Content where
  | namespace_
  | secret (data : MapRef Bytes) (type : String)
  | serviceAccount
  | service (spec : ServiceSpec)
  | deployment (spec : DeploymentSpec)
  | clusterRole (rules : List PolicyRule)
  | clusterRoleBinding (roleRef : RoleRef) (subjects : List Subject)
  | roleBinding (roleRef : RoleRef) (subjects : List Subject)
  | apiService
  | customResourceDefinition (spec : CustomResourceDefinitionSpec)
  | stack (spec : V1beta1.StackSpec) (status : Latest.StackStatus)
  | stackBackup (spec : V1beta1.StackSpec) (status : Latest.StackStatus)
  deriving DecidableEq

def Content.kind : Content → Kind
  | namespace_ => .namespace_
  | secret _ _ => .secret
  | serviceAccount => .serviceAccount
  | service _ => .service
  | deployment _ => .deployment
  | clusterRole _ => .clusterRole
  | clusterRoleBinding _ _ => .clusterRoleBinding
  | roleBinding _ _ => .roleBinding
  | apiService => .apiService
  | customResourceDefinition _ => .customResourceDefinition
  | stack _ _ => .stack
  | stackBackup _ _ => .stackBackup

structure Object where
  objectMeta : ObjectMeta
  content : Content
  deriving DecidableEq

namespace Object

def key (o : Object) : Key := ⟨o.content.kind, o.objectMeta.namespace_, o.objectMeta.name⟩

/-- Where the object goes that is written to a namespace. -/
abbrev keyIn (o : Object) (ns : String) : Key := ⟨o.content.kind, ns, o.objectMeta.name⟩

/-- `everythingSelector`. -/
def selected (o : Object) : Bool :=
  o.objectMeta.labels.get? fryKey = some composeFry ||
    o.objectMeta.labels.get? fryKey = some composeAPIServerFry

/-- An object that is written to a namespace gets a new version, and is not being
deleted. -/
def stored (o : Object) (ns : String) (version : Nat) : Object :=
  { o with objectMeta := { o.objectMeta with
      namespace_ := ns
      resourceVersion := toString version
      deletionTimestamp := none } }

/-- An object that is written over another one is being deleted when that one is. -/
def storedOver (o : Object) (ns : String) (version : Nat) (current : Object) : Object :=
  let o' := o.stored ns version
  { o' with objectMeta := { o'.objectMeta with
      deletionTimestamp := current.objectMeta.deletionTimestamp } }

/-- It is going to be deleted. -/
def marked (o : Object) : Object :=
  { o with objectMeta := { o.objectMeta with deletionTimestamp := some "now" } }

/-- To replace an object keeps the keys. -/
theorem key_replaced (o x : Object) : (if x.key = o.key then o else x).key = x.key := by
  split
  · next h => exact h.symm
  · rfl

/-- To mark an object keeps the keys. -/
theorem key_marked (going : Object → Bool) (o : Object) :
    (if going o then o.marked else o).key = o.key := by
  split
  · rfl
  · rfl

end Object

/-! ## The cluster -/

/-- The objects, the number of writes so far, and the groups of APIs that are served. -/
structure Cluster where
  objects : Collection Object.key
  version : Nat
  groups : List String

namespace Cluster

variable (c : Cluster)

def find (key : Key) : Option Object := c.objects.find key

/-- A new object. -/
def insert (o : Object) (h : c.find o.key = none) : Cluster :=
  { c with objects := c.objects.insert o h, version := c.version + 1 }

/-- The object under this key is replaced. -/
def replace (o : Object) : Cluster where
  objects := c.objects.modify (fun x => if x.key = o.key then o else x) o.key_replaced
  version := c.version + 1
  groups := c.groups

/-- The objects for which this holds are gone. -/
def removeWhere (gone : Object → Bool) : Cluster :=
  { c with objects := c.objects.removeWhere gone, version := c.version + 1 }

/-- The objects for which this holds are going to be deleted. -/
def markWhere (going : Object → Bool) : Cluster where
  objects := c.objects.modify (fun o => if going o then o.marked else o) (Object.key_marked going)
  version := c.version + 1
  groups := c.groups

variable {c} {key : Key}

/-- What an insertion changes, key by key. -/
theorem find_insert {o : Object} (h : c.find o.key = none) :
    (c.insert o h).find key = if o.key = key then some o else c.find key :=
  Collection.find_insert h

/-- What a replacement changes. -/
theorem find_replace {o : Object} : (c.replace o).find key =
    (c.find key).map fun x => if x.key = o.key then o else x :=
  Collection.find_modify o.key_replaced

/-- What a removal leaves. -/
theorem find_removeWhere {gone : Object → Bool} :
    (c.removeWhere gone).find key = (c.find key).filter fun o => !gone o :=
  Collection.find_removeWhere

/-- What a mark changes. -/
theorem find_markWhere {going : Object → Bool} :
    (c.markWhere going).find key = (c.find key).map fun o => if going o then o.marked else o :=
  Collection.find_modify (Object.key_marked going)

/-- An object that is not removed is found as before. -/
theorem find_removeWhere_of_not {gone : Object → Bool} {o : Object} (ho : c.find key = some o)
    (h : gone o = false) : (c.removeWhere gone).find key = some o := by
  rw [find_removeWhere, ho, Option.filter_some, h]
  rfl

/-- An object that is not marked is found as before. -/
theorem find_markWhere_of_not {going : Object → Bool} {o : Object} (ho : c.find key = some o)
    (h : going o = false) : (c.markWhere going).find key = some o := by
  rw [find_markWhere, ho, Option.map_some, h]
  rfl

end Cluster

/-! ## Requests -/

/-- What `apierrors` says of an error. -/
inductive Reason where
  | notFound
  | alreadyExists
  | unknown
  deriving DecidableEq

structure Err where
  reason : Reason
  message : String
  deriving DecidableEq

/-- `errors.New`. -/
def Err.new (message : String) : Err := ⟨.unknown, message⟩

/-- `errors.Wrap`, which hides the reason. -/
def Err.wrap (err : Err) (message : String) : Err := .new (message ++ ": " ++ err.message)

/-- `apierrors.IsNotFound`. -/
def Err.isNotFound (err : Err) : Bool := err.reason = .notFound

/-- `apierrors.IsAlreadyExists`. -/
def Err.isAlreadyExists (err : Err) : Bool := err.reason = .alreadyExists

/-- One page of a list. The token to continue with stands for what is left of the list;
it is empty at the end. -/
structure Page where
  items : List Object
  continue_ : List Object

inductive Request where
  /-- a client set is made -/
  | newForConfig
  /-- `ServerVersion`, and what `checkVersion` says of it -/
  | serverVersion
  | get (key : Key)
  /-- a new object, for a namespace and as a user -/
  | create (user : String) (ns : String) (o : Object)
  | update (ns : String) (o : Object)
  /-- a `PUT` to the collection -/
  | putCollection (ns : String) (o : Object)
  | delete (key : Key)
  /-- `DeleteCollection` with `listOptions` -/
  | deleteCollection (kind : Kind) (ns : String)
  /-- a list, of all namespaces or of one, with `listOptions` or without a selector -/
  | list (kind : Kind) (ns : Option String) (selected : Bool) (continue_ : List Object)
  | waitForUninstallCompletion (ns : String) (skipCRD : Bool)
  /-- the names of the groups that are served -/
  | serverGroups
  /-- a list of the stacks of one namespace in one version of the API -/
  | listVersion (version : String) (ns : String)
  /-- the reads of `ValidateCollisions` -/
  | childLabels

/-- What a request returns when it is performed. An object that is read is the one that
was asked for. -/
def Request.Result : Request → Type
  | get key => { o : Object // o.key = key }
  | create _ _ _ => Object
  | list _ _ _ _ => Page
  | serverGroups => List String
  | childLabels => LabelsOf
  | _ => Unit

abbrev Answer (r : Request) := Except Err r.Result

/-- The kind of the objects that a custom resource definition is for. -/
def instancesOf (key : Key) : Option Kind :=
  if key = ⟨.customResourceDefinition, "", "stacks.compose.docker.com"⟩ then some .stack
  else if key = ⟨.customResourceDefinition, "", "stackbackups.composebackup.docker.com"⟩ then
    some .stackBackup
  else none

/-- What is deleted with an object: a definition takes its objects with it. -/
def deletedWith (key : Key) (o : Object) : Bool :=
  o.key = key || instancesOf key = some o.content.kind

/-- What `DeleteCollection` deletes. -/
def inCollection (kind : Kind) (ns : String) (o : Object) : Bool :=
  o.content.kind = kind && o.objectMeta.namespace_ = ns && o.selected

/-- What a list is about. -/
def listed (kind : Kind) (ns : Option String) (selected : Bool) (o : Object) : Bool :=
  o.content.kind = kind && (ns = none || ns = some o.objectMeta.namespace_) &&
    (!selected || o.selected)

/-- The kind behind a list of a waiter. -/
def listedKind : ListedResource → Kind
  | .deployments => .deployment
  | .clusterRoleBindings => .clusterRoleBinding
  | .clusterRoles => .clusterRole
  | .roleBindings => .roleBinding
  | .apiServices => .apiService
  | .secrets => .secret
  | .services => .service
  | .serviceAccounts => .serviceAccount
  | .customResourceDefinitions => .customResourceDefinition

/-- The cluster as the waiters see it, while nothing changes. -/
def Cluster.uninstallEnv (c : Cluster) : UninstallEnv where
  newForConfig _ := none
  list _ request := .ok ((c.objects.items.filter (listed (listedKind request.resource)
    request.namespace_ (request.labelSelector = everythingSelector))).map
      fun o => ⟨o.objectMeta.labels⟩)
  expiry := none

def WaitError.err : WaitError → Err
  | .deadlineExceeded => .new "context deadline exceeded"
  | .client err => ⟨if err.notFound then .notFound else .unknown, err.message⟩

/-- The labels of the services and deployments that are there. The cluster has no stateful
sets and daemon sets. -/
def Cluster.childLabels (c : Cluster) : LabelsOf := fun kind ns name =>
  match kind with
  | .service => (c.find ⟨.service, ns, name⟩).map (·.objectMeta.labels)
  | .deployment => (c.find ⟨.deployment, ns, name⟩).map (·.objectMeta.labels)
  | _ => none

/-- An object that says which namespace it is for cannot be written to another one. -/
def Object.fits (o : Object) (ns : String) : Bool :=
  o.objectMeta.namespace_ = "" || o.objectMeta.namespace_ = ns

namespace Cluster

def get (c : Cluster) (key : Key) : Except Err { o : Object // o.key = key } :=
  match h : c.find key with
  | some o => .ok ⟨o, Collection.find_key h⟩
  | none => .error ⟨.notFound, "not found"⟩

def create (c : Cluster) (ns : String) (o : Object) : Except Err Object × Cluster :=
  if !o.fits ns || o.objectMeta.name = "" || o.objectMeta.resourceVersion ≠ "" then
    (.error (.new "invalid"), c)
  else if h : c.find (o.stored ns (c.version + 1)).key = none then
    (.ok (o.stored ns (c.version + 1)), c.insert _ h)
  else (.error ⟨.alreadyExists, "already exists"⟩, c)

/-- An update is refused when it was made from another version of the object. -/
def update (c : Cluster) (ns : String) (o : Object) : Except Err Unit × Cluster :=
  if !o.fits ns || o.objectMeta.name = "" then (.error (.new "invalid"), c)
  else
    match c.find (o.keyIn ns) with
    | none => (.error ⟨.notFound, "not found"⟩, c)
    | some current =>
      if o.objectMeta.resourceVersion = "" ∨
          o.objectMeta.resourceVersion = current.objectMeta.resourceVersion then
        (.ok (), c.replace (o.storedOver ns (c.version + 1) current))
      else (.error (.new "conflict"), c)

def delete (c : Cluster) (key : Key) : Except Err Unit × Cluster :=
  match c.find key with
  | none => (.error ⟨.notFound, "not found"⟩, c)
  | some _ => (.ok (), c.removeWhere (deletedWith key))

end Cluster

/-- The API server does what it is asked to; `none` when it never answers. -/
def perform (c : Cluster) : (r : Request) → Option (Answer r × Cluster)
  | .newForConfig => some (.ok (), c)
  | .serverVersion => some (.ok (), c)
  | .get key => some (c.get key, c)
  | .create _ ns o => some (c.create ns o)
  | .update ns o => some (c.update ns o)
  -- the update of a collection, which no server offers
  | .putCollection _ _ => some (.error (.new "method not allowed"), c)
  | .delete key => some (c.delete key)
  | .deleteCollection kind ns => some (.ok (), c.removeWhere (inCollection kind ns))
  | .list kind ns selected token =>
    -- in one page
    let items := if token.isEmpty then c.objects.items.filter (listed kind ns selected) else token
    some (.ok ⟨items, []⟩, c)
  | .waitForUninstallCompletion ns skipCRD =>
    (ComposeKube.waitForUninstallCompletion c.uninstallEnv ns skipCRD 1).map fun runs =>
      (runs.2.mapError WaitError.err, c)
  | .serverGroups => some (.ok c.groups, c)
  | .listVersion _ _ => some (.ok (), c)
  | .childLabels => some (.ok c.childLabels, c)

/-! ## A server that is shared and may fail -/

/-- An error that says what is there is right. -/
def Truthful (c : Cluster) : Request → Err → Prop
  | .get key, err => err.isNotFound = true → c.find key = none
  | .delete key, err => err.isNotFound = true → c.find key = none
  | .create _ ns o, err => err.isAlreadyExists = true →
      c.find (o.keyIn ns) ≠ none
  | _, _ => True

/-- The answers of the API server, and the cluster after them. What others do in the
meantime is `env`. -/
inductive Serves (env : Cluster → Cluster → Prop) :
    Cluster → (r : Request) → Answer r → Cluster → Prop
  | performed {c c₁ c' : Cluster} {r : Request} {ans : Answer r} (henv : env c c₁)
      (h : perform c₁ r = some (ans, c')) : Serves env c r ans c'
  | failed {c c₁ : Cluster} {r : Request} {err : Err} (henv : env c c₁)
      (htrue : Truthful c₁ r err) : Serves env c r (.error err) c₁
  /-- The request is performed, and the answer is lost. -/
  | lost {c c₁ c' : Cluster} {r : Request} {ans : Answer r} {err : Err} (henv : env c c₁)
      (h : perform c₁ r = some (ans, c')) (herr : err.reason = .unknown) :
      Serves env c r (.error err) c'
  /-- The object is there until it has been finalized. -/
  | marked {c c₁ : Cluster} {key : Key} (henv : env c c₁) (h : c₁.find key ≠ none) :
      Serves env c (.delete key) (.ok ()) (c₁.markWhere (deletedWith key))
  | markedCollection {c c₁ : Cluster} {kind : Kind} {ns : String} (henv : env c c₁) :
      Serves env c (.deleteCollection kind ns) (.ok ()) (c₁.markWhere (inCollection kind ns))
  /-- A list in any order. A list of stacks may come in pages. -/
  | page {c c₁ : Cluster} {kind : Kind} {ns : Option String} {selected : Bool}
      {token items rest : List Object} (henv : env c c₁)
      (hpages : rest = [] ∨ kind = .stack ∨ kind = .stackBackup)
      (h : (items ++ rest).Perm
        (if token.isEmpty then c₁.objects.items.filter (listed kind ns selected) else token)) :
      Serves env c (.list kind ns selected token) (.ok ⟨items, rest⟩) c₁
  /-- The children of stacks are written by others, and a read that fails finds nothing. -/
  | children {c c₁ : Cluster} {labelsOf : LabelsOf} (henv : env c c₁) :
      Serves env c .childLabels (.ok labelsOf) c₁

/-- What a request can do to the cluster, whatever is answered. -/
inductive Effect : Request → Cluster → Cluster → Prop
  -- a request that reads or is refused
  | nothing {r : Request} {c : Cluster} : Effect r c c
  | created {user ns : String} {o : Object} {c : Cluster}
      (h : c.find (o.stored ns (c.version + 1)).key = none) :
      Effect (.create user ns o) c (c.insert (o.stored ns (c.version + 1)) h)
  | updated {ns : String} {o current : Object} {c : Cluster}
      (h : c.find (o.keyIn ns) = some current) :
      Effect (.update ns o) c (c.replace (o.storedOver ns (c.version + 1) current))
  -- with the definition go the objects that it defines
  | deleted {key : Key} {c : Cluster} :
      Effect (.delete key) c (c.removeWhere (deletedWith key))
  | deletedCollection {kind : Kind} {ns : String} {c : Cluster} :
      Effect (.deleteCollection kind ns) c (c.removeWhere (inCollection kind ns))
  -- finalizers keep the object for the time being
  | marked {key : Key} {c : Cluster} : Effect (.delete key) c (c.markWhere (deletedWith key))
  | markedCollection {kind : Kind} {ns : String} {c : Cluster} :
      Effect (.deleteCollection kind ns) c (c.markWhere (inCollection kind ns))

section Effects

variable {env : Cluster → Cluster → Prop} {c c' : Cluster} {r : Request} {ans : Answer r}

/-- A creation inserts the object or does nothing. -/
theorem effect_of_create (user ns : String) (o : Object) :
    Effect (.create user ns o) c (c.create ns o).2 := by
  unfold Cluster.create
  split
  · exact .nothing
  · split
    · next h => exact .created h
    · exact .nothing

/-- An update replaces the object or does nothing. -/
theorem effect_of_update (ns : String) (o : Object) :
    Effect (.update ns o) c (c.update ns o).2 := by
  unfold Cluster.update
  split
  · exact .nothing
  · split
    · exact .nothing
    · -- the object is there, and its version decides
      next hcurrent =>
      split
      · exact .updated hcurrent
      · exact .nothing

/-- A deletion removes the object, with what hangs on it, or does nothing. -/
theorem effect_of_delete (key : Key) : Effect (.delete key) c (c.delete key).2 := by
  unfold Cluster.delete
  split
  · exact .nothing
  · exact .deleted

/-- **What a request does to a cluster that serves it at once.** -/
theorem effect_of_perform (h : perform c r = some (ans, c')) : Effect r c c' := by
  cases r with
  | create user ns o =>
    have hc' : (c.create ns o).2 = c' := congrArg Prod.snd (Option.some.inj h)
    exact hc' ▸ effect_of_create user ns o
  | update ns o =>
    have hc' : (c.update ns o).2 = c' := congrArg Prod.snd (Option.some.inj h)
    exact hc' ▸ effect_of_update ns o
  | delete key =>
    have hc' : (c.delete key).2 = c' := congrArg Prod.snd (Option.some.inj h)
    exact hc' ▸ effect_of_delete key
  | deleteCollection kind ns =>
    cases h
    exact .deletedCollection
  -- the wait reads, for as long as it takes
  | waitForUninstallCompletion ns skipCRD =>
    obtain ⟨runs, -, hruns⟩ := Option.map_eq_some_iff.mp h
    cases hruns
    exact .nothing
  | _ =>
    cases h
    exact .nothing

/-- **What an answer can mean**: first others write, and then the request has its
effect. -/
theorem effect_of_serves (h : Serves env c r ans c') : ∃ c₁, env c c₁ ∧ Effect r c₁ c' := by
  cases h with
  | performed henv h => exact ⟨_, henv, effect_of_perform h⟩
  | failed henv _ => exact ⟨_, henv, .nothing⟩
  -- the answer was lost, not the effect
  | lost henv h _ => exact ⟨_, henv, effect_of_perform h⟩
  | marked henv _ => exact ⟨_, henv, .marked⟩
  | markedCollection henv => exact ⟨_, henv, .markedCollection⟩
  | page henv _ _ => exact ⟨_, henv, .nothing⟩
  | children henv => exact ⟨_, henv, .nothing⟩

/-- A request leaves an object alone that is there. -/
def Request.Leaves (o : Object) : Request → Prop
  | update ns x => x.keyIn ns ≠ o.key
  | delete key => deletedWith key o = false
  | deleteCollection kind ns => inCollection kind ns o = false
  | _ => True

/-- A request that changes nothing. -/
def Request.Reads : Request → Prop
  | create _ _ _ => False
  | update _ _ => False
  | putCollection _ _ => False
  | delete _ => False
  | deleteCollection _ _ => False
  | _ => True

/-- A request that changes nothing that is there. -/
def Request.Adds : Request → Prop
  | update _ _ => False
  | delete _ => False
  | deleteCollection _ _ => False
  | _ => True

/-- To read is to add nothing. -/
theorem Request.Reads.adds (h : r.Reads) : r.Adds := by
  cases r with
  | update _ _ => exact h.elim
  | delete _ => exact h.elim
  | deleteCollection _ _ => exact h.elim
  | _ => trivial

/-- What only adds leaves each object alone. -/
theorem Request.Adds.leaves (h : r.Adds) (o : Object) : r.Leaves o := by
  cases r with
  | update _ _ => exact h.elim
  | delete _ => exact h.elim
  | deleteCollection _ _ => exact h.elim
  | _ => trivial

/-- **The frame rule**: an object that the request leaves alone is stored as before. -/
theorem find_of_effect (h : Effect r c c') {o : Object} (ho : c.find o.key = some o)
    (hleaves : r.Leaves o) : c'.find o.key = some o := by
  cases h with
  | nothing => exact ho
  | created hnone =>
    rw [Cluster.find_insert, if_neg, ho]
    -- a new object is under a key of its own
    intro hkey
    rw [hkey, ho] at hnone
    cases hnone
  | updated _ =>
    rw [Cluster.find_replace, ho, Option.map_some, if_neg]
    exact Ne.symm hleaves
  | deleted => exact Cluster.find_removeWhere_of_not ho hleaves
  | deletedCollection => exact Cluster.find_removeWhere_of_not ho hleaves
  | marked => exact Cluster.find_markWhere_of_not ho hleaves
  | markedCollection => exact Cluster.find_markWhere_of_not ho hleaves

/-- What is there afterwards and was not there before has been created. -/
theorem created_of_effect (h : Effect r c c') {key : Key} {o : Object} (hnone : c.find key = none)
    (ho : c'.find key = some o) :
    ∃ user ns x, r = .create user ns x ∧ o = x.stored ns (c.version + 1) := by
  cases h with
  | created _ =>
    rw [Cluster.find_insert, hnone] at ho
    split at ho
    · cases ho
      exact ⟨_, _, _, rfl, rfl⟩
    · cases ho
  -- in the other cases nothing new is under the key
  | nothing => cases hnone.symm.trans ho
  | updated _ =>
    rw [Cluster.find_replace, hnone] at ho
    cases ho
  | deleted =>
    rw [Cluster.find_removeWhere, hnone] at ho
    cases ho
  | deletedCollection =>
    rw [Cluster.find_removeWhere, hnone] at ho
    cases ho
  | marked =>
    rw [Cluster.find_markWhere, hnone] at ho
    cases ho
  | markedCollection =>
    rw [Cluster.find_markWhere, hnone] at ho
    cases ho

/-- Nothing of this kind is created. -/
def Request.CreatesNot (kind : Kind) : Request → Prop
  | create _ _ o => o.content.kind ≠ kind
  | _ => True

/-- Without a creation of its kind, a key that is free stays free. -/
theorem none_of_effect {key : Key} (h : Effect r c c') (hr : r.CreatesNot key.kind)
    (hc : c.find key = none) : c'.find key = none := by
  cases hfind : c'.find key with
  | none => rfl
  | some o =>
    obtain ⟨user, ns, x, rfl, rfl⟩ := created_of_effect h hc hfind
    exact absurd (congrArg Key.kind (Collection.find_key hfind)) hr

/-- An object that the API server says it has created is there. -/
theorem find_of_created {user ns : String} {o : Object} {a : Object}
    (h : Serves env c (.create user ns o) (.ok a) c') :
    ∃ version, c'.find (o.keyIn ns) = some (o.stored ns version) := by
  cases h with
  | performed henv h =>
    have h' := Option.some.inj h
    -- of the three outcomes only the insertion answers without an error
    unfold Cluster.create at h'
    split at h'
    · cases h'
    · split at h'
      · next hnone =>
        cases h'
        exact ⟨_, (Cluster.find_insert hnone).trans (if_pos rfl)⟩
      · cases h'

end Effects

/-- The API server, together with what others do. -/
def apiServer (env : Cluster → Cluster → Prop) : Client.Server Cluster Answer where
  step := Serves env

/-- A run without faults, and with nobody else. -/
theorem run_perform {α : Type} (n : Nat) (p : Prog Answer α) (c : Cluster) :
    ((apiServer Eq).system α).Run (p, c) (p.follow perform n c).1 (p.follow perform n c).2 := by
  refine run_follow (fun c r ans c' h => ?_) n p c
  exact Serves.performed rfl h

abbrev Api (α : Type) := Fallible Answer Err α

/-- Send a request; its error ends the program. -/
def call (r : Request) : Api r.Result := ExceptT.mk (Prog.ask r)

/-- Send a request, and look at its error. -/
def try_ (r : Request) : Api (Answer r) := ExceptT.lift (Prog.ask r)

section Rules

variable {env : Cluster → Cluster → Prop} {w : Contract Cluster Request} {P : Request → Prop}
  {c : Cluster} {r : Request}

/-- The rule for a request whose errors are returned. -/
theorem ends_call (hw : w.Admits (apiServer env) P) (hr : P r) (hc : w.holds c)
    {Q : r.Result → Cluster → Prop} (hQ : ∀ a c', Serves env c r (.ok a) c' → w.holds c' → Q a c') :
    Ends (apiServer env) w (call r) Q c := by
  refine ⟨hc, hw.may c r hr hc, fun ans c' hserves => ?_⟩
  have hc' := hw.keep c r ans c' hr hc hserves
  exact ⟨hc', fun a ha => hQ a c' (ha ▸ hserves) hc'⟩

/-- The rule for a request whose answer is looked at. -/
theorem ends_try (hw : w.Admits (apiServer env) P) (hr : P r) (hc : w.holds c)
    {Q : Answer r → Cluster → Prop} (hQ : ∀ ans c', Serves env c r ans c' → w.holds c' → Q ans c') :
    Ends (apiServer env) w (try_ r) Q c := by
  refine ends_lift.mpr ⟨hc, hw.may c r hr hc, fun ans c' hserves => ?_⟩
  have hc' := hw.keep c r ans c' hr hc hserves
  exact ⟨hc', hQ ans c' hserves hc'⟩

end Rules

/-- A program of one request. -/
theorem sends_call {P : Request → Prop} {r : Request} (h : P r) : Sends P (call r) :=
  ⟨h, fun _ => trivial⟩

/-- Likewise, when its answer is looked at. -/
theorem sends_try {P : Request → Prop} {r : Request} (h : P r) : Sends P (try_ r) :=
  sends_lift ⟨h, fun _ => trivial⟩

end ComposeKube.Install

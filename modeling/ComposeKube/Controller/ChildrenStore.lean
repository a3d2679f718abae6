import ComposeKube.Controller.Belonging

/-!
# The children store, and which stacks its events wake

`childrenstore.go`: four informer caches hold the children of all stacks,
indexed by the stack in their labels. `getCurrentStackState` reads the children
of one stack; the handlers of the caches send the key of a stack to the
reconcile queue.

An update can take an object out of one stack and put it into another, by its
label, and `onUpdate` looks at the new object only. A deletion can hand over an
older version of the object than the one that is cached: a tombstone is made from
the cache when a list misses the object, and takes its place in the queue behind
updates that have not been handled. `onDelete` looks at what is handed over.

* `find_getCurrentStackState` — what the store answers for a stack.
* `childEvent_wakes_iff` — the events that wake every stack whose children they
  change.
* `relabelled_child_wakes_one` — one that does not.
-/

namespace ComposeKube

open Go

/-! ## The store -/

/-- `ByIndex("by-stack", …)` on one cache: its objects with the index key, in
some order. -/
def byIndex {α : Type} [KubeObject α] (ord : RangeOrder ChildKind) (kind : ChildKind)
    (cache : Map α) (indexKey : String) : List α :=
  ((ord.range kind cache).map Prod.snd).filter fun x => indexKey ∈ byStackIndexer (getMeta x)

/-- `getCurrentStackState`. -/
def getCurrentStackState (ord : RangeOrder ChildKind) (caches : StackState) (key : String) :
    StackState :=
  newStackState <|
    (byIndex ord .deployment caches.deployments key).map .deployment ++
      ((byIndex ord .statefulset caches.statefulsets key).map .statefulset ++
        ((byIndex ord .daemonset caches.daemonsets key).map .daemonset ++
          (byIndex ord .service caches.services key).map .service))

/-- One cache: filing what the index returns is filtering the cache. -/
theorem lookup_byKey_byIndex {α : Type} [KubeObject α] (ord : RangeOrder ChildKind)
    (kind : ChildKind) {cache : Map α} (hcache : FiledBy keyOf cache) (indexKey k : String) :
    (byKey (byIndex ord kind cache indexKey)).lookup k =
      (cache.lookup k).filter fun x => indexKey ∈ byStackIndexer (getMeta x) := by
  -- what the index lists is in the cache under its own key
  have hmem : ∀ x, x ∈ byIndex ord kind cache indexKey ↔
      cache.lookup (keyOf x) = some x ∧ indexKey ∈ byStackIndexer (getMeta x) := by
    intro x
    simp only [byIndex, List.mem_filter, List.mem_map, decide_eq_true_eq, Prod.exists,
      exists_eq_right, ord.mem_range]
    refine and_congr_left fun _ => ⟨fun ⟨k, hk⟩ => ?_, fun h => ⟨_, h⟩⟩
    rw [hcache k x hk, hk]
  -- and no key is listed twice
  have hkeys : ((byIndex ord kind cache indexKey).map keyOf).Nodup := by
    have hfst : ((ord.range kind cache).map Prod.snd).map keyOf =
        (ord.range kind cache).map Prod.fst := by
      rw [List.map_map]
      exact List.map_congr_left fun e he => hcache e.1 e.2 ((ord.mem_range ..).mp he)
    refine List.Nodup.sublist (List.filter_sublist.map keyOf) ?_
    rw [hfst]
    exact ord.nodup_range kind cache
  ext x
  rw [byKey, lookup_fileBy, lastWith_eq_some_iff hkeys, hmem, Option.filter_eq_some_iff,
    decide_eq_true_eq]
  constructor
  · rintro ⟨⟨hx, hindex⟩, rfl⟩
    exact ⟨hx, hindex⟩
  · rintro ⟨hx, hindex⟩
    obtain rfl := hcache k x hx
    exact ⟨⟨hx, hindex⟩, rfl⟩

/-- The objects of each kind, filed. -/
theorem newStackState_kinds (deployments : List Deployment) (statefulsets : List StatefulSet)
    (daemonsets : List DaemonSet) (services : List Service) :
    newStackState (deployments.map .deployment ++ (statefulsets.map .statefulset ++
        (daemonsets.map .daemonset ++ services.map .service))) =
      { deployments := byKey deployments
        statefulsets := byKey statefulsets
        daemonsets := byKey daemonsets
        services := byKey services } := by
  simp [newStackState_eq, Function.comp_def, Resource.asDeployment, Resource.asStatefulset,
    Resource.asDaemonset, Resource.asService]

/-- Filtering what is found under a key, as an object of a kind or as a resource. -/
theorem map_filter_indexed {α : Type} [KubeObject α] {of : α → Resource}
    (hof : ∀ x, (of x).objectMeta = getMeta x) (key : String) (o : Option α) :
    (o.filter fun x => key ∈ byStackIndexer (getMeta x)).map of =
      (o.map of).filter fun r => key ∈ byStackIndexer r.objectMeta := by
  cases o with
  | none => rfl
  | some x =>
    by_cases hx : key ∈ byStackIndexer (getMeta x)
    · simp [Option.filter, hof, hx]
    · simp [Option.filter, hof, hx]

/-- **What the store answers for a stack**: the cached objects with its index key. -/
theorem find_getCurrentStackState (ord : RangeOrder ChildKind) {caches : StackState}
    (hcaches : caches.Filed) (key : String) (kind : ChildKind) (k : String) :
    (getCurrentStackState ord caches key).find kind k =
      (caches.find kind k).filter fun r => key ∈ byStackIndexer r.objectMeta := by
  obtain ⟨hdep, hsts, hds, hsvc⟩ := hcaches.maps
  rw [getCurrentStackState, newStackState_kinds]
  cases kind with
  | deployment =>
    rw [StackState.find, lookup_byKey_byIndex ord _ hdep]
    exact map_filter_indexed (fun _ => rfl) key _
  | statefulset =>
    rw [StackState.find, lookup_byKey_byIndex ord _ hsts]
    exact map_filter_indexed (fun _ => rfl) key _
  | daemonset =>
    rw [StackState.find, lookup_byKey_byIndex ord _ hds]
    exact map_filter_indexed (fun _ => rfl) key _
  | service =>
    rw [StackState.find, lookup_byKey_byIndex ord _ hsvc]
    exact map_filter_indexed (fun _ => rfl) key _

/-- The answer for a stack depends on the objects with its index key only. -/
theorem getCurrentStackState_congr (ord ord' : RangeOrder ChildKind) {caches caches' : StackState}
    (hcaches : caches.Filed) (hcaches' : caches'.Filed) {key : String}
    (h : ∀ kind k, ((caches.find kind k).filter fun r => key ∈ byStackIndexer r.objectMeta) =
      (caches'.find kind k).filter fun r => key ∈ byStackIndexer r.objectMeta) :
    getCurrentStackState ord caches key = getCurrentStackState ord' caches' key := by
  refine StackState.ext_find fun kind k => ?_
  rw [find_getCurrentStackState ord hcaches, find_getCurrentStackState ord' hcaches', h]

/-! ## The handlers -/

/-- `NameAndNamespace`. -/
structure NameAndNamespace where
  namespace_ : String
  name : String

/-- The method `objKey`. -/
def NameAndNamespace.objKey (n : NameAndNamespace) : String :=
  ComposeKube.objKey n.namespace_ n.name

/-- `extractStackNameAndNamespace`, for a child. -/
def extractStackNameAndNamespace (m : ObjectMeta) : Except String NameAndNamespace :=
  match m.labels with
  | none => .error "resource is not owned by a stack"
  | some lbls =>
    match lbls.lookup Labels.forStackName with
    | none => .error "resource is not owned by a stack"
    | some stackName => .ok { name := stackName, namespace_ := m.namespace_ }

/-- `onEvent`: what is sent to the reconcile queue. -/
def onEvent (hasSynced : Bool) (obj : Resource) : List String :=
  if !hasSynced then []
  else match extractStackNameAndNamespace obj.objectMeta with
    | .error _ => []
    | .ok n => [n.objKey]

/-- `onAdd`. -/
def onAdd (hasSynced : Bool) (obj : Resource) : List String := onEvent hasSynced obj

/-- `onUpdate`: the old object is not looked at. -/
def onUpdate (hasSynced : Bool) (_ newObj : Resource) : List String := onEvent hasSynced newObj

/-- What a deletion hands over: the object, or a tombstone with the state that was last
known, if there is one. The informer that hands it over is the one of its kind. -/
inductive DeletedObject where
  | object (obj : Resource)
  | deletedFinalStateUnknown (kind : ChildKind) (key : String) (obj : Option Resource)

/-- The object, out of a tombstone or not. -/
def DeletedObject.obj : DeletedObject → Option Resource
  | object obj => some obj
  | deletedFinalStateUnknown _ _ obj => obj

/-- Where the object is cached. -/
def DeletedObject.kindKey : DeletedObject → ChildKind × String
  | object obj => obj.kindKey
  | deletedFinalStateUnknown kind key _ => (kind, key)

/-- `onDelete`. No stack can be extracted from a tombstone without an object. -/
def onDelete (hasSynced : Bool) (obj : DeletedObject) : List String :=
  obj.obj.elim [] (onEvent hasSynced)

/-! ## Events -/

/-- A change of one of the caches, as its handlers are told of it. -/
inductive ChildEvent where
  | add (obj : Resource)
  | update (oldObj newObj : Resource)
  | delete (obj : DeletedObject)

/-- The label that names the stack of an object. -/
def Resource.stackLabel (r : Resource) : Option String :=
  r.objectMeta.labels.get? Labels.forStackName

/-- Two versions of one object. -/
structure SameObject (r r' : Resource) : Prop where
  kindKey : r.kindKey = r'.kindKey
  namespace_ : r.objectMeta.namespace_ = r'.objectMeta.namespace_

namespace ChildEvent

/-- The keys that the handlers send. -/
def sent (hasSynced : Bool) : ChildEvent → List String
  | add obj => onAdd hasSynced obj
  | update oldObj newObj => onUpdate hasSynced oldObj newObj
  | delete obj => onDelete hasSynced obj

/-- The caches after the event. -/
def after (caches : StackState) : ChildEvent → StackState
  | add obj => caches.add obj
  | update _ newObj => caches.add newObj
  | delete obj => caches.remove obj.kindKey

/-- The event can happen to the caches: what is added was not there, what is
updated or deleted was. What a deletion hands over is some version of the object. -/
def Occurs (caches : StackState) : ChildEvent → Prop
  | add obj => caches.find obj.kindKey.1 obj.kindKey.2 = none
  | update oldObj newObj =>
    caches.find oldObj.kindKey.1 oldObj.kindKey.2 = some oldObj ∧ SameObject oldObj newObj
  | delete obj =>
    ∃ stored, caches.find obj.kindKey.1 obj.kindKey.2 = some stored ∧
      ∀ r, obj.obj = some r → SameObject stored r

/-- The cached object that the event replaces or removes has no stack label, or the
one of the object that the handlers look at. -/
def KeepsStack (caches : StackState) : ChildEvent → Prop
  | add _ => True
  | update oldObj newObj => oldObj.stackLabel = none ∨ newObj.stackLabel = oldObj.stackLabel
  | delete obj =>
    ∀ stored, caches.find obj.kindKey.1 obj.kindKey.2 = some stored →
      stored.stackLabel = none ∨ obj.obj.bind Resource.stackLabel = stored.stackLabel

end ChildEvent

/-! ## Which stacks an event wakes -/

/-- The index key of an object: its namespace and the stack of its label. -/
theorem mem_byStackIndexer {m : ObjectMeta} {key : String} :
    key ∈ byStackIndexer m ↔
      ∃ stackName, m.labels.get? Labels.forStackName = some stackName ∧
        key = objKey m.namespace_ stackName := by
  unfold byStackIndexer
  cases hlabels : m.labels with
  | none => simp
  | some lbls =>
    rw [MapRef.get?_some]
    cases hname : lbls.lookup Labels.forStackName with
    | none => simp [hname]
    | some name =>
      by_cases hns : m.namespace_ = ""
      · simp [hname, hns, objKey]
      · simp [hname, hns]

/-- The handlers send the keys under which the object is indexed. -/
theorem onEvent_eq (obj : Resource) : onEvent true obj = byStackIndexer obj.objectMeta := by
  unfold onEvent extractStackNameAndNamespace byStackIndexer
  cases hlabels : obj.objectMeta.labels with
  | none => rfl
  | some lbls =>
    cases hname : lbls.lookup Labels.forStackName with
    | none => simp [hname]
    | some name =>
      by_cases hns : obj.objectMeta.namespace_ = ""
      · simp [hname, hns, NameAndNamespace.objKey, objKey]
      · simp [hname, hns, NameAndNamespace.objKey]

/-- **When the handlers send all keys of the cached object**: it has no stack label, or
the one of the version that they look at. -/
theorem sends_indexed_iff {stored : Resource} {seen : Option Resource}
    (hsame : ∀ r, seen = some r → SameObject stored r) :
    (∀ key ∈ byStackIndexer stored.objectMeta, key ∈ seen.elim [] (onEvent true)) ↔
      (stored.stackLabel = none ∨ seen.bind Resource.stackLabel = stored.stackLabel) := by
  cases hlabel : stored.stackLabel with
  | none =>
    refine iff_of_true (fun key hindex => ?_) (Or.inl rfl)
    obtain ⟨stackName, hname, -⟩ := mem_byStackIndexer.mp hindex
    cases hlabel.symm.trans hname
  | some stackName =>
    -- the only key of the cached object
    have hkey : ∀ key, key ∈ byStackIndexer stored.objectMeta ↔
        key = objKey stored.objectMeta.namespace_ stackName := by
      intro key
      rw [mem_byStackIndexer]
      constructor
      · rintro ⟨name, hname, rfl⟩
        cases hlabel.symm.trans hname
        rfl
      · exact fun h => ⟨stackName, hlabel, h⟩
    simp only [hkey, forall_eq, reduceCtorEq, false_or]
    cases hseen : seen with
    | none => simp
    | some r =>
      show _ ∈ onEvent true r ↔ r.stackLabel = some stackName
      rw [onEvent_eq, mem_byStackIndexer]
      constructor
      · rintro ⟨name, hname, heq⟩
        rw [(hsame r hseen).namespace_, objKey_inj] at heq
        rw [heq]
        exact hname
      · intro hname
        exact ⟨stackName, hname, by rw [(hsame r hseen).namespace_]⟩

/-- **The caches stay filed** through every event. -/
theorem ChildEvent.after_filed {caches : StackState} (h : caches.Filed) (event : ChildEvent) :
    (event.after caches).Filed := by
  cases event with
  | add obj => exact h.add obj
  | update _ newObj => exact h.add newObj
  | delete obj => exact h.remove _

/-- A write of an object concerns no stack that indexes neither the object that
was there nor the one that is written. -/
theorem getCurrentStackState_add (ord ord' : RangeOrder ChildKind) {caches : StackState}
    (hcaches : caches.Filed) {obj : Resource} {key : String}
    (hold : ∀ r, caches.find obj.kindKey.1 obj.kindKey.2 = some r →
      key ∉ byStackIndexer r.objectMeta)
    (hnew : key ∉ byStackIndexer obj.objectMeta) :
    getCurrentStackState ord caches key = getCurrentStackState ord' (caches.add obj) key := by
  refine getCurrentStackState_congr ord ord' hcaches (hcaches.add obj) fun kind k => ?_
  rw [StackState.find_add]
  split
  case isFalse => rfl
  case isTrue hk =>
    rw [hk] at hold
    rw [Option.filter_some_neg (by simpa using hnew), Option.filter_eq_none_iff]
    intro r hr
    simpa using hold r hr

/-- A removal concerns no stack that does not index the object that was there. -/
theorem getCurrentStackState_remove (ord ord' : RangeOrder ChildKind) {caches : StackState}
    (hcaches : caches.Filed) {at_ : ChildKind × String} {key : String}
    (hold : ∀ r, caches.find at_.1 at_.2 = some r → key ∉ byStackIndexer r.objectMeta) :
    getCurrentStackState ord caches key = getCurrentStackState ord' (caches.remove at_) key := by
  refine getCurrentStackState_congr ord ord' hcaches (hcaches.remove at_) fun kind k => ?_
  rw [StackState.find_remove]
  split
  case isFalse => rfl
  case isTrue hk =>
    rw [hk] at hold
    rw [Option.filter_none, Option.filter_eq_none_iff]
    intro r hr
    simpa using hold r hr

/-- A stack that indexes the object that was there, and not what is there now, has lost
a child. -/
theorem getCurrentStackState_ne_of_lost (ord ord' : RangeOrder ChildKind)
    {caches caches' : StackState} (hcaches : caches.Filed) (hcaches' : caches'.Filed)
    {kind : ChildKind} {k key : String} {old : Resource} (hold : caches.find kind k = some old)
    (hindex : key ∈ byStackIndexer old.objectMeta)
    (hlost : ∀ r, caches'.find kind k = some r → key ∉ byStackIndexer r.objectMeta) :
    getCurrentStackState ord caches key ≠ getCurrentStackState ord' caches' key := by
  intro heq
  have hfind := congrArg (fun state => state.find kind k) heq
  rw [find_getCurrentStackState ord hcaches, find_getCurrentStackState ord' hcaches', hold,
    Option.filter_some_pos (by simpa using hindex)] at hfind
  obtain ⟨hnew, hnewIndex⟩ := Option.filter_eq_some_iff.mp hfind.symm
  exact hlost old hnew (by simpa using hnewIndex)

section Wakes

variable (ord ord' : RangeOrder ChildKind) {caches : StackState} (hcaches : caches.Filed)

include hcaches

/-- An update wakes every stack it concerns exactly when the new object's stack is woken
for all keys of the old one. -/
theorem update_wakes_iff {oldObj newObj : Resource}
    (hold : caches.find oldObj.kindKey.1 oldObj.kindKey.2 = some oldObj)
    (hsame : SameObject oldObj newObj) :
    (∀ key, getCurrentStackState ord caches key ≠
        getCurrentStackState ord' (caches.add newObj) key → key ∈ onUpdate true oldObj newObj) ↔
      ∀ key ∈ byStackIndexer oldObj.objectMeta, key ∈ onUpdate true oldObj newObj := by
  rw [onUpdate, onEvent_eq]
  rw [hsame.kindKey] at hold
  constructor
  · intro hwakes key hindex
    -- otherwise the stack has lost the object and is not woken
    by_contra hlost
    refine hlost (hwakes key (getCurrentStackState_ne_of_lost ord ord' hcaches
      (hcaches.add newObj) hold hindex fun r hr => ?_))
    rw [StackState.find_add, if_pos rfl] at hr
    cases hr
    exact hlost
  · intro hsends key hdiff
    by_contra hnew
    refine hdiff (getCurrentStackState_add ord ord' hcaches (fun r hr hindex => ?_) hnew)
    cases hold.symm.trans hr
    exact hnew (hsends key hindex)

/-- A deletion changes the children of the stacks that index the cached object. -/
theorem delete_wakes_iff {obj : DeletedObject} {stored : Resource}
    (hstored : caches.find obj.kindKey.1 obj.kindKey.2 = some stored) :
    (∀ key, getCurrentStackState ord caches key ≠
        getCurrentStackState ord' (caches.remove obj.kindKey) key → key ∈ onDelete true obj) ↔
      ∀ key ∈ byStackIndexer stored.objectMeta, key ∈ onDelete true obj := by
  refine forall_congr' fun key => imp_congr_left ⟨fun hdiff => ?_, fun hindex => ?_⟩
  · by_contra hindex
    refine hdiff (getCurrentStackState_remove ord ord' hcaches fun r hr => ?_)
    cases hstored.symm.trans hr
    exact hindex
  · refine getCurrentStackState_ne_of_lost ord ord' hcaches (hcaches.remove _) hstored hindex ?_
    intro r hr
    rw [StackState.find_remove, if_pos rfl] at hr
    cases hr

end Wakes

/-- **The events that wake every stack whose children they change.** -/
theorem childEvent_wakes_iff (ord ord' : RangeOrder ChildKind) {caches : StackState}
    (hcaches : caches.Filed) {event : ChildEvent} (hevent : event.Occurs caches) :
    (∀ key, getCurrentStackState ord caches key ≠
        getCurrentStackState ord' (event.after caches) key → key ∈ event.sent true) ↔
      event.KeepsStack caches := by
  cases event with
  | add obj =>
    refine iff_of_true (fun key hdiff => ?_) trivial
    by_contra hsent
    refine hdiff (getCurrentStackState_add ord ord' hcaches (fun r hr => ?_) ?_)
    · cases hr.symm.trans hevent
    · rwa [← onEvent_eq]
  | update oldObj newObj =>
    obtain ⟨hold, hsame⟩ := hevent
    have hseen : ∀ r, some newObj = some r → SameObject oldObj r := by
      rintro r ⟨⟩
      exact hsame
    exact (update_wakes_iff ord ord' hcaches hold hsame).trans (sends_indexed_iff hseen)
  | delete obj =>
    obtain ⟨stored, hstored, hsame⟩ := hevent
    refine (delete_wakes_iff ord ord' hcaches hstored).trans ((sends_indexed_iff hsame).trans ?_)
    -- the cached object is the only one under its key
    refine ⟨fun h r hr => ?_, fun h => h stored hstored⟩
    cases hstored.symm.trans hr
    exact h

/-- A deployment of a stack, as `testDeploymentForStack` makes it. -/
def testDeploymentForStack (stackName : String) (replicas : Option Int32) : Resource :=
  .deployment
    { (default : Deployment) with
      objectMeta :=
        { (default : ObjectMeta) with
          name := "dep1", namespace_ := "test-ns"
          labels := some (Labels.forService stackName "dep1") }
      spec := { (default : DeploymentSpec) with replicas } }

/-- Caches that hold one deployment, of the stack `test-stack`. -/
def testCaches : StackState := emptyStackState.add (testDeploymentForStack "test-stack" (some 1))

/-- The caches of the example are filed. -/
theorem testCaches_filed : testCaches.Filed := (emptyStackState_keyed "").filed.add _

/-- An update of the deployment: its stack and its replicas. -/
def testUpdate (stackName : String) (replicas : Option Int32) : ChildEvent :=
  .update (testDeploymentForStack "test-stack" (some 1)) (testDeploymentForStack stackName replicas)

theorem testUpdate_occurs (stackName : String) (replicas : Option Int32) :
    (testUpdate stackName replicas).Occurs testCaches := by
  refine ⟨?_, rfl, rfl⟩
  rw [testCaches, StackState.find_add, if_pos rfl]

theorem childEvent_wakes_scaled :
    getCurrentStackState (.ascending _) testCaches "test-ns/test-stack" ≠
        getCurrentStackState (.ascending _) ((testUpdate "test-stack" (some 2)).after testCaches)
          "test-ns/test-stack" ∧
      "test-ns/test-stack" ∈ (testUpdate "test-stack" (some 2)).sent true := by
  have hkeeps : (testUpdate "test-stack" (some 2)).KeepsStack testCaches := .inr rfl
  have hwakes := (childEvent_wakes_iff (.ascending _) (.ascending _) testCaches_filed
    (testUpdate_occurs "test-stack" (some 2))).mpr hkeeps "test-ns/test-stack"
  exact ⟨by decide, hwakes (by decide)⟩

/-- A deployment has been moved to another stack, and is gone. -/
def movedCaches : StackState := (testUpdate "other-stack" (some 1)).after testCaches

/-- The deletion, with the version of the deployment from before it was moved. -/
def staleDeletion : ChildEvent :=
  .delete (.deletedFinalStateUnknown .deployment "test-ns/dep1"
    (some (testDeploymentForStack "test-stack" (some 1))))

theorem staleDeletion_occurs : staleDeletion.Occurs movedCaches := by
  refine ⟨testDeploymentForStack "other-stack" (some 1), ?_, fun r hr => ?_⟩
  · show (testCaches.add (testDeploymentForStack "other-stack" (some 1))).find .deployment
      "test-ns/dep1" = _
    rw [StackState.find_add]
    exact if_pos (by decide)
  · cases hr
    exact ⟨rfl, rfl⟩

/-- A deployment is moved to another stack by its label: the stack that loses it
is not woken. Then it is deleted, with a tombstone that is older than the move: again
the stack that loses it is not woken. -/
theorem relabelled_child_wakes_one :
    testCaches.Filed ∧ (testUpdate "other-stack" (some 1)).Occurs testCaches ∧
      getCurrentStackState (.ascending _) testCaches "test-ns/test-stack" ≠
        getCurrentStackState (.ascending _) movedCaches "test-ns/test-stack" ∧
      (testUpdate "other-stack" (some 1)).sent true = ["test-ns/other-stack"] ∧
      staleDeletion.Occurs movedCaches ∧
      getCurrentStackState (.ascending _) movedCaches "test-ns/other-stack" ≠
        getCurrentStackState (.ascending _) (staleDeletion.after movedCaches)
          "test-ns/other-stack" ∧
      staleDeletion.sent true = ["test-ns/test-stack"] :=
  ⟨testCaches_filed, testUpdate_occurs _ _, by decide, by decide, staleDeletion_occurs, by decide,
    by decide⟩

end ComposeKube

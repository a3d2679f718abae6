import ComposeKube.Lib.Replica
import ComposeKube.Dedup.StringChan
import ComposeKube.Controller.Isolation
import ComposeKube.Controller.Status

/-!
# The controller at work

`Start` of `stackreconciler.go` with everything around it: the API server and
its watches, the informers with their stores and handlers, the queue of keys and
the queue of retries, and the loop that takes keys and works on one stack at a
time. All of them run concurrently, so the loop may work on what is out of date:

* the caches follow the API server through watches, one for every kind of
  children, and the handlers are called after the caches have changed;
* the caches are read one after the other, and they change in between;
* requests are sent one after the other, and each may be refused.

A step is what one of the parties does on its own. Stacks and children are also
written by others; the API server sees to it that names, namespaces and the
stack label contain no `/`.

* `childFeed` — the caches as a replica of the cluster.
* `ReconcilerStep` — the steps.
-/

namespace ComposeKube

open Go Transition Replication

/-! ## Children and their caches -/

/-- The kind of the object that an event is about. -/
def ChildEvent.kind : ChildEvent → ChildKind
  | add obj => obj.kind
  | update _ newObj => newObj.kind
  | delete obj => obj.kindKey.1

/-- The object that an event leaves behind. -/
def ChildEvent.written : ChildEvent → Option Resource
  | add obj => some obj
  | update _ newObj => some newObj
  | delete _ => none

/-- What an event does to the objects of the caches. -/
theorem ChildEvent.find_after (event : ChildEvent) (caches : StackState) (kind : ChildKind)
    (k : String) :
    (event.after caches).find kind k =
      match event with
      | .add obj => if obj.kindKey = (kind, k) then some obj else caches.find kind k
      | .update _ newObj => if newObj.kindKey = (kind, k) then some newObj else caches.find kind k
      | .delete obj => if obj.kindKey = (kind, k) then none else caches.find kind k := by
  cases event with
  | add obj => exact StackState.find_add caches obj kind k
  | update oldObj newObj => exact StackState.find_add caches newObj kind k
  | delete obj => exact StackState.find_remove caches obj.kindKey kind k

/-- The first part of the key is the kind. -/
theorem Resource.kindKey_fst (r : Resource) : r.kindKey.1 = r.kind := by
  cases r <;> rfl

/-- An event leaves the objects of other kinds alone. -/
theorem ChildEvent.find_after_of_kind_ne {event : ChildEvent} {kind : ChildKind}
    (h : event.kind ≠ kind) (caches : StackState) (k : String) :
    (event.after caches).find kind k = caches.find kind k := by
  have hne {r : Resource} (hr : r.kind ≠ kind) : r.kindKey ≠ (kind, k) := by
    intro heq
    exact hr (by rw [← r.kindKey_fst, heq])
  rw [event.find_after]
  cases event with
  | add obj => exact if_neg (hne h)
  | update oldObj newObj => exact if_neg (hne h)
  | delete obj => exact if_neg fun heq => h (congrArg Prod.fst heq)

/-- Whether an event can happen depends on the objects of its kind only. -/
theorem ChildEvent.occurs_congr {event : ChildEvent} {caches caches' : StackState}
    (h : ∀ k, caches.find event.kind k = caches'.find event.kind k) :
    event.Occurs caches ↔ event.Occurs caches' := by
  -- an event looks at objects of its own kind only
  have hfind {r : Resource} (hr : r.kind = event.kind) :
      caches.find r.kindKey.1 r.kindKey.2 = caches'.find r.kindKey.1 r.kindKey.2 := by
    rw [r.kindKey_fst, hr]
    exact h _
  have hkind {r r' : Resource} (hsame : SameObject r r') : r.kind = r'.kind := by
    rw [← r.kindKey_fst, ← r'.kindKey_fst, hsame.kindKey]
  cases event with
  | add obj =>
    show caches.find _ _ = none ↔ caches'.find _ _ = none
    rw [hfind rfl]
  | update oldObj newObj =>
    refine and_congr_left fun hsame => ?_
    rw [hfind (hkind hsame)]
  | delete obj =>
    have heq : caches.find obj.kindKey.1 obj.kindKey.2 =
        caches'.find obj.kindKey.1 obj.kindKey.2 := h _
    refine exists_congr fun stored => and_congr_left fun _ => ?_
    rw [heq]

/-- Whether an event keeps the stack label depends on the objects of its kind only. -/
theorem ChildEvent.keepsStack_congr {event : ChildEvent} {caches caches' : StackState}
    (h : ∀ k, caches.find event.kind k = caches'.find event.kind k) :
    event.KeepsStack caches ↔ event.KeepsStack caches' := by
  cases event with
  | add obj => exact Iff.rfl
  | update oldObj newObj => exact Iff.rfl
  | delete obj =>
    have heq : caches.find obj.kindKey.1 obj.kindKey.2 =
        caches'.find obj.kindKey.1 obj.kindKey.2 := h _
    refine forall_congr' fun stored => imp_congr_left ?_
    rw [heq]

/-- **The caches as a replica of the cluster**: one watch for every kind. No event
takes an object from one stack to another. -/
def childFeed : Feed StackState ChildEvent ChildKind where
  apply caches event := event.after caches
  Occurs caches event := event.Occurs caches ∧ event.KeepsStack caches
  source := ChildEvent.kind
  apply_comm caches e e' hne := by
    refine StackState.ext_find fun kind k => ?_
    by_cases hkind : e.kind = kind
    · -- the other event does not concern this kind
      have hkind' : e'.kind ≠ kind := fun h => hne (hkind.trans h.symm)
      rw [e'.find_after_of_kind_ne hkind', e.find_after, e.find_after,
        e'.find_after_of_kind_ne hkind']
    · rw [e.find_after_of_kind_ne hkind, e'.find_after, e'.find_after,
        e.find_after_of_kind_ne hkind]
  occurs_apply caches e e' hne := by
    have hfind := e.find_after_of_kind_ne hne caches
    exact and_congr (ChildEvent.occurs_congr hfind) (ChildEvent.keepsStack_congr hfind)

/-- What a state holds of a kind under a key, if it is indexed under a stack. -/
def StackState.indexed (state : StackState) (key : String) (kind : ChildKind) (k : String) :
    Option Resource :=
  (state.find kind k).filter fun r => key ∈ byStackIndexer r.objectMeta

/-- `ByIndex` on one cache: what has been read so far, with the objects of one more
kind. -/
def StackState.readKind (seen caches : StackState) : ChildKind → StackState
  | .deployment => { seen with deployments := caches.deployments }
  | .statefulset => { seen with statefulsets := caches.statefulsets }
  | .daemonset => { seen with daemonsets := caches.daemonsets }
  | .service => { seen with services := caches.services }

/-- One kind is replaced by what the cache has, and the others stay. -/
theorem StackState.find_readKind (seen caches : StackState) (kind kind' : ChildKind) (k : String) :
    (seen.readKind caches kind).find kind' k =
      if kind = kind' then caches.find kind' k else seen.find kind' k := by
  cases kind <;> cases kind' <;> rfl

/-- The order in which `getCurrentStackState` reads the caches. -/
def childKinds : List ChildKind := [.deployment, .statefulset, .daemonset, .service]

/-- All kinds are read. -/
theorem mem_childKinds (kind : ChildKind) : kind ∈ childKinds := by
  cases kind <;> decide

/-! ## Stacks -/

/-- `statusFailure`. -/
def statusFailure (err : String) : Latest.StackStatus where
  phase := Latest.stackFailure
  message := err

/-- The stack is named as the API server allows. -/
structure WellNamed (stack : Latest.Stack) : Prop where
  namespace_ : SlashFree stack.objectMeta.namespace_
  name : SlashFree stack.objectMeta.name
  namespace_ne : stack.objectMeta.namespace_ ≠ ""
  name_ne : stack.objectMeta.name ≠ ""

/-- The services of the stack are named, and none of them labels its objects with
the name of another stack. -/
def KeepsLabels (stack : Latest.Stack) : Prop :=
  ∀ spec, stack.spec = some spec → ∀ srv ∈ spec.services.elems,
    srv.name ≠ "" ∧ ∀ v, srv.deploy.labels.get? Labels.forStackName = some v →
      v = stack.objectMeta.name

/-- A change of a stack, as it reaches the stack informer. -/
inductive StackChange where
  | stored (stack : Latest.Stack)
  | deleted (stack : Latest.Stack)

def StackChange.stack : StackChange → Latest.Stack
  | stored stack => stack
  | deleted stack => stack

/-! ## The state -/

/-- The queues of keys that the loop takes from. -/
inductive KeyQueue where
  /-- the keys that the handlers of the informers send -/
  | reconcile
  /-- `reconcileRetryQueue` -/
  | retry
  deriving DecidableEq

/-- `reconcileQueueLength`, and the buffer that `NewStackReconciler` makes. -/
def KeyQueue.bufferSize : KeyQueue → Nat
  | reconcile => 200
  | retry => 20

/-- What the caches are read for. -/
inductive ReadPurpose where
  /-- in `reconcileChildren` -/
  | children
  /-- in `reconcileStatus`, after an error or none -/
  | status (reconcileError : Option String)
  /-- in `deleteStackChildren` -/
  | deletion

/-- Where the loop is. -/
inductive ReconcilePhase where
  /-- at the `select` -/
  | idle
  /-- `reconcileStack` has been called -/
  | received (key : String)
  /-- at `getUpdater` -/
  | resolving (stack : Latest.Stack)
  /-- in `getCurrentStackState`, with the caches that are still to be read -/
  | reading (purpose : ReadPurpose) (stack : Latest.Stack) (seen : StackState)
      (left : List ChildKind)
  /-- in `applyStackDiff`, with the requests that are still to be sent -/
  | applying (deletion : Bool) (stack : Latest.Stack) (requests : List ChildRequest)
  /-- at `updateStackStatus` -/
  | updatingStatus (stack : Latest.Stack) (status : Latest.StackStatus)

/-- The API server with its watches, the informers, the queues and the loop. -/
structure ReconcilerState where
  /-- the children in the API server: all objects with a stack label -/
  cluster : StackState
  /-- the events of children that have not reached their informers -/
  undelivered : List ChildEvent
  caches : StackState
  /-- the changes of stacks that have not reached the stack informer -/
  stackChanges : List StackChange
  /-- the store of the stack informer -/
  stackStore : String → Option Latest.Stack
  /-- the keys that handlers, or goroutines that have slept, are about to send -/
  waiting : KeyQueue → List String
  queues : KeyQueue → StringChan
  /-- what the stack listener has sent to `deletionQueue`, or is about to send -/
  deletionQueue : List Latest.Stack
  phase : ReconcilePhase
  /-- the stacks whose last attempt has ended with an error that was only logged -/
  logged : Finset String

namespace ReconcilerState

/-- A key is to be sent to a queue. -/
def enqueue (s : ReconcilerState) (q : KeyQueue) (keys : List String) : ReconcilerState :=
  { s with waiting := Function.update s.waiting q (s.waiting q ++ keys) }

/-- The conversion has sorted the services of a stack that it was given by the
informer's store. -/
def replaceStack (s : ReconcilerState) (stack stack' : Latest.Stack) :
    String → Option Latest.Stack :=
  fun key => (s.stackStore key).map fun x => if x = stack then stack' else x

end ReconcilerState

/-- The store after the conversion has sorted the services of a stack. -/
theorem replaceStack_eq_some {s : ReconcilerState} {stack stack' stack₁ : Latest.Stack}
    {key : String} (h : s.replaceStack stack stack' key = some stack₁) :
    s.stackStore key = some stack ∧ stack₁ = stack' ∨
      stack₁ ≠ stack ∧ s.stackStore key = some stack₁ := by
  obtain ⟨x, hx, hstack⟩ := Option.map_eq_some_iff.mp h
  by_cases hsame : x = stack
  · rw [if_pos hsame] at hstack
    exact Or.inl ⟨hsame ▸ hx, hstack.symm⟩
  · rw [if_neg hsame] at hstack
    subst hstack
    exact Or.inr ⟨hsame, hx⟩

/-- To replace a stack by itself changes nothing. -/
theorem replaceStack_self (s : ReconcilerState) (stack : Latest.Stack) :
    s.replaceStack stack stack = s.stackStore := by
  have hsame : (fun x => if x = stack then stack else x) = id := by
    funext x
    split
    · next h => exact h.symm
    · rfl
  funext key
  unfold ReconcilerState.replaceStack
  rw [hsame, Option.map_id]
  rfl

/-- A retry after a conflict: the goroutine that sleeps and sends the key. -/
def ReconcilerState.retryOnConflict (s : ReconcilerState) (isConflict : Bool) (key : String) :
    ReconcilerState :=
  s.enqueue .retry (if isConflict then [key] else [])

/-! ## Requests -/

/-- An error of the API server, as the loop tells it from others. -/
structure RequestFailure where
  /-- `kerrors.IsConflict(errors.Cause(err))` -/
  isConflict : Bool
  text : String

/-- The verb in the messages of the updater. -/
def ChildRequest.verb : ChildRequest → String
  | delete _ => "deleting"
  | create _ => "creating"
  | update _ => "patching"

/-- `err.Error()` of an error that the updater has wrapped. -/
def requestFailureText (stack : Latest.Stack) (req : ChildRequest) (failure : RequestFailure) :
    String :=
  (wrapUpdaterError stack req.resource.kind req.verb req.resource
    (if failure.isConflict then .conflict else .invalid)).message ++ ": " ++ failure.text

/-- What the watches tell of a write, given what was there and what is there now. -/
def writeEvents : Option Resource → Option Resource → List ChildEvent
  | none, none => []
  | none, some r => [.add r]
  | some c, none => [.delete (.object c)]
  | some c, some r => [.update c r]

/-- What the watches tell of a request for a stack. -/
def requestEvents (stack : Latest.Stack) (req : ChildRequest) (cluster cluster' : StackState) :
    List ChildEvent :=
  let target := req.target stack.objectMeta.namespace_
  writeEvents (cluster.find target.1 target.2) (cluster'.find target.1 target.2)

/-! ## Steps -/

/-- The steps of the channel that it takes by itself. -/
def ChanEvent.internal : ChanEvent → Bool
  | .input _ => false
  | .close => false
  | .output _ => false
  | _ => true

inductive ReconcilerEvent where
  /-- a stack is written or deleted, by a user -/
  | stackWritten (change : StackChange)
  /-- a child is written or deleted, by something else than the loop -/
  | childWritten (event : ChildEvent)
  /-- an informer has received an event, or resyncs -/
  | delivered
  /-- a key is sent to a queue -/
  | sent (q : KeyQueue) (key : String)
  /-- the goroutines of a queue -/
  | queued (q : KeyQueue)
  /-- the loop receives a key -/
  | taken (q : KeyQueue) (key : String)
  /-- the loop receives a stack from the deletion queue -/
  | takenDeletion
  /-- the loop goes on -/
  | internal
  /-- a request of the loop is accepted -/
  | requested (events : List ChildEvent)
  /-- a write of the loop is refused while it reconciles a stack -/
  | refused (key : String) (failure : RequestFailure)
  /-- a status is stored -/
  | statusStored (stack : Latest.Stack)

/-- The runtimes differ at most in the order in which maps are visited and services
of one name are sorted. -/
structure Runtime.Agrees (rt rt' : Runtime) : Prop where
  parseQuantity : rt.parseQuantity = rt'.parseQuantity
  seconds : rt.seconds = rt'.seconds
  seconds32 : rt.seconds32 = rt'.seconds32
  toLower : rt.toLower = rt'.toLower

/-- Runtimes that agree with the same one agree. -/
theorem Runtime.Agrees.trans {rt rt' rt'' : Runtime} (h : rt.Agrees rt') (h' : rt'.Agrees rt'') :
    rt.Agrees rt'' :=
  ⟨h.parseQuantity.trans h'.parseQuantity, h.seconds.trans h'.seconds,
    h.seconds32.trans h'.seconds32, h.toLower.trans h'.toLower⟩

/-- What the loop is started with. -/
structure ReconcilerConfig where
  runtime : Runtime
  serviceStrategy : ServiceStrategy

inductive ReconcilerStep (cfg : ReconcilerConfig) :
    ReconcilerState → ReconcilerEvent → ReconcilerState → Prop
  | stackWritten {s : ReconcilerState} {change : StackChange} (hnamed : WellNamed change.stack) :
      ReconcilerStep cfg s (.stackWritten change)
        { s with stackChanges := s.stackChanges ++ [change] }
  | childWritten {s : ReconcilerState} {event : ChildEvent} (hoccurs : event.Occurs s.cluster)
      (hvalid : ∀ r, event.written = some r → r.SlashFree) :
      ReconcilerStep cfg s (.childWritten event)
        { s with
          cluster := event.after s.cluster
          undelivered := s.undelivered ++ [event] }
  /-- The cache is updated, then the handler is called. -/
  | childDelivered {s : ReconcilerState} {event : ChildEvent} {before after : List ChildEvent}
      (hundelivered : s.undelivered = before ++ event :: after)
      (hfirst : ∀ e ∈ before, e.kind ≠ event.kind) :
      ReconcilerStep cfg s .delivered
        { s.enqueue .reconcile (event.sent true) with
          caches := event.after s.caches
          undelivered := before ++ after }
  | childResynced {s : ReconcilerState} {kind : ChildKind} {k : String} {r : Resource}
      (hfind : s.caches.find kind k = some r) :
      ReconcilerStep cfg s .delivered (s.enqueue .reconcile (onUpdate true r r))
  /-- `onAdd` and `onUpdate` of the stack listener. -/
  | stackStored {s : ReconcilerState} {stack : Latest.Stack} {rest : List StackChange}
      (hchanges : s.stackChanges = .stored stack :: rest) :
      ReconcilerStep cfg s .delivered
        { s.enqueue .reconcile [stackKey stack] with
          stackStore := Function.update s.stackStore (stackKey stack) (some stack)
          stackChanges := rest }
  /-- `onDelete` of the stack listener. -/
  | stackDeleted {s : ReconcilerState} {stack : Latest.Stack} {rest : List StackChange}
      (hchanges : s.stackChanges = .deleted stack :: rest) :
      ReconcilerStep cfg s .delivered
        { s with
          stackStore := Function.update s.stackStore (stackKey stack) none
          stackChanges := rest
          deletionQueue := s.deletionQueue ++ [stack] }
  | stackResynced {s : ReconcilerState} {key : String} {stack : Latest.Stack}
      (hstack : s.stackStore key = some stack) :
      ReconcilerStep cfg s .delivered (s.enqueue .reconcile [stackKey stack])
  | sent {s : ReconcilerState} {q : KeyQueue} {key : String} {c : StringChan}
      (hkey : key ∈ s.waiting q) (hchan : ChanStep q.bufferSize (s.queues q) (.input key) c) :
      ReconcilerStep cfg s (.sent q key)
        { s with
          waiting := Function.update s.waiting q ((s.waiting q).erase key)
          queues := Function.update s.queues q c }
  | queued {s : ReconcilerState} {q : KeyQueue} {a : ChanEvent} {c : StringChan}
      (ha : a.internal = true) (hchan : ChanStep q.bufferSize (s.queues q) a c) :
      ReconcilerStep cfg s (.queued q) { s with queues := Function.update s.queues q c }
  | taken {s : ReconcilerState} {q : KeyQueue} {key : String} {c : StringChan}
      (hidle : s.phase = .idle) (hchan : ChanStep q.bufferSize (s.queues q) (.output key) c) :
      ReconcilerStep cfg s (.taken q key)
        { s with queues := Function.update s.queues q c, phase := .received key }
  | takenDeletion {s : ReconcilerState} {stack : Latest.Stack} {rest : List Latest.Stack}
      (hidle : s.phase = .idle) (hqueue : s.deletionQueue = stack :: rest) :
      ReconcilerStep cfg s .takenDeletion
        { s with
          deletionQueue := rest
          phase := .reading .deletion stack emptyStackState childKinds }
  /-- `reconcileStack` does not find the stack. -/
  | missing {s : ReconcilerState} {key : String} (hphase : s.phase = .received key)
      (hstack : s.stackStore key = none) :
      ReconcilerStep cfg s .internal { s with phase := .idle }
  | found {s : ReconcilerState} {key : String} {stack : Latest.Stack}
      (hphase : s.phase = .received key) (hstack : s.stackStore key = some stack) :
      ReconcilerStep cfg s .internal
        { s with
          logged := s.logged.erase key
          phase := if stack.objectMeta.deletionTimestamp = none then .resolving stack
            else .reading .deletion stack emptyStackState childKinds }
  | resolved {s : ReconcilerState} {stack : Latest.Stack} (hphase : s.phase = .resolving stack) :
      ReconcilerStep cfg s .internal
        { s with phase := .reading .children stack emptyStackState childKinds }
  /-- `Updater resolution failed`. -/
  | unresolved {s : ReconcilerState} {stack : Latest.Stack} (hphase : s.phase = .resolving stack) :
      ReconcilerStep cfg s .internal
        { s with logged := insert (stackKey stack) s.logged, phase := .idle }
  | read {s : ReconcilerState} {purpose : ReadPurpose} {stack : Latest.Stack} {seen : StackState}
      {kind : ChildKind} {left : List ChildKind}
      (hphase : s.phase = .reading purpose stack seen (kind :: left)) :
      ReconcilerStep cfg s .internal
        { s with phase := .reading purpose stack (seen.readKind s.caches kind) left }
  /-- The stack does not convert. Its services have been sorted all the same. -/
  | notConverted {s : ReconcilerState} {stack : Latest.Stack} {seen : StackState} {rt : Runtime}
      {ord : RangeOrder ChildKind} {err : String}
      (hphase : s.phase = .reading .children stack seen [])
      (hrt : rt.Agrees cfg.runtime)
      (herr : (stackToStack rt stack cfg.serviceStrategy
        (getCurrentStackState ord seen (stackKey stack))).1 = .error err) :
      ReconcilerStep cfg s .internal
        { s with
          stackStore := s.replaceStack stack (stackToStack rt stack cfg.serviceStrategy
            (getCurrentStackState ord seen (stackKey stack))).2
          phase := .reading (.status (some err)) (stackToStack rt stack cfg.serviceStrategy
            (getCurrentStackState ord seen (stackKey stack))).2 emptyStackState childKinds }
  | converted {s : ReconcilerState} {stack : Latest.Stack} {seen : StackState} {rt : Runtime}
      {ord : RangeOrder ChildKind} {ord' : DiffOrder} {diff : StackStateDiff}
      (hphase : s.phase = .reading .children stack seen [])
      (hrt : rt.Agrees cfg.runtime)
      (hdiff : reconcileDiff rt ord ord' cfg.serviceStrategy stack seen = .ok diff) :
      ReconcilerStep cfg s .internal
        { s with
          stackStore := s.replaceStack stack (stackToStack rt stack cfg.serviceStrategy
            (getCurrentStackState ord seen (stackKey stack))).2
          phase := .applying false (stackToStack rt stack cfg.serviceStrategy
            (getCurrentStackState ord seen (stackKey stack))).2 diff.requests }
  | requested {s : ReconcilerState} {deletion : Bool} {stack : Latest.Stack} {req : ChildRequest}
      {rest : List ChildRequest} {server : Server} {cluster : StackState}
      (hphase : s.phase = .applying deletion stack (req :: rest))
      (hvalid : req.Writes → req.resource.SlashFree)
      (hperform : perform server stack s.cluster req = .ok cluster) :
      ReconcilerStep cfg s (.requested (requestEvents stack req s.cluster cluster))
        { s with
          cluster := cluster
          undelivered := s.undelivered ++ requestEvents stack req s.cluster cluster
          phase := .applying deletion stack rest }
  /-- A request is refused: the others are not sent, and a conflict is retried. -/
  | refused {s : ReconcilerState} {stack : Latest.Stack} {req : ChildRequest}
      {rest : List ChildRequest} {failure : RequestFailure}
      (hphase : s.phase = .applying false stack (req :: rest)) :
      ReconcilerStep cfg s (.refused (stackKey stack) failure)
        { s.retryOnConflict failure.isConflict (stackKey stack) with
          phase := .reading (.status (some (requestFailureText stack req failure))) stack
            emptyStackState childKinds }
  | applied {s : ReconcilerState} {stack : Latest.Stack}
      (hphase : s.phase = .applying false stack []) :
      ReconcilerStep cfg s .internal
        { s with phase := .reading (.status none) stack emptyStackState childKinds }
  | statusFailed {s : ReconcilerState} {stack : Latest.Stack} {seen : StackState} {err : String}
      (hphase : s.phase = .reading (.status (some err)) stack seen []) :
      ReconcilerStep cfg s .internal
        { s with phase := .updatingStatus stack (statusFailure err) }
  | statusGenerated {s : ReconcilerState} {stack : Latest.Stack} {seen : StackState}
      {ord ord' : RangeOrder ChildKind} {status : Latest.StackStatus}
      (hphase : s.phase = .reading (.status none) stack seen [])
      (hstatus : generateStatus stack
        ((getCurrentStackState ord seen (stackKey stack)).flattenResources ord') = some status) :
      ReconcilerStep cfg s .internal { s with phase := .updatingStatus stack status }
  /-- The stack has the status already. -/
  | statusKept {s : ReconcilerState} {stack : Latest.Stack} {status : Latest.StackStatus}
      (hphase : s.phase = .updatingStatus stack status)
      (hkept : updateStackStatus stack status = none) :
      ReconcilerStep cfg s .internal { s with phase := .idle }
  /-- The status is stored, in whatever the API server makes of the stack. -/
  | statusStored {s : ReconcilerState} {stack sent stored : Latest.Stack}
      {status : Latest.StackStatus} (hphase : s.phase = .updatingStatus stack status)
      (hsent : updateStackStatus stack status = some sent)
      (hmeta : stored.objectMeta.namespace_ = sent.objectMeta.namespace_ ∧
        stored.objectMeta.name = sent.objectMeta.name) :
      ReconcilerStep cfg s (.statusStored stored)
        { s with stackChanges := s.stackChanges ++ [.stored stored], phase := .idle }
  | statusRefused {s : ReconcilerState} {stack sent : Latest.Stack} {status : Latest.StackStatus}
      {failure : RequestFailure} (hphase : s.phase = .updatingStatus stack status)
      (hsent : updateStackStatus stack status = some sent) :
      ReconcilerStep cfg s (.refused (stackKey stack) failure)
        { s.retryOnConflict failure.isConflict (stackKey stack) with
          logged := if failure.isConflict then s.logged else insert (stackKey stack) s.logged
          phase := .idle }
  /-- `deleteStackChildren` has its updater. -/
  | deletionStarted {s : ReconcilerState} {stack : Latest.Stack} {seen : StackState}
      {ord : RangeOrder ChildKind} {ord' : DiffOrder}
      (hphase : s.phase = .reading .deletion stack seen []) :
      ReconcilerStep cfg s .internal
        { s with phase := .applying true stack (deletionDiff ord ord' stack seen).requests }
  /-- `deleteStackChildren` gets no updater. -/
  | deletionUnresolved {s : ReconcilerState} {stack : Latest.Stack} {seen : StackState}
      (hphase : s.phase = .reading .deletion stack seen []) :
      ReconcilerStep cfg s .internal
        { s with logged := insert (stackKey stack) s.logged, phase := .idle }
  /-- A deletion is refused, of a child or of the secrets and the config maps that
  come after the children: the rest is not sent, and nothing is retried. -/
  | deletionRefused {s : ReconcilerState} {stack : Latest.Stack} {requests : List ChildRequest}
      (hphase : s.phase = .applying true stack requests) :
      ReconcilerStep cfg s .internal
        { s with logged := insert (stackKey stack) s.logged, phase := .idle }
  | deletionDone {s : ReconcilerState} {stack : Latest.Stack}
      (hphase : s.phase = .applying true stack []) :
      ReconcilerStep cfg s .internal { s with phase := .idle }

/-- The controller has started on a cluster that its caches have been filled from. -/
structure ReconcilerState.Started (s : ReconcilerState) : Prop where
  synced : s.caches = s.cluster
  filed : s.cluster.Filed
  slashFree : s.cluster.SlashFree
  undelivered : s.undelivered = []
  stackChanges : ∀ change ∈ s.stackChanges, WellNamed change.stack ∧ KeepsLabels change.stack
  stackStore : ∀ key, s.stackStore key = none
  queues : ∀ q, s.queues q = newStringChan
  waiting : ∀ q, s.waiting q = []
  deletionQueue : s.deletionQueue = []
  phase : s.phase = .idle

def reconcilerSystem (cfg : ReconcilerConfig) : System ReconcilerState ReconcilerEvent where
  init := ReconcilerState.Started
  step := ReconcilerStep cfg

/-- What the controller relies on: no write takes a child from one stack to
another, and no service labels its objects with another stack. -/
def LabelsRespected (s : ReconcilerState) : ReconcilerEvent → Prop
  | .stackWritten change => KeepsLabels change.stack
  | .childWritten event => event.KeepsStack s.cluster
  | .requested events => ∀ event ∈ events, event.KeepsStack s.cluster
  | .statusStored stack => KeepsLabels stack
  | _ => True

/-! ## Keys on their way through a queue -/

/-- The key is about to be sent to the queue, or is underway in it. -/
def ReconcilerState.SentTo (s : ReconcilerState) (q : KeyQueue) (key : String) : Prop :=
  key ∈ s.waiting q ∨ (s.queues q).Underway key

section SentTo

variable {cfg : ReconcilerConfig} {s s' : ReconcilerState} {a : ReconcilerEvent}
  {q q' : KeyQueue} {key : String} {keys : List String}

/-- A key that is sent waits. -/
theorem mem_enqueue (s : ReconcilerState) (q : KeyQueue) (h : key ∈ keys) :
    key ∈ (s.enqueue q keys).waiting q := by
  show key ∈ Function.update s.waiting q (s.waiting q ++ keys) q
  rw [Function.update_self]
  exact List.mem_append_right _ h

/-- To send keys loses none of those that wait. -/
theorem ReconcilerState.SentTo.enqueue (h : s.SentTo q key) :
    (s.enqueue q' keys).SentTo q key := by
  refine h.imp_left fun hkey => ?_
  show key ∈ Function.update s.waiting q' (s.waiting q' ++ keys) q
  by_cases hq : q = q'
  · subst hq
    rw [Function.update_self]
    exact List.mem_append_left _ hkey
  · rw [Function.update_of_ne hq]
    exact hkey

/-- What is underway in a queue stays so when a queue takes a step, or is taken. -/
theorem underway_update (hs : ∃ u, Represents u (s.queues q)) {b : ChanEvent} {c : StringChan}
    (hchan : ChanStep q'.bufferSize (s.queues q') b c) (h : (s.queues q).Underway key) :
    (Function.update s.queues q' c q).Underway key ∨ q = q' ∧ b = .output key := by
  by_cases hq : q = q'
  · subst hq
    rw [Function.update_self]
    obtain ⟨u, hu⟩ := hs
    exact (underway_step hu hchan h).imp_right fun hout => ⟨rfl, hout⟩
  · rw [Function.update_of_ne hq]
    exact Or.inl h

/-- What has been sent to a queue stays on its way until the loop takes it from
there. -/
theorem sentTo_step (hs : ∀ q, ∃ u, Represents u (s.queues q)) (hstep : ReconcilerStep cfg s a s')
    (h : s.SentTo q key) : s'.SentTo q key ∨ a = .taken q key := by
  cases hstep with
  -- steps that send keys
  | childDelivered _ _ => exact Or.inl h.enqueue
  | childResynced _ => exact Or.inl h.enqueue
  | stackStored _ => exact Or.inl h.enqueue
  | stackResynced _ => exact Or.inl h.enqueue
  | refused _ => exact Or.inl h.enqueue
  | statusRefused _ _ => exact Or.inl h.enqueue
  | @sent q₀ key₀ c hkey₀ hchan =>
    left
    rcases h with hkey | hkey
    · by_cases hsent : q = q₀ ∧ key = key₀
      · -- the push goroutine has received the key
        obtain ⟨rfl, rfl⟩ := hsent
        right
        show (Function.update s.queues q c q).Underway key
        rw [Function.update_self]
        cases hchan
        exact Or.inl rfl
      · left
        show key ∈ Function.update s.waiting q₀ ((s.waiting q₀).erase key₀) q
        by_cases hq : q = q₀
        · subst hq
          rw [Function.update_self]
          exact (List.mem_erase_of_ne fun hkey => hsent ⟨rfl, hkey⟩).mpr hkey
        · rw [Function.update_of_ne hq]
          exact hkey
    · exact Or.inr ((underway_update (hs q) hchan hkey).resolve_right nofun)
  -- steps inside a channel, none of which lets a key out
  | @queued q₀ b c hb hchan =>
    left
    rcases h with hkey | hkey
    · exact Or.inl hkey
    · refine Or.inr ((underway_update (hs q) hchan hkey).resolve_right ?_)
      rintro ⟨-, rfl⟩
      cases hb
  -- a channel lets a key out: this one or another
  | taken hidle hchan =>
    rcases h with hkey | hkey
    · exact Or.inl (Or.inl hkey)
    · rcases underway_update (hs q) hchan hkey with hkey' | ⟨rfl, hout⟩
      · exact Or.inl (Or.inr hkey')
      · cases hout
        exact Or.inr rfl
  | _ => exact Or.inl h

end SentTo

/-! ## A controller that is told of one stack -/

/-- A controller that publishes ports by load balancers. -/
def referenceConfig : ReconcilerConfig where
  runtime := Runtime.reference
  serviceStrategy := .loadBalancer

section OneStack

variable (cfg : ReconcilerConfig) (cluster : StackState) (stack : Latest.Stack)

/-- The controller has started, and one stack is stored. -/
def startedWith : ReconcilerState where
  cluster := cluster
  undelivered := []
  caches := cluster
  stackChanges := [.stored stack]
  stackStore _ := none
  waiting _ := []
  queues _ := newStringChan
  deletionQueue := []
  phase := .idle
  logged := ∅

/-- It has been told of the stack: the keys that are to be sent, the queue, and where
the loop is. -/
def toldOf (waiting : List String) (queue : StringChan) (phase : ReconcilePhase) :
    ReconcilerState :=
  { startedWith cluster stack with
    stackChanges := []
    stackStore := Function.update (fun _ => none) (stackKey stack) (some stack)
    waiting := Function.update (fun _ => []) .reconcile waiting
    queues := Function.update (fun _ => newStringChan) .reconcile queue
    phase := phase }

/-- The stack of an example is announced. -/
theorem step_told : ReconcilerStep cfg (startedWith cluster stack) .delivered
    (toldOf cluster stack [stackKey stack] newStringChan .idle) := by
  have hstep : ReconcilerStep cfg (startedWith cluster stack) .delivered _ := .stackStored rfl
  have hqueues : (startedWith cluster stack).queues =
      Function.update (fun _ => newStringChan) .reconcile newStringChan :=
    (Function.update_eq_self_iff.mpr rfl).symm
  unfold toldOf
  rw [← hqueues]
  exact hstep

variable {waiting : List String} {queue queue' : StringChan} {phase : ReconcilePhase}

/-- Its key is put into the channel. -/
theorem step_sent {key : String} (hchan : ChanStep 200 queue (.input key) queue') :
    ReconcilerStep cfg (toldOf cluster stack [key] queue phase) (.sent .reconcile key)
      (toldOf cluster stack [] queue' phase) := by
  have hstep : ReconcilerStep cfg (toldOf cluster stack [key] queue phase)
      (.sent .reconcile key) _ := .sent (List.mem_singleton_self key) hchan
  have herase : [key].erase key = [] := List.erase_cons_head key []
  simpa [toldOf, herase] using hstep

/-- The channel moves it on. -/
theorem step_queued {b : ChanEvent} (hb : b.internal = true) (hchan : ChanStep 200 queue b queue') :
    ReconcilerStep cfg (toldOf cluster stack waiting queue phase) (.queued .reconcile)
      (toldOf cluster stack waiting queue' phase) := by
  have hstep : ReconcilerStep cfg (toldOf cluster stack waiting queue phase)
      (.queued .reconcile) _ := .queued hb hchan
  simpa [toldOf] using hstep

/-- The reconciler takes the key. -/
theorem step_taken {key : String} (hchan : ChanStep 200 queue (.output key) queue') :
    ReconcilerStep cfg (toldOf cluster stack waiting queue .idle) (.taken .reconcile key)
      (toldOf cluster stack waiting queue' (.received key)) := by
  have hstep : ReconcilerStep cfg (toldOf cluster stack waiting queue .idle)
      (.taken .reconcile key) _ := .taken rfl hchan
  simpa [toldOf] using hstep

/-- The stack is found in the store. -/
theorem step_found (hlive : stack.objectMeta.deletionTimestamp = none) :
    ReconcilerStep cfg (toldOf cluster stack waiting queue (.received (stackKey stack))) .internal
      (toldOf cluster stack waiting queue (.resolving stack)) := by
  have hstack : (toldOf cluster stack waiting queue (.received (stackKey stack))).stackStore
      (stackKey stack) = some stack := by
    simp [toldOf]
  have hstep : ReconcilerStep cfg
      (toldOf cluster stack waiting queue (.received (stackKey stack))) .internal _ :=
    .found rfl hstack
  rw [if_pos hlive] at hstep
  exact hstep

/-- Its services are resolved, and the children are read next. -/
theorem step_resolved :
    ReconcilerStep cfg (toldOf cluster stack waiting queue (.resolving stack)) .internal
      (toldOf cluster stack waiting queue (.reading .children stack emptyStackState childKinds)) :=
  .resolved rfl

/-- The children of one kind are read. -/
theorem step_read {purpose : ReadPurpose} (seen : StackState) (kind : ChildKind)
    (left : List ChildKind) :
    ReconcilerStep cfg (toldOf cluster stack waiting queue (.reading purpose stack seen
        (kind :: left))) .internal
      (toldOf cluster stack waiting queue (.reading purpose stack (seen.readKind cluster kind)
        left)) :=
  .read rfl

/-- The key goes through the queue, and the loop takes it. -/
theorem run_received : ∃ labels content, (reconcilerSystem cfg).Run (startedWith cluster stack)
    labels (toldOf cluster stack [] ⟨content, [], false, .receiving, .receiving⟩
      (.received (stackKey stack))) ∧ ∀ s, ∀ a ∈ labels, LabelsRespected s a := by
  have h1 : (reconcilerSystem cfg).Run (startedWith cluster stack) _ _ :=
    .snoc .nil (step_told cfg cluster stack)
  have h2 := h1.snoc (step_sent cfg cluster stack (.input rfl rfl))
  have h3 := h2.snoc (step_queued cfg cluster stack rfl (.added rfl (Finset.notMem_empty _)))
  have h4 := h3.snoc (step_queued cfg cluster stack rfl (.handedOver rfl rfl rfl))
  have h5 := h4.snoc (step_queued cfg cluster stack rfl (.deleted rfl))
  refine ⟨_, _, h5.snoc (step_taken cfg cluster stack (.output rfl)), fun s => ?_⟩
  simp [LabelsRespected]

/-- The four caches are read one after the other. -/
theorem run_read (purpose : ReadPurpose) :
    (reconcilerSystem cfg).Run
      (toldOf cluster stack waiting queue (.reading purpose stack emptyStackState childKinds))
      [.internal, .internal, .internal, .internal]
      (toldOf cluster stack waiting queue (.reading purpose stack cluster [])) := by
  have h : (reconcilerSystem cfg).Run (toldOf cluster stack waiting queue
      (.reading purpose stack emptyStackState childKinds)) _ _ :=
    .snoc .nil (step_read cfg cluster stack _ _ _)
  have hall := ((h.snoc (step_read cfg cluster stack _ _ _)).snoc
    (step_read cfg cluster stack _ _ _)).snoc (step_read cfg cluster stack _ _ _)
  -- what was read, kind by kind, is the whole cluster
  have hseen : (((emptyStackState.readKind cluster .deployment).readKind cluster
      .statefulset).readKind cluster .daemonset).readKind cluster .service = cluster := rfl
  rw [hseen] at hall
  exact hall

end OneStack

end ComposeKube

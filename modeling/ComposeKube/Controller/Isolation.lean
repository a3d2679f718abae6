import ComposeKube.Lib.Transition
import ComposeKube.Controller.ChildrenStore
import ComposeKube.Controller.Requests
import ComposeKube.Controller.Soundness

/-!
# Stacks are isolated from each other

The reconcile loop of `stackreconciler.go` works on one stack at a time: it
reads the children of the stack from caches that hold all objects of the
cluster, computes a difference, and sends the requests for it. The requests
name objects by the namespace of the stack and a bare name, while the children
are found by an index key, a string made of a namespace and a label.

The caches hold what the cluster holds when a stack is taken up. Names,
namespaces and the label with the stack's name contain no `/`; the API server
refuses objects for which this is not so. Requests may fail for any reason, and
then the rest of them is not sent.

* `find_current` — the children of a stack are the objects in its namespace
  that have its label.
* `safe_requests` — the requests of a difference stay with these objects.
* `stacks_isolated` — all runs.
-/

namespace ComposeKube

open Go Transition

/-! ## The loop -/

/-- The object is in the namespace of the stack and carries its label. -/
def BelongsTo (stack : Latest.Stack) (r : Resource) : Prop :=
  r.objectMeta.namespace_ = stack.objectMeta.namespace_ ∧
    r.objectMeta.labels.get? Labels.forStackName = some stack.objectMeta.name

/-- The texts that keys are made of contain no separator. -/
structure Resource.SlashFree (r : Resource) : Prop where
  namespace_ : ComposeKube.SlashFree r.objectMeta.namespace_
  name : ComposeKube.SlashFree r.objectMeta.name
  label : ∀ stackName, r.objectMeta.labels.get? Labels.forStackName = some stackName →
    ComposeKube.SlashFree stackName

/-- A cluster of such objects. -/
def StackState.SlashFree (state : StackState) : Prop :=
  ∀ kind k r, state.find kind k = some r → r.SlashFree

/-- `stackresources.ObjKey` of a stack. -/
def stackKey (stack : Latest.Stack) : String :=
  objKey stack.objectMeta.namespace_ stack.objectMeta.name

/-- The difference that `reconcileChildren` applies, given the caches. -/
def reconcileDiff (rt : Runtime) (ord : RangeOrder ChildKind) (ord' : DiffOrder)
    (serviceStrategy : ServiceStrategy) (stack : Latest.Stack) (caches : StackState) :
    Except String StackStateDiff := do
  let current := getCurrentStackState ord caches (stackKey stack)
  let desired ← (stackToStack rt stack serviceStrategy current).1
  return computeDiff ord' current (setStackOwnership desired stack)

/-- The difference that `deleteStackChildren` applies, given the caches. -/
def deletionDiff (ord : RangeOrder ChildKind) (ord' : DiffOrder) (stack : Latest.Stack)
    (caches : StackState) : StackStateDiff :=
  computeDiff ord' (getCurrentStackState ord caches (stackKey stack)) emptyStackState

/-- The cluster, and the requests that are still to be sent for a stack. -/
structure LoopState where
  cluster : StackState
  stack : Latest.Stack
  pending : List ChildRequest

inductive LoopEvent where
  | start (stack : Latest.Stack)
  | request (stack : Latest.Stack) (req : ChildRequest)
  | abort

/-- The loop takes up a stack when it has dealt with the one before. A stack that
does not convert leads to no request. -/
inductive LoopStep : LoopState → LoopEvent → LoopState → Prop
  -- the stack is converted and compared with what is there
  | reconcile {s : LoopState} {rt : Runtime} {ord : RangeOrder ChildKind} {ord' : DiffOrder}
      {serviceStrategy : ServiceStrategy} {stack : Latest.Stack} {diff : StackStateDiff}
      (hidle : s.pending = []) (hns : SlashFree stack.objectMeta.namespace_)
      (hname : SlashFree stack.objectMeta.name)
      (hdiff : reconcileDiff rt ord ord' serviceStrategy stack s.cluster = .ok diff) :
      LoopStep s (.start stack) { cluster := s.cluster, stack, pending := diff.requests }
  -- everything of the stack is to go
  | delete {s : LoopState} {ord : RangeOrder ChildKind} {ord' : DiffOrder} {stack : Latest.Stack}
      (hidle : s.pending = []) (hns : SlashFree stack.objectMeta.namespace_)
      (hname : SlashFree stack.objectMeta.name) :
      LoopStep s (.start stack)
        { cluster := s.cluster, stack, pending := (deletionDiff ord ord' stack s.cluster).requests }
  -- the next request is served
  | request {s : LoopState} {server : Server} {req : ChildRequest} {rest : List ChildRequest}
      {cluster : StackState} (hpending : s.pending = req :: rest)
      (hvalid : req.Writes → req.resource.SlashFree)
      (hperform : perform server s.stack s.cluster req = .ok cluster) :
      LoopStep s (.request s.stack req) { s with cluster, pending := rest }
  -- a request has failed: the rest is not sent
  | abort {s : LoopState} : LoopStep s .abort { s with pending := [] }

/-- The loop on any cluster of well-named objects. -/
def loopSystem : System LoopState LoopEvent where
  init s := s.pending = [] ∧ s.cluster.Filed ∧ s.cluster.SlashFree
  step := LoopStep

/-! ## The children of a stack -/

/-- Filed objects of one namespace are under the keys of this namespace. -/
theorem StackState.keyed_of_filed {state : StackState} (hfiled : state.Filed) {namespace_ : String}
    (hns : ∀ kind k r, state.find kind k = some r → r.objectMeta.namespace_ = namespace_) :
    state.Keyed namespace_ := by
  obtain ⟨hdep, hsts, hds, hsvc⟩ := hfiled.maps
  constructor
  · exact fun k x hx =>
      ⟨hns .deployment k (.deployment x) (congrArg (Option.map _) hx), hdep k x hx⟩
  · exact fun k x hx =>
      ⟨hns .statefulset k (.statefulset x) (congrArg (Option.map _) hx), hsts k x hx⟩
  · exact fun k x hx => ⟨hns .daemonset k (.daemonset x) (congrArg (Option.map _) hx), hds k x hx⟩
  · exact fun k x hx => ⟨hns .service k (.service x) (congrArg (Option.map _) hx), hsvc k x hx⟩

section Current

variable {stack : Latest.Stack} (hns : SlashFree stack.objectMeta.namespace_)
  (hname : SlashFree stack.objectMeta.name)

include hns hname

/-- The index key of a stack is the key of what belongs to it. -/
theorem stackKey_mem_byStackIndexer {r : Resource} (hr : r.SlashFree) :
    stackKey stack ∈ byStackIndexer r.objectMeta ↔ BelongsTo stack r := by
  rw [mem_byStackIndexer]
  constructor
  · rintro ⟨stackName, hlabel, hkey⟩
    obtain ⟨hnamespace, rfl⟩ := objKey_inj_of_slashFree hns hname (hr.label _ hlabel) hkey
    exact ⟨hnamespace.symm, hlabel⟩
  · rintro ⟨hnamespace, hlabel⟩
    exact ⟨_, hlabel, by rw [stackKey, hnamespace]⟩

variable (ord : RangeOrder ChildKind) {cluster : StackState} (hfiled : cluster.Filed)
  (hfree : cluster.SlashFree)

include hfiled hfree

/-- **The children of a stack** are the objects that belong to it. -/
theorem find_current {kind : ChildKind} {k : String} {r : Resource} :
    (getCurrentStackState ord cluster (stackKey stack)).find kind k = some r ↔
      cluster.find kind k = some r ∧ BelongsTo stack r := by
  rw [find_getCurrentStackState ord hfiled, Option.filter_eq_some_iff, decide_eq_true_eq]
  refine and_congr_right fun hr => ?_
  exact stackKey_mem_byStackIndexer hns hname (hfree kind k r hr)

/-- The current state of a stack is in the stack's namespace. -/
theorem current_keyed :
    (getCurrentStackState ord cluster (stackKey stack)).Keyed stack.objectMeta.namespace_ := by
  refine StackState.keyed_of_filed (StackState.newStackState_filed _) fun kind k r hr => ?_
  exact ((find_current hns hname ord hfiled hfree).mp hr).2.1

end Current

/-! ## Requests that stay with a stack -/

/-- The objects that the requests delete or update belong to the stack, and no
request comes back to what another one has written. -/
structure Safe (stack : Latest.Stack) (store : StackState) (reqs : List ChildRequest) : Prop where
  owned : ∀ req ∈ reqs, req.Touches → ∀ r,
    store.find (req.target stack.objectMeta.namespace_).1
      (req.target stack.objectMeta.namespace_).2 = some r → BelongsTo stack r
  apart : reqs.Pairwise fun req req' => req.Writes → req'.Touches →
    req.target stack.objectMeta.namespace_ ≠ req'.target stack.objectMeta.namespace_
  placed : ∀ req ∈ reqs, req.Writes →
    req.resource.objectMeta.namespace_ = stack.objectMeta.namespace_

/-- With nothing left to send, everything is safe. -/
theorem safe_nil (stack : Latest.Stack) (store : StackState) : Safe stack store [] where
  owned _ h := absurd h List.not_mem_nil
  apart := .nil
  placed _ h := absurd h List.not_mem_nil

section Safe

variable {stack : Latest.Stack} {store : StackState}

/-- Requests for different kinds do not meet. -/
theorem Safe.append {reqs reqs' : List ChildRequest} (h : Safe stack store reqs)
    (h' : Safe stack store reqs')
    (hkinds : ∀ req ∈ reqs, ∀ req' ∈ reqs', req.resource.kind ≠ req'.resource.kind) :
    Safe stack store (reqs ++ reqs') where
  owned req hreq := by
    rcases List.mem_append.mp hreq with hreq | hreq
    · exact h.owned req hreq
    · exact h'.owned req hreq
  apart := by
    -- requests of different kinds have different targets
    refine List.pairwise_append.mpr ⟨h.apart, h'.apart, fun req hreq req' hreq' _ _ heq => ?_⟩
    exact hkinds req hreq req' hreq' (congrArg Prod.fst heq)
  placed req hreq := by
    rcases List.mem_append.mp hreq with hreq | hreq
    · exact h.placed req hreq
    · exact h'.placed req hreq

/-- The requests for one kind: deletions first, then creations, then updates. -/
theorem mem_requestsOf {α : Type} {of : α → Resource} {changes : Changes α} {req : ChildRequest} :
    req ∈ requestsOf of changes ↔ (∃ x ∈ changes.toDelete, .delete (of x) = req) ∨
      (∃ x ∈ changes.toAdd, .create (of x) = req) ∨
      ∃ x ∈ changes.toUpdate, .update (of x) = req := by
  simp only [requestsOf, List.mem_append, List.mem_map]

variable {α : Type} [KubeObject α] (children : ChildMap α)

/-- They are all of this kind. -/
theorem kind_of_mem_requestsOf {changes : Changes α} {req : ChildRequest}
    (h : req ∈ requestsOf children.of changes) : req.resource.kind = children.kind := by
  rcases mem_requestsOf.mp h with ⟨x, -, rfl⟩ | ⟨x, -, rfl⟩ | ⟨x, -, rfl⟩
  · exact children.kind_of x
  · exact children.kind_of x
  · exact children.kind_of x

/-- Their targets are the keys of the objects. -/
theorem target_of {req : ChildRequest} {x : α} (h : req.resource = children.of x)
    (namespace_ : String) : req.target namespace_ = (children.kind, nameKey namespace_ x) := by
  rw [ChildRequest.target, h, children.kind_of, children.nameKey_of]

/-- No request for one kind comes back to what another one has written: it would
be an update, after an update or a creation. -/
theorem apart_requestsOf {cmp : Comparison α} {namespace_ : String}
    (hadopt : ∀ c d, nameKey namespace_ (cmp.adopt c d) = nameKey namespace_ d) {C D : Map α}
    {changes : Changes α} (h : IsDiff cmp (nameKey namespace_) C D changes)
    (hD : Keyed namespace_ D) :
    (requestsOf children.of changes).Pairwise fun req req' => req.Writes → req'.Touches →
      req.target namespace_ ≠ req'.target namespace_ := by
  have hne {req req' : ChildRequest} {x y : α} (hx : req.resource = children.of x)
      (hy : req'.resource = children.of y) (hkey : nameKey namespace_ x ≠ nameKey namespace_ y) :
      req.target namespace_ ≠ req'.target namespace_ := by
    rw [target_of children hx, target_of children hy]
    exact fun heq => hkey (congrArg Prod.snd heq)
  -- deletions write nothing and creations touch nothing, which leaves the updates
  refine List.pairwise_append.mpr ⟨?_, List.pairwise_append.mpr ⟨?_, ?_, ?_⟩, ?_⟩
  · exact List.pairwise_map.mpr (List.pairwise_of_forall fun _ _ hwrites => hwrites.elim)
  · exact List.pairwise_map.mpr (List.pairwise_of_forall fun _ _ _ htouches => htouches.elim)
  · refine List.pairwise_map.mpr ((List.pairwise_map.mp h.nodup_toUpdate).imp ?_)
    exact fun hkey _ _ => hne rfl rfl hkey
  · intro req hreq req' hreq' _ _
    obtain ⟨x, hx, rfl⟩ := List.mem_map.mp hreq
    obtain ⟨y, hy, rfl⟩ := List.mem_map.mp hreq'
    -- what is created was not there, and what is updated was
    exact hne rfl rfl (h.key_ne_of_toAdd_of_toUpdate hD.filedBy hadopt hx hy)
  · intro req hreq req' _ hwrites
    obtain ⟨x, -, rfl⟩ := List.mem_map.mp hreq
    exact hwrites.elim

/-- **The requests for one kind are safe** when the current objects are what the
cluster holds of the stack. -/
theorem safe_requestsOf {cmp : Comparison α} (hcmp : cmp.adopt = adoptResourceVersion)
    {C D : Map α} {changes : Changes α}
    (h : IsDiff cmp (nameKey stack.objectMeta.namespace_) C D changes)
    (hC : Keyed stack.objectMeta.namespace_ C) (hD : Keyed stack.objectMeta.namespace_ D)
    (hbelongs : ∀ k c, C.lookup k = some c → ∀ r, store.find children.kind k = some r →
      BelongsTo stack r) :
    Safe stack store (requestsOf children.of changes) := by
  have hadopt (c d : α) : nameKey stack.objectMeta.namespace_ (cmp.adopt c d) =
      nameKey stack.objectMeta.namespace_ d := by
    rw [hcmp, nameKey_adoptResourceVersion]
  have hns (x : α) : (children.of x).objectMeta.namespace_ = (getMeta x).namespace_ :=
    congrArg ObjectMeta.namespace_ (children.getMeta_of x)
  -- what is touched belongs to the stack; the targets are apart; what is written is in the
  -- namespace
  refine ⟨fun req hreq htouches r hr => ?_, apart_requestsOf children hadopt h hD,
    fun req hreq hwrites => ?_⟩
  · rcases mem_requestsOf.mp hreq with ⟨x, hx, rfl⟩ | ⟨x, -, rfl⟩ | ⟨x, hx, rfl⟩
    · obtain ⟨k, hk, -⟩ := (h.mem_toDelete x).mp hx
      rw [target_of children rfl, hC.filedBy k x hk] at hr
      exact hbelongs k x hk r hr
    · cases htouches
    · -- an updated object has the key of a current one
      obtain ⟨c, -, -, hc, -⟩ :=
        (h.mem_toUpdate_keys hD.filedBy hadopt _).mp (List.mem_map_of_mem hx)
      rw [target_of children rfl] at hr
      exact hbelongs _ c hc r hr
  · rcases mem_requestsOf.mp hreq with ⟨x, -, rfl⟩ | ⟨x, hx, rfl⟩ | ⟨x, hx, rfl⟩
    · cases hwrites
    · obtain ⟨k, hk, -⟩ := (h.mem_toAdd x).mp hx
      exact (hns x).trans (hD k x hk).1
    · obtain ⟨k, c, d, hd, -, -, -, rfl⟩ := (h.mem_toUpdate x).mp hx
      refine (hns _).trans ?_
      rw [hcmp, adoptResourceVersion, KubeObject.getMeta_setMeta]
      exact (hD k d hd).1

/-- **The requests of a difference are safe.** -/
theorem safe_requests (ord : DiffOrder) {C D : StackState}
    (hC : C.Keyed stack.objectMeta.namespace_) (hD : D.Keyed stack.objectMeta.namespace_)
    (hbelongs : ∀ kind k c, C.find kind k = some c → ∀ r, store.find kind k = some r →
      BelongsTo stack r) :
    Safe stack store (computeDiff ord C D).requests := by
  obtain ⟨hdep, hsts, hds, hsvc⟩ := computeDiff_isDiff ord C hD
  have hfound {α : Type} [KubeObject α] (children : ChildMap α) (k : String) (c : α)
      (hc : (children.get C).lookup k = some c) :
      ∀ r, store.find children.kind k = some r → BelongsTo stack r :=
    hbelongs children.kind k (children.of c) (by rw [children.find_eq, hc]; rfl)
  -- the four blocks are of different kinds
  have hkinds {α β : Type} [KubeObject α] [KubeObject β] (children : ChildMap α)
      (children' : ChildMap β) (hne : children.kind ≠ children'.kind) (ch : Changes α)
      (ch' : Changes β) : ∀ req ∈ requestsOf children.of ch, ∀ req' ∈ requestsOf children'.of ch',
        req.resource.kind ≠ req'.resource.kind := by
    intro req hreq req' hreq'
    rw [kind_of_mem_requestsOf children hreq, kind_of_mem_requestsOf children' hreq']
    exact hne
  have hdep' := safe_requestsOf deploymentMap rfl hdep hC.deployments hD.deployments
    (hfound deploymentMap)
  have hsts' := safe_requestsOf statefulsetMap rfl hsts hC.statefulsets hD.statefulsets
    (hfound statefulsetMap)
  have hds' := safe_requestsOf daemonsetMap rfl hds hC.daemonsets hD.daemonsets
    (hfound daemonsetMap)
  have hsvc' := safe_requestsOf serviceMap rfl hsvc hC.services hD.services (hfound serviceMap)
  refine hds'.append (hdep'.append (hsts'.append hsvc' ?_) fun req hreq => ?_) fun req hreq => ?_
  · exact hkinds statefulsetMap serviceMap (by decide) _ _
  · exact List.forall_mem_append.mpr
      ⟨hkinds deploymentMap statefulsetMap (by decide) _ _ req hreq,
        hkinds deploymentMap serviceMap (by decide) _ _ req hreq⟩
  · exact List.forall_mem_append.mpr
      ⟨hkinds daemonsetMap deploymentMap (by decide) _ _ req hreq, List.forall_mem_append.mpr
        ⟨hkinds daemonsetMap statefulsetMap (by decide) _ _ req hreq,
          hkinds daemonsetMap serviceMap (by decide) _ _ req hreq⟩⟩

/-- The requests for the children of a stack are safe. -/
theorem safe_current (hns : SlashFree stack.objectMeta.namespace_)
    (hname : SlashFree stack.objectMeta.name) (ord : RangeOrder ChildKind) (hfiled : store.Filed)
    (hfree : store.SlashFree) (ord' : DiffOrder)
    {D : StackState} (hD : D.Keyed stack.objectMeta.namespace_) :
    Safe stack store
      (computeDiff ord' (getCurrentStackState ord store (stackKey stack)) D).requests := by
  refine safe_requests ord' (current_keyed hns hname ord hfiled hfree) hD fun kind k c hc r hr => ?_
  obtain ⟨hfind, hbelongs⟩ := (find_current hns hname ord hfiled hfree).mp hc
  obtain rfl := Option.some.inj (hfind.symm.trans hr)
  exact hbelongs

/-- Performing the first request leaves the others safe. -/
theorem Safe.perform {server : Server} {store' : StackState} {req : ChildRequest}
    {rest : List ChildRequest} (h : Safe stack store (req :: rest))
    (hperform : perform server stack store req = .ok store') : Safe stack store' rest where
  owned req' hreq' htouches r hr := by
    rw [find_perform hperform] at hr
    split at hr
    case isTrue htarget =>
      -- only a written object is at the target, and no request comes back to it
      have hwrites := (ChildRequest.result_eq_some hr).1
      exact absurd htarget (List.rel_of_pairwise_cons h.apart hreq' hwrites htouches)
    case isFalse => exact h.owned req' (List.mem_cons_of_mem _ hreq') htouches r hr
  apart := h.apart.of_cons
  placed req' hreq' := h.placed req' (List.mem_cons_of_mem _ hreq')

end Safe

/-! ## Runs -/

/-- What holds whenever the loop is about to take a step. -/
structure LoopState.Inv (s : LoopState) : Prop where
  filed : s.cluster.Filed
  slashFree : s.cluster.SlashFree
  safe : Safe s.stack s.cluster s.pending

/-- **The step lemma.** -/
theorem loopStep_inv {s s' : LoopState} {event : LoopEvent} (hs : s.Inv)
    (h : LoopStep s event s') : s'.Inv := by
  cases h with
  | @reconcile rt ord ord' serviceStrategy stack diff _ hns hname hdiff =>
    obtain ⟨D, hD, hdiff⟩ := bind_eq_ok.mp hdiff
    obtain rfl := pure_eq_ok.mp hdiff
    have hcurrent := current_keyed hns hname ord hs.filed hs.slashFree
    exact ⟨hs.filed, hs.slashFree, safe_current hns hname ord hs.filed hs.slashFree ord'
      (creatable_of_stackToStack ord' hcurrent hD).1⟩
  | @delete ord ord' stack _ hns hname =>
    exact ⟨hs.filed, hs.slashFree, safe_current hns hname ord hs.filed hs.slashFree ord'
      (emptyStackState_keyed _)⟩
  | @request server req rest cluster hpending hvalid hperform =>
    have hsafe := hs.safe
    rw [hpending] at hsafe
    have hplaced := hsafe.placed req List.mem_cons_self
    -- an object of the new cluster is an old one, or the one that has been written
    refine ⟨fun kind k r hr => ?_, fun kind k r hr => ?_, hsafe.perform hperform⟩
    · rw [find_perform hperform] at hr
      split at hr
      case isFalse => exact hs.filed kind k r hr
      case isTrue htarget =>
        obtain ⟨hwrites, hkind, _, _, hmeta⟩ := ChildRequest.result_eq_some hr
        rw [← htarget, Resource.kindKey_eq, hkind, hmeta]
        show (_, objKey req.resource.objectMeta.namespace_ _) = _
        rw [hplaced hwrites]
        rfl
    · rw [find_perform hperform] at hr
      split at hr
      case isFalse => exact hs.slashFree kind k r hr
      case isTrue =>
        obtain ⟨hwrites, -, _, _, hmeta⟩ := ChildRequest.result_eq_some hr
        obtain ⟨hns, hname, hlabel⟩ := hvalid hwrites
        constructor
        · rw [hmeta]
          exact hns
        · rw [hmeta]
          exact hname
        · rw [hmeta]
          exact hlabel
  | abort => exact ⟨hs.filed, hs.slashFree, safe_nil _ _⟩

/-- The invariant holds in every state that is reached. -/
theorem loop_inv {s : LoopState} (h : loopSystem.Reachable s) : s.Inv := by
  refine h.induct (I := LoopState.Inv) (fun s hs => ?_) fun s event s' hs _ hstep =>
    loopStep_inv hs hstep
  obtain ⟨hidle, hfiled, hfree⟩ := hs
  refine ⟨hfiled, hfree, ?_⟩
  rw [hidle]
  exact safe_nil _ _

/-- A step changes no object but those of the stack that a request is for. -/
theorem loopStep_frame {s s' : LoopState} {event : LoopEvent} (hs : s.Inv)
    (h : LoopStep s event s') {kind : ChildKind} {k : String} {r : Resource}
    (hr : s.cluster.find kind k = some r)
    (hother : ∀ stack req, event = .request stack req → ¬BelongsTo stack r) :
    s'.cluster.find kind k = some r := by
  cases h with
  | reconcile => exact hr
  | delete => exact hr
  | abort => exact hr
  | @request server req rest cluster hpending hvalid hperform =>
    have hsafe := hs.safe
    rw [hpending] at hsafe
    show cluster.find kind k = some r
    rw [find_perform hperform]
    split
    case isFalse => exact hr
    case isTrue htarget =>
      obtain ⟨rfl, rfl⟩ := Prod.mk.inj htarget
      -- an object in the way makes a creation fail, and the others touch their own only
      cases req with
      | create r' => cases hr.symm.trans (find_of_create hperform)
      | delete r' =>
        exact absurd (hsafe.owned _ List.mem_cons_self trivial r hr) (hother _ _ rfl)
      | update r' =>
        exact absurd (hsafe.owned _ List.mem_cons_self trivial r hr) (hother _ _ rfl)

/-- **Stacks are isolated from each other.** Whatever the loop has done before, an
object that a request for a stack deletes or updates belongs to the stack, and
an object keeps its contents as long as no request is for a stack that it
belongs to. -/
theorem stacks_isolated {s : LoopState} (h : loopSystem.Reachable s) :
    (∀ stack req s', loopSystem.step s (.request stack req) s' → req.Touches →
      ∀ r, s.cluster.find (req.target stack.objectMeta.namespace_).1
        (req.target stack.objectMeta.namespace_).2 = some r → BelongsTo stack r) ∧
    ∀ events s', loopSystem.Run s events s' → ∀ kind k r, s.cluster.find kind k = some r →
      (∀ stack req, .request stack req ∈ events → ¬BelongsTo stack r) →
      s'.cluster.find kind k = some r := by
  constructor
  · intro stack req s' hstep htouches r hr
    -- the request is the next of those that are pending, which are safe
    have hsafe := (loop_inv h).safe
    cases hstep with
    | request hpending _ _ =>
      rw [hpending] at hsafe
      exact hsafe.owned req List.mem_cons_self htouches r hr
  · -- along the run, the state before each step is reachable
    intro events s' hrun kind k r hr hother
    induction hrun with
    | nil => exact hr
    | @snoc events s₁ s₂ event hrun hstep ih =>
      have hr₁ := ih fun stack req hmem => hother stack req (List.mem_append_left _ hmem)
      refine loopStep_frame (loop_inv (h.run hrun)) hstep hr₁ fun stack req hevent => ?_
      exact hother stack req (List.mem_append_right _ (hevent ▸ List.mem_singleton_self _))

/-- The stack of `testDeploymentForStack`. -/
def testStack : Latest.Stack :=
  { (default : Latest.Stack) with
    objectMeta := { (default : ObjectMeta) with name := "test-stack", namespace_ := "test-ns" } }

/-- A service of another stack in the same namespace. -/
def otherService : Resource :=
  .service
    { (default : Service) with
      objectMeta :=
        { (default : ObjectMeta) with
          name := "web", namespace_ := "test-ns"
          labels := some (Labels.forService "other-stack" "web") } }

/-- The children of a stack are deleted next to those of another one. -/
theorem stacks_isolated_testStack :
    ∃ s s' : LoopState, loopSystem.step s
        (.request testStack (.delete (testDeploymentForStack "test-stack" (some 1)))) s' ∧
      s.cluster.find .deployment "test-ns/dep1" =
        some (testDeploymentForStack "test-stack" (some 1)) ∧
      BelongsTo testStack (testDeploymentForStack "test-stack" (some 1)) ∧
      s'.cluster.find .deployment "test-ns/dep1" = none ∧
      s'.cluster.find .service "test-ns/web" = some otherService := by
  have hfree : (testCaches.add otherService).SlashFree := by
    intro kind k r hr
    rw [StackState.find_add, testCaches, StackState.find_add] at hr
    split at hr
    · obtain rfl := Option.some.inj hr
      exact ⟨by decide, by decide, fun stackName h => Option.some.inj h ▸ by decide⟩
    · split at hr
      · obtain rfl := Option.some.inj hr
        exact ⟨by decide, by decide, fun stackName h => Option.some.inj h ▸ by decide⟩
      · cases kind <;> cases hr
  have hinit : loopSystem.init ⟨testCaches.add otherService, testStack, []⟩ :=
    ⟨rfl, testCaches_filed.add _, hfree⟩
  -- the deletion of the stack, with one request for its deployment
  have hpending : (deletionDiff (.ascending _) (.ascending _) testStack
      (testCaches.add otherService)).requests =
        [.delete (testDeploymentForStack "test-stack" (some 1))] := rfl
  have hstart : loopSystem.step ⟨testCaches.add otherService, testStack, []⟩ (.start testStack)
      ⟨testCaches.add otherService, testStack,
        [.delete (testDeploymentForStack "test-stack" (some 1))]⟩ := by
    rw [← hpending]
    exact .delete hinit.1 (by decide) (by decide)
  have hreach : loopSystem.Reachable _ := .step (.init hinit) trivial hstart
  have hperform : perform Server.constant testStack (testCaches.add otherService)
      (.delete (testDeploymentForStack "test-stack" (some 1))) =
        .ok ((testCaches.add otherService).remove (.deployment, "test-ns/dep1")) := rfl
  have hstep : loopSystem.step
      ⟨testCaches.add otherService, testStack,
        [.delete (testDeploymentForStack "test-stack" (some 1))]⟩ _ _ :=
    .request rfl False.elim hperform
  obtain ⟨hbelongs, hkept⟩ := stacks_isolated hreach
  refine ⟨_, _, hstep, rfl, hbelongs _ _ _ hstep trivial _ rfl, rfl, ?_⟩
  -- the other service belongs to another stack
  refine hkept _ _ (.snoc .nil hstep) _ _ _ rfl fun stack req hmem hother => ?_
  obtain ⟨rfl, -⟩ := LoopEvent.request.inj (List.mem_singleton.mp hmem)
  exact absurd hother.2 (by decide)

end ComposeKube

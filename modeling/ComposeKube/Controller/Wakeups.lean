import ComposeKube.Controller.Loop

/-!
# Changes come back to the loop

The loop is woken by the events of children. An event wakes the stack whose label
the object carries, so the changes of a stack's children are told, and what the
loop itself has written for a stack comes back as an event that wakes the stack.

* `mem_sent_of_indexed_ne` — an event wakes the stacks whose children it changes.
* `belongsTo_desired` — what a stack is converted to carries its label.
* `requestFor_reconcileDiff` — the requests of a reconciliation.
* `leads_requestEvents` — the watches tell what a request has done.
* `owed_of_performed` — and the stack is woken by it.
-/

namespace ComposeKube

open Go Transition Replication

/-! ## Events and the stacks they wake -/

/-- **An event wakes the stacks whose children it changes.** -/
theorem mem_sent_of_indexed_ne {caches : StackState} {event : ChildEvent} {key : String}
    (hoccurs : childFeed.Occurs caches event)
    (hne : (event.after caches).indexed key ≠ caches.indexed key) : key ∈ event.sent true := by
  obtain ⟨hoccurs, hkeeps⟩ := hoccurs
  by_contra hsent
  refine hne (funext fun kind => funext fun k => ?_)
  unfold StackState.indexed
  rw [event.find_after]
  -- the object is not indexed under the key, neither before nor after the event
  cases event with
  | add obj =>
    have hnew : key ∉ byStackIndexer obj.objectMeta := by
      rw [← onEvent_eq]
      exact hsent
    dsimp only
    split
    case isFalse => rfl
    case isTrue hk =>
      have hnone : caches.find kind k = none := by
        rw [← show obj.kindKey.1 = kind by rw [hk], ← show obj.kindKey.2 = k by rw [hk]]
        exact hoccurs
      rw [hnone, Option.filter_some_neg (by simpa using hnew), Option.filter_none]
  | update oldObj newObj =>
    have hnew : key ∉ byStackIndexer newObj.objectMeta := by
      rw [← onEvent_eq]
      exact hsent
    obtain ⟨hfind, hsame⟩ := hoccurs
    have hseen : ∀ r, some newObj = some r → SameObject oldObj r := by
      rintro r ⟨⟩
      exact hsame
    have hold : key ∉ byStackIndexer oldObj.objectMeta := fun hindex =>
      hsent ((sends_indexed_iff hseen).mpr hkeeps key hindex)
    dsimp only
    split
    case isFalse => rfl
    case isTrue hk =>
      have hsome : caches.find kind k = some oldObj := by
        rw [hsame.kindKey, hk] at hfind
        exact hfind
      rw [hsome, Option.filter_some_neg (by simpa using hnew),
        Option.filter_some_neg (by simpa using hold)]
  | delete obj =>
    obtain ⟨stored, hfind, hsame⟩ := hoccurs
    have hold : key ∉ byStackIndexer stored.objectMeta := fun hindex =>
      hsent ((sends_indexed_iff hsame).mpr (hkeeps stored hfind) key hindex)
    dsimp only
    split
    case isFalse => rfl
    case isTrue hk =>
      have hsome : caches.find kind k = some stored := by
        rw [hk] at hfind
        exact hfind
      rw [hsome, Option.filter_some_neg (by simpa using hold), Option.filter_none]

/-- Where the caches of a stack's children differ from the cluster, an event that
wakes the stack has not been delivered. -/
theorem exists_sent_of_indexed_ne {caches cluster : StackState} {undelivered : List ChildEvent}
    {key : String} (h : childFeed.Leads caches undelivered cluster)
    (hne : caches.indexed key ≠ cluster.indexed key) :
    ∃ event ∈ undelivered, key ∈ event.sent true := by
  obtain ⟨state, event, hevent, hoccurs, hview⟩ :=
    h.exists_of_view_ne (fun state => state.indexed key) hne
  exact ⟨event, hevent, mem_sent_of_indexed_ne hoccurs hview⟩

/-- A cluster whose caches are filed is filed. -/
theorem filed_of_leads {caches cluster : StackState} {undelivered : List ChildEvent}
    (h : childFeed.Leads caches undelivered cluster) (hfiled : caches.Filed) : cluster.Filed := by
  induction h with
  | nil => exact hfiled
  | cons _ _ ih => exact ih (ChildEvent.after_filed hfiled _)

/-! ## What a stack is converted to -/

section Desired

variable {rt : Runtime} {stack : Latest.Stack} {strategy : ServiceStrategy}

/-- The label by which the objects of a service are found. -/
theorem label_of_keepsLabels (hnamed : WellNamed stack) (hlabels : KeepsLabels stack)
    {spec : Latest.StackSpec} (hspec : stack.spec = some spec) {ctx : ServiceContext}
    (hctx : ctx ∈ stackContexts rt stack spec strategy) :
    ctx.meta_.labels.get? Labels.forStackName = some stack.objectMeta.name := by
  obtain ⟨-, hname, hsrv⟩ := mem_serviceContexts hctx
  obtain ⟨hservice, hown⟩ :=
    hlabels spec hspec ctx.srv ((sortSpec_services_perm rt spec).mem_iff.mp hsrv)
  have hlookup : ctx.labelSelector.lookup Labels.forStackName = some stack.objectMeta.name := by
    rw [← hname]
    exact Labels.lookup_forService_stackName (by rw [hname]; exact hnamed.name_ne) hservice
  refine (ServiceContext.keeps_iff hlookup).mp fun v hv => ?_
  rw [hown v hv, hlookup]

/-- One kind of workloads: a built one has the labels of its service, a skipped one
is a current one. -/
theorem label_toWorkloads {α : Type} [KubeObject α] [Inhabited α] {kind : WorkloadKind α}
    (hkind : kind.Lawful) {name namespace_ : String} {m : Map α} (hm : Keyed namespace_ m)
    (hcurrent : ∀ k x, m.lookup k = some x →
      (getMeta x).labels.get? Labels.forStackName = some name)
    {ctxs : List ServiceContext}
    (hctxs : ∀ ctx ∈ ctxs, ctx.meta_.labels.get? Labels.forStackName = some name)
    {stackDirty : Bool} {l : List α} (h : toWorkloads kind stackDirty m ctxs = .ok l) {k : String}
    {x : α} (hx : (byKey l).lookup k = some x) :
    (getMeta x).labels.get? Labels.forStackName = some name := by
  obtain ⟨ctx, hlast, hx⟩ := (lookup_workload_iff hkind hm.filedByKey h k x).mp hx
  rcases toWorkload_eq_ok.mp hx with ⟨hskip, rfl⟩ | ⟨-, parts, -, rfl⟩
  · exact hcurrent k _ (exists_lookup_of_skips hkind hskip)
  · rw [labels_desired hkind]
    exact hctxs ctx (lastWith_eq_some hlast).1

/-- The maps of a state, read through `find`. -/
theorem StackState.forall_find_iff {P : ObjectMeta → Prop} {state : StackState} :
    (∀ kind k r, state.find kind k = some r → P r.objectMeta) ↔
      (∀ k x, state.deployments.lookup k = some x → P x.objectMeta) ∧
      (∀ k x, state.statefulsets.lookup k = some x → P x.objectMeta) ∧
      (∀ k x, state.daemonsets.lookup k = some x → P x.objectMeta) ∧
      ∀ k x, state.services.lookup k = some x → P x.objectMeta := by
  constructor
  · intro h
    refine ⟨fun k x hx => h .deployment k (.deployment x) ?_,
      fun k x hx => h .statefulset k (.statefulset x) ?_,
      fun k x hx => h .daemonset k (.daemonset x) ?_,
      fun k x hx => h .service k (.service x) ?_⟩
    · exact congrArg (Option.map _) hx
    · exact congrArg (Option.map _) hx
    · exact congrArg (Option.map _) hx
    · exact congrArg (Option.map _) hx
  · rintro ⟨hdep, hsts, hds, hsvc⟩ kind k r hr
    cases kind <;> obtain ⟨x, hx, rfl⟩ := Option.map_eq_some_iff.mp hr
    · exact hdep k x hx
    · exact hsts k x hx
    · exact hds k x hx
    · exact hsvc k x hx

/-- **What a stack is converted to belongs to it**, when the current children do. -/
theorem belongsTo_desired (hnamed : WellNamed stack) (hlabels : KeepsLabels stack)
    {C D : StackState} (hC : C.Keyed stack.objectMeta.namespace_)
    (hcurrent : ∀ kind k r, C.find kind k = some r → BelongsTo stack r)
    (h : (stackToStack rt stack strategy C).1 = .ok D) :
    ∀ kind k r, (setStackOwnership D stack).find kind k = some r → BelongsTo stack r := by
  obtain ⟨spec, hspec, hchildren⟩ := children_of_stackToStack h
  have hD := hchildren.keyed hC stackContexts_namespace
  have hctxs : ∀ ctx ∈ stackContexts rt stack spec strategy,
      ctx.meta_.labels.get? Labels.forStackName = some stack.objectMeta.name :=
    fun ctx => label_of_keepsLabels hnamed hlabels hspec
  have hfilter (w : Workload) : ∀ ctx ∈ contextsOf w (stackContexts rt stack spec strategy),
      ctx.meta_.labels.get? Labels.forStackName = some stack.objectMeta.name :=
    fun ctx hctx => hctxs ctx (List.mem_of_mem_filter hctx)
  obtain ⟨hdep, hsts, hds, -⟩ := (StackState.forall_find_iff (P := fun m =>
    m.labels.get? Labels.forStackName = some stack.objectMeta.name)).mp
      fun kind k r hr => (hcurrent kind k r hr).2
  obtain ⟨deployments, hdeployments, hDdep⟩ := hchildren.deployments
  obtain ⟨statefulsets, hstatefulsets, hDsts⟩ := hchildren.statefulsets
  obtain ⟨daemonsets, hdaemonsets, hDds⟩ := hchildren.daemonsets
  -- owner references change neither the namespace nor the labels
  refine (StackState.forall_find_iff (P := fun m => m.namespace_ = stack.objectMeta.namespace_ ∧
    m.labels.get? Labels.forStackName = some stack.objectMeta.name)).mpr ⟨?_, ?_, ?_, ?_⟩
  · intro k x hx
    obtain ⟨y, hy, rfl⟩ := Option.map_eq_some_iff.mp ((Map.lookup_mapValues _ _ k).symm.trans hx)
    refine ⟨(hD.deployments k y hy).1, ?_⟩
    rw [hDdep] at hy
    have hlabel := label_toWorkloads deploymentKind_lawful hC.deployments hdep (hfilter _)
      hdeployments hy
    exact hlabel
  · intro k x hx
    obtain ⟨y, hy, rfl⟩ := Option.map_eq_some_iff.mp ((Map.lookup_mapValues _ _ k).symm.trans hx)
    refine ⟨(hD.statefulsets k y hy).1, ?_⟩
    rw [hDsts] at hy
    have hlabel := label_toWorkloads statefulsetKind_lawful hC.statefulsets hsts (hfilter _)
      hstatefulsets hy
    exact hlabel
  · intro k x hx
    obtain ⟨y, hy, rfl⟩ := Option.map_eq_some_iff.mp ((Map.lookup_mapValues _ _ k).symm.trans hx)
    refine ⟨(hD.daemonsets k y hy).1, ?_⟩
    rw [hDds] at hy
    have hlabel := label_toWorkloads daemonsetKind_lawful hC.daemonsets hds (hfilter _)
      hdaemonsets hy
    exact hlabel
  · intro k x hx
    obtain ⟨y, hy, rfl⟩ := Option.map_eq_some_iff.mp ((Map.lookup_mapValues _ _ k).symm.trans hx)
    refine ⟨(hD.services k y hy).1, ?_⟩
    rw [hchildren.services, lookup_service_eq] at hy
    obtain ⟨slot, hslot, rfl⟩ := Option.map_eq_some_iff.mp hy
    exact hctxs slot.1 (mem_serviceSlots.mp (lastWith_eq_some hslot).1).1

end Desired

/-! ## Requests for a stack -/

/-- A request that has been computed from the children `C` of a stack: what it
writes belongs to the stack, and what it deletes is one of the children. -/
structure RequestFor (stack : Latest.Stack) (C : StackState) (req : ChildRequest) : Prop where
  writes : req.Writes → BelongsTo stack req.resource
  deletes : ∀ r, req = .delete r → C.find (req.target stack.objectMeta.namespace_).1
    (req.target stack.objectMeta.namespace_).2 = some r

section Requests

variable {stack : Latest.Stack}

/-- The requests for one kind of children. -/
theorem requestFor_requestsOf {α : Type} [KubeObject α] (children : ChildMap α)
    {cmp : Comparison α} (hcmp : cmp.adopt = adoptResourceVersion) {C D : StackState}
    {changes : Changes α}
    (h : IsDiff cmp (nameKey stack.objectMeta.namespace_) (children.get C) (children.get D) changes)
    (hC : Keyed stack.objectMeta.namespace_ (children.get C))
    (hD : ∀ kind k r, D.find kind k = some r → BelongsTo stack r) :
    ∀ req ∈ requestsOf children.of changes, RequestFor stack C req := by
  have hdesired {k : String} {d : α} (hd : (children.get D).lookup k = some d) :
      BelongsTo stack (children.of d) := by
    refine hD children.kind k _ ?_
    rw [children.find_eq, hd]
    rfl
  intro req hreq
  rcases mem_requestsOf.mp hreq with ⟨x, hx, rfl⟩ | ⟨x, hx, rfl⟩ | ⟨x, hx, rfl⟩
  · refine ⟨False.elim, fun r hr => ?_⟩
    cases hr
    obtain ⟨k, hk, -⟩ := (h.mem_toDelete x).mp hx
    rw [target_of children rfl, hC.filedBy k x hk, children.find_eq, hk]
    rfl
  · obtain ⟨k, hk, -⟩ := (h.mem_toAdd x).mp hx
    refine ⟨fun _ => hdesired hk, fun r hr => ?_⟩
    cases hr
  · obtain ⟨k, c, d, hd, -, -, -, rfl⟩ := (h.mem_toUpdate x).mp hx
    refine ⟨fun _ => ?_, fun r hr => by cases hr⟩
    -- the object of an update is the desired one, with another resource version
    have hmeta (y : α) : (children.of y).objectMeta = getMeta y := children.getMeta_of y
    obtain ⟨hns, hlabel⟩ := hdesired hd
    rw [hmeta] at hns hlabel
    show (children.of _).objectMeta.namespace_ = _ ∧ (children.of _).objectMeta.labels.get? _ = _
    rw [hmeta, hcmp, adoptResourceVersion, KubeObject.getMeta_setMeta]
    exact ⟨hns, hlabel⟩

/-- **The requests of a difference** towards objects that belong to the stack. -/
theorem requestFor_computeDiff (ord : DiffOrder) {C D : StackState}
    (hC : C.Keyed stack.objectMeta.namespace_) (hD : D.Keyed stack.objectMeta.namespace_)
    (hbelongs : ∀ kind k r, D.find kind k = some r → BelongsTo stack r) :
    ∀ req ∈ (computeDiff ord C D).requests, RequestFor stack C req := by
  obtain ⟨hdep, hsts, hds, hsvc⟩ := computeDiff_isDiff ord C hD
  intro req hreq
  rcases List.mem_append.mp hreq with hreq | hreq
  · exact requestFor_requestsOf daemonsetMap rfl hds hC.daemonsets hbelongs req hreq
  rcases List.mem_append.mp hreq with hreq | hreq
  · exact requestFor_requestsOf deploymentMap rfl hdep hC.deployments hbelongs req hreq
  rcases List.mem_append.mp hreq with hreq | hreq
  · exact requestFor_requestsOf statefulsetMap rfl hsts hC.statefulsets hbelongs req hreq
  · exact requestFor_requestsOf serviceMap rfl hsvc hC.services hbelongs req hreq

theorem requestsOf_eq_nil_iff {α : Type} {of : α → Resource} {changes : Changes α} :
    requestsOf of changes = [] ↔ changes.isEmpty := by
  unfold requestsOf Changes.isEmpty
  simp only [List.append_eq_nil_iff, List.map_eq_nil_iff]
  tauto

/-- Nothing is sent for an empty difference only. -/
theorem requests_eq_nil_iff {d : StackStateDiff} : d.requests = [] ↔ d.empty := by
  unfold StackStateDiff.requests StackStateDiff.empty
  simp only [List.append_eq_nil_iff, requestsOf_eq_nil_iff]
  tauto

variable {seen : StackState} (hfiled : seen.Filed)

include hfiled

/-- A deletion with nothing to delete: the stack has no children. -/
theorem indexed_of_deletionDiff {ord : RangeOrder ChildKind} {ord' : DiffOrder}
    (h : (deletionDiff ord ord' stack seen).requests = []) (kind : ChildKind) (k : String) :
    seen.indexed (stackKey stack) kind k = none := by
  obtain ⟨hdep, hsts, hds, hsvc⟩ := requests_eq_nil_iff.mp h
  obtain ⟨hdep', hsts', hds', hsvc'⟩ := computeDiff_isDiff ord'
    (getCurrentStackState ord seen (stackKey stack))
    (emptyStackState_keyed stack.objectMeta.namespace_)
  have hnone {α : Type} {same : α → α → Prop} {o : Option α} (hrel : Option.Rel same o none) :
      o = none := by
    cases hrel
    rfl
  have hfind := find_getCurrentStackState ord hfiled (stackKey stack) kind k
  unfold StackState.indexed
  rw [← hfind]
  cases kind with
  | deployment => exact congrArg (Option.map _) (hnone (hdep'.isEmpty_iff.mp hdep k))
  | statefulset => exact congrArg (Option.map _) (hnone (hsts'.isEmpty_iff.mp hsts k))
  | daemonset => exact congrArg (Option.map _) (hnone (hds'.isEmpty_iff.mp hds k))
  | service => exact congrArg (Option.map _) (hnone (hsvc'.isEmpty_iff.mp hsvc k))

variable (hnamed : WellNamed stack) (hfree : seen.SlashFree)

include hnamed hfree

/-- The requests of a reconciliation. -/
theorem requestFor_reconcileDiff {rt : Runtime} {ord : RangeOrder ChildKind} {ord' : DiffOrder}
    {strategy : ServiceStrategy} {diff : StackStateDiff} (hlabels : KeepsLabels stack)
    (h : reconcileDiff rt ord ord' strategy stack seen = .ok diff) :
    ∀ req ∈ diff.requests,
      RequestFor stack (getCurrentStackState ord seen (stackKey stack)) req := by
  have hcurrent := current_keyed hnamed.namespace_ hnamed.name ord hfiled hfree
  obtain ⟨D, hD, hdiff⟩ := bind_eq_ok.mp h
  obtain rfl := pure_eq_ok.mp hdiff
  refine requestFor_computeDiff ord' hcurrent (creatable_of_stackToStack ord' hcurrent hD).1 ?_
  refine belongsTo_desired hnamed hlabels hcurrent (fun kind k r hr => ?_) hD
  exact ((find_current hnamed.namespace_ hnamed.name ord hfiled hfree).mp hr).2

/-- The requests of a deletion. -/
theorem requestFor_deletionDiff (ord : RangeOrder ChildKind) (ord' : DiffOrder) :
    ∀ req ∈ (deletionDiff ord ord' stack seen).requests,
      RequestFor stack (getCurrentStackState ord seen (stackKey stack)) req := by
  have hcurrent := current_keyed hnamed.namespace_ hnamed.name ord hfiled hfree
  refine requestFor_computeDiff ord' hcurrent (emptyStackState_keyed _) fun kind k r hr => ?_
  cases kind <;> cases hr

end Requests

/-! ## A request comes back -/

/-- The object that a request for a stack leaves is filed under the request's target. -/
theorem ChildRequest.kindKey_result {server : Server} {req : ChildRequest} {namespace_ : String}
    (hplaced : req.Writes → req.resource.objectMeta.namespace_ = namespace_) {r : Resource}
    (hr : req.result server = some r) : r.kindKey = req.target namespace_ := by
  obtain ⟨hwrites, hkind, _, _, hmeta⟩ := ChildRequest.result_eq_some hr
  rw [Resource.kindKey_eq, hkind, hmeta]
  show (_, objKey req.resource.objectMeta.namespace_ _) = _
  rw [hplaced hwrites]
  rfl

/-- Without a `/` in names and namespaces, objects that are filed alike are in one namespace. -/
theorem namespace_eq_of_kindKey {c r : Resource} (hc : c.SlashFree)
    (hr : SlashFree r.objectMeta.name) (h : c.kindKey = r.kindKey) :
    c.objectMeta.namespace_ = r.objectMeta.namespace_ := by
  rw [Resource.kindKey_eq, Resource.kindKey_eq] at h
  exact (objKey_inj_of_slashFree hc.namespace_ hc.name hr (Prod.mk.inj h).2).1

section Performed

variable {server : Server} {stack : Latest.Stack} {cluster cluster' : StackState}
  {req : ChildRequest} (hperform : perform server stack cluster req = .ok cluster')

include hperform

/-- What is at the target of a request afterwards is the request's result. -/
theorem find_target_of_performed :
    cluster'.find (req.target stack.objectMeta.namespace_).1
      (req.target stack.objectMeta.namespace_).2 = req.result server := by
  rw [find_perform hperform, if_pos rfl]

/-- The watches tell what a request has done. -/
theorem leads_requestEvents (hfiled : cluster.Filed) (hfree : cluster.SlashFree)
    (hplaced : req.Writes → req.resource.objectMeta.namespace_ = stack.objectMeta.namespace_)
    (hvalid : req.Writes → req.resource.SlashFree)
    (hkeeps : ∀ event ∈ requestEvents stack req cluster cluster', event.KeepsStack cluster)
    {caches : StackState} {undelivered : List ChildEvent}
    (hleads : childFeed.Leads caches undelivered cluster) :
    childFeed.Leads caches (undelivered ++ requestEvents stack req cluster cluster') cluster' := by
  have hfind := find_perform hperform
  have hkindKey {r : Resource} (hr : req.result server = some r) :
      r.kindKey = req.target stack.objectMeta.namespace_ :=
    ChildRequest.kindKey_result hplaced hr
  unfold requestEvents at hkeeps ⊢
  dsimp only at hkeeps ⊢
  rw [find_target_of_performed hperform] at hkeeps ⊢
  -- the event is told by what was at the target and what is there now
  cases hold : cluster.find (req.target stack.objectMeta.namespace_).1
      (req.target stack.objectMeta.namespace_).2 with
  | none =>
    rw [hold] at hkeeps
    cases hnew : req.result server with
    | none =>
      have hsame : cluster' = cluster := by
        refine StackState.ext_find fun kind k => ?_
        rw [hfind, hnew]
        split
        case isFalse => rfl
        case isTrue hk => rw [← hold, hk]
      rw [hsame]
      simpa [writeEvents] using hleads
    | some r =>
      rw [hnew] at hkeeps
      have hafter : cluster' = (ChildEvent.add r).after cluster := by
        refine StackState.ext_find fun kind k => ?_
        rw [hfind, hnew, ChildEvent.find_after]
        dsimp only
        rw [hkindKey hnew]
      rw [hafter]
      refine hleads.snoc ⟨?_, hkeeps _ (List.mem_singleton_self _)⟩
      show cluster.find r.kindKey.1 r.kindKey.2 = none
      rw [hkindKey hnew]
      exact hold
  | some c =>
    rw [hold] at hkeeps
    have hc := hfiled _ _ _ hold
    have hstored : cluster.find c.kindKey.1 c.kindKey.2 = some c := by
      rw [hc]
      exact hold
    cases hnew : req.result server with
    | none =>
      rw [hnew] at hkeeps
      have hafter : cluster' = (ChildEvent.delete (.object c)).after cluster := by
        refine StackState.ext_find fun kind k => ?_
        rw [hfind, hnew, ChildEvent.find_after]
        refine if_congr ?_ rfl rfl
        show _ ↔ c.kindKey = (kind, k)
        rw [hc]
      rw [hafter]
      have hsame : ∀ r, (DeletedObject.object c).obj = some r → SameObject c r := by
        rintro r ⟨⟩
        exact ⟨rfl, rfl⟩
      exact hleads.snoc ⟨⟨c, hstored, hsame⟩, hkeeps _ (List.mem_singleton_self _)⟩
    | some r =>
      rw [hnew] at hkeeps
      have hsame : c.kindKey = r.kindKey := hc.trans (hkindKey hnew).symm
      have hafter : cluster' = (ChildEvent.update c r).after cluster := by
        refine StackState.ext_find fun kind k => ?_
        rw [hfind, hnew, ChildEvent.find_after]
        dsimp only
        rw [hkindKey hnew]
      have hname : SlashFree r.objectMeta.name := by
        obtain ⟨hwrites, -, _, _, hmeta⟩ := ChildRequest.result_eq_some hnew
        rw [hmeta]
        exact (hvalid hwrites).name
      have hns := namespace_eq_of_kindKey (hfree _ _ _ hold) hname hsame
      rw [hafter]
      exact hleads.snoc ⟨⟨hstored, hsame, hns⟩, hkeeps _ (List.mem_singleton_self _)⟩

/-- **What the loop does comes back to it**: after a request for a stack an event
that wakes the stack has not been delivered. -/
theorem owed_of_performed {ord : RangeOrder ChildKind} {caches : StackState}
    {undelivered : List ChildEvent} (hleads : childFeed.Leads caches undelivered cluster)
    (hfiled : caches.Filed)
    (hreq : RequestFor stack (getCurrentStackState ord caches (stackKey stack)) req) :
    ∃ event ∈ undelivered ++ requestEvents stack req cluster cluster',
      stackKey stack ∈ event.sent true := by
  have htarget := find_target_of_performed hperform
  have hbelongs {r : Resource} (hr : BelongsTo stack r) :
      stackKey stack ∈ onEvent true r := by
    rw [onEvent_eq, mem_byStackIndexer]
    exact ⟨_, hr.2, by rw [stackKey, hr.1]⟩
  cases hnew : req.result server with
  | some r =>
    obtain ⟨hwrites, -, _, _, hmeta⟩ := ChildRequest.result_eq_some hnew
    have hr : BelongsTo stack r := by
      obtain ⟨hns, hlabel⟩ := hreq.writes hwrites
      constructor
      · rw [hmeta]
        exact hns
      · rw [hmeta]
        exact hlabel
    -- the object that has been written carries the label of the stack
    unfold requestEvents
    dsimp only
    rw [htarget, hnew]
    cases cluster.find (req.target stack.objectMeta.namespace_).1
        (req.target stack.objectMeta.namespace_).2 with
    | none =>
      exact ⟨ChildEvent.add r, List.mem_append_right _ (List.mem_singleton_self _), hbelongs hr⟩
    | some c =>
      exact ⟨ChildEvent.update c r, List.mem_append_right _ (List.mem_singleton_self _),
        hbelongs hr⟩
  | none =>
    obtain ⟨r, rfl⟩ : ∃ r, req = .delete r := by
      cases req with
      | delete r => exact ⟨r, rfl⟩
      | create r => cases hnew
      | update r => cases hnew
    have hcached := hreq.deletes r rfl
    rw [find_getCurrentStackState ord hfiled] at hcached
    by_cases hview : caches.indexed (stackKey stack) = cluster.indexed (stackKey stack)
    · -- the child is in the cluster as it is in the caches, and its deletion is told
      have hindexed : cluster.indexed (stackKey stack)
          ((ChildRequest.delete r).target stack.objectMeta.namespace_).1
          ((ChildRequest.delete r).target stack.objectMeta.namespace_).2 = some r := by
        rw [← hview]
        exact hcached
      obtain ⟨hfind, hindex⟩ := Option.filter_eq_some_iff.mp hindexed
      refine ⟨.delete (.object r), List.mem_append_right _ ?_, ?_⟩
      · unfold requestEvents
        dsimp only
        rw [htarget, hnew, hfind]
        exact List.mem_singleton_self _
      · show stackKey stack ∈ onEvent true r
        rw [onEvent_eq]
        exact of_decide_eq_true hindex
    · obtain ⟨event, hevent, hsent⟩ := exists_sent_of_indexed_ne hleads hview
      exact ⟨event, List.mem_append_left _ hevent, hsent⟩

end Performed

end ComposeKube

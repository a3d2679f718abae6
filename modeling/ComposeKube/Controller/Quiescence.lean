import ComposeKube.Controller.Wakeups

/-!
# What a controller at rest has achieved

The loop never waits for the effects of what it does. It is woken by the events
of stacks and of their children, and it forgets a stack as soon as it is done
with it. So nothing may be lost between the parties: a change that the loop has
not seen must be on its way, or the stack must be in its hands.

For every stack in the informer's store one of three things holds (`Accounted`):
the loop is going to be told of it (`Owed`), the loop works on it with data that
are up to date (`InHand`), or there is nothing to do (`Done`). An informer that
delivers something that concerns the stack turns the last two into the first.

* `wellKept_step`, `accounted_step` — what one step keeps.
* `quiescent_settled` — at rest, the children of a stack are what it asks for and
  its status says so, or its status is an error, or an error has been logged.
-/

namespace ComposeKube

open Go Transition Replication

/-! ## What is owed, in hand and done -/

/-- The loop is going to be told of the stack. -/
def ReconcilerState.Owed (s : ReconcilerState) (key : String) : Prop :=
  (∃ q, s.SentTo q key) ∨ s.phase = .received key ∨
    (∃ event ∈ s.undelivered, key ∈ event.sent true) ∨
    ∃ stack, .stored stack ∈ s.stackChanges ∧ stackKey stack = key

/-- What is owed stays owed when nothing is taken away. -/
theorem ReconcilerState.Owed.mono {s s' : ReconcilerState} {key : String} (h : s.Owed key)
    (hsentTo : ∀ q, s.SentTo q key → s'.SentTo q key)
    (hundelivered : s.undelivered ⊆ s'.undelivered)
    (hchanges : s.stackChanges ⊆ s'.stackChanges)
    (hphase : s.phase = .received key → s'.phase = .received key) : s'.Owed key := by
  rcases h with ⟨q, hkey⟩ | hkey | ⟨event, hevent, hsent⟩ | ⟨stack, hstack, hkey⟩
  · exact Or.inl ⟨q, hsentTo q hkey⟩
  · exact Or.inr (Or.inl (hphase hkey))
  · exact Or.inr (Or.inr (Or.inl ⟨event, hundelivered hevent, hsent⟩))
  · exact Or.inr (Or.inr (Or.inr ⟨stack, hchanges hstack, hkey⟩))

/-- What has been read of the children of a stack is what the caches hold. -/
def Sees (caches seen : StackState) (key : String) (left : List ChildKind) : Prop :=
  ∀ kind, kind ∉ left → seen.indexed key kind = caches.indexed key kind

/-- With these caches a reconciliation of the stack finds no difference. -/
def ChildrenSettled (cfg : ReconcilerConfig) (caches : StackState) (stack : Latest.Stack) : Prop :=
  ∃ rt ord ord' diff, rt.Agrees cfg.runtime ∧
    reconcileDiff rt ord ord' cfg.serviceStrategy stack caches = .ok diff ∧ diff.empty

/-- The status is the one of a stack with these children. -/
def StatusTells (caches : StackState) (stack : Latest.Stack) (status : Latest.StackStatus) :
    Prop :=
  ∃ ord ord', generateStatus stack
    ((getCurrentStackState ord caches (stackKey stack)).flattenResources ord') = some status

/-- The children of the stack are what it asks for, and its status says how they
are; or it is being deleted and has no children. -/
def UpToDate (cfg : ReconcilerConfig) (caches : StackState) (stack : Latest.Stack) : Prop :=
  (stack.objectMeta.deletionTimestamp = none ∧ ChildrenSettled cfg caches stack ∧
    ∃ status, stack.status = some status ∧ StatusTells caches stack status) ∨
  (stack.objectMeta.deletionTimestamp ≠ none ∧
    ∀ kind k, caches.indexed (stackKey stack) kind k = none)

/-- There is nothing to do for the stack: it is up to date, its status is an error,
or the last attempt has ended with an error that was only logged. -/
def Done (cfg : ReconcilerConfig) (caches : StackState) (logged : Finset String)
    (stack : Latest.Stack) : Prop :=
  UpToDate cfg caches stack ∨ (∃ err, stack.status = some (statusFailure err)) ∨
    stackKey stack ∈ logged

/-- The loop works on the stack, with data that are up to date and before it has
changed anything. -/
def InHand (cfg : ReconcilerConfig) (caches : StackState) (stack : Latest.Stack) :
    ReconcilePhase → Prop
  | .idle => False
  | .received _ => False
  | .resolving stack' => stack' = stack ∧ stack.objectMeta.deletionTimestamp = none
  -- what has been read so far is still what the caches hold
  | .reading purpose stack' seen left =>
    stack' = stack ∧ Sees caches seen (stackKey stack) left ∧
      match purpose with
      | .children => stack.objectMeta.deletionTimestamp = none
      | .status none =>
        stack.objectMeta.deletionTimestamp = none ∧ ChildrenSettled cfg caches stack
      | .status (some _) => True
      | .deletion => stack.objectMeta.deletionTimestamp ≠ none
  -- nothing has been sent yet
  | .applying false stack' requests =>
    stack' = stack ∧ stack.objectMeta.deletionTimestamp = none ∧
      ∃ rt ord ord' diff, rt.Agrees cfg.runtime ∧
        reconcileDiff rt ord ord' cfg.serviceStrategy stack caches = .ok diff ∧
        requests = diff.requests
  | .applying true stack' requests =>
    stack' = stack ∧ stack.objectMeta.deletionTimestamp ≠ none ∧
      ∃ ord ord', requests = (deletionDiff ord ord' stack caches).requests
  -- the status tells what there is, or that there was an error
  | .updatingStatus stack' status =>
    stack' = stack ∧
      ((stack.objectMeta.deletionTimestamp = none ∧ ChildrenSettled cfg caches stack ∧
        StatusTells caches stack status) ∨ ∃ err, status = statusFailure err)

/-! All of this depends on the caches through the children of the stack only. -/

section Congr

variable {caches caches' : StackState} {key : String} {stack : Latest.Stack}

/-- The current state of a stack is what is indexed under its key. -/
theorem getCurrentStackState_of_indexed (ord : RangeOrder ChildKind) (hfiled : caches.Filed)
    (hfiled' : caches'.Filed) (h : caches.indexed key = caches'.indexed key) :
    getCurrentStackState ord caches key = getCurrentStackState ord caches' key :=
  getCurrentStackState_congr ord ord hfiled hfiled' fun kind k => congrFun (congrFun h kind) k

variable (hfiled : caches.Filed) (hfiled' : caches'.Filed)
  (h : caches.indexed (stackKey stack) = caches'.indexed (stackKey stack))

include hfiled hfiled' h

/-- The difference that is applied depends on what is indexed only. -/
theorem reconcileDiff_congr (rt : Runtime) (ord : RangeOrder ChildKind) (ord' : DiffOrder)
    (strategy : ServiceStrategy) :
    reconcileDiff rt ord ord' strategy stack caches =
      reconcileDiff rt ord ord' strategy stack caches' := by
  unfold reconcileDiff
  rw [getCurrentStackState_of_indexed ord hfiled hfiled' h]

/-- So does the one that removes the children. -/
theorem deletionDiff_congr (ord : RangeOrder ChildKind) (ord' : DiffOrder) :
    deletionDiff ord ord' stack caches = deletionDiff ord ord' stack caches' := by
  unfold deletionDiff
  rw [getCurrentStackState_of_indexed ord hfiled hfiled' h]

/-- Whether the children are settled depends on what is indexed under the key. -/
theorem ChildrenSettled.congr {cfg : ReconcilerConfig} (hs : ChildrenSettled cfg caches stack) :
    ChildrenSettled cfg caches' stack := by
  obtain ⟨rt, ord, ord', diff, hrt, hdiff, hempty⟩ := hs
  rw [reconcileDiff_congr hfiled hfiled' h] at hdiff
  exact ⟨rt, ord, ord', diff, hrt, hdiff, hempty⟩

/-- So does what the status tells. -/
theorem StatusTells.congr {status : Latest.StackStatus} (hs : StatusTells caches stack status) :
    StatusTells caches' stack status := by
  obtain ⟨ord, ord', hstatus⟩ := hs
  rw [getCurrentStackState_of_indexed ord hfiled hfiled' h] at hstatus
  exact ⟨ord, ord', hstatus⟩

/-- A stack that is done stays so while nothing changes under its key. -/
theorem Done.congr {cfg : ReconcilerConfig} {logged : Finset String}
    (hs : Done cfg caches logged stack) : Done cfg caches' logged stack := by
  rcases hs with hs | hs | hs
  · rcases hs with ⟨hlive, hsettled, status, hstatus, htells⟩ | ⟨hdeleting, hnone⟩
    · exact Or.inl (Or.inl ⟨hlive, hsettled.congr hfiled hfiled' h, status, hstatus,
        htells.congr hfiled hfiled' h⟩)
    · rw [h] at hnone
      exact Or.inl (Or.inr ⟨hdeleting, hnone⟩)
  · exact Or.inr (Or.inl hs)
  · exact Or.inr (Or.inr hs)

/-- A pass that is under way stays good for as long. -/
theorem InHand.congr {cfg : ReconcilerConfig} {phase : ReconcilePhase}
    (hs : InHand cfg caches stack phase) : InHand cfg caches' stack phase := by
  -- what was read of the children so far is still there
  have hsees {seen : StackState} {left : List ChildKind}
      (hseen : Sees caches seen (stackKey stack) left) :
      Sees caches' seen (stackKey stack) left := by
    intro kind hkind
    rw [← h]
    exact hseen kind hkind
  cases phase with
  | idle => exact hs
  | received key => exact hs
  | resolving stack' => exact hs
  | reading purpose stack' seen left =>
    obtain ⟨hstack, hseen, hpurpose⟩ := hs
    refine ⟨hstack, hsees hseen, ?_⟩
    cases purpose with
    | children => exact hpurpose
    | deletion => exact hpurpose
    | status err =>
      cases err with
      | none => exact ⟨hpurpose.1, hpurpose.2.congr hfiled hfiled' h⟩
      | some err => exact trivial
  | applying deletion stack' requests =>
    cases deletion with
    | false =>
      obtain ⟨hstack, hlive, rt, ord, ord', diff, hrt, hdiff, hrequests⟩ := hs
      rw [reconcileDiff_congr hfiled hfiled' h] at hdiff
      exact ⟨hstack, hlive, rt, ord, ord', diff, hrt, hdiff, hrequests⟩
    | true =>
      obtain ⟨hstack, hdeleting, ord, ord', hrequests⟩ := hs
      rw [deletionDiff_congr hfiled hfiled' h] at hrequests
      exact ⟨hstack, hdeleting, ord, ord', hrequests⟩
  -- the status says what the children are like, or that there was an error
  | updatingStatus stack' status =>
    obtain ⟨hstack, ⟨hlive, hsettled, htells⟩ | herr⟩ := hs
    · exact ⟨hstack, Or.inl ⟨hlive, hsettled.congr hfiled hfiled' h,
        htells.congr hfiled hfiled' h⟩⟩
    · exact ⟨hstack, Or.inr herr⟩

end Congr

/-! The services of the stack may be sorted meanwhile. -/

section Conversion

variable {rt : Runtime} {stack : Latest.Stack} {strategy : ServiceStrategy}

/-- A sort that turns one list into another one. -/
def Runtime.sortingTo (rt : Runtime) (l l' : List Latest.ServiceConfig) (hperm : l'.Perm l)
    (hsorted : l'.Pairwise fun a b => a.name ≤ b.name) : Runtime :=
  { rt with
    sortServices := fun l₁ => if l₁ = l then l' else rt.sortServices l₁
    sortServices_perm := fun l₁ => by
      split
      · next h =>
        rw [h]
        exact hperm
      · exact rt.sortServices_perm l₁
    sortServices_sorted := fun l₁ => by
      split
      · exact hsorted
      · exact rt.sortServices_sorted l₁ }

/-- What the conversion returns, without the change it makes to the stack. -/
theorem stackToStack_fst {spec : Latest.StackSpec} (hspec : stack.spec = some spec)
    (C : StackState) :
    (stackToStack rt stack strategy C).1 =
      if spec.services.elems.length = 0 then .error "this stack has no service"
      else ((stackContexts rt stack spec strategy).mapM fun ctx =>
        toStackResources ctx C (isStackDirty stack.status)).map fun resources =>
          newStackState resources.flatten := by
  unfold stackToStack
  rw [hspec]
  dsimp only
  split <;> rfl

/-- **A stack whose services have been sorted converts to the same objects**, with a
sort that leaves services of one name where they were. -/
theorem exists_stackToStack_sorted (rt rt' : Runtime) (stack : Latest.Stack)
    (strategy : ServiceStrategy) :
    ∃ rt'' : Runtime, rt''.Agrees rt' ∧ ∀ C,
      (stackToStack rt'' { stack with spec := stack.spec.map (sortSpec rt) } strategy C).1 =
        (stackToStack rt' stack strategy C).1 := by
  obtain ⟨objectMeta, spec, status⟩ := stack
  match spec with
  | none => exact ⟨rt', ⟨rfl, rfl, rfl, rfl⟩, fun C => rfl⟩
  | some ⟨none, secrets, configs⟩ => exact ⟨rt', ⟨rfl, rfl, rfl, rfl⟩, fun C => rfl⟩
  | some ⟨some l, secrets, configs⟩ =>
    -- a runtime whose sort takes the one order to the other
    have hperm : (rt'.sortServices l).Perm (rt.sortServices l) :=
      (rt'.sortServices_perm l).trans (rt.sortServices_perm l).symm
    let sorting (rt₁ : Runtime) : Runtime :=
      rt₁.sortingTo (rt.sortServices l) (rt'.sortServices l) hperm (rt'.sortServices_sorted l)
    have hsort : (sorting rt').sortServices (rt.sortServices l) = rt'.sortServices l := if_pos rfl
    refine ⟨sorting rt', ⟨rfl, rfl, rfl, rfl⟩, fun C => ?_⟩
    rw [stackToStack_fst rfl, stackToStack_fst rfl]
    refine if_congr ?_ rfl ?_
    · show (rt.sortServices l).length = 0 ↔ l.length = 0
      rw [(rt.sortServices_perm l).length_eq]
    · -- the contexts differ in the sort, which the conversion of a service does not use
      have hcontexts : stackContexts (sorting rt')
          ⟨objectMeta, some ⟨some (rt.sortServices l), secrets, configs⟩, status⟩
          ⟨some (rt.sortServices l), secrets, configs⟩ strategy =
            (stackContexts rt' ⟨objectMeta, some ⟨some l, secrets, configs⟩, status⟩
              ⟨some l, secrets, configs⟩ strategy).map fun ctx =>
                { ctx with rt := sorting ctx.rt } := by
        unfold stackContexts serviceContexts sortSpec
        rw [List.map_map]
        simp only [Option.map_some, hsort]
        rfl
      refine congrArg (Except.map _) ((congrArg (List.mapM _) hcontexts).trans ?_)
      rw [List.mapM_map]
      rfl

end Conversion

section Sorted

variable {stack : Latest.Stack} {caches : StackState}

/-- The sorted stack has the same difference, under a runtime that sorts as the first one did. -/
theorem exists_reconcileDiff_sorted {rt' : Runtime} {ord : RangeOrder ChildKind} {ord' : DiffOrder}
    {strategy : ServiceStrategy} {diff : StackStateDiff} (rt : Runtime)
    (h : reconcileDiff rt' ord ord' strategy stack caches = .ok diff) :
    ∃ rt'' : Runtime, rt''.Agrees rt' ∧ reconcileDiff rt'' ord ord' strategy
      { stack with spec := stack.spec.map (sortSpec rt) } caches = .ok diff := by
  obtain ⟨rt'', hagrees, hsorted⟩ := exists_stackToStack_sorted rt rt' stack strategy
  refine ⟨rt'', hagrees, ?_⟩
  rw [← h]
  unfold reconcileDiff
  show (stackToStack rt'' _ strategy (getCurrentStackState ord caches (stackKey stack))).1 >>= _ = _
  rw [hsorted]
  rfl

/-- Children that are settled are so for the sorted stack. -/
theorem ChildrenSettled.sorted {cfg : ReconcilerConfig} (rt : Runtime)
    (h : ChildrenSettled cfg caches stack) :
    ChildrenSettled cfg caches { stack with spec := stack.spec.map (sortSpec rt) } := by
  obtain ⟨rt', ord, ord', diff, hrt, hdiff, hempty⟩ := h
  obtain ⟨rt'', hagrees, hdiff'⟩ := exists_reconcileDiff_sorted rt hdiff
  exact ⟨rt'', ord, ord', diff, hagrees.trans hrt, hdiff', hempty⟩

/-- The status does not depend on the order of the services. -/
theorem generateStatus_sorted (rt : Runtime) (stack : Latest.Stack) (resources : List Resource) :
    generateStatus { stack with spec := stack.spec.map (sortSpec rt) } resources =
      generateStatus stack resources := by
  unfold generateStatus
  cases stack.spec with
  | none => rfl
  | some spec =>
    -- the services are counted by their names, in no order
    have hnames : (sortSpec rt spec).services.elems.foldl
        (fun names svc => insert svc.name names) (∅ : Finset String) =
          spec.services.elems.foldl (fun names svc => insert svc.name names) ∅ := by
      ext name
      simp only [mem_foldl_insert_name, (sortSpec_services_perm rt spec).mem_iff]
    simp only [Option.map_some, hnames]

/-- A stack that is done is so when it is sorted. -/
theorem Done.sorted {cfg : ReconcilerConfig} {logged : Finset String} (rt : Runtime)
    (h : Done cfg caches logged stack) :
    Done cfg caches logged { stack with spec := stack.spec.map (sortSpec rt) } := by
  rcases h with h | h | h
  · rcases h with ⟨hlive, hsettled, status, hstatus, ord, ord', htells⟩ | hdeleting
    · refine Or.inl (Or.inl ⟨hlive, hsettled.sorted rt, status, hstatus, ord, ord', ?_⟩)
      rw [generateStatus_sorted]
      exact htells
    · exact Or.inl (Or.inr hdeleting)
  · exact Or.inr (Or.inl h)
  · exact Or.inr (Or.inr h)

/-- The sort keeps the labels of the services. -/
theorem KeepsLabels.sorted (rt : Runtime) (h : KeepsLabels stack) :
    KeepsLabels { stack with spec := stack.spec.map (sortSpec rt) } := by
  intro spec' hspec' srv hsrv
  obtain ⟨spec, hspec, rfl⟩ := Option.map_eq_some_iff.mp hspec'
  exact h spec hspec srv ((sortSpec_services_perm rt spec).mem_iff.mp hsrv)

end Sorted

/-! ## Well-kept states -/

/-- What the loop has in its hands: a stack with a proper name, objects that are
filed, and requests that write objects of the stack only. -/
def ReconcilePhase.Ok : ReconcilePhase → Prop
  | .idle => True
  | .received _ => True
  | .resolving stack => WellNamed stack ∧ KeepsLabels stack
  | .reading purpose stack seen _ =>
    WellNamed stack ∧ seen.Filed ∧ seen.SlashFree ∧
      match purpose with
      | .children => KeepsLabels stack
      | .status none => stack.spec ≠ none
      | .status (some _) => True
      | .deletion => True
  | .applying deletion stack requests =>
    WellNamed stack ∧ (∀ req ∈ requests, req.Writes → BelongsTo stack req.resource) ∧
      (deletion = false → stack.spec ≠ none)
  | .updatingStatus stack _ => WellNamed stack

structure ReconcilerState.WellKept (s : ReconcilerState) : Prop where
  leads : childFeed.Leads s.caches s.undelivered s.cluster
  filed : s.caches.Filed
  slashFree : s.caches.SlashFree
  valid : ∀ event ∈ s.undelivered, ∀ r, event.written = some r → r.SlashFree
  channels : ∀ q, ∃ u, Represents u (s.queues q)
  stackStore : ∀ key stack, s.stackStore key = some stack →
    stackKey stack = key ∧ WellNamed stack ∧ KeepsLabels stack
  stackChanges : ∀ change ∈ s.stackChanges, WellNamed change.stack ∧ KeepsLabels change.stack
  deletionQueue : ∀ stack ∈ s.deletionQueue, WellNamed stack
  phase : s.phase.Ok

/-- An event keeps slashes out of the names, if what it writes has none. -/
theorem ChildEvent.after_slashFree {caches : StackState} (h : caches.SlashFree)
    {event : ChildEvent} (hvalid : ∀ r, event.written = some r → r.SlashFree) :
    (event.after caches).SlashFree := by
  intro kind k r hr
  rw [event.find_after] at hr
  cases event with
  | add obj =>
    dsimp only at hr
    split at hr
    · exact hvalid r hr
    · exact h kind k r hr
  | update oldObj newObj =>
    dsimp only at hr
    split at hr
    · exact hvalid r hr
    · exact h kind k r hr
  | delete obj =>
    dsimp only at hr
    split at hr
    · cases hr
    · exact h kind k r hr

/-- The cluster has no slashes in its names if neither the caches nor the events have. -/
theorem slashFree_of_leads {caches cluster : StackState} {undelivered : List ChildEvent}
    (h : childFeed.Leads caches undelivered cluster) (hfree : caches.SlashFree)
    (hvalid : ∀ event ∈ undelivered, ∀ r, event.written = some r → r.SlashFree) :
    cluster.SlashFree := by
  induction h with
  | nil => exact hfree
  | cons _ _ ih =>
    rw [List.forall_mem_cons] at hvalid
    exact ih (ChildEvent.after_slashFree hfree hvalid.1) hvalid.2

/-- An object that a request has written is valid when the request's object is. -/
theorem slashFree_of_mem_requestEvents {server : Server} {stack : Latest.Stack}
    {cluster cluster' : StackState} {req : ChildRequest}
    (hperform : perform server stack cluster req = .ok cluster')
    (hvalid : req.Writes → req.resource.SlashFree) :
    ∀ event ∈ requestEvents stack req cluster cluster', ∀ r, event.written = some r →
      r.SlashFree := by
  have hresult {r : Resource} (hr : req.result server = some r) : r.SlashFree := by
    obtain ⟨hwrites, -, _, _, hmeta⟩ := ChildRequest.result_eq_some hr
    obtain ⟨hns, hname, hlabel⟩ := hvalid hwrites
    constructor
    · rw [hmeta]
      exact hns
    · rw [hmeta]
      exact hname
    · rw [hmeta]
      exact hlabel
  intro event hevent r hr
  unfold requestEvents at hevent
  dsimp only at hevent
  rw [find_target_of_performed hperform] at hevent
  -- the four ways in which what is at the target can change
  cases hold : cluster.find (req.target stack.objectMeta.namespace_).1
      (req.target stack.objectMeta.namespace_).2 with
  | none =>
    rw [hold] at hevent
    cases hnew : req.result server with
    | none =>
      rw [hnew] at hevent
      cases hevent
    | some r' =>
      rw [hnew] at hevent
      cases List.mem_singleton.mp hevent
      cases hr
      exact hresult hnew
  | some c =>
    rw [hold] at hevent
    cases hnew : req.result server with
    | none =>
      rw [hnew] at hevent
      cases List.mem_singleton.mp hevent
      cases hr
    | some r' =>
      rw [hnew] at hevent
      cases List.mem_singleton.mp hevent
      cases hr
      exact hresult hnew

/-- What is read of a cache is filed as it is there. -/
theorem StackState.Filed.readKind {seen caches : StackState} (hseen : seen.Filed)
    (hcaches : caches.Filed) (kind : ChildKind) : (seen.readKind caches kind).Filed := by
  intro kind' k r hr
  rw [StackState.find_readKind] at hr
  split at hr
  · exact hcaches kind' k r hr
  · exact hseen kind' k r hr

/-- What is read of a cache has no slashes either. -/
theorem StackState.SlashFree.readKind {seen caches : StackState} (hseen : seen.SlashFree)
    (hcaches : caches.SlashFree) (kind : ChildKind) : (seen.readKind caches kind).SlashFree := by
  intro kind' k r hr
  rw [StackState.find_readKind] at hr
  split at hr
  · exact hcaches kind' k r hr
  · exact hseen kind' k r hr

/-- The state that the read starts from is filed. -/
theorem emptyStackState_filed : emptyStackState.Filed := (emptyStackState_keyed "").filed

theorem emptyStackState_slashFree : emptyStackState.SlashFree := by
  intro kind k r hr
  cases kind <;> cases hr

section Step

variable {cfg : ReconcilerConfig} {s s' : ReconcilerState} {a : ReconcilerEvent}

/-- The names are in the metadata. -/
theorem WellNamed.of_meta {stack stack' : Latest.Stack} (h : WellNamed stack)
    (hns : stack'.objectMeta.namespace_ = stack.objectMeta.namespace_)
    (hname : stack'.objectMeta.name = stack.objectMeta.name) : WellNamed stack' where
  namespace_ := hns ▸ h.namespace_
  name := hname ▸ h.name
  namespace_ne := hns ▸ h.namespace_ne
  name_ne := hname ▸ h.name_ne

/-- A queue takes a step. -/
theorem represents_update {queues : KeyQueue → StringChan}
    (h : ∀ q, ∃ u, Represents u (queues q)) {q : KeyQueue} {b : ChanEvent} {c : StringChan}
    (hchan : ChanStep q.bufferSize (queues q) b c) :
    ∀ q', ∃ u, Represents u (Function.update queues q c q') := by
  intro q'
  by_cases hq : q' = q
  · subst hq
    rw [Function.update_self]
    obtain ⟨u, hu⟩ := h q'
    exact ⟨_, represents_step hu hchan⟩
  · rw [Function.update_of_ne hq]
    exact h q'

/-- The store after a conversion is as well kept as before. -/
theorem ReconcilerState.WellKept.sorted (hs : s.WellKept) (rt : Runtime) (stack : Latest.Stack) :
    ∀ key stack₁,
      s.replaceStack stack { stack with spec := stack.spec.map (sortSpec rt) } key = some stack₁ →
      stackKey stack₁ = key ∧ WellNamed stack₁ ∧ KeepsLabels stack₁ := by
  intro key stack₁ h
  rcases replaceStack_eq_some h with ⟨hstack, rfl⟩ | ⟨-, hstack⟩
  · obtain ⟨hkey, hnamed, hlabels⟩ := hs.stackStore key stack hstack
    exact ⟨hkey, hnamed.of_meta rfl rfl, hlabels.sorted rt⟩
  · exact hs.stackStore key stack₁ hstack

/-- The store stays well kept when one of its entries is set to a stack that is so, or removed. -/
theorem ReconcilerState.WellKept.update (hs : s.WellKept) {key₀ : String}
    {entry : Option Latest.Stack} (hentry : ∀ stack, entry = some stack →
      stackKey stack = key₀ ∧ WellNamed stack ∧ KeepsLabels stack) :
    ∀ key stack, Function.update s.stackStore key₀ entry key = some stack →
      stackKey stack = key ∧ WellNamed stack ∧ KeepsLabels stack := by
  intro key stack h
  by_cases hkey : key = key₀
  · subst hkey
    rw [Function.update_self] at h
    exact hentry stack h
  · rw [Function.update_of_ne hkey] at h
    exact hs.stackStore key stack h

/-- **The step lemma of what is well kept.** -/
theorem wellKept_step (hs : s.WellKept) (ha : LabelsRespected s a)
    (hstep : ReconcilerStep cfg s a s') : s'.WellKept := by
  have hphase := hs.phase
  cases hstep with
  | stackWritten hnamed =>
    exact { hs with
      stackChanges := List.forall_mem_append.mpr
        ⟨hs.stackChanges, List.forall_mem_singleton.mpr ⟨hnamed, ha⟩⟩ }
  | childWritten hoccurs hvalid =>
    exact { hs with
      leads := hs.leads.snoc ⟨hoccurs, ha⟩
      valid := List.forall_mem_append.mpr ⟨hs.valid, List.forall_mem_singleton.mpr hvalid⟩ }
  | @childDelivered event before after hundelivered hfirst =>
    have hleads := hs.leads
    have hvalid := hs.valid
    rw [hundelivered] at hleads hvalid
    obtain ⟨-, hleads⟩ := hleads.deliver hfirst
    rw [List.forall_mem_append, List.forall_mem_cons] at hvalid
    obtain ⟨hbefore, hevent, hafter⟩ := hvalid
    exact { hs with
      leads := hleads
      filed := ChildEvent.after_filed hs.filed event
      slashFree := ChildEvent.after_slashFree hs.slashFree hevent
      valid := List.forall_mem_append.mpr ⟨hbefore, hafter⟩ }
  | childResynced hfind => exact { hs with }
  | @stackStored stack rest hchanges =>
    have hstackChanges := hs.stackChanges
    rw [hchanges, List.forall_mem_cons] at hstackChanges
    obtain ⟨⟨hnamed, hlabels⟩, hrest⟩ := hstackChanges
    refine { hs with stackStore := hs.update fun stack₁ hstack₁ => ?_, stackChanges := hrest }
    cases hstack₁
    exact ⟨rfl, hnamed, hlabels⟩
  | @stackDeleted stack rest hchanges =>
    have hstackChanges := hs.stackChanges
    rw [hchanges, List.forall_mem_cons] at hstackChanges
    obtain ⟨⟨hnamed, -⟩, hrest⟩ := hstackChanges
    exact { hs with
      stackStore := hs.update nofun
      stackChanges := hrest
      deletionQueue := List.forall_mem_append.mpr
        ⟨hs.deletionQueue, List.forall_mem_singleton.mpr hnamed⟩ }
  | stackResynced hstack => exact { hs with }
  | sent hkey hchan => exact { hs with channels := represents_update hs.channels hchan }
  | queued ha hchan => exact { hs with channels := represents_update hs.channels hchan }
  | taken hidle hchan =>
    exact { hs with channels := represents_update hs.channels hchan, phase := trivial }
  | takenDeletion hidle hqueue =>
    have hdeletionQueue := hs.deletionQueue
    rw [hqueue, List.forall_mem_cons] at hdeletionQueue
    exact { hs with
      deletionQueue := hdeletionQueue.2
      phase := ⟨hdeletionQueue.1, emptyStackState_filed, emptyStackState_slashFree, trivial⟩ }
  | missing _ _ => exact { hs with phase := trivial }
  | @found key stack _ hstack =>
    obtain ⟨-, hnamed, hlabels⟩ := hs.stackStore key stack hstack
    refine { hs with phase := ?_ }
    show ReconcilePhase.Ok (if _ then _ else _)
    split
    · exact ⟨hnamed, hlabels⟩
    · exact ⟨hnamed, emptyStackState_filed, emptyStackState_slashFree, trivial⟩
  | resolved heq =>
    rw [heq] at hphase
    exact { hs with
      phase := ⟨hphase.1, emptyStackState_filed, emptyStackState_slashFree, hphase.2⟩ }
  | unresolved heq => exact { hs with phase := trivial }
  | @read purpose stack seen kind left heq =>
    rw [heq] at hphase
    obtain ⟨hnamed, hfiled, hfree, hpurpose⟩ := hphase
    exact { hs with
      phase := ⟨hnamed, hfiled.readKind hs.filed kind, hfree.readKind hs.slashFree kind,
        hpurpose⟩ }
  | @notConverted stack seen rt ord err heq hrt herr =>
    rw [heq] at hphase
    obtain ⟨hnamed, -⟩ := hphase
    rw [stackToStack_spec]
    exact { hs with
      stackStore := hs.sorted rt stack
      phase := ⟨hnamed.of_meta rfl rfl, emptyStackState_filed, emptyStackState_slashFree,
        trivial⟩ }
  | @converted stack seen rt ord ord' diff heq hrt hdiff =>
    rw [heq] at hphase
    obtain ⟨hnamed, hfiled, hfree, hlabels⟩ := hphase
    have hrequests := requestFor_reconcileDiff hfiled hnamed hfree hlabels hdiff
    rw [stackToStack_spec]
    refine { hs with
      stackStore := hs.sorted rt stack
      phase := ⟨hnamed.of_meta rfl rfl, fun req hreq => (hrequests req hreq).writes,
        fun _ hspec => ?_⟩ }
    -- a stack without a spec does not convert
    obtain ⟨D, hD, -⟩ := bind_eq_ok.mp hdiff
    obtain ⟨spec, hsome, -⟩ := children_of_stackToStack hD
    have hnone : stack.spec.map (sortSpec rt) = none := hspec
    rw [hsome] at hnone
    cases hnone
  | @requested deletion stack req rest server cluster heq hvalid hperform =>
    rw [heq] at hphase
    obtain ⟨hnamed, hwrites, hspec⟩ := hphase
    rw [List.forall_mem_cons] at hwrites
    exact { hs with
      leads := leads_requestEvents hperform (filed_of_leads hs.leads hs.filed)
        (slashFree_of_leads hs.leads hs.slashFree hs.valid)
        (fun hreq => (hwrites.1 hreq).1) hvalid ha hs.leads
      valid := List.forall_mem_append.mpr
        ⟨hs.valid, slashFree_of_mem_requestEvents hperform hvalid⟩
      phase := ⟨hnamed, hwrites.2, hspec⟩ }
  | refused heq =>
    rw [heq] at hphase
    exact { hs with
      phase := ⟨hphase.1, emptyStackState_filed, emptyStackState_slashFree, trivial⟩ }
  | applied heq =>
    rw [heq] at hphase
    exact { hs with
      phase := ⟨hphase.1, emptyStackState_filed, emptyStackState_slashFree, hphase.2.2 rfl⟩ }
  | statusFailed heq =>
    rw [heq] at hphase
    exact { hs with phase := hphase.1 }
  | statusGenerated heq _ =>
    rw [heq] at hphase
    exact { hs with phase := hphase.1 }
  | statusKept _ _ => exact { hs with phase := trivial }
  | @statusStored stack sent stored status heq hsent hmeta =>
    rw [heq] at hphase
    rw [(updateStackStatus_eq_some.mp hsent).2] at hmeta
    have hnamed : WellNamed stored := WellNamed.of_meta hphase hmeta.1 hmeta.2
    exact { hs with
      stackChanges := List.forall_mem_append.mpr
        ⟨hs.stackChanges, List.forall_mem_singleton.mpr ⟨hnamed, ha⟩⟩
      phase := trivial }
  | statusRefused _ _ => exact { hs with phase := trivial }
  | @deletionStarted stack seen ord ord' heq =>
    rw [heq] at hphase
    obtain ⟨hnamed, hfiled, hfree, -⟩ := hphase
    have hrequests := requestFor_deletionDiff hfiled hnamed hfree ord ord'
    exact { hs with
      phase := ⟨hnamed, fun req hreq => (hrequests req hreq).writes, nofun⟩ }
  | deletionUnresolved _ => exact { hs with phase := trivial }
  | deletionRefused _ => exact { hs with phase := trivial }
  | deletionDone _ => exact { hs with phase := trivial }

/-- A stack in the store is owed, in hand or done. -/
def ReconcilerState.Accounted (cfg : ReconcilerConfig) (s : ReconcilerState) : Prop :=
  ∀ key stack, s.stackStore key = some stack →
    s.Owed key ∨ InHand cfg s.caches stack s.phase ∨ Done cfg s.caches s.logged stack

/-- Nothing has been read yet. -/
theorem sees_all (caches seen : StackState) (key : String) : Sees caches seen key childKinds :=
  fun kind hkind => absurd (mem_childKinds kind) hkind

/-- What has been read is what the caches hold, and so is what is read next. -/
theorem Sees.read {caches seen : StackState} {key : String} {kind : ChildKind}
    {left : List ChildKind} (h : Sees caches seen key (kind :: left)) :
    Sees caches (seen.readKind caches kind) key left := by
  intro kind' hkind'
  funext k
  unfold StackState.indexed
  rw [StackState.find_readKind]
  split
  · rfl
  · -- a kind that was read before
    next hne =>
    have hleft : kind' ∉ kind :: left := by
      rw [List.mem_cons, not_or]
      exact ⟨Ne.symm hne, hkind'⟩
    exact congrFun (h kind' hleft) k

/-- When all kinds have been read, the whole state has been. -/
theorem Sees.indexed_eq {caches seen : StackState} {key : String} (h : Sees caches seen key []) :
    seen.indexed key = caches.indexed key :=
  funext fun kind => h kind List.not_mem_nil

/-- What is done stays done while its error stays logged. -/
theorem Done.logged {caches : StackState} {stack : Latest.Stack} {logged logged' : Finset String}
    (h : Done cfg caches logged stack)
    (hlogged : stackKey stack ∈ logged → stackKey stack ∈ logged') :
    Done cfg caches logged' stack :=
  h.imp_right (Or.imp_right hlogged)

/-- A step that can only add to what is owed. -/
theorem ReconcilerState.Accounted.of_owed (h : s.Accounted cfg)
    (hstore : s'.stackStore = s.stackStore) (hcaches : s'.caches = s.caches)
    (hphase : s'.phase = s.phase) (hlogged : s'.logged = s.logged)
    (howed : ∀ key, s.Owed key → s'.Owed key) : s'.Accounted cfg := by
  intro key stack hstack
  rw [hstore] at hstack
  rw [hcaches, hphase, hlogged]
  exact (h key stack hstack).imp_left (howed key)

/-- A step of the loop that leaves the queues, the watches and the stores alone:
what was owed and what was done stay so. -/
theorem accounted_of_phase {phase : ReconcilePhase} {logged : Finset String}
    (hphase : ∀ key, s.phase ≠ .received key) (hlogged : s.logged ⊆ logged)
    (h : s.Accounted cfg)
    (hnext : ∀ stack, s.stackStore (stackKey stack) = some stack →
      InHand cfg s.caches stack s.phase →
      InHand cfg s.caches stack phase ∨ Done cfg s.caches logged stack)
    (hs : s.WellKept) :
    ({ s with phase := phase, logged := logged } : ReconcilerState).Accounted cfg := by
  intro key stack hstack
  obtain ⟨hkey, -⟩ := hs.stackStore key stack hstack
  subst hkey
  rcases h _ stack hstack with howed | hhand | hdone
  · -- a key that is owed a pass stays so: only to take it up would change that
    refine Or.inl (howed.mono (fun q hq => hq) (List.Subset.refl _) (List.Subset.refl _)
      fun h => absurd h (hphase _))
  · exact Or.inr (hnext stack hstack hhand)
  · exact Or.inr (Or.inr (hdone.logged fun hkey => hlogged hkey))

/-- A pass that ends with an error that is only logged. -/
theorem accounted_of_logged {stack₀ : Latest.Stack} (hs : s.WellKept) (h : s.Accounted cfg)
    (hphase : ∀ key, s.phase ≠ .received key)
    (hhand : ∀ stack, InHand cfg s.caches stack s.phase → stack₀ = stack) :
    ({ s with logged := insert (stackKey stack₀) s.logged, phase := .idle } :
      ReconcilerState).Accounted cfg := by
  refine accounted_of_phase hphase (Finset.subset_insert _ _) h (fun stack _ hstack => ?_) hs
  rw [hhand stack hstack]
  exact Or.inr (Or.inr (Or.inr (Finset.mem_insert_self _ _)))

/-! ### The watches -/

/-- The event of a child tells the loop of every stack whose children it changes. -/
theorem accounted_childDelivered {event : ChildEvent} {before after : List ChildEvent}
    (hs : s.WellKept) (h : s.Accounted cfg)
    (hundelivered : s.undelivered = before ++ event :: after)
    (hfirst : ∀ e ∈ before, e.kind ≠ event.kind) :
    ({ s.enqueue .reconcile (event.sent true) with
        caches := event.after s.caches
        undelivered := before ++ after } : ReconcilerState).Accounted cfg := by
  intro key stack hstack
  obtain ⟨hkey, -⟩ := hs.stackStore key stack hstack
  by_cases hsent : key ∈ event.sent true
  · exact Or.inl (Or.inl ⟨.reconcile, Or.inl (mem_enqueue s .reconcile hsent)⟩)
  have hleads := hs.leads
  rw [hundelivered] at hleads
  obtain ⟨hoccurs, -⟩ := hleads.deliver hfirst
  -- the children of the stack have not changed
  have hview : s.caches.indexed (stackKey stack) =
      (event.after s.caches).indexed (stackKey stack) := by
    by_contra hne
    rw [hkey] at hne
    exact hsent (mem_sent_of_indexed_ne hoccurs (Ne.symm hne))
  have hfiled := ChildEvent.after_filed hs.filed event
  refine (h key stack hstack).imp ?_ (Or.imp (fun hhand => hhand.congr hs.filed hfiled hview)
    fun hdone => hdone.congr hs.filed hfiled hview)
  rintro (⟨q, hq⟩ | hphase | ⟨event', hevent', hsent'⟩ | hchange)
  · exact Or.inl ⟨q, hq.enqueue⟩
  · exact Or.inr (Or.inl hphase)
  · -- another event that tells of the stack is still to come
    refine Or.inr (Or.inr (Or.inl ⟨event', ?_, hsent'⟩))
    rw [hundelivered] at hevent'
    rcases List.mem_append.mp hevent' with hmem | hmem
    · exact List.mem_append_left _ hmem
    · rcases List.mem_cons.mp hmem with rfl | hmem
      · exact absurd hsent' hsent
      · exact List.mem_append_right _ hmem
  · exact Or.inr (Or.inr (Or.inr hchange))

/-- A stack that is stored is owed a pass, and the others are as they were. -/
theorem accounted_stackStored {stack₀ : Latest.Stack} {rest : List StackChange}
    (h : s.Accounted cfg) (hchanges : s.stackChanges = .stored stack₀ :: rest) :
    ({ s.enqueue .reconcile [stackKey stack₀] with
        stackStore := Function.update s.stackStore (stackKey stack₀) (some stack₀)
        stackChanges := rest } : ReconcilerState).Accounted cfg := by
  intro key stack hstack
  by_cases hkey : key = stackKey stack₀
  · subst hkey
    exact Or.inl (Or.inl ⟨.reconcile,
      Or.inl (mem_enqueue s .reconcile (List.mem_singleton_self _))⟩)
  · refine (h key stack ((Function.update_of_ne hkey ..).symm.trans hstack)).imp_left ?_
    rintro (⟨q, hq⟩ | hphase | hevent | ⟨stack₁, hstored, hkey₁⟩)
    · exact Or.inl ⟨q, hq.enqueue⟩
    · exact Or.inr (Or.inl hphase)
    · exact Or.inr (Or.inr (Or.inl hevent))
    · -- the change that has been delivered is of another stack
      refine Or.inr (Or.inr (Or.inr ⟨stack₁, ?_, hkey₁⟩))
      rw [hchanges] at hstored
      rcases List.mem_cons.mp hstored with heq | hmem
      · cases heq
        exact absurd hkey₁.symm hkey
      · exact hmem

/-- A stack that is deleted is no longer in the store, and nothing is owed to it. -/
theorem accounted_stackDeleted {stack₀ : Latest.Stack} {rest : List StackChange}
    (h : s.Accounted cfg) (hchanges : s.stackChanges = .deleted stack₀ :: rest) :
    ({ s with
        stackStore := Function.update s.stackStore (stackKey stack₀) none
        stackChanges := rest
        deletionQueue := s.deletionQueue ++ [stack₀] } : ReconcilerState).Accounted cfg := by
  intro key stack hstack
  have hkey : key ≠ stackKey stack₀ := by
    rintro rfl
    have hnone : none = some stack :=
      (Function.update_self (stackKey stack₀) none s.stackStore).symm.trans hstack
    cases hnone
  refine (h key stack ((Function.update_of_ne hkey ..).symm.trans hstack)).imp_left ?_
  rintro (hq | hphase | hevent | ⟨stack₁, hstored, hkey₁⟩)
  · exact Or.inl hq
  · exact Or.inr (Or.inl hphase)
  · exact Or.inr (Or.inr (Or.inl hevent))
  · refine Or.inr (Or.inr (Or.inr ⟨stack₁, ?_, hkey₁⟩))
    rw [hchanges] at hstored
    exact (List.mem_cons.mp hstored).resolve_left nofun

/-! ### The start of a pass -/

/-- A key that the loop takes is in its hands, and the others are where they were. -/
theorem accounted_taken {q₀ : KeyQueue} {key₀ : String} {c : StringChan} (h : s.Accounted cfg)
    (hidle : s.phase = .idle)
    (hsentTo : ∀ q key, s.SentTo q key →
      ({ s with queues := Function.update s.queues q₀ c, phase := .received key₀ } :
        ReconcilerState).SentTo q key ∨ key = key₀) :
    ({ s with queues := Function.update s.queues q₀ c, phase := .received key₀ } :
      ReconcilerState).Accounted cfg := by
  intro key stack hstack
  rcases h key stack hstack with howed | hhand | hdone
  · left
    rcases howed with ⟨q, hq⟩ | hphase | howed
    · rcases hsentTo q key hq with hq' | rfl
      · exact Or.inl ⟨q, hq'⟩
      · exact Or.inr (Or.inl rfl)
    · rw [hidle] at hphase
      cases hphase
    · exact Or.inr (Or.inr howed)
  · rw [hidle] at hhand
    exact hhand.elim
  · exact Or.inr (Or.inr hdone)

/-- A key without a stack: nothing that is in the store is concerned. -/
theorem accounted_missing {key₀ : String} (h : s.Accounted cfg)
    (hphase : s.phase = .received key₀) (hnone : s.stackStore key₀ = none) :
    ({ s with phase := .idle } : ReconcilerState).Accounted cfg := by
  intro key stack hstack
  have hne : key ≠ key₀ := by
    rintro rfl
    cases hnone.symm.trans hstack
  rcases h key stack hstack with howed | hhand | hdone
  · left
    refine howed.mono (fun q hq => hq) (List.Subset.refl _) (List.Subset.refl _) fun heq => ?_
    cases hphase.symm.trans heq
    exact absurd rfl hne
  · rw [hphase] at hhand
    exact hhand.elim
  · exact Or.inr (Or.inr hdone)

/-- The stack of the key is read as the store holds it, and its old error is forgotten. -/
theorem accounted_found {key₀ : String} {stack₀ : Latest.Stack} (hs : s.WellKept)
    (h : s.Accounted cfg) (hphase : s.phase = .received key₀)
    (hstack₀ : s.stackStore key₀ = some stack₀) :
    ({ s with
        logged := s.logged.erase key₀
        phase := if stack₀.objectMeta.deletionTimestamp = none then .resolving stack₀
          else .reading .deletion stack₀ emptyStackState childKinds } :
      ReconcilerState).Accounted cfg := by
  intro key stack hstack
  by_cases hkey : key = key₀
  · subst hkey
    cases hstack₀.symm.trans hstack
    refine Or.inr (Or.inl ?_)
    show InHand cfg s.caches stack₀ (if _ then _ else _)
    split
    · next hlive => exact ⟨rfl, hlive⟩
    · next hdeleting => exact ⟨rfl, sees_all _ _ _, hdeleting⟩
  · rcases h key stack hstack with howed | hhand | hdone
    · left
      refine howed.mono (fun q hq => hq) (List.Subset.refl _) (List.Subset.refl _) fun heq => ?_
      cases hphase.symm.trans heq
      exact absurd rfl hkey
    · rw [hphase] at hhand
      exact hhand.elim
    · -- the error of another stack stays logged
      refine Or.inr (Or.inr (hdone.logged fun hlogged => Finset.mem_erase.mpr ⟨?_, hlogged⟩))
      rw [(hs.stackStore key stack hstack).1]
      exact hkey

/-! ### The children -/

/-- The stack in the loop's hands is replaced in the store by the one that was sorted:
it is enough to follow that one. -/
theorem accounted_of_replaced {stack₀ : Latest.Stack} {rt : Runtime} {seen : StackState}
    {phase : ReconcilePhase} (h : s.Accounted cfg)
    (heq : s.phase = .reading .children stack₀ seen [])
    (hnext : InHand cfg s.caches stack₀ s.phase →
      InHand cfg s.caches { stack₀ with spec := stack₀.spec.map (sortSpec rt) } phase) :
    ({ s with
        stackStore := s.replaceStack stack₀ { stack₀ with spec := stack₀.spec.map (sortSpec rt) }
        phase := phase } : ReconcilerState).Accounted cfg := by
  intro key stack hstack
  have howed (howed : s.Owed key) : ({ s with
      stackStore := s.replaceStack stack₀ { stack₀ with spec := stack₀.spec.map (sortSpec rt) }
      phase := phase } : ReconcilerState).Owed key :=
    howed.mono (fun q hq => hq) (List.Subset.refl _) (List.Subset.refl _) (by simp [heq])
  rcases replaceStack_eq_some hstack with ⟨hstack₀, rfl⟩ | ⟨hne, hstack₁⟩
  · exact (h key stack₀ hstack₀).imp howed (Or.imp hnext (Done.sorted rt))
  · refine (h key stack hstack₁).imp howed (Or.imp_left fun hhand => ?_)
    rw [heq] at hhand
    exact absurd hhand.1.symm hne

/-- The difference is computed from what the caches still hold. -/
theorem inHand_converted {stack₀ : Latest.Stack} {seen : StackState} {rt : Runtime}
    {ord : RangeOrder ChildKind} {ord' : DiffOrder} {diff : StackStateDiff} (hs : s.WellKept)
    (heq : s.phase = .reading .children stack₀ seen []) (hrt : rt.Agrees cfg.runtime)
    (hdiff : reconcileDiff rt ord ord' cfg.serviceStrategy stack₀ seen = .ok diff)
    (hhand : InHand cfg s.caches stack₀ s.phase) :
    InHand cfg s.caches { stack₀ with spec := stack₀.spec.map (sortSpec rt) }
      (.applying false { stack₀ with spec := stack₀.spec.map (sortSpec rt) } diff.requests) := by
  have hphase := hs.phase
  rw [heq] at hhand hphase
  obtain ⟨-, hsees, hlive⟩ := hhand
  rw [reconcileDiff_congr hphase.2.1 hs.filed hsees.indexed_eq] at hdiff
  obtain ⟨rt', hrt', hdiff'⟩ := exists_reconcileDiff_sorted rt hdiff
  exact ⟨rfl, hlive, rt', ord, ord', diff, hrt'.trans hrt, hdiff', rfl⟩

/-- The first request of a pass was computed from the children that the caches hold. -/
theorem requestFor_of_inHand {deletion : Bool} {stack stack₀ : Latest.Stack} {req : ChildRequest}
    {rest : List ChildRequest} (hs : s.WellKept) (hnamed : WellNamed stack)
    (hlabels : KeepsLabels stack)
    (hhand : InHand cfg s.caches stack (.applying deletion stack₀ (req :: rest))) :
    stack₀ = stack ∧
      ∃ ord, RequestFor stack (getCurrentStackState ord s.caches (stackKey stack)) req := by
  cases deletion with
  | false =>
    obtain ⟨hsame, -, rt, ord, ord', diff, -, hdiff, hrequests⟩ := hhand
    refine ⟨hsame, ord, requestFor_reconcileDiff hs.filed hnamed hs.slashFree hlabels hdiff req ?_⟩
    rw [← hrequests]
    exact List.mem_cons_self
  | true =>
    obtain ⟨hsame, -, ord, ord', hrequests⟩ := hhand
    refine ⟨hsame, ord, requestFor_deletionDiff hs.filed hnamed hs.slashFree ord ord' req ?_⟩
    rw [← hrequests]
    exact List.mem_cons_self

/-- A request that is performed has an event that tells the loop of the stack. -/
theorem accounted_requested {deletion : Bool} {stack₀ : Latest.Stack} {req : ChildRequest}
    {rest : List ChildRequest} {server : Server} {cluster : StackState} (hs : s.WellKept)
    (h : s.Accounted cfg) (heq : s.phase = .applying deletion stack₀ (req :: rest))
    (hperform : perform server stack₀ s.cluster req = .ok cluster) :
    ({ s with
        cluster := cluster
        undelivered := s.undelivered ++ requestEvents stack₀ req s.cluster cluster
        phase := .applying deletion stack₀ rest } : ReconcilerState).Accounted cfg := by
  intro key stack hstack
  obtain ⟨hkey, hnamed, hlabels⟩ := hs.stackStore key stack hstack
  rcases h key stack hstack with howed | hhand | hdone
  · left
    exact howed.mono (fun q hq => hq) (List.subset_append_left _ _) (List.Subset.refl _)
      (by simp [heq])
  · left
    rw [heq] at hhand
    obtain ⟨rfl, ord, hreq⟩ := requestFor_of_inHand hs hnamed hlabels hhand
    obtain ⟨event, hevent, hsent⟩ := owed_of_performed hperform hs.leads hs.filed hreq
    rw [hkey] at hsent
    exact Or.inr (Or.inr (Or.inl ⟨event, hevent, hsent⟩))
  · exact Or.inr (Or.inr hdone)

/-- A request that is refused ends in a status that says so. -/
theorem accounted_refused {stack₀ : Latest.Stack} {req : ChildRequest} {rest : List ChildRequest}
    {failure : RequestFailure} (h : s.Accounted cfg)
    (heq : s.phase = .applying false stack₀ (req :: rest)) :
    ({ s.retryOnConflict failure.isConflict (stackKey stack₀) with
        phase := .reading (.status (some (requestFailureText stack₀ req failure))) stack₀
          emptyStackState childKinds } : ReconcilerState).Accounted cfg := by
  intro key stack hstack
  rcases h key stack hstack with howed | hhand | hdone
  · left
    exact howed.mono (fun q => .enqueue) (List.Subset.refl _) (List.Subset.refl _) (by simp [heq])
  · rw [heq] at hhand
    exact Or.inr (Or.inl ⟨hhand.1, sees_all _ _ _, trivial⟩)
  · exact Or.inr (Or.inr hdone)

/-! ### The status -/

/-- The status that is stored comes back through the stack informer. -/
theorem accounted_statusStored {stack₀ sent stored : Latest.Stack} {status : Latest.StackStatus}
    (hs : s.WellKept) (h : s.Accounted cfg) (heq : s.phase = .updatingStatus stack₀ status)
    (hsent : updateStackStatus stack₀ status = some sent)
    (hmeta : stored.objectMeta.namespace_ = sent.objectMeta.namespace_ ∧
      stored.objectMeta.name = sent.objectMeta.name) :
    ({ s with stackChanges := s.stackChanges ++ [.stored stored], phase := .idle } :
      ReconcilerState).Accounted cfg := by
  intro key stack hstack
  rcases h key stack hstack with howed | hhand | hdone
  · left
    exact howed.mono (fun q hq => hq) (List.Subset.refl _) (List.subset_append_left _ _)
      (by simp [heq])
  · rw [heq] at hhand
    obtain ⟨rfl, -⟩ := hhand
    have hkey : stackKey stored = key := by
      rw [← (hs.stackStore key stack₀ hstack).1, stackKey, hmeta.1, hmeta.2,
        (updateStackStatus_eq_some.mp hsent).2]
      rfl
    exact Or.inl (Or.inr (Or.inr (Or.inr
      ⟨stored, List.mem_append_right _ (List.mem_singleton_self _), hkey⟩)))
  · exact Or.inr (Or.inr hdone)

/-- A status that is refused is retried after a conflict, and logged otherwise. -/
theorem accounted_statusRefused {stack₀ : Latest.Stack} {status : Latest.StackStatus}
    {failure : RequestFailure} (hs : s.WellKept) (h : s.Accounted cfg)
    (heq : s.phase = .updatingStatus stack₀ status) :
    ({ s.retryOnConflict failure.isConflict (stackKey stack₀) with
        logged := if failure.isConflict then s.logged else insert (stackKey stack₀) s.logged
        phase := .idle } : ReconcilerState).Accounted cfg := by
  intro key stack hstack
  rcases h key stack hstack with howed | hhand | hdone
  · left
    exact howed.mono (fun q => .enqueue) (List.Subset.refl _) (List.Subset.refl _) (by simp [heq])
  · rw [heq] at hhand
    obtain ⟨rfl, -⟩ := hhand
    cases hconflict : failure.isConflict with
    | true =>
      rw [(hs.stackStore key stack₀ hstack).1]
      exact Or.inl (Or.inl ⟨.retry, Or.inl (mem_enqueue s .retry (List.mem_singleton_self _))⟩)
    | false => exact Or.inr (Or.inr (Or.inr (Or.inr (Finset.mem_insert_self _ _))))
  · refine Or.inr (Or.inr (hdone.logged fun hlogged => ?_))
    show _ ∈ (if _ then _ else _)
    split
    · exact hlogged
    · exact Finset.mem_insert_of_mem hlogged

/-! ### Every step -/

/-- **The step lemma**: every stored stack is owed a pass, in hand or done. -/
theorem accounted_step (hs : s.WellKept) (h : s.Accounted cfg)
    (hstep : ReconcilerStep cfg s a s') : s'.Accounted cfg := by
  have hsentTo {q : KeyQueue} {key : String} (hq : s.SentTo q key) :=
    sentTo_step hs.channels hstep hq
  cases hstep with
  -- steps that add to what is owed
  | stackWritten hnamed =>
    exact h.of_owed rfl rfl rfl rfl fun key howed =>
      howed.mono (fun q hq => hq) (List.Subset.refl _) (List.subset_append_left _ _) id
  | childWritten hoccurs hvalid =>
    exact h.of_owed rfl rfl rfl rfl fun key howed =>
      howed.mono (fun q hq => hq) (List.subset_append_left _ _) (List.Subset.refl _) id
  | childResynced hfind =>
    exact h.of_owed rfl rfl rfl rfl fun key howed =>
      howed.mono (fun q => .enqueue) (List.Subset.refl _) (List.Subset.refl _) id
  | stackResynced hstack₀ =>
    exact h.of_owed rfl rfl rfl rfl fun key howed =>
      howed.mono (fun q => .enqueue) (List.Subset.refl _) (List.Subset.refl _) id
  | sent _ _ =>
    exact h.of_owed rfl rfl rfl rfl fun key howed =>
      howed.mono (fun q hq => (hsentTo hq).resolve_right nofun) (List.Subset.refl _)
        (List.Subset.refl _) id
  | queued _ _ =>
    exact h.of_owed rfl rfl rfl rfl fun key howed =>
      howed.mono (fun q hq => (hsentTo hq).resolve_right nofun) (List.Subset.refl _)
        (List.Subset.refl _) id
  -- the watches
  | childDelivered hundelivered hfirst => exact accounted_childDelivered hs h hundelivered hfirst
  | stackStored hchanges => exact accounted_stackStored h hchanges
  | stackDeleted hchanges => exact accounted_stackDeleted h hchanges
  -- the start of a pass
  | taken hidle _ =>
    refine accounted_taken h hidle fun q key hq => (hsentTo hq).imp_right fun htaken => ?_
    cases htaken
    rfl
  | takenDeletion hidle hqueue =>
    refine accounted_of_phase (by simp [hidle]) (Finset.Subset.refl _) h
      (fun stack _ hhand => ?_) hs
    rw [hidle] at hhand
    exact hhand.elim
  | missing hphase hnone => exact accounted_missing h hphase hnone
  | found hphase hstack₀ => exact accounted_found hs h hphase hstack₀
  | resolved heq =>
    refine accounted_of_phase (by simp [heq]) (Finset.Subset.refl _) h
      (fun stack _ hhand => ?_) hs
    rw [heq] at hhand
    exact Or.inl ⟨hhand.1, sees_all _ _ _, hhand.2⟩
  | unresolved heq =>
    refine accounted_of_logged hs h (by simp [heq]) fun stack hhand => ?_
    rw [heq] at hhand
    exact hhand.1
  | read heq =>
    refine accounted_of_phase (by simp [heq]) (Finset.Subset.refl _) h
      (fun stack _ hhand => ?_) hs
    rw [heq] at hhand
    exact Or.inl ⟨hhand.1, hhand.2.1.read, hhand.2.2⟩
  -- the children
  | notConverted heq hrt herr =>
    rw [stackToStack_spec]
    exact accounted_of_replaced h heq fun _ => ⟨rfl, sees_all _ _ _, trivial⟩
  | converted heq hrt hdiff =>
    rw [stackToStack_spec]
    exact accounted_of_replaced h heq (inHand_converted hs heq hrt hdiff)
  | requested heq hvalid hperform => exact accounted_requested hs h heq hperform
  | refused heq => exact accounted_refused h heq
  | applied heq =>
    refine accounted_of_phase (by simp [heq]) (Finset.Subset.refl _) h
      (fun stack _ hhand => ?_) hs
    rw [heq] at hhand
    obtain ⟨hsame, hlive, rt, ord, ord', diff, hrt, hdiff, hrequests⟩ := hhand
    have hempty := requests_eq_nil_iff.mp hrequests.symm
    exact Or.inl ⟨hsame, sees_all _ _ _, hlive, rt, ord, ord', diff, hrt, hdiff, hempty⟩
  -- the status
  | statusFailed heq =>
    refine accounted_of_phase (by simp [heq]) (Finset.Subset.refl _) h
      (fun stack _ hhand => ?_) hs
    rw [heq] at hhand
    exact Or.inl ⟨hhand.1, Or.inr ⟨_, rfl⟩⟩
  | @statusGenerated stack₀ seen ord ord' status heq hstatus =>
    refine accounted_of_phase (by simp [heq]) (Finset.Subset.refl _) h
      (fun stack _ hhand => ?_) hs
    have hphase := hs.phase
    rw [heq] at hhand hphase
    obtain ⟨rfl, hsees, hlive, hsettled⟩ := hhand
    rw [getCurrentStackState_of_indexed ord hphase.2.1 hs.filed hsees.indexed_eq] at hstatus
    exact Or.inl ⟨rfl, Or.inl ⟨hlive, hsettled, ord, ord', hstatus⟩⟩
  | @statusKept stack₀ status heq hkept =>
    refine accounted_of_phase (by simp [heq]) (Finset.Subset.refl _) h
      (fun stack _ hhand => ?_) hs
    rw [heq] at hhand
    have hstatus := updateStackStatus_eq_none.mp hkept
    obtain ⟨rfl, ⟨hlive, hsettled, htells⟩ | ⟨err, rfl⟩⟩ := hhand
    · exact Or.inr (Or.inl (Or.inl ⟨hlive, hsettled, status, hstatus, htells⟩))
    · exact Or.inr (Or.inr (Or.inl ⟨err, hstatus⟩))
  | statusStored heq hsent hmeta => exact accounted_statusStored hs h heq hsent hmeta
  | statusRefused heq hsent => exact accounted_statusRefused hs h heq
  -- the deletion of the children
  | @deletionStarted stack₀ seen ord ord' heq =>
    refine accounted_of_phase (by simp [heq]) (Finset.Subset.refl _) h
      (fun stack _ hhand => ?_) hs
    have hphase := hs.phase
    rw [heq] at hhand hphase
    obtain ⟨rfl, hsees, hdeleting⟩ := hhand
    refine Or.inl ⟨rfl, hdeleting, ord, ord', ?_⟩
    rw [deletionDiff_congr hphase.2.1 hs.filed hsees.indexed_eq]
  | deletionUnresolved heq =>
    refine accounted_of_logged hs h (by simp [heq]) fun stack hhand => ?_
    rw [heq] at hhand
    exact hhand.1
  | deletionRefused heq =>
    refine accounted_of_logged hs h (by simp [heq]) fun stack hhand => ?_
    rw [heq] at hhand
    exact hhand.1
  | deletionDone heq =>
    refine accounted_of_phase (by simp [heq]) (Finset.Subset.refl _) h
      (fun stack _ hhand => ?_) hs
    rw [heq] at hhand
    obtain ⟨rfl, hdeleting, ord, ord', hrequests⟩ := hhand
    have hnone := indexed_of_deletionDiff hs.filed hrequests.symm
    exact Or.inr (Or.inl (Or.inr ⟨hdeleting, hnone⟩))

end Step

/-! ## Runs -/

/-- Nothing is on its way, and the loop has nothing in its hands. -/
structure ReconcilerState.Quiescent (s : ReconcilerState) : Prop where
  undelivered : s.undelivered = []
  stackChanges : s.stackChanges = []
  waiting : ∀ q, s.waiting q = []
  queues : ∀ q key, ¬(s.queues q).Underway key
  deletionQueue : s.deletionQueue = []
  phase : s.phase = .idle

/-- At rest no key is owed a pass. -/
theorem ReconcilerState.Quiescent.not_owed {s : ReconcilerState} (h : s.Quiescent) (key : String) :
    ¬s.Owed key := by
  rintro (⟨q, hq | hq⟩ | hphase | ⟨event, hevent, -⟩ | ⟨stack, hstack, -⟩)
  · rw [h.waiting q] at hq
    cases hq
  · exact h.queues q key hq
  · rw [h.phase] at hphase
    cases hphase
  · rw [h.undelivered] at hevent
    cases hevent
  · rw [h.stackChanges] at hstack
    cases hstack

section Runs

variable {cfg : ReconcilerConfig} {s : ReconcilerState}

/-- A reconciler that starts is well kept. -/
theorem wellKept_of_started (h : s.Started) : s.WellKept where
  leads := by
    rw [h.undelivered, h.synced]
    exact .nil
  filed := h.synced ▸ h.filed
  slashFree := h.synced ▸ h.slashFree
  valid := by
    rw [h.undelivered]
    intro event hevent
    cases hevent
  channels q := by
    rw [h.queues q]
    exact @exists_represents 0 _ (.init rfl)
  stackStore key stack hstack := by
    rw [h.stackStore key] at hstack
    cases hstack
  stackChanges := h.stackChanges
  deletionQueue := by
    rw [h.deletionQueue]
    intro stack hstack
    cases hstack
  phase := by
    rw [h.phase]
    exact trivial

/-- In every state that is reached, nothing has been forgotten. -/
theorem accounted_of_reachable
    (h : (reconcilerSystem cfg).ReachableUnder LabelsRespected s) :
    s.WellKept ∧ s.Accounted cfg := by
  refine h.induct (I := fun s => s.WellKept ∧ s.Accounted cfg) (fun s hs => ?_) ?_
  · refine ⟨wellKept_of_started hs, fun key stack hstack => ?_⟩
    rw [hs.stackStore key] at hstack
    cases hstack
  · rintro s a s' ⟨hkept, haccounted⟩ ha hstep
    exact ⟨wellKept_step hkept ha hstep, accounted_step hkept haccounted hstep⟩

/-- **What a controller at rest has achieved.** When nothing is on its way any more,
then for every stack in the informer's store the children in the cluster are those
that the stack is converted to and its status is theirs (or there are none, and it
is being deleted); or its status is the error of a reconciliation; or the last
attempt has ended with an error that the loop has only logged. -/
theorem quiescent_settled (h : (reconcilerSystem cfg).ReachableUnder LabelsRespected s)
    (hrest : s.Quiescent) :
    ∀ key stack, s.stackStore key = some stack → UpToDate cfg s.cluster stack ∨
      (∃ err, stack.status = some (statusFailure err)) ∨ key ∈ s.logged := by
  intro key stack hstack
  obtain ⟨hkept, haccounted⟩ := accounted_of_reachable h
  -- with nothing undelivered the caches are what the API server holds
  have hleads := hkept.leads
  rw [hrest.undelivered] at hleads
  have hsynced := hleads.eq_of_nil
  rcases haccounted key stack hstack with howed | hhand | hdone
  · exact absurd howed (hrest.not_owed key)
  · rw [hrest.phase] at hhand
    exact hhand.elim
  · rw [hsynced, Done, (hkept.stackStore key stack hstack).1] at hdone
    exact hdone

end Runs

/-! A stack that has been deployed before the controller is started. -/

/-- The stack, with the status that it has been given. -/
def restStack : Latest.Stack := { webStack with status := some statusProgressing }

/-- Its children, none of them ready. -/
def restCluster : StackState :=
  match (stackToStack Runtime.reference webStack .loadBalancer emptyStackState).1 with
  | .ok D => setStackOwnership D webStack
  | .error _ => emptyStackState

/-- The children of the example are filed under their keys. -/
theorem restCluster_filed : restCluster.Filed := by
  obtain ⟨D, hD⟩ : ∃ D, (stackToStack Runtime.reference webStack .loadBalancer
      emptyStackState).1 = .ok D := ⟨_, rfl⟩
  have hkeyed := (creatable_of_stackToStack (.ascending _) (emptyStackState_keyed _) hD).1
  unfold restCluster
  rw [hD]
  exact hkeyed.filed

/-- Their names have no slashes. -/
theorem restCluster_slashFree : restCluster.SlashFree := by
  intro kind k r hr
  have hmem : r ∈ restCluster.flattenResources (.ascending _) :=
    mem_flattenResources.mpr ⟨kind, k, hr⟩
  -- there are few enough of them to look at each
  have hall : ∀ r ∈ restCluster.flattenResources (.ascending _),
      '/' ∉ r.objectMeta.namespace_.toList ∧ '/' ∉ r.objectMeta.name.toList ∧
        ∀ stackName ∈ r.objectMeta.labels.get? Labels.forStackName, '/' ∉ stackName.toList := by
    decide
  obtain ⟨hns, hname, hlabel⟩ := hall r hmem
  exact ⟨hns, hname, hlabel⟩

theorem restDiff : ∃ diff, reconcileDiff Runtime.reference (.ascending _) (.ascending _)
    .loadBalancer restStack restCluster = .ok diff ∧ diff.requests = [] := ⟨_, rfl, rfl⟩

/-- The status of the example's stack, from its children. -/
theorem restStatus : generateStatus restStack
    ((getCurrentStackState (.ascending _) restCluster (stackKey restStack)).flattenResources
      (.ascending _)) = some statusProgressing := by decide

/-- The example starts with its caches in step with the cluster. -/
theorem restStart_started : (startedWith restCluster restStack).Started where
  synced := rfl
  filed := restCluster_filed
  slashFree := restCluster_slashFree
  undelivered := rfl
  stackChanges := by
    refine List.forall_mem_singleton.mpr ⟨⟨?_, ?_, ?_, ?_⟩, ?_⟩
    · decide
    · decide
    · decide
    · decide
    · intro spec hspec srv hsrv
      cases hspec
      cases List.mem_singleton.mp hsrv
      exact ⟨by decide, fun v hv => nomatch hv⟩
  stackStore _ := rfl
  queues _ := rfl
  waiting _ := rfl
  deletionQueue := rfl
  phase := rfl

/-- The children are as they should be: there is nothing to apply. -/
theorem rest_converted {waiting : List String} {queue : StringChan} :
    ReconcilerStep referenceConfig
      (toldOf restCluster restStack waiting queue (.reading .children restStack restCluster []))
      .internal (toldOf restCluster restStack waiting queue (.applying false restStack [])) := by
  obtain ⟨diff, hdiff, hrequests⟩ := restDiff
  have hstep : ReconcilerStep referenceConfig
      (toldOf restCluster restStack waiting queue (.reading .children restStack restCluster []))
      .internal _ := .converted rfl ⟨rfl, rfl, rfl, rfl⟩ hdiff
  -- a stack with one service is sorted
  have hsorted (C : StackState) : (stackToStack referenceConfig.runtime restStack
      referenceConfig.serviceStrategy C).2 = restStack := by
    rw [stackToStack_spec]
    rfl
  rw [hsorted, hrequests, replaceStack_self] at hstep
  exact hstep

/-- The run: the loop is told of the stack, finds nothing to do, and rests. -/
theorem quiescent_settled_webStack : ∃ s : ReconcilerState,
    (reconcilerSystem referenceConfig).ReachableUnder LabelsRespected s ∧ s.Quiescent ∧
      s.stackStore "prod/app" = some restStack ∧ UpToDate referenceConfig s.cluster restStack := by
  obtain ⟨labels, content, hrun, hallowed⟩ := run_received referenceConfig restCluster restStack
  have h := System.ReachableUnder.append (.init restStart_started) hrun hallowed
  -- the key is taken, the stack is found, and the children are read
  have hread := ((h.step (by trivial) (step_found _ _ _ rfl)).step (by trivial)
    (step_resolved _ _ _)).append (run_read _ _ _ .children) (by simp [LabelsRespected])
  -- nothing is to be applied, and the children are read again for the status
  have happlied := ((hread.step (by trivial) rest_converted).step (by trivial)
    (.applied rfl)).append (run_read _ _ _ (.status none)) (by simp [LabelsRespected])
  have hreach := (happlied.step (by trivial) (.statusGenerated rfl restStatus)).step (by trivial)
    (.statusKept rfl rfl)
  -- no key is left in either queue
  have hrest : (toldOf restCluster restStack [] ⟨content, [], false, .receiving, .receiving⟩
      .idle).Quiescent := by
    refine ⟨rfl, rfl, fun q => ?_, fun q key => ?_, rfl, rfl⟩
    · cases q <;> rfl
    · cases q
      · rintro (hkey | hkey | hkey | hkey | hkey) <;> cases hkey
      · rintro (hkey | hkey | hkey | hkey | hkey) <;> cases hkey
  refine ⟨_, hreach, hrest, rfl, ?_⟩
  -- of the three outcomes two do not apply to this stack
  rcases quiescent_settled hreach hrest "prod/app" restStack rfl with hdone | ⟨err, herr⟩ | hlogged
  · exact hdone
  · have hphase : Latest.stackProgressing = Latest.stackFailure :=
      congrArg Latest.StackStatus.phase (Option.some.inj herr)
    exact absurd hphase (by decide)
  · cases hlogged

end ComposeKube

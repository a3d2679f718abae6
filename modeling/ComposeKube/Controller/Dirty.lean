import ComposeKube.Lib.Transition
import ComposeKube.Controller.Soundness
import ComposeKube.Controller.StatusWrite
import ComposeKube.Registry.Subresources

/-!
# Does a changed spec stay dirty?

Clients update a stored stack, through either strategy or through the two
subresources, and the controller writes its status back. A client sends no
status or one that it has read. The status is the only trace of a change: once
it is clean, workloads whose generation matches are skipped.

`PrepareForUpdate` sets the status only when the update at hand changes the
spec. Otherwise the status of the request is stored, and a request that changes
nothing can hide a change that has not been reconciled yet.

* `step_dirty` — what one update keeps, under the condition `Action.Keeps`.
* `changed_dirty` — runs in which every update meets the condition.
* `changed_clean_reachable` — a run in which one does not.
-/

namespace ComposeKube

open Go Transition

/-! ## The system -/

namespace Update

/-- The client sends no status, or one that it has read. -/
def StatusRead (loader : Loader) (versions : List Internal.Stack) : Update → Prop
  | v1beta1 sent => sent.status = default ∨
    ∃ s ∈ versions, sent.status = (stackFromInternalV1beta1 s default).status
  | v1alpha3 sent => sent.status = none ∨
    ∃ s ∈ versions, ∃ latest, stackFromInternalV1alpha3 loader s default = .ok latest ∧
      sent.status = latest.status
  | composeFile _ => True
  | scale _ => True

end Update

/-- The stored stack, what has been stored so far, and whether `Spec.Stack` has
changed since the last status write of the controller. -/
structure Cluster where
  stored : Internal.Stack
  versions : List Internal.Stack
  changed : Bool

/-- A client updates the stack, or the controller writes the status of a version
that it has read, as the owner it impersonates. -/
inductive Action where
  | update (ctx : Request) (u : Update)
  | writeStatus (read : Internal.Stack) (owner : ImpersonationConfig) (status : Latest.StackStatus)

/-- A stack as it is written under a resource version. -/
def writtenAs (resourceVersion : String) (new : Internal.Stack) : Internal.Stack :=
  { new with objectMeta := { new.objectMeta with resourceVersion := resourceVersion } }

/-- The next version of the stack. -/
def Cluster.store (s : Cluster) (new : Internal.Stack) (changed : Bool) : Cluster where
  stored := new
  versions := new :: s.versions
  changed := changed

/-- The resource version is one that no version has had. -/
def Cluster.FreshVersion (s : Cluster) (resourceVersion : String) : Prop :=
  resourceVersion ≠ "" ∧ ∀ v ∈ s.versions, v.objectMeta.resourceVersion ≠ resourceVersion

section Runs

variable (checks : Checks) (loader : Loader) (strategy : ServiceStrategy)

inductive ClusterStep : Cluster → Action → Cluster → Prop
  /-- An update that names another resource version is refused; one that names
  none is not. -/
  | update {s : Cluster} {ctx : Request} {u : Update} {obj new : Internal.Stack}
      {resourceVersion : String} (hread : u.StatusRead loader s.versions)
      (hobj : u.object s.stored = .ok obj)
      (hmatch : obj.objectMeta.resourceVersion = "" ∨
        obj.objectMeta.resourceVersion = s.stored.objectMeta.resourceVersion)
      (hnew : updateStack checks loader u.version ctx obj s.stored = .ok new)
      (hfresh : s.FreshVersion resourceVersion) :
      ClusterStep s (.update ctx u)
        (s.store (writtenAs resourceVersion new)
          (s.changed || new.spec.stack ≠ s.stored.spec.stack))
  /-- The controller has applied the difference for the version it read. -/
  | writeStatus {s : Cluster} {read : Internal.Stack} {owner : ImpersonationConfig}
      {status : Latest.StackStatus} {latest sent : Latest.Stack} {server : Server}
      {ord : DiffOrder} {current current' : StackState} {resourceVersion : String}
      (hread : read ∈ s.versions)
      (hmatch : read.objectMeta.resourceVersion = s.stored.objectMeta.resourceVersion)
      (hstatus : status = statusProgressing ∨ status = statusAvailable)
      (hlatest : stackFromInternalV1alpha3 loader read default = .ok latest)
      (happlied : reconcileChildren checks.rt server ord strategy latest current = .ok current')
      (hsent : updateStackStatus (stackToStack checks.rt latest strategy current).2 status =
        some sent)
      (hfresh : s.FreshVersion resourceVersion) :
      ClusterStep s (.writeStatus read owner status)
        (s.store (writtenAs resourceVersion (prepareForUpdate loader .v1beta2
          { user := some owner, skipValidation := true } (stackToInternalV1alpha3 sent default)
          s.stored)) false)

/-- A stack has just been created. -/
def Cluster.Created (s : Cluster) : Prop :=
  ∃ ctx stack new resourceVersion, createStack checks loader ctx stack = .ok new ∧
    resourceVersion ≠ "" ∧ s.stored = writtenAs resourceVersion new ∧
    s.versions = [s.stored] ∧ s.changed = true

def clusterSystem : System Cluster Action where
  init := Cluster.Created checks loader
  step := ClusterStep checks loader strategy

end Runs

/-! ## What one update keeps -/

/-- The strategy takes the update for an edit: of the compose file in the first
version, of the spec in the later ones, or of the owner in any. -/
def SeenAsEdit (version : APIVersion) (ctx : Request) (obj stored : Internal.Stack) : Prop :=
  (∃ user, ctx.user = some user ∧
    Semantic.impersonationConfig user ≠ Semantic.impersonationConfig stored.spec.owner) ∨
  match version with
  | .v1beta1 => obj.spec.composeFile ≠ stored.spec.composeFile
  | .v1beta2 => obj.spec.stack ≠ none ∧
    obj.spec.stack.map Semantic.stackSpec ≠ stored.spec.stack.map Semantic.stackSpec
  | .other _ => False

/-- The services of the stored stack are in the order in which a check that
converts the stack leaves them, or there is no such check. -/
def StaysInOrder (rt : Runtime) (ctx : Request) (stored : Internal.Stack) : Prop :=
  ctx.skipValidation = true ∨ rt.sortStack stored = stored

/-- A request of this kind has nothing to hide. A subresource carries the stored
status along; the others bring their own. -/
def Update.HidesNothing (s : Cluster) : Update → Prop
  | v1beta1 _ => s.changed = false
  | v1alpha3 sent => s.changed = false ∧ sent.spec = s.stored.spec.stack
  | composeFile _ => True
  | scale _ => True

/-- An update that cannot hide a change: it is seen as an edit, or its status is
dirty, or it has nothing to hide and the services stay in order. -/
def Action.Keeps (rt : Runtime) (s : Cluster) : Action → Prop
  | .update ctx u => ∀ obj, u.object s.stored = .ok obj →
    SeenAsEdit u.version ctx obj s.stored ∨ isStackDirty obj.status = true ∨
      (u.HidesNothing s ∧ StaysInOrder rt ctx s.stored)
  | .writeStatus .. => True

/-- An update that leaves the stack clean was not seen as an edit, and it stored
the status of the request. It kept the spec if it sent the stored one, or none. -/
theorem prepareForUpdate_clean {loader : Loader} {version : APIVersion} {ctx : Request}
    {obj stored : Internal.Stack}
    (h : isStackDirty (prepareForUpdate loader version ctx obj stored).status = false) :
    (prepareForUpdate loader version ctx obj stored).status = obj.status ∧
    ¬SeenAsEdit version ctx obj stored ∧
    ((version = .v1beta2 → obj.spec.stack = stored.spec.stack) →
      (prepareForUpdate loader version ctx obj stored).spec.stack = stored.spec.stack) := by
  obtain hdirty | ⟨user, f, huser, hf, hstatus, hsem, stack, hspec, hkeep⟩ :=
    prepareForUpdate_dirty_or loader version ctx obj stored
  · rw [hdirty] at h
    cases h
  replace hsem : Semantic.internalStackSpec stored.spec = Semantic.internalStackSpec _ :=
    of_decide_eq_true hsem
  rw [hspec] at hsem
  have hcompose := congrArg Internal.StackSpec.composeFile hsem
  have hstack := congrArg Internal.StackSpec.stack hsem
  have howner := congrArg Internal.StackSpec.owner hsem
  simp only [Semantic.internalStackSpec] at hcompose hstack howner
  -- a spec that is kept is kept as it was, a missing one is still missing
  have hsame : (restoredFields obj stored user f).spec.stack = stored.spec.stack →
      stack = stored.spec.stack := by
    intro hrestored
    cases hstored : stored.spec.stack with
    | some spec =>
      rw [hstored] at hrestored
      rw [hkeep (by simp [hrestored]), hrestored]
    | none =>
      rw [hstored, Option.map_none] at hstack
      exact Option.map_eq_none_iff.mp hstack.symm
  rw [hspec]
  refine ⟨hstatus, ?_, ?_⟩
  · rintro (⟨user', huser', hne⟩ | hedit)
    · cases huser.symm.trans huser'
      rw [restoredFields_owner version obj stored user hf] at howner
      exact hne howner.symm
    · cases version with
      | v1beta1 =>
        cases hf
        rw [restoredFields_v1beta1] at hcompose
        exact hedit hcompose.symm
      | v1beta2 =>
        cases hf
        have hobj : (restoredFields obj stored user setFieldsForV1beta2Update).spec.stack =
            obj.spec.stack := setFieldsForV1beta2Update_stack ..
        obtain ⟨hne, hedit⟩ := hedit
        rw [hkeep (by rwa [hobj]), hobj] at hstack
        exact hedit hstack.symm
      | other version => cases hf
  · intro hsent
    refine hsame ?_
    cases version with
    | v1beta1 =>
      cases hf
      rw [restoredFields_v1beta1] at hcompose ⊢
      exact if_neg (not_not.mpr hcompose.symm)
    | v1beta2 =>
      cases hf
      exact (setFieldsForV1beta2Update_stack ..).trans (hsent rfl)
    | other version => cases hf

/-- The stack that an accepted update stores: prepared, with the same services. -/
theorem updateStack_spec_of_order {checks : Checks} {loader : Loader} {version : APIVersion}
    {ctx : Request} {obj stored new : Internal.Stack}
    (hnew : updateStack checks loader version ctx obj stored = .ok new)
    (horder : StaysInOrder checks.rt ctx stored)
    (hstack : (prepareForUpdate loader version ctx obj stored).spec.stack = stored.spec.stack) :
    new.spec.stack = stored.spec.stack := by
  rw [updateStack_validated hnew]
  cases hskip : ctx.skipValidation with
  | true => exact hstack
  | false =>
    have hsorted : checks.rt.sortStack stored = stored := by
      rcases horder with h | h
      · rw [hskip] at h
        cases h
      · exact h
    -- sorting leaves the services of the stored stack, so it leaves these
    have hmap : stored.spec.stack.map (sortSpec checks.rt) = stored.spec.stack :=
      congrArg (fun s : Internal.Stack => s.spec.stack) hsorted
    show ((prepareForUpdate loader version ctx obj stored).spec.stack.map _).map _ = _
    rw [hstack, hmap, hmap]

/-- The status that is stored is that of the preparation. -/
theorem updateStack_status {checks : Checks} {loader : Loader} {version : APIVersion}
    {ctx : Request} {obj stored new : Internal.Stack}
    (hnew : updateStack checks loader version ctx obj stored = .ok new) :
    new.status = (prepareForUpdate loader version ctx obj stored).status := by
  rw [updateStack_validated hnew]
  split <;> rfl

/-- What is changed is dirty. -/
def Cluster.ChangedDirty (s : Cluster) : Prop :=
  s.changed = true → isStackDirty s.stored.status = true

/-- An update that has nothing to hide and brings a clean status: nothing had
changed, and it sends the stored spec. -/
theorem unchanged_of_hidesNothing {s : Cluster} (hs : s.ChangedDirty) {ctx : Request} {u : Update}
    {obj : Internal.Stack} (hobj : u.object s.stored = .ok obj) (hhides : u.HidesNothing s)
    (hclean : isStackDirty obj.status = false) (hedit : ¬SeenAsEdit u.version ctx obj s.stored) :
    s.changed = false ∧ (u.version = .v1beta2 → obj.spec.stack = s.stored.spec.stack) := by
  -- the stored status is sent back, and a change would have made it dirty
  have hunchanged : obj.status = s.stored.status → s.changed = false := by
    intro hstatus
    rw [Bool.eq_false_iff]
    intro hchanged
    rw [hstatus, hs hchanged] at hclean
    cases hclean
  cases u with
  | v1beta1 sent => exact ⟨hhides, fun h => nomatch h⟩
  | v1alpha3 sent =>
    cases hobj
    exact ⟨hhides.1, fun _ => hhides.2⟩
  | composeFile newCompose =>
    cases hobj
    exact ⟨hunchanged (bumpGeneration_status ..), fun h => nomatch h⟩
  -- a scale that changes anything is seen as an edit
  | scale newScale =>
    obtain ⟨hstatus, hsome⟩ := scaleTransform_status hobj
    refine ⟨hunchanged hstatus, fun _ => scaleTransform_same hobj ?_⟩
    by_contra hne
    exact hedit (Or.inr ⟨hsome, hne⟩)

/-- **One step**: an update that meets the condition, or a status write, leaves a
changed spec dirty. -/
theorem step_dirty {checks : Checks} {loader : Loader} {strategy : ServiceStrategy} {a : Action}
    {s s' : Cluster} (hs : s.ChangedDirty) (ha : a.Keeps checks.rt s)
    (h : ClusterStep checks loader strategy s a s') : s'.ChangedDirty := by
  cases h with
  | writeStatus => exact fun hchanged => nomatch hchanged
  | @update ctx u obj new _ hread hobj hmatch hnew hfresh =>
    show (s.changed || decide (new.spec.stack ≠ s.stored.spec.stack)) = true →
      isStackDirty new.status = true
    intro hchanged
    by_contra hclean
    rw [Bool.not_eq_true, updateStack_status hnew] at hclean
    obtain ⟨hstatus, hedit, hkeep⟩ := prepareForUpdate_clean hclean
    rw [hstatus] at hclean
    -- an edit that is seen, a status that is dirty, or nothing to hide
    rcases ha obj hobj with hseen | hdirty | ⟨hhides, horder⟩
    · exact hedit hseen
    · rw [hdirty] at hclean
      cases hclean
    · -- nothing had changed, and nothing changes now
      obtain ⟨hunchanged, hsent⟩ := unchanged_of_hidesNothing hs hobj hhides hclean hedit
      have hstack := updateStack_spec_of_order hnew horder (hkeep hsent)
      rw [hunchanged, hstack] at hchanged
      simp at hchanged

/-! ## Runs -/

/-- **A spec change keeps its reconciliation.** In a run whose updates all meet
the condition, a spec that has changed since the last status write of the
controller is dirty, and none of its workloads is skipped. -/
theorem changed_dirty (checks : Checks) (loader : Loader) (strategy : ServiceStrategy)
    (s : Cluster)
    (h : (clusterSystem checks loader strategy).ReachableUnder
      (fun s a => a.Keeps checks.rt s) s)
    (hchanged : s.changed = true) :
    isStackDirty s.stored.status = true ∧
      ∀ (ctx : ServiceContext) (C : StackState),
        ctx.skipsWorkload C (isStackDirty s.stored.status) = false := by
  have hdirty : s.ChangedDirty := by
    refine h.induct ?_ ?_
    · rintro s ⟨ctx, stack, new, _, hcreate, -, hstored, -⟩ -
      rw [hstored]
      show isStackDirty new.status = true
      exact createStack_dirty hcreate
    · exact fun s a s' hs ha hstep => step_dirty hs ha hstep
  refine ⟨hdirty hchanged, fun ctx C => ?_⟩
  rw [hdirty hchanged]
  exact skipsWorkload_dirty ctx C

/-! ### An edit and its reconciliation -/

def exampleChecks : Checks where
  rt := Runtime.reference
  ord := RangeOrder.ascending ValidateLoop
  labelsOf _ _ _ := none

/-- The one user of the example. -/
def deployer : ImpersonationConfig :=
  { (default : ImpersonationConfig) with userName := "deployer" }

def deployerRequest : Request where
  user := some deployer
  skipValidation := false

/-- A version of a stack with one service, of the given image. -/
def webVersion (resourceVersion image : String) (status : Latest.StackStatus) : Internal.Stack :=
  let stored := storedStackOf [{ webService with image := image }]
  writtenAs resourceVersion
    { stored with spec := { stored.spec with owner := deployer }, status := some status }

/-- The stack has been created, its status written, and its image edited. -/
def createdCluster : Cluster where
  stored := webVersion "1" "nginx" waitingForReconciliation
  versions := [webVersion "1" "nginx" waitingForReconciliation]
  changed := true

def availableCluster : Cluster :=
  createdCluster.store (webVersion "2" "nginx" statusAvailable) false

def editedCluster : Cluster :=
  availableCluster.store (webVersion "3" "httpd" waitingForReconciliation) true

/-- The example starts with a stack that was created. -/
theorem createdCluster_created : createdCluster.Created exampleChecks Loader.failing :=
  ⟨deployerRequest, storedStackOf [webService], webVersion "" "nginx" waitingForReconciliation, "1",
    rfl, by decide, rfl, rfl, rfl⟩

/-- What the controller reads. -/
def createdLatest : Latest.Stack where
  objectMeta := createdCluster.stored.objectMeta
  spec := createdCluster.stored.spec.stack
  status := createdCluster.stored.status

theorem createdCluster_writeStatus :
    ClusterStep exampleChecks Loader.failing .loadBalancer createdCluster
      (.writeStatus createdCluster.stored deployer statusAvailable) availableCluster := by
  have hlatest : stackFromInternalV1alpha3 Loader.failing createdCluster.stored default =
      .ok createdLatest := rfl
  obtain ⟨C, hC⟩ := exists_reconcileChildren Server.constant (RangeOrder.ascending DiffLoop)
    (emptyStackState_keyed _)
    (show (stackToStack exampleChecks.rt createdLatest .loadBalancer emptyStackState).1 = .ok _
      from rfl)
  exact .writeStatus (.head _) rfl (Or.inr rfl) hlatest hC rfl
    (show createdCluster.FreshVersion "2" from ⟨by decide, by decide⟩)

/-- The edit of a client of a later version, who sends no status. -/
def editImage : Action :=
  .update deployerRequest (.v1alpha3 (stackOf [{ webService with image := "httpd" }]))

/-- An edit of the image makes the stack dirty. -/
theorem availableCluster_editImage :
    ClusterStep exampleChecks Loader.failing .loadBalancer availableCluster editImage
      editedCluster :=
  .update (Or.inl rfl) rfl (Or.inl rfl)
    (show _ = Except.ok (webVersion "" "httpd" waitingForReconciliation) from rfl)
    (show availableCluster.FreshVersion "3" from ⟨by decide, by decide⟩)

/-- The run up to the edit meets the condition, and the edit is dirty. -/
theorem changed_dirty_editedCluster :
    isStackDirty editedCluster.stored.status = true ∧
      ∀ (ctx : ServiceContext) (C : StackState),
        ctx.skipsWorkload C (isStackDirty editedCluster.stored.status) = false := by
  refine changed_dirty exampleChecks Loader.failing .loadBalancer editedCluster ?_ rfl
  refine .step (.step (.init createdCluster_created) ?_ createdCluster_writeStatus) ?_
    availableCluster_editImage
  · exact trivial
  · intro obj hobj
    cases hobj
    exact Or.inl (Or.inr ⟨by decide, by decide⟩)

/-- An update of a client of the first version, who sends the compose file as it
is and no status. -/
def touchCompose : Action :=
  .update deployerRequest (.v1beta1
    { objectMeta := (stackOf []).objectMeta, spec := { composeFile := "" }, status := default })

/-- **A change that is hidden.** After the edit, and before the controller has seen
it, the update that changes nothing stores an empty status: the stack is clean,
though its spec is not the one of the last status write. -/
theorem changed_clean_reachable :
    ∃ s, (clusterSystem exampleChecks Loader.failing .loadBalancer).Reachable s ∧
      ClusterStep exampleChecks Loader.failing .loadBalancer editedCluster touchCompose s ∧
      s.changed = true ∧ s.stored.spec.stack ≠ availableCluster.stored.spec.stack ∧
      isStackDirty s.stored.status = false := by
  have hstep : ClusterStep exampleChecks Loader.failing .loadBalancer editedCluster touchCompose
      (editedCluster.store (webVersion "4" "httpd" default) true) :=
    .update (Or.inl rfl) rfl (Or.inl rfl)
      (show _ = Except.ok (webVersion "" "httpd" default) from rfl)
      (show editedCluster.FreshVersion "4" from ⟨by decide, by decide⟩)
  refine ⟨_, ?_, hstep, rfl, by decide, by decide⟩
  exact .step (.step (.step (.init createdCluster_created) trivial createdCluster_writeStatus)
    trivial availableCluster_editImage) trivial hstep

end ComposeKube

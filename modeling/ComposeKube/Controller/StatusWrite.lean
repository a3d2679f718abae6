import ComposeKube.Registry.Strategy

/-!
# The status write of the controller

The controller reads a stored stack, converts it and writes a status back. The
write is a PUT of the whole object through the API: `updateStackStatus` sends
what the conversion has left of the object, and the storage strategy compares
it with what is stored. The conversion sorts the services of the very object
that is sent, so the write changes the status only when they were in order.

* `statusWrite_frame_iff` — when the write changes nothing but the status.
-/

namespace ComposeKube

open Go

/-- `statusProgressing`. -/
def statusProgressing : Latest.StackStatus where
  phase := Latest.stackProgressing
  message := "Stack is starting"

/-- `statusAvailable`. -/
def statusAvailable : Latest.StackStatus where
  phase := Latest.stackAvailable
  message := "Stack is started"

/-- `updateStackStatus`: the object that is sent, unless the status is there already. -/
def updateStackStatus (originalStack : Latest.Stack) (status : Latest.StackStatus) :
    Option Latest.Stack :=
  if originalStack.status = some status then none
  else some { originalStack with status := some status }

/-- Nothing is sent when the stack has the status already. -/
theorem updateStackStatus_eq_none {stack : Latest.Stack} {status : Latest.StackStatus} :
    updateStackStatus stack status = none ↔ stack.status = some status := by
  unfold updateStackStatus
  split <;> simp [*]

/-- What is sent differs from the stack in its status only. -/
theorem updateStackStatus_eq_some {stack sent : Latest.Stack} {status : Latest.StackStatus} :
    updateStackStatus stack status = some sent ↔
      stack.status ≠ some status ∧ sent = { stack with status := some status } := by
  unfold updateStackStatus
  split <;> simp [*, eq_comm]

/-- From the stored stack to the stored stack: it is read, converted, sent with a
status, received and prepared for the update. The controller acts as the owner
and asks for no validation. -/
def statusWrite (rt : Runtime) (loader : Loader) (strategy : ServiceStrategy)
    (current : StackState) (stored : Internal.Stack) (status : Latest.StackStatus) :
    Except String Internal.Stack := do
  let stack ← stackFromInternalV1alpha3 loader stored default
  let stack := (stackToStack rt stack strategy current).2
  match updateStackStatus stack status with
  | none => pure stored
  | some sent =>
    pure (prepareForUpdate loader .v1beta2
      { user := some stored.spec.owner, skipValidation := true }
      (stackToInternalV1alpha3 sent default) stored)

/-- A specification that is sorted already stays as it is. -/
theorem sortSpec_eq_self_iff {rt : Runtime} {spec : Latest.StackSpec} :
    sortSpec rt spec = spec ↔ rt.sortServices spec.services.elems = spec.services.elems := by
  obtain ⟨services, secrets, configs⟩ := spec
  cases services with
  | none => simp [sortSpec, (rt.sortServices_perm []).eq_nil]
  | some l => simp [sortSpec]

/-- What the API server receives: the stored metadata, sorted services and the
new status, with neither compose file nor owner. -/
def receivedStack (rt : Runtime) (stored : Internal.Stack) (spec : Latest.StackSpec)
    (status : Latest.StackStatus) : Internal.Stack where
  objectMeta := stored.objectMeta
  spec := { composeFile := "", stack := some (sortSpec rt spec), owner := default }
  status := some status

theorem statusWrite_eq {rt : Runtime} (loader : Loader) (strategy : ServiceStrategy)
    (current : StackState) {stored : Internal.Stack} {spec : Latest.StackSpec}
    {status : Latest.StackStatus} (hspec : stored.spec.stack = some spec)
    (hstatus : stored.status ≠ some status) :
    statusWrite rt loader strategy current stored status =
      .ok (prepareForUpdate loader .v1beta2
        { user := some stored.spec.owner, skipValidation := true }
        (receivedStack rt stored spec status) stored) := by
  unfold statusWrite
  rw [stackFromInternalV1alpha3_of_some loader hspec, ok_bind]
  simp only [stackToStack_spec, updateStackStatus, if_neg hstatus]
  rfl

/-- **The status write changes only the status exactly when the services are
stored in the order in which the conversion leaves them.** Otherwise it is
taken for an edit of the spec. -/
theorem statusWrite_frame_iff (rt : Runtime) (loader : Loader) (strategy : ServiceStrategy)
    (current : StackState) (stored : Internal.Stack) (spec : Latest.StackSpec)
    (status : Latest.StackStatus) (hspec : stored.spec.stack = some spec)
    (hstatus : stored.status ≠ some status) :
    ∃ new, statusWrite rt loader strategy current stored status = .ok new ∧
      (new.spec = stored.spec ∧ new.status = some status ↔
        rt.sortServices spec.services.elems = spec.services.elems) := by
  refine ⟨_, statusWrite_eq loader strategy current hspec hstatus, ?_⟩
  -- the owner comes back from the request, the compose file from what is stored
  have hrestored : (restoredFields (receivedStack rt stored spec status) stored stored.spec.owner
      setFieldsForV1beta2Update).spec.stack = some (sortSpec rt spec) :=
    setFieldsForV1beta2Update_stack stored _
  rw [← sortSpec_eq_self_iff, prepareForUpdate_of_some loader .v1beta2 _ _ stored rfl rfl hrestored]
  constructor
  · -- whatever the status, the services that are stored are the sorted ones
    rintro ⟨hspec', -⟩
    have hstack : some (sortSpec rt spec) = stored.spec.stack := by
      rw [← hspec', ← hrestored]
      split <;> rfl
    exact Option.some.inj (hstack.trans hspec)
  · intro hsorted
    have hsame : restoredFields (receivedStack rt stored spec status) stored stored.spec.owner
        setFieldsForV1beta2Update = { stored with status := some status } := by
      unfold restoredFields receivedStack
      rw [hsorted, ← hspec]
      exact setFieldsForV1beta2Update_of_same rfl
    rw [hsame, semanticDeepEqual_self, if_neg (by simp)]
    exact ⟨rfl, rfl⟩

/-- Two services in the order of their names. -/
def sortedServices : List Latest.ServiceConfig := [{ webService with name := "api" }, webService]

/-- The status is written for services that are in order. -/
theorem statusWrite_frame_sortedServices :
    ∃ new, statusWrite Runtime.reference Loader.failing .loadBalancer emptyStackState
        (storedStackOf sortedServices) statusAvailable = .ok new ∧
      new.spec = (storedStackOf sortedServices).spec ∧ new.status = some statusAvailable := by
  obtain ⟨new, hnew, hiff⟩ := statusWrite_frame_iff Runtime.reference Loader.failing .loadBalancer
    emptyStackState (storedStackOf sortedServices) _ statusAvailable rfl (by decide)
  exact ⟨new, hnew, hiff.mpr (by decide)⟩

/-- A stack whose services are stored out of order, with a compose file. -/
def unsortedStack : Internal.Stack :=
  let stored := storedStackOf [webService, { webService with name := "api" }]
  { stored with spec := { stored.spec with composeFile := "version: '3.2'" } }

/-- **A status write that is taken for an edit**: the services are stored in
another order, the compose file is marked as outdated, and the status is not
the one that was written. -/
theorem statusWrite_unsorted :
    ∃ new, statusWrite Runtime.reference Loader.failing .loadBalancer emptyStackState unsortedStack
        statusAvailable = .ok new ∧
      new.spec.stack ≠ unsortedStack.spec.stack ∧
      new.spec.composeFile = composeOutOfDate ++ unsortedStack.spec.composeFile ∧
      new.status = some waitingForReconciliation :=
  ⟨_, rfl, by decide, rfl, rfl⟩

end ComposeKube

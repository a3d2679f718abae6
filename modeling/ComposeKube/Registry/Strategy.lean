import ComposeKube.Api.Semantic
import ComposeKube.Registry.Validate

/-!
# How a stack is stored

`strategy.go` and `strategyprepare.go`: before a stack is stored its owner is
taken from the request, the fields that the API version does not know are
restored, a missing spec is parsed from the compose file, and the status tells
whether there is something to reconcile. Then it is validated.

* `prepareForCreate_dirty` — a stack is created dirty.
* `prepareForUpdate_dirty_or` — an update leaves the stack dirty, or keeps the
  spec up to semantic equality and the status of the request.
* `updateStack_validated` — validation changes nothing but the order of services.
-/

namespace ComposeKube

open Go

/-! ## Requests -/

/-- `APIVersion`: two known levels. -/
inductive APIVersion where
  | v1beta1
  | v1beta2
  | other (version : String)
  deriving DecidableEq

/-- What the strategy reads from the context of a request: the user, if there is
one, and the skip-validation option. -/
structure Request where
  user : Option ImpersonationConfig
  skipValidation : Bool

/-- `prepareStep`. A step that fails has not touched the stack. -/
abbrev PrepareStep :=
  Request → Option Internal.Stack → Internal.Stack → Except String Internal.Stack

/-- `validateStep`, with the stack as the check leaves it. -/
abbrev ValidateStep := Internal.Stack → List FieldError × Internal.Stack

/-! ## The steps of the preparation -/

def composeOutOfDate : String :=
  "# This compose file is outdated: the stack was updated by other means\n"

/-- `prepareStackOwnership`. -/
def prepareStackOwnership : PrepareStep := fun ctx _ stack =>
  match ctx.user with
  | some user => .ok { stack with spec := { stack.spec with owner := user } }
  | none => .error "can't extract owner information from request"

/-- `setFieldsForV1beta1Update`. -/
def setFieldsForV1beta1Update (oldStack newStack : Internal.Stack) : Internal.Stack :=
  if newStack.spec.composeFile ≠ oldStack.spec.composeFile then
    { newStack with spec := { newStack.spec with stack := none } }
  else
    { newStack with spec := { newStack.spec with stack := oldStack.spec.stack } }

/-- `setFieldsForV1beta2Update`. -/
def setFieldsForV1beta2Update (oldStack newStack : Internal.Stack) : Internal.Stack :=
  let composeFile := oldStack.spec.composeFile
  let specSame := newStack.spec.stack = oldStack.spec.stack
  if ¬specSame ∧ hasPrefix composeFile composeOutOfDate = false ∧ composeFile ≠ "" then
    { newStack with spec := { newStack.spec with composeFile := composeOutOfDate ++ composeFile } }
  else
    { newStack with spec := { newStack.spec with composeFile := composeFile } }

@[simp] theorem setFieldsForV1beta2Update_stack (oldStack newStack : Internal.Stack) :
    (setFieldsForV1beta2Update oldStack newStack).spec.stack = newStack.spec.stack := by
  unfold setFieldsForV1beta2Update
  dsimp only
  split <;> rfl

/-- A spec that is not touched leaves the compose file alone. -/
theorem setFieldsForV1beta2Update_of_same {oldStack newStack : Internal.Stack}
    (h : newStack.spec.stack = oldStack.spec.stack) :
    setFieldsForV1beta2Update oldStack newStack =
      { newStack with spec := { newStack.spec with composeFile := oldStack.spec.composeFile } } :=
  if_neg fun hmark => hmark.1 h

/-- `fieldUpdatesFuncs`. -/
def fieldUpdatesFuncs : APIVersion → Option (Internal.Stack → Internal.Stack → Internal.Stack)
  | .v1beta1 => some setFieldsForV1beta1Update
  | .v1beta2 => some setFieldsForV1beta2Update
  | .other _ => none

/-- The text of an API version. -/
def APIVersion.text : APIVersion → String
  | .v1beta1 => "v1beta1"
  | .v1beta2 => "v1beta2"
  | .other version => version

/-- `prepareFieldsForUpdate`. -/
def prepareFieldsForUpdate (version : APIVersion) : PrepareStep := fun _ oldStack newStack =>
  match fieldUpdatesFuncs version with
  | some f =>
    match oldStack with
    | some oldStack => .ok (f oldStack newStack)
    | none => .ok newStack
  | none => .error ("unknown APIVersion " ++ quote version.text)

/-- `prepareStackFromComposefile`. -/
def prepareStackFromComposefile (loader : Loader) (relaxedParsing : Bool) : PrepareStep :=
  fun _ _ newStack =>
    match newStack.spec.stack with
    | some _ => .ok newStack
    | none =>
      match loader.loadStackData newStack.spec.composeFile none with
      | .error err =>
        if relaxedParsing then
          .ok { newStack with
            status := some { phase := Latest.stackFailure, message := "parsing error: " ++ err } }
        else .error ("parsing error: " ++ err)
      | .ok config => .ok { newStack with spec := { newStack.spec with stack := some config } }

/-- The loop over the steps: it stops at the first error and keeps what the
steps before have done. -/
def runPrepareSteps (ctx : Request) (oldStack : Option Internal.Stack) :
    List PrepareStep → Internal.Stack → Option String × Internal.Stack
  | [], newStack => (none, newStack)
  | step :: steps, newStack =>
    match step ctx oldStack newStack with
    | .error err => (some err, newStack)
    | .ok newStack => runPrepareSteps ctx oldStack steps newStack

/-! ## The strategy -/

def waitingForReconciliation : Latest.StackStatus where
  phase := Latest.stackReconciliationPending
  message := "Stack is waiting for reconciliation"

/-- `PrepareForCreate`. -/
def prepareForCreate (loader : Loader) (ctx : Request) (stack : Internal.Stack) : Internal.Stack :=
  match runPrepareSteps ctx none
    [prepareStackOwnership, prepareStackFromComposefile loader ctx.skipValidation] stack with
  | (some err, stack) =>
    { stack with status := some { phase := Latest.stackFailure, message := err } }
  | (none, stack) => { stack with status := some waitingForReconciliation }

/-- `PrepareForUpdate`. -/
def prepareForUpdate (loader : Loader) (version : APIVersion) (ctx : Request)
    (newStack oldStack : Internal.Stack) : Internal.Stack :=
  match runPrepareSteps ctx (some oldStack)
    [prepareStackOwnership, prepareFieldsForUpdate version,
      prepareStackFromComposefile loader ctx.skipValidation] newStack with
  | (some err, newStack) =>
    { newStack with status := some { phase := Latest.stackFailure, message := err } }
  | (none, newStack) =>
    if semanticDeepEqual Semantic.internalStackSpec oldStack.spec newStack.spec = false then
      { newStack with status := some waitingForReconciliation }
    else newStack

/-- The loop over the checks: the errors of the first check that has any. -/
def runValidateSteps : List ValidateStep → ValidateStep
  | [], stack => ([], stack)
  | step :: steps, stack =>
    match step stack with
    | (err :: lst, stack) => (err :: lst, stack)
    | ([], stack) => runValidateSteps steps stack

/-- What the checks depend on besides the stack: the services the conversion
rests on, the orders of map loops, and the objects that exist. -/
structure Checks where
  rt : Runtime
  ord : RangeOrder ValidateLoop
  labelsOf : LabelsOf

/-- The checks that creation and update share. -/
def Checks.steps (checks : Checks) (loader : Loader) : List ValidateStep :=
  [fun stack => (validateStackNotNil stack, stack),
    fun stack => (validateObjectNames checks.ord stack, stack),
    validateDryRun checks.rt loader,
    validateCollisions checks.rt loader checks.ord checks.labelsOf]

/-- `Validate`. -/
def validate (checks : Checks) (loader : Loader) (ctx : Request) : ValidateStep := fun stack =>
  if ctx.skipValidation then ([], stack)
  else runValidateSteps ((fun stack => (validateCreationStatus stack, stack)) ::
    checks.steps loader) stack

/-- `ValidateUpdate`. -/
def validateUpdate (checks : Checks) (loader : Loader) (ctx : Request) : ValidateStep :=
  fun stack =>
    if ctx.skipValidation then ([], stack)
    else runValidateSteps (checks.steps loader) stack

/-! ## The store

`genericregistry.Store` prepares an object, validates it and stores what the
two have made of it. -/

/-- `Create`, up to the write. -/
def createStack (checks : Checks) (loader : Loader) (ctx : Request) (stack : Internal.Stack) :
    Except (List FieldError) Internal.Stack :=
  match validate checks loader ctx (prepareForCreate loader ctx stack) with
  | ([], stack) => .ok stack
  | (lst, _) => .error lst

/-- `Update`, up to the write. -/
def updateStack (checks : Checks) (loader : Loader) (version : APIVersion) (ctx : Request)
    (newStack oldStack : Internal.Stack) : Except (List FieldError) Internal.Stack :=
  match validateUpdate checks loader ctx
    (prepareForUpdate loader version ctx newStack oldStack) with
  | ([], stack) => .ok stack
  | (lst, _) => .error lst

/-! ## What the preparation leaves -/

/-- **A stack is created dirty.** -/
theorem prepareForCreate_dirty (loader : Loader) (ctx : Request) (stack : Internal.Stack) :
    isStackDirty (prepareForCreate loader ctx stack).status = true := by
  unfold prepareForCreate
  generalize runPrepareSteps ctx none _ stack = result
  obtain ⟨err, stack'⟩ := result
  cases err with
  | some err => rfl
  | none => rfl

section Update

variable (loader : Loader) (version : APIVersion) (ctx : Request)
  (newStack oldStack : Internal.Stack)

/-- The stack of a request once its owner is set and the fields of its version
are restored. -/
def restoredFields (user : ImpersonationConfig)
    (f : Internal.Stack → Internal.Stack → Internal.Stack) : Internal.Stack :=
  f oldStack { newStack with spec := { newStack.spec with owner := user } }

/-- An update with a spec at hand parses nothing. -/
theorem prepareForUpdate_of_some {user : ImpersonationConfig}
    {f : Internal.Stack → Internal.Stack → Internal.Stack} (huser : ctx.user = some user)
    (hf : fieldUpdatesFuncs version = some f) {spec : Latest.StackSpec}
    (hspec : (restoredFields newStack oldStack user f).spec.stack = some spec) :
    prepareForUpdate loader version ctx newStack oldStack =
      if semanticDeepEqual Semantic.internalStackSpec oldStack.spec
          (restoredFields newStack oldStack user f).spec = false then
        { restoredFields newStack oldStack user f with status := some waitingForReconciliation }
      else restoredFields newStack oldStack user f := by
  unfold restoredFields at hspec ⊢
  simp only [prepareForUpdate, runPrepareSteps, prepareStackOwnership, prepareFieldsForUpdate,
    prepareStackFromComposefile, huser, hf, hspec]

theorem restoredFields_status (user : ImpersonationConfig)
    {f : Internal.Stack → Internal.Stack → Internal.Stack}
    (hf : fieldUpdatesFuncs version = some f) :
    (restoredFields newStack oldStack user f).status = newStack.status := by
  unfold restoredFields
  cases version with
  | v1beta1 =>
    cases hf
    unfold setFieldsForV1beta1Update
    split <;> rfl
  | v1beta2 =>
    cases hf
    unfold setFieldsForV1beta2Update
    dsimp only
    split <;> rfl
  | other version => cases hf

/-- With the oldest version the stack is dropped when the file changes. -/
theorem restoredFields_v1beta1 (user : ImpersonationConfig) :
    (restoredFields newStack oldStack user setFieldsForV1beta1Update).spec =
      { composeFile := newStack.spec.composeFile
        stack := if newStack.spec.composeFile ≠ oldStack.spec.composeFile then none
          else oldStack.spec.stack
        owner := user } := by
  unfold restoredFields setFieldsForV1beta1Update
  dsimp only
  split <;> rfl

theorem restoredFields_owner (user : ImpersonationConfig)
    {f : Internal.Stack → Internal.Stack → Internal.Stack}
    (hf : fieldUpdatesFuncs version = some f) :
    (restoredFields newStack oldStack user f).spec.owner = user := by
  cases version with
  | v1beta1 =>
    cases hf
    rw [restoredFields_v1beta1]
  | v1beta2 =>
    cases hf
    unfold restoredFields setFieldsForV1beta2Update
    dsimp only
    split <;> rfl
  | other version => cases hf

/-- **What an update leaves**: a dirty stack; or a spec that is semantically the
old one, with the status of the request. In the second case the fields of the
request are kept, and so is its spec unless it had to be parsed. -/
theorem prepareForUpdate_dirty_or :
    isStackDirty (prepareForUpdate loader version ctx newStack oldStack).status = true ∨
    ∃ user f, ctx.user = some user ∧ fieldUpdatesFuncs version = some f ∧
      (prepareForUpdate loader version ctx newStack oldStack).status = newStack.status ∧
      semanticDeepEqual Semantic.internalStackSpec oldStack.spec
        (prepareForUpdate loader version ctx newStack oldStack).spec = true ∧
      ∃ stack, (prepareForUpdate loader version ctx newStack oldStack).spec =
          { (restoredFields newStack oldStack user f).spec with stack := stack } ∧
        ((restoredFields newStack oldStack user f).spec.stack ≠ none →
          stack = (restoredFields newStack oldStack user f).spec.stack) := by
  cases huser : ctx.user with
  | none =>
    left
    simp only [prepareForUpdate, runPrepareSteps, prepareStackOwnership, huser]
    rfl
  | some user =>
    cases hf : fieldUpdatesFuncs version with
    | none =>
      left
      simp only [prepareForUpdate, runPrepareSteps, prepareStackOwnership, prepareFieldsForUpdate,
        huser, hf]
      rfl
    | some f =>
      have hstatus := restoredFields_status version newStack oldStack user hf
      cases hspec : (restoredFields newStack oldStack user f).spec.stack with
      | some spec =>
        rw [prepareForUpdate_of_some loader version ctx newStack oldStack huser hf hspec]
        split
        · exact Or.inl rfl
        · next hsame =>
          exact Or.inr ⟨user, f, rfl, rfl, hstatus, by simpa using hsame, _, rfl, fun _ => rfl⟩
      | none =>
        -- the compose file is parsed: an error leaves a failure, in either mode
        unfold restoredFields at hspec hstatus
        simp only [prepareForUpdate, runPrepareSteps, prepareStackOwnership,
          prepareFieldsForUpdate, prepareStackFromComposefile, huser, hf, hspec]
        cases loader.loadStackData _ none with
        | error err =>
          left
          cases ctx.skipValidation with
          | false => rfl
          | true =>
            simp only [if_true]
            split <;> rfl
        | ok config =>
          dsimp only
          split
          · exact Or.inl rfl
          · next hsame =>
            exact Or.inr ⟨user, f, rfl, rfl, hstatus, by simpa using hsame, some config, rfl,
              fun hne => absurd hspec hne⟩

end Update

/-! ## What validation leaves -/

/-- The stack with its services in the order in which a conversion leaves them. -/
def Runtime.sortStack (rt : Runtime) (stack : Internal.Stack) : Internal.Stack :=
  { stack with spec := { stack.spec with stack := stack.spec.stack.map (sortSpec rt) } }

/-- A conversion leaves the stack sorted. -/
theorem convertToStackDefinition_snd (rt : Runtime) (loader : Loader) (stack : Internal.Stack) :
    (convertToStackDefinition rt loader stack).2 = rt.sortStack stack := by
  unfold convertToStackDefinition
  obtain ⟨status, h⟩ := stackFromInternalV1alpha3_eq loader stack default
  rw [h]
  simp only [stackToStack_spec]
  rfl

theorem validateDryRun_snd (rt : Runtime) (loader : Loader) (stack : Internal.Stack) :
    (validateDryRun rt loader stack).2 = rt.sortStack stack := by
  rw [← convertToStackDefinition_snd rt loader stack]
  unfold validateDryRun
  obtain ⟨sd, stack'⟩ := convertToStackDefinition rt loader stack
  cases sd <;> rfl

theorem validateCollisions_snd (rt : Runtime) (loader : Loader) (ord : RangeOrder ValidateLoop)
    (labelsOf : LabelsOf) (stack : Internal.Stack) :
    (validateCollisions rt loader ord labelsOf stack).2 = rt.sortStack stack := by
  obtain ⟨objectMeta, ⟨composeFile, spec, owner⟩, status⟩ := stack
  cases spec with
  | none => rfl
  | some spec =>
    rw [← convertToStackDefinition_snd rt loader]
    unfold validateCollisions
    dsimp only
    obtain ⟨sd, stack'⟩ := convertToStackDefinition rt loader _
    cases sd <;> rfl

/-- Each check sees the stack as the one before it left it. -/
theorem runValidateSteps_cons {step : ValidateStep} {steps : List ValidateStep}
    {stack stack' : Internal.Stack} (h : runValidateSteps (step :: steps) stack = ([], stack')) :
    runValidateSteps steps (step stack).2 = ([], stack') := by
  unfold runValidateSteps at h
  split at h
  · cases h
  · next heq =>
    rw [heq]
    exact h

/-- The shared checks sort the services, twice. -/
theorem checks_snd {checks : Checks} {loader : Loader} {stack stack' : Internal.Stack}
    (h : runValidateSteps (checks.steps loader) stack = ([], stack')) :
    stack' = checks.rt.sortStack (checks.rt.sortStack stack) := by
  have h := runValidateSteps_cons (runValidateSteps_cons (runValidateSteps_cons
    (runValidateSteps_cons h)))
  simp only [validateDryRun_snd, validateCollisions_snd] at h
  exact (Prod.mk.inj h).2.symm

/-- **What an accepted update stores**: the prepared stack; with validation, its
services are sorted. -/
theorem updateStack_validated {checks : Checks} {loader : Loader} {version : APIVersion}
    {ctx : Request} {newStack oldStack stack : Internal.Stack}
    (h : updateStack checks loader version ctx newStack oldStack = .ok stack) :
    stack = if ctx.skipValidation then prepareForUpdate loader version ctx newStack oldStack
      else checks.rt.sortStack
        (checks.rt.sortStack (prepareForUpdate loader version ctx newStack oldStack)) := by
  unfold updateStack validateUpdate at h
  cases hskip : ctx.skipValidation with
  | true =>
    simp only [hskip, if_true, Except.ok.injEq] at h
    exact h.symm
  | false =>
    simp only [hskip, Bool.false_eq_true, if_false] at h ⊢
    split at h
    · next heq =>
      cases h
      exact checks_snd heq
    · cases h

/-- What an accepted creation stores. -/
theorem createStack_validated {checks : Checks} {loader : Loader} {ctx : Request}
    {newStack stack : Internal.Stack} (h : createStack checks loader ctx newStack = .ok stack) :
    stack = if ctx.skipValidation then prepareForCreate loader ctx newStack
      else checks.rt.sortStack (checks.rt.sortStack (prepareForCreate loader ctx newStack)) := by
  unfold createStack validate at h
  cases hskip : ctx.skipValidation with
  | true =>
    simp only [hskip, if_true, Except.ok.injEq] at h
    exact h.symm
  | false =>
    simp only [hskip, Bool.false_eq_true, if_false] at h ⊢
    split at h
    · next heq =>
      cases h
      exact checks_snd (runValidateSteps_cons heq)
    · cases h

/-- An accepted creation stores a dirty stack. -/
theorem createStack_dirty {checks : Checks} {loader : Loader} {ctx : Request}
    {newStack stack : Internal.Stack} (h : createStack checks loader ctx newStack = .ok stack) :
    isStackDirty stack.status = true := by
  have hdirty := prepareForCreate_dirty loader ctx newStack
  rw [createStack_validated h]
  split
  · exact hdirty
  · exact hdirty

end ComposeKube

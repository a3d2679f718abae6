import ComposeKube.Registry.ComposeFile

/-!
# When the preparation fails

`PrepareForCreate` and `PrepareForUpdate` have no way to return an error. They
note it in the status and leave it to the validation to reject the object. Two
things go wrong on the way.

In relaxed mode a parse error is noted by the step itself, which then returns no
error, and the status is overwritten as if there were something to reconcile. And
the validation of an update does not look at the status, so that an object which
misses its owner or its restored fields passes if it is a valid stack otherwise.

* `failedIfMissing_iff` — when a stack that could not be parsed is marked as failed.
* `failedPreparation_rejected` — which objects the validation rejects after a
  failed preparation.
-/

namespace ComposeKube

open Go

/-! ## A missing stack is a failure -/

/-- A stack without a structured stack has failed. -/
def FailedIfMissing (stack : Internal.Stack) : Prop :=
  stack.spec.stack = none →
    ∃ status, stack.status = some status ∧ status.phase = Latest.stackFailure

/-- The text cannot be parsed. -/
def Loader.Rejects (loader : Loader) (composeFile : String) : Prop :=
  ∃ err, loader.loadStackData composeFile none = .error err

/-- The compose file that an update of the second version leaves. -/
def markedComposeFile (new old : Internal.StackSpec) : String :=
  if new.stack ≠ old.stack ∧ hasPrefix old.composeFile composeOutOfDate = false ∧
      old.composeFile ≠ "" then composeOutOfDate ++ old.composeFile
  else old.composeFile

/-- The text that an update parses, if it parses one. -/
def parsedByUpdate (version : APIVersion) (new old : Internal.StackSpec) : Option String :=
  match version with
  | .v1beta1 =>
    if new.composeFile ≠ old.composeFile ∨ old.stack = none then some new.composeFile else none
  | .v1beta2 => if new.stack = none then some (markedComposeFile new old) else none
  | .other _ => none

/-- The stack was missing before, and neither its compose file nor its owner changes. -/
def MissingBefore (version : APIVersion) (user : ImpersonationConfig)
    (new old : Internal.StackSpec) : Prop :=
  old.stack = none ∧ (version = .v1beta1 → new.composeFile = old.composeFile) ∧
    semanticDeepEqual Semantic.impersonationConfig old.owner user = true

section Missing

variable (loader : Loader) (user : ImpersonationConfig) (skipValidation : Bool)

theorem failedIfMissing_create_iff (stack : Internal.Stack) :
    FailedIfMissing (prepareForCreate loader { user := some user, skipValidation } stack) ↔
      ¬(skipValidation = true ∧ stack.spec.stack = none ∧
        loader.Rejects stack.spec.composeFile) := by
  obtain ⟨objectMeta, ⟨composeFile, spec, owner⟩, status⟩ := stack
  cases spec with
  | some spec =>
    simp [FailedIfMissing, prepareForCreate, runPrepareSteps, prepareStackOwnership,
      prepareStackFromComposefile]
  | none =>
    cases hload : loader.loadStackData composeFile none with
    | ok config =>
      simp [FailedIfMissing, Loader.Rejects, prepareForCreate, runPrepareSteps,
        prepareStackOwnership, prepareStackFromComposefile, hload]
    | error err =>
      -- in strict mode the error is noted last, in relaxed mode it is overwritten
      cases skipValidation <;>
        simp [FailedIfMissing, Loader.Rejects, prepareForCreate, runPrepareSteps,
          prepareStackOwnership, prepareStackFromComposefile, hload, waitingForReconciliation,
          Latest.stackFailure, Latest.stackReconciliationPending]

variable (newStack oldStack : Internal.Stack)

/-- In terms of the stack that the restored fields leave. -/
theorem failedIfMissing_restored_iff {version : APIVersion}
    {f : Internal.Stack → Internal.Stack → Internal.Stack}
    (hf : fieldUpdatesFuncs version = some f) :
    FailedIfMissing (prepareForUpdate loader version { user := some user, skipValidation }
        newStack oldStack) ↔
      ¬(skipValidation = true ∧ (restoredFields newStack oldStack user f).spec.stack = none ∧
        loader.Rejects (restoredFields newStack oldStack user f).spec.composeFile ∧
        semanticDeepEqual Semantic.internalStackSpec oldStack.spec
          (restoredFields newStack oldStack user f).spec = false) := by
  cases hspec : (restoredFields newStack oldStack user f).spec.stack with
  | some spec =>
    have hstack : (prepareForUpdate loader version { user := some user, skipValidation } newStack
        oldStack).spec.stack = some spec := by
      rw [prepareForUpdate_spec loader rfl hf, parsedSpec, hspec, Option.some_or]
    simp [FailedIfMissing, hstack]
  | none =>
    unfold restoredFields at hspec ⊢
    cases hload : loader.loadStackData (f oldStack { newStack with
        spec := { newStack.spec with owner := user } }).spec.composeFile none with
    | ok config =>
      have hstack : (prepareForUpdate loader version { user := some user, skipValidation } newStack
          oldStack).spec.stack = some config := by
        rw [prepareForUpdate_spec loader rfl hf, parsedSpec, restoredFields, hspec, hload]
        rfl
      simp [FailedIfMissing, Loader.Rejects, hstack, hload]
    | error err =>
      simp only [FailedIfMissing, Loader.Rejects, prepareForUpdate, runPrepareSteps,
        prepareStackOwnership, prepareFieldsForUpdate, prepareStackFromComposefile, hf, hspec,
        hload]
      cases skipValidation with
      | false => simp [hspec]
      | true =>
        -- the status of the step survives when there is nothing to reconcile
        simp only [if_true]
        split
        · next hchanged =>
          simp [hspec, hchanged, waitingForReconciliation, Latest.stackFailure,
            Latest.stackReconciliationPending]
        · next hsame => simp [hspec, hsame]

theorem restoredFields_v1beta2 :
    (restoredFields newStack oldStack user setFieldsForV1beta2Update).spec =
      { composeFile := markedComposeFile newStack.spec oldStack.spec
        stack := newStack.spec.stack
        owner := user } := by
  unfold restoredFields setFieldsForV1beta2Update markedComposeFile
  dsimp only
  split <;> rfl

/-- An update parses the restored compose file when the restored stack is missing. -/
theorem parsedByUpdate_eq {version : APIVersion}
    {f : Internal.Stack → Internal.Stack → Internal.Stack}
    (hf : fieldUpdatesFuncs version = some f) :
    parsedByUpdate version newStack.spec oldStack.spec =
      if (restoredFields newStack oldStack user f).spec.stack = none then
        some (restoredFields newStack oldStack user f).spec.composeFile
      else none := by
  cases version with
  | v1beta1 =>
    cases hf
    rw [restoredFields_v1beta1, parsedByUpdate]
    by_cases hfile : newStack.spec.composeFile = oldStack.spec.composeFile
    · simp [hfile]
    · simp [hfile]
  | v1beta2 =>
    cases hf
    rw [restoredFields_v1beta2, parsedByUpdate]
  | other version => cases hf

/-- A restored stack that is missing changes nothing if it was missing before. -/
theorem missingBefore_iff {version : APIVersion}
    {f : Internal.Stack → Internal.Stack → Internal.Stack}
    (hf : fieldUpdatesFuncs version = some f)
    (hmissing : (restoredFields newStack oldStack user f).spec.stack = none) :
    MissingBefore version user newStack.spec oldStack.spec ↔
      semanticDeepEqual Semantic.internalStackSpec oldStack.spec
        (restoredFields newStack oldStack user f).spec = true := by
  have hparts : ∀ x y : Internal.StackSpec, y.stack = none →
      (semanticDeepEqual Semantic.internalStackSpec x y = true ↔
        x.composeFile = y.composeFile ∧ x.stack = none ∧
        Semantic.impersonationConfig x.owner = Semantic.impersonationConfig y.owner) := by
    intro x y hy
    simp [semanticDeepEqual, Semantic.internalStackSpec, hy]
  rw [hparts _ _ hmissing, restoredFields_owner version newStack oldStack user hf]
  cases version with
  | v1beta1 =>
    cases hf
    rw [restoredFields_v1beta1]
    simp only [MissingBefore, semanticDeepEqual, decide_eq_true_eq, true_imp_iff]
    rw [eq_comm (a := oldStack.spec.composeFile)]
    exact and_left_comm
  | v1beta2 =>
    cases hf
    rw [restoredFields_v1beta2] at hmissing ⊢
    simp only [MissingBefore, semanticDeepEqual, decide_eq_true_eq, reduceCtorEq, false_imp_iff,
      true_and]
    constructor
    · rintro ⟨hold, howner⟩
      -- both are missing, so that the compose file is not marked
      have hmark : markedComposeFile newStack.spec oldStack.spec = oldStack.spec.composeFile :=
        if_neg fun hmark => hmark.1 (hmissing.trans hold.symm)
      exact ⟨hmark.symm, hold, howner⟩
    · exact fun h => h.2
  | other version => cases hf

/-- **When a missing stack is marked as failed.** Always by a strict request. A
relaxed one creates a stack that waits for its reconciliation although there is
nothing to reconcile, and updates one to the same unless it was missing before. -/
theorem failedIfMissing_iff (version : APIVersion) :
    (FailedIfMissing (prepareForCreate loader { user := some user, skipValidation } newStack) ↔
      ¬(skipValidation = true ∧ newStack.spec.stack = none ∧
        loader.Rejects newStack.spec.composeFile)) ∧
    (FailedIfMissing (prepareForUpdate loader version { user := some user, skipValidation }
        newStack oldStack) ↔
      ¬(skipValidation = true ∧
        (∃ text, parsedByUpdate version newStack.spec oldStack.spec = some text ∧
          loader.Rejects text) ∧
        ¬MissingBefore version user newStack.spec oldStack.spec)) := by
  refine ⟨failedIfMissing_create_iff loader user skipValidation newStack, ?_⟩
  cases hf : fieldUpdatesFuncs version with
  | none =>
    -- an unknown version is an error of its own
    have hparsed : parsedByUpdate version newStack.spec oldStack.spec = none := by
      cases version with
      | other version => rfl
      | v1beta1 => cases hf
      | v1beta2 => cases hf
    simp [FailedIfMissing, prepareForUpdate, runPrepareSteps, prepareStackOwnership,
      prepareFieldsForUpdate, hf, hparsed]
  | some f =>
    rw [failedIfMissing_restored_iff loader user skipValidation newStack oldStack hf,
      parsedByUpdate_eq user newStack oldStack hf]
    by_cases hmissing : (restoredFields newStack oldStack user f).spec.stack = none
    · rw [missingBefore_iff user newStack oldStack hf hmissing]
      simp [hmissing]
    · simp [hmissing]

end Missing

/-- A compose file that does not parse is created in relaxed mode, and waits for
its reconciliation. -/
theorem relaxedCreation_pending :
    let stack := prepareForCreate Loader.failing { user := some default, skipValidation := true }
      legacyStack
    stack.spec.stack = none ∧ stack.status = some waitingForReconciliation ∧
      ¬FailedIfMissing stack := by
  refine ⟨rfl, rfl, fun hfailed => ?_⟩
  obtain ⟨status, hstatus, hphase⟩ := hfailed rfl
  cases hstatus
  revert hphase
  decide

/-! ## A failed preparation is rejected -/

/-- The steps of `PrepareForCreate`. -/
def createSteps (loader : Loader) (ctx : Request) : List PrepareStep :=
  [prepareStackOwnership, prepareStackFromComposefile loader ctx.skipValidation]

/-- The steps of `PrepareForUpdate`. -/
def updateSteps (loader : Loader) (version : APIVersion) (ctx : Request) : List PrepareStep :=
  [prepareStackOwnership, prepareFieldsForUpdate version,
    prepareStackFromComposefile loader ctx.skipValidation]

/-- An object that the checks of an update have nothing against. -/
structure Acceptable (checks : Checks) (loader : Loader) (stack : Internal.Stack) : Prop where
  stackNotNil : stack.spec.stack ≠ none
  objectNames : validateObjectNames checks.ord stack = []
  dryRun : (validateDryRun checks.rt loader stack).1 = []
  collisions : (validateCollisions checks.rt loader checks.ord checks.labelsOf
    (checks.rt.sortStack stack)).1 = []

theorem runValidateSteps_nil (stack : Internal.Stack) : (runValidateSteps [] stack).1 = [] := rfl

theorem runValidateSteps_cons_eq_nil {step : ValidateStep} {steps : List ValidateStep}
    {stack : Internal.Stack} :
    (runValidateSteps (step :: steps) stack).1 = [] ↔
      (step stack).1 = [] ∧ (runValidateSteps steps (step stack).2).1 = [] := by
  rw [runValidateSteps]
  split
  · next heq => simp [heq]
  · next heq => simp [heq]

/-- The checks of an update, one by one. The dry run leaves the services sorted. -/
theorem acceptable_iff {checks : Checks} {loader : Loader} {stack : Internal.Stack} :
    (runValidateSteps (checks.steps loader) stack).1 = [] ↔ Acceptable checks loader stack := by
  have hnil : validateStackNotNil stack = [] ↔ stack.spec.stack ≠ none := by
    unfold validateStackNotNil
    cases stack.spec.stack <;> simp
  unfold Checks.steps
  simp only [runValidateSteps_cons_eq_nil, runValidateSteps_nil, validateDryRun_snd, hnil,
    and_true]
  exact ⟨fun ⟨hstack, hnames, hdry, hcollisions⟩ => ⟨hstack, hnames, hdry, hcollisions⟩,
    fun h => ⟨h.stackNotNil, h.objectNames, h.dryRun, h.collisions⟩⟩

/-- The conversion of the checks does not depend on the status and the owner. -/
theorem convertToStackDefinition_congr (rt : Runtime) (loader : Loader)
    {stack stack' : Internal.Stack} (hmeta : stack'.objectMeta = stack.objectMeta)
    (hspec : stack'.spec.stack = stack.spec.stack) :
    (convertToStackDefinition rt loader stack').1 =
      (convertToStackDefinition rt loader stack).1 := by
  obtain ⟨status, h⟩ := stackFromInternalV1alpha3_eq loader stack default
  obtain ⟨status', h'⟩ := stackFromInternalV1alpha3_eq loader stack' default
  unfold convertToStackDefinition
  rw [h, h', hmeta, hspec]
  have hsame := stackToStack_empty rt
    { objectMeta := stack.objectMeta, spec := stack.spec.stack, status := status' } .loadBalancer
    status
  exact congrArg (Except.mapError _) hsame

theorem validateDryRun_congr (rt : Runtime) (loader : Loader) {stack stack' : Internal.Stack}
    (hmeta : stack'.objectMeta = stack.objectMeta)
    (hspec : stack'.spec.stack = stack.spec.stack) :
    (validateDryRun rt loader stack').1 = [] ↔ (validateDryRun rt loader stack).1 = [] := by
  have hsame := convertToStackDefinition_congr rt loader hmeta hspec
  unfold validateDryRun
  generalize convertToStackDefinition rt loader stack = result at hsame ⊢
  generalize convertToStackDefinition rt loader stack' = result' at hsame ⊢
  obtain ⟨sd, s⟩ := result
  obtain ⟨sd', s'⟩ := result'
  obtain rfl : sd' = sd := hsame
  cases sd' with
  | error e => simp
  | ok D => simp

theorem validateCollisions_congr (rt : Runtime) (loader : Loader) (ord : RangeOrder ValidateLoop)
    (labelsOf : LabelsOf) {stack stack' : Internal.Stack}
    (hmeta : stack'.objectMeta = stack.objectMeta)
    (hspec : stack'.spec.stack = stack.spec.stack) :
    (validateCollisions rt loader ord labelsOf stack').1 =
      (validateCollisions rt loader ord labelsOf stack).1 := by
  -- the definition is converted from the stack alone
  have hsame := convertToStackDefinition_congr rt loader hmeta hspec
  have hsnd : (convertToStackDefinition rt loader stack').2.objectMeta =
      (convertToStackDefinition rt loader stack).2.objectMeta := by
    rw [convertToStackDefinition_snd, convertToStackDefinition_snd]
    exact hmeta
  unfold validateCollisions
  rw [hspec]
  cases stack.spec.stack with
  | none => rfl
  | some spec =>
    dsimp only
    generalize convertToStackDefinition rt loader stack = result at hsame hsnd ⊢
    generalize convertToStackDefinition rt loader stack' = result' at hsame hsnd ⊢
    obtain ⟨sd, s⟩ := result
    obtain ⟨sd', s'⟩ := result'
    obtain rfl : sd' = sd := hsame
    have hmeta' : s'.objectMeta = s.objectMeta := hsnd
    cases sd' with
    | error e => rfl
    | ok D =>
      simp only [collisionsOf, hmeta']

/-- What the checks read of a stack. -/
theorem acceptable_congr {checks : Checks} {loader : Loader} {stack stack' : Internal.Stack}
    (hmeta : stack'.objectMeta = stack.objectMeta)
    (hspec : stack'.spec.stack = stack.spec.stack) :
    Acceptable checks loader stack' ↔ Acceptable checks loader stack := by
  -- each of the four checks looks at the metadata and the stack only
  have hnames : validateObjectNames checks.ord stack' = validateObjectNames checks.ord stack := by
    unfold validateObjectNames
    rw [hspec]
  have hsorted : (checks.rt.sortStack stack').spec.stack = (checks.rt.sortStack stack).spec.stack :=
    congrArg (Option.map (sortSpec checks.rt)) hspec
  have hcollisions : (validateCollisions checks.rt loader checks.ord checks.labelsOf
      (checks.rt.sortStack stack')).1 = (validateCollisions checks.rt loader checks.ord
        checks.labelsOf (checks.rt.sortStack stack)).1 :=
    validateCollisions_congr checks.rt loader checks.ord checks.labelsOf hmeta hsorted
  have hdry := validateDryRun_congr checks.rt loader hmeta hspec
  constructor
  · intro h
    exact ⟨hspec ▸ h.stackNotNil, hnames ▸ h.objectNames, hdry.mp h.dryRun,
      hcollisions ▸ h.collisions⟩
  · intro h
    exact ⟨hspec ▸ h.stackNotNil, hnames ▸ h.objectNames, hdry.mpr h.dryRun,
      hcollisions ▸ h.collisions⟩

section Failed

variable (checks : Checks) (loader : Loader)

/-- The checks of a creation find the failure in the status. -/
theorem failedCreation_rejected {ctx : Request} (hstrict : ctx.skipValidation = false)
    {stack : Internal.Stack}
    (hfailed : (runPrepareSteps ctx none (createSteps loader ctx) stack).1 ≠ none) :
    (validate checks loader ctx (prepareForCreate loader ctx stack)).1 ≠ [] := by
  unfold createSteps at hfailed
  unfold validate prepareForCreate
  rw [hstrict] at hfailed ⊢
  generalize runPrepareSteps ctx none _ stack = result at hfailed ⊢
  obtain ⟨err, stack'⟩ := result
  cases err with
  | none => exact absurd rfl hfailed
  | some err =>
    simp only [Bool.false_eq_true, if_false]
    rw [ne_eq, runValidateSteps_cons_eq_nil]
    intro h
    simp [validateCreationStatus] at h

/-- Those of an update have only the object to go by. -/
theorem validateUpdate_eq_nil {ctx : Request} (hstrict : ctx.skipValidation = false)
    {stack : Internal.Stack} :
    (validateUpdate checks loader ctx stack).1 = [] ↔ Acceptable checks loader stack := by
  unfold validateUpdate
  rw [hstrict, ← acceptable_iff]
  rfl

/-- An update that fails before the parsing leaves the object as it was sent, up to
its owner and its status. -/
theorem prepareForUpdate_of_failed {version : APIVersion} {ctx : Request}
    (hfails : ctx.user = none ∨ fieldUpdatesFuncs version = none)
    (newStack oldStack : Internal.Stack) :
    (runPrepareSteps ctx (some oldStack) (updateSteps loader version ctx) newStack).1 ≠ none ∧
      (prepareForUpdate loader version ctx newStack oldStack).objectMeta = newStack.objectMeta ∧
      (prepareForUpdate loader version ctx newStack oldStack).spec.stack =
        newStack.spec.stack := by
  cases huser : ctx.user with
  | none =>
    simp [updateSteps, prepareForUpdate, runPrepareSteps, prepareStackOwnership, huser]
  | some user =>
    have hf : fieldUpdatesFuncs version = none := hfails.resolve_left (by simp [huser])
    simp [updateSteps, prepareForUpdate, runPrepareSteps, prepareStackOwnership,
      prepareFieldsForUpdate, huser, hf]

/-- An update that fails in the parsing has no stack. -/
theorem prepareForUpdate_of_parseError {version : APIVersion} {ctx : Request}
    {user : ImpersonationConfig} {f : Internal.Stack → Internal.Stack → Internal.Stack}
    (huser : ctx.user = some user) (hf : fieldUpdatesFuncs version = some f)
    {newStack oldStack : Internal.Stack}
    (hfailed : (runPrepareSteps ctx (some oldStack) (updateSteps loader version ctx)
      newStack).1 ≠ none) :
    (prepareForUpdate loader version ctx newStack oldStack).spec.stack = none := by
  rw [prepareForUpdate_spec loader huser hf, parsedSpec]
  simp only [updateSteps, runPrepareSteps, prepareStackOwnership, prepareFieldsForUpdate,
    prepareStackFromComposefile, huser, hf] at hfailed
  unfold restoredFields
  cases hspec : (f oldStack { newStack with
      spec := { newStack.spec with owner := user } }).spec.stack with
  | some spec => simp [hspec] at hfailed
  | none =>
    cases hload : loader.loadStackData (f oldStack { newStack with
        spec := { newStack.spec with owner := user } }).spec.composeFile none with
    | ok config => simp [hspec, hload] at hfailed
    | error err => rfl

/-- **Which failed preparations are rejected.** Those of a creation. Those of an
update when there is a user and the version is known, so that what failed is the
parsing; otherwise only if the object, as it was sent, does not pass the checks. -/
theorem failedPreparation_rejected (user : Option ImpersonationConfig) :
    let ctx : Request := { user, skipValidation := false }
    (∀ stack : Internal.Stack,
      (runPrepareSteps ctx none (createSteps loader ctx) stack).1 ≠ none →
        (validate checks loader ctx (prepareForCreate loader ctx stack)).1 ≠ []) ∧
    ∀ (version : APIVersion) (newStack oldStack : Internal.Stack),
      ((runPrepareSteps ctx (some oldStack) (updateSteps loader version ctx) newStack).1 ≠ none →
        (validateUpdate checks loader ctx
          (prepareForUpdate loader version ctx newStack oldStack)).1 ≠ []) ↔
      (user ≠ none ∧ fieldUpdatesFuncs version ≠ none) ∨ ¬Acceptable checks loader newStack := by
  intro ctx
  refine ⟨fun stack => failedCreation_rejected checks loader rfl, ?_⟩
  intro version newStack oldStack
  rw [ne_eq, ne_eq, validateUpdate_eq_nil checks loader rfl]
  by_cases hknown : user ≠ none ∧ fieldUpdatesFuncs version ≠ none
  · obtain ⟨user', huser⟩ := Option.ne_none_iff_exists'.mp hknown.1
    have hctx : ctx.user = some user' := huser
    obtain ⟨f, hf⟩ := Option.ne_none_iff_exists'.mp hknown.2
    -- then only the parser can have failed, and the stack is nil
    refine ⟨fun _ => Or.inl hknown, fun _ hfailed hacceptable => ?_⟩
    exact hacceptable.stackNotNil (prepareForUpdate_of_parseError loader hctx hf hfailed)
  · -- the object that was sent is what the checks see
    have hfails : ctx.user = none ∨ fieldUpdatesFuncs version = none := by
      rw [not_and_or, not_not, not_not] at hknown
      exact hknown
    obtain ⟨hfailed, hmeta, hspec⟩ :=
      prepareForUpdate_of_failed loader hfails newStack oldStack
    rw [acceptable_congr hmeta hspec]
    simp [hfailed, hknown]

end Failed

/-- Without a user, a new image is stored and so is the failure; the owner is lost. -/
theorem failedUpdate_stored :
    let ctx : Request := { user := none, skipValidation := false }
    let oldStack := { storedStackOf [webService] with
      spec := { (storedStackOf [webService]).spec with
        owner := { (default : ImpersonationConfig) with userName := "alice" } } }
    let newStack := storedStackOf [{ webService with image := "caddy" }]
    (runPrepareSteps ctx (some oldStack) (updateSteps Loader.failing .v1beta2 ctx)
      newStack).1 ≠ none ∧
    ∃ stack, updateStack webChecks Loader.failing .v1beta2 ctx newStack oldStack = .ok stack ∧
      stack.spec = newStack.spec ∧ stack.spec.owner.userName = "" ∧
      stack.status.map (·.phase) = some Latest.stackFailure := by
  exact ⟨nofun, _, rfl, rfl, rfl, rfl⟩

end ComposeKube

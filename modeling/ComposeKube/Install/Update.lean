import ComposeKube.Install.Footprint

/-!
# The update from definitions to the aggregated API

`update.go`: a cluster whose stacks are objects of a custom resource definition is
brought to the aggregated API. The stacks are copied to a backup (`backup`), everything is
uninstalled together with the stacks (`uninstallComposeCRD`), the new version is installed
without its controller, the stacks are created again (`restore`), each by the user it
belongs to, and then the controller is installed.

The loops without a bound take their number of passes as an argument.
-/

namespace ComposeKube.Install

open Go Client

/-- What to do with a previous backup. -/
inductive BackupMode where
  | erase
  | merge
  | fail
  deriving DecidableEq

def backupAPIGroup : String := "composebackup.docker.com"

def userAnnotationKey : String := "com.docker.compose.user"

def backupCRD : Key := ⟨.customResourceDefinition, "", "stackbackups.composebackup.docker.com"⟩

/-- `fmt.Sprintf("%s/%s", stack.Namespace, stack.Name)`. -/
def Object.fullname (o : Object) : String := o.objectMeta.namespace_ ++ "/" ++ o.objectMeta.name

/-! ## Backup -/

/-- `createBackupCrd`. -/
def createBackupCrd : Api Unit := do
  let _ ← call (.create "" "" (newObject ("stackbackups." ++ backupAPIGroup) "" none
    (.customResourceDefinition
      { group := backupAPIGroup
        version := "v1beta1"
        plural := "stackbackups"
        singular := "stackbackup"
        kind := "StackBackup"
        listKind := "StackBackupList"
        scope := "Namespaced" })))
  pure ()

/-- A stack as it is written to the backup. -/
def Object.asBackup (o : Object) : Object where
  objectMeta := { o.objectMeta with resourceVersion := "" }
  content := match o.content with
    | .stack spec status => .stackBackup spec status
    | other => other

/-- The body of the loop of `copyStacksToBackupCrd`. The second attempt is a `PUT` to the
path of the first. -/
def copyStackToBackupCrd (stack : Object) : Api Unit := do
  let backup := stack.asBackup
  match ← try_ (.create "" stack.objectMeta.namespace_ backup) with
  | .ok _ => pure ()
  | .error err =>
    if err.isAlreadyExists then
      match ← try_ (.putCollection stack.objectMeta.namespace_ backup) with
      | .ok _ => pure ()
      | .error err => throw (err.wrap ("failed to write then update stack " ++ stack.fullname))
    else throw (err.wrap ("failed to write stack " ++ stack.fullname))

/-- `copyStacksToBackupCrd`. -/
def copyStacksToBackupCrd (items : List Object) : Api Unit :=
  items.foldlM (fun _ stack => copyStackToBackupCrd stack) ()

/-- The loop that waits for the previous backup to be gone, for so many passes. -/
def awaitErased : Nat → Api Unit
  | 0 => pure ()
  | n + 1 => do
    match ← try_ (.get backupCRD) with
    | .error _ => pure ()
    | .ok _ => awaitErased n

/-- The previous backup; whether there is to be a new definition. -/
def preparePrevious (mode : BackupMode) : Api Bool := do
  match ← try_ (.get backupCRD) with
  | .error _ => pure true
  | .ok _ =>
    match mode with
    | .fail => throw (.new "a previous backup already exists")
    | .erase =>
      call (.delete backupCRD)
      awaitErased 60
      pure true
    | .merge => pure false

/-- The loop of `Backup`. -/
def copyAllStacks (fuel : Nat) : Api Unit :=
  iterate (fun (token : List Object) => do
    let source ← call (.list .stack none false token)
    copyStacksToBackupCrd source.items
    if source.continue_.isEmpty then pure (.inr ()) else pure (.inl source.continue_)) fuel []

/-- `Backup`. -/
def backup (mode : BackupMode) (fuel : Nat) : Api Unit := do
  call .newForConfig
  let needsCreate ← preparePrevious mode
  if needsCreate then createBackupCrd
  call .newForConfig
  copyAllStacks fuel

/-- `DeleteBackup`. -/
def deleteBackup (fuel : Nat) : Api Unit := do
  call .newForConfig
  match ← try_ (.get backupCRD) with
  | .ok _ => call (.delete backupCRD)
  | .error err =>
    if !err.isNotFound then throw err
    else iterate (fun (_ : Unit) => do
      match ← try_ (.get backupCRD) with
      | .error err => if err.isNotFound then pure (.inr ()) else throw err
      | .ok _ => pure (.inl ())) fuel ()

/-- `HasBackupCRD`. -/
def hasBackupCRD : Api Bool := do
  call .newForConfig
  match ← try_ (.get backupCRD) with
  | .ok _ => pure true
  | .error err => if err.isNotFound then pure false else throw err

/-! ## Restore -/

/-- The error of one stack. -/
inductive StackError where
  | load (message : String)
  | invalid (errs : List FieldError)
  | api (err : Err)

/-- A function that returns a map and an error: it fails with both. -/
abbrev Mapped (α : Type) := Fallible Answer (MapRef StackError × Err) α

/-- `return nil, err`. -/
def orNil {α : Type} (x : Api α) : Mapped α := ExceptT.adapt (fun err => (none, err)) x

/-- The errors so far, `config.Impersonate.UserName`, and the user that the client has been
made for. -/
structure RestoreState where
  stackErrs : Map StackError
  userName : String
  client : String

/-- A stack as it is created from a backup. -/
def Object.asStack (o : Object) : Object where
  objectMeta := { o.objectMeta with resourceVersion := "" }
  content := match o.content with
    | .stackBackup spec status => .stack spec status
    | other => other

/-- The user that a stack belongs to. -/
def Object.user (o : Object) : String := (o.objectMeta.annotations.get? userAnnotationKey).getD ""

/-- The stack without the annotation. -/
def Object.withoutUser (o : Object) : Object :=
  { o with objectMeta := { o.objectMeta with
      annotations := o.objectMeta.annotations.map fun m => m.erase userAnnotationKey } }

/-- A new client, when the last one was for another user. -/
def clientFor (state : RestoreState) (userName : String) : Mapped RestoreState := do
  if state.userName ≠ userName then
    orNil (call .newForConfig)
    pure { state with userName := userName, client := userName }
  else pure state

/-- `Create` in the loop of `Restore`. -/
def createRestored (state : RestoreState) (stack : Object) : Mapped RestoreState := do
  match ← orNil (try_ (.create state.client stack.objectMeta.namespace_ stack)) with
  | .ok _ => pure state
  | .error err =>
    let stackErrs := state.stackErrs.insert stack.fullname (.api err)
    if !err.isAlreadyExists then throw (some stackErrs, err.wrap "unable to restore stacks")
    else pure { state with stackErrs := stackErrs }

/-- The body of the loop of `Restore`. -/
def restoreStack (impersonate : Bool) (state : RestoreState) (stack : Object) :
    Mapped RestoreState := do
  let stack := stack.asStack
  if impersonate then
    let state ← clientFor state stack.user
    createRestored state stack.withoutUser
  else createRestored state stack

/-- `Restore`, with the user of the base configuration. -/
def restore (baseUser : String) (impersonate : Bool) (fuel : Nat) : Mapped (Map StackError) := do
  orNil (call .newForConfig)
  orNil (call .newForConfig)
  iterate (fun (next : RestoreState × List Object) => do
    let source ← orNil (call (.list .stackBackup none false next.2))
    let state ← source.items.foldlM (restoreStack impersonate) next.1
    if source.continue_.isEmpty then pure (.inr state.stackErrs)
    else pure (.inl (state, source.continue_))) fuel (⟨∅, baseUser, baseUser⟩, [])

/-! ## Dry run -/

/-- What the dry run needs of the libraries, and the orders of its loops. -/
structure DryRunConfig where
  runtime : Runtime
  loader : Loader
  order : RangeOrder ValidateLoop

/-- The compose file of a stack. -/
def Object.composeFile (o : Object) : String :=
  match o.content with
  | .stack spec _ => spec.composeFile
  | .stackBackup spec _ => spec.composeFile
  | _ => ""

/-- The body of the loop of `dryRunStacks`: the error of a stack, if it has one. -/
def dryRunStack (cfg : DryRunConfig) (labelsOf : LabelsOf) (stack : Object) : Option StackError :=
  match cfg.loader.loadStackData stack.composeFile none with
  | .error message => some (.load message)
  | .ok spec =>
    -- the object as the new API server would store it
    let internalStack : Internal.Stack := { (default : Internal.Stack) with
      objectMeta := { (default : ObjectMeta) with
        name := stack.objectMeta.name, namespace_ := stack.objectMeta.namespace_ }
      spec := { (default : Internal.StackSpec) with stack := some spec } }
    let names := validateObjectNames cfg.order internalStack
    let (dryRun, internalStack) := validateDryRun cfg.runtime cfg.loader internalStack
    let (collisions, _) :=
      validateCollisions cfg.runtime cfg.loader cfg.order labelsOf internalStack
    -- all three checks are made, whatever the first one says
    let errs := names ++ dryRun ++ collisions
    if errs.isEmpty then none else some (.invalid errs)

/-- `dryRunStacks`. -/
def dryRunStacks (cfg : DryRunConfig) (labelsOf : LabelsOf) (items : List Object)
    (res : Map StackError) : Map StackError :=
  items.foldl (fun res stack =>
    match dryRunStack cfg labelsOf stack with
    | some err => res.insert stack.fullname err
    | none => res) res

/-- `DryRun`. -/
def dryRun (cfg : DryRunConfig) (fuel : Nat) : Api (Map StackError) := do
  call .newForConfig
  iterate (fun (next : Map StackError × List Object) => do
    let source ← call (.list .stack none false next.2)
    let labelsOf ← call .childLabels
    let res := dryRunStacks cfg labelsOf source.items next.1
    if source.continue_.isEmpty then pure (.inr res) else pure (.inl (res, source.continue_)))
    fuel (∅, [])

/-! ## Update -/

/-- `UninstallComposeCRD`. The errors of the waits are not looked at. -/
def uninstallComposeCRD (ns : String) (fuel : Nat) : Api Unit := do
  uninstall ns true
  let _ ← try_ (.waitForUninstallCompletion ns true)
  uninstallCRD fuel
  let _ ← try_ (.waitForUninstallCompletion ns false)
  pure ()

/-- `UninstallComposeAPIServer`. -/
def uninstallComposeAPIServer (ns : String) (fuel : Nat) : Api Unit := do
  call .newForConfig
  ignoringNotFound (.delete ⟨.deployment, ns, "compose"⟩)
  uninstallCRD fuel
  uninstall ns false
  let _ ← try_ (.waitForUninstallCompletion ns false)
  pure ()

/-- The condition that `IsRunning` polls. -/
def servesAllVersions : Api Bool := do
  match ← try_ (.listVersion "v1beta2" "e2e") with
  | .error _ => pure false
  | .ok _ =>
    match ← try_ (.listVersion "v1beta1" "e2e") with
    | .error _ => pure false
    | .ok _ =>
      match ← try_ (.listVersion "v1alpha3" "e2e") with
      | .error _ => pure false
      | .ok _ => pure true

/-- `wait.For` of that condition. -/
def waitForAllVersions (maxCount : Nat) : Nat → Api Unit
  | 0 => throw (.new ("condition not met after " ++ toString maxCount ++ " retries"))
  | n + 1 => do
    if ← servesAllVersions then pure () else waitForAllVersions maxCount n

def installWaitNumMaxPolls : Nat := 60

/-- `IsRunning`. -/
def isRunning : Api Bool := do
  call .newForConfig
  let groups : List String ← call .serverGroups
  if composeGroupName ∈ groups then
    call .newForConfig
    waitForAllVersions installWaitNumMaxPolls installWaitNumMaxPolls
    pure true
  else pure false

/-- The loop of `Update` that waits for the API server, for so many passes. -/
def awaitRunning : Nat → Api Unit
  | 0 => throw (.new "compose did not start properly")
  | n + 1 => do
    if ← isRunning then pure () else awaitRunning n

/-- What `Update` is called with, and what it runs with. -/
structure UpdateConfig where
  install : InstallRuntime
  dryRun : DryRunConfig
  /-- the user of the base configuration -/
  baseUser : String
  namespace_ : String
  tag : String
  abortOnError : Bool
  /-- how often the loops without a bound are passed through -/
  fuel : Nat

/-- `installOptAPIAggregation`. -/
def UpdateConfig.installOptAPIAggregation (cfg : UpdateConfig) : InstallerOption :=
  withUnsafe
    { common := { Installer.zero.commonOptions with
        namespace_ := cfg.namespace_
        tag := cfg.tag
        reconciliationInterval := "12h0m0s" }
      coverage := false
      debug := false }

/-- The dry run of `Update`. -/
def checkedByDryRun (cfg : UpdateConfig) : Mapped Unit := do
  if cfg.abortOnError then
    let errs ← orNil (dryRun cfg.dryRun cfg.fuel)
    if errs.entries.card ≠ 0 then throw (some errs, .new "dry-run returned errors")

/-- `Update`, from the backup to the restored stacks. -/
def reinstall (cfg : UpdateConfig) : Api Unit := do
  backup .erase cfg.fuel
  uninstallComposeCRD cfg.namespace_ cfg.fuel
  do_ cfg.install [cfg.installOptAPIAggregation, withoutController]
  awaitRunning 30

/-- `Update`. The stacks that could not be restored do not keep it from installing the
controller. -/
def update (cfg : UpdateConfig) : Mapped (MapRef StackError) := do
  checkedByDryRun cfg
  orNil (reinstall cfg)
  let restored ← ExceptT.lift (restore cfg.baseUser true cfg.fuel).run
  let errs := match restored with
    | .ok errs => some errs
    | .error (errs, _) => errs
  let controller := do_ cfg.install [cfg.installOptAPIAggregation, withControllerOnly]
  ExceptT.adapt (fun err2 => (errs, err2)) controller
  match restored with
  | .ok _ => pure errs
  | .error (_, err) => throw (errs, err)

/-! ## What is sent -/

/-- To ignore an error is to send the same requests. -/
theorem sends_orNil {α : Type} {P : Request → Prop} {x : Api α} (h : Sends P x) :
    Sends P (orNil x) :=
  sends_adapt h

/-- A dry run only reads. -/
theorem sends_dryRun (cfg : DryRunConfig) (fuel : Nat) :
    Sends Request.Reads (dryRun cfg fuel) := by
  refine (sends_call (by trivial)).bind fun _ => sends_iterate (fun next => ?_) fuel _
  refine (sends_call (by trivial)).bind fun source => ?_
  refine (sends_call (by trivial)).bind fun labelsOf => ?_
  exact sends_ite (sends_pure _) (sends_pure _)

/-- So does the check with which an update starts. -/
theorem sends_checkedByDryRun (cfg : UpdateConfig) :
    Sends Request.Reads (checkedByDryRun cfg) := by
  refine sends_ite ?_ (sends_pure _)
  refine (sends_orNil (sends_dryRun cfg.dryRun cfg.fuel)).bind fun errs => ?_
  exact sends_ite (sends_throw _) (sends_pure _)

/-- Each version is asked for in turn, until one is missing. -/
theorem sends_servesAllVersions : Sends Request.Reads servesAllVersions := by
  refine (sends_try (by trivial)).bind fun ans => ?_
  cases ans with
  | error err => exact sends_pure _
  | ok _ =>
    refine (sends_try (by trivial)).bind fun ans => ?_
    cases ans with
    | error err => exact sends_pure _
    | ok _ =>
      refine (sends_try (by trivial)).bind fun ans => ?_
      cases ans with
      | error err => exact sends_pure _
      | ok _ => exact sends_pure _

/-- The wait for them. -/
theorem sends_waitForAllVersions (maxCount n : Nat) :
    Sends Request.Reads (waitForAllVersions maxCount n) := by
  induction n with
  | zero => exact sends_throw _
  | succ n ih => exact sends_servesAllVersions.bind fun _ => sends_ite (sends_pure _) ih

/-- To look whether the API server runs is to read. -/
theorem sends_isRunning : Sends Request.Reads isRunning := by
  refine (sends_call (by trivial)).bind fun _ => ?_
  refine (sends_call (by trivial)).bind fun (groups : List String) => ?_
  refine sends_ite ?_ (sends_pure _)
  refine (sends_call (by trivial)).bind fun _ => ?_
  exact (sends_waitForAllVersions _ _).bind fun _ => sends_pure _

/-- And to wait for it. -/
theorem sends_awaitRunning (n : Nat) : Sends Request.Reads (awaitRunning n) := by
  induction n with
  | zero => exact sends_throw _
  | succ n ih => exact sends_isRunning.bind fun _ => sends_ite (sends_pure _) ih

/-- The requests that take the old version away: those of `uninstall`, the orphaned stacks and
their definition. -/
theorem sends_uninstallComposeCRD {P : Request → Prop} (hreads : ∀ r : Request, r.Reads → P r)
    (hremoves : ∀ r : Request, r.Removes true → P r)
    (hstack : ∀ ns name, P (.delete ⟨.stack, ns, name⟩)) (hcrd : P (.delete stacksCRD))
    (ns : String) (fuel : Nat) : Sends P (uninstallComposeCRD ns fuel) := by
  refine ((sends_uninstall ns true).mono hremoves).bind fun _ => ?_
  refine (sends_try (hreads _ (by trivial))).bind fun _ => ?_
  refine (sends_uninstallCRD hreads hstack hcrd fuel).bind fun _ => ?_
  exact (sends_try (hreads _ (by trivial))).bind fun _ => sends_pure _

/-- A restored stack is created and nothing else is changed. -/
theorem sends_createRestored (state : RestoreState) (stack : Object) :
    Sends Request.Adds (createRestored state stack) := by
  refine (sends_orNil (sends_try (by trivial))).bind fun ans => ?_
  cases ans with
  | ok _ => exact sends_pure _
  | error err => exact sends_ite (sends_throw _) (sends_pure _)

/-- One stack of the backup. -/
theorem sends_restoreStack (impersonate : Bool) (state : RestoreState) (stack : Object) :
    Sends Request.Adds (restoreStack impersonate state stack) := by
  refine sends_ite (Sends.bind ?_ fun _ => sends_createRestored _ _) (sends_createRestored _ _)
  refine sends_ite ?_ (sends_pure _)
  exact (sends_orNil (sends_call (by trivial))).bind fun _ => sends_pure _

/-- **A restoration only adds objects.** -/
theorem sends_restore (baseUser : String) (impersonate : Bool) (fuel : Nat) :
    Sends Request.Adds (restore baseUser impersonate fuel) := by
  refine (sends_orNil (sends_call (by trivial))).bind fun _ => ?_
  refine (sends_orNil (sends_call (by trivial))).bind fun _ => sends_iterate (fun next => ?_) fuel _
  refine (sends_orNil (sends_call (by trivial))).bind fun source => ?_
  refine Sends.bind (sends_foldlM fun state stack _ => ?_) fun state => ?_
  · exact sends_restoreStack impersonate state stack
  · exact sends_ite (sends_pure _) (sends_pure _)

end ComposeKube.Install

import ComposeKube.Convert.Children
import ComposeKube.StackResources.Diff
import ComposeKube.Registry.Conversions

/-!
# Validation of stacks

`strategyvalidate.go`: the checks that a stack passes before it is stored.
Two of them convert the stack as the controller will. The conversion sorts the
services of the stack it is given, so these two return the stack as well.

* `validateDryRun_eq_nil` — the dry run accepts what converts from no children.
-/

namespace ComposeKube

open Go

/-! ## Errors -/

/-- `field.ErrorType`, of the errors that are reported here. -/
inductive FieldErrorType where
  | invalid
  | duplicate
  deriving DecidableEq

/-- `field.Error`. -/
structure FieldError where
  type : FieldErrorType
  field : String
  badValue : Option String
  detail : String
  deriving DecidableEq

/-- `Path.Index`. -/
def pathIndex (path : String) (ix : Nat) : String := path ++ "[" ++ formatInt ix ++ "]"

/-- `Path.Child`. -/
def pathChild (path child : String) : String := path ++ "." ++ child

/-! ## Names -/

def dns1123LabelFmt : String := "[a-z0-9]([-a-z0-9]*[a-z0-9])?"

def dns1123SubdomainFmt : String := dns1123LabelFmt ++ "(\\." ++ dns1123LabelFmt ++ ")*"

def dns1123SubdomainErrorMsg : String :=
  "a DNS-1123 subdomain must consist of lower case alphanumeric characters, '-' or '.', " ++
  "and must start and end with an alphanumeric character"

def dns1123SubdomainMaxLength : Nat := 253

def isLowerAlphanumeric (c : Char) : Bool :=
  ('a' ≤ c && c ≤ 'z') || ('0' ≤ c && c ≤ '9')

/-- The regular expression `dns1123LabelFmt`. -/
def isDNS1123Label (label : List Char) : Bool :=
  label.head?.any isLowerAlphanumeric && label.getLast?.any isLowerAlphanumeric &&
    label.all fun c => isLowerAlphanumeric c || c = '-'

/-- The regular expression `dns1123SubdomainFmt`: labels separated by dots. -/
def matchesDNS1123Subdomain (value : String) : Bool :=
  (value.toList.splitOn '.').all isDNS1123Label

/-- `validation.IsDNS1123Subdomain`: the reasons why a name is not valid. -/
def isDNS1123Subdomain (value : String) : List String :=
  (if dns1123SubdomainMaxLength < value.utf8ByteSize then
    ["must be no more than " ++ formatInt dns1123SubdomainMaxLength ++ " characters"] else []) ++
  -- both reasons are reported
  (if matchesDNS1123Subdomain value then []
    else [dns1123SubdomainErrorMsg ++ " (e.g. 'example.com', regex used for validation is '" ++
      dns1123SubdomainFmt ++ "')"])

/-- The error for a name, if it is not valid. -/
def invalidName (path name kind : String) : List FieldError :=
  let result := isDNS1123Subdomain name
  if result.length > 0 then
    [{ type := .invalid, field := path, badValue := some name,
       detail := "not a valid " ++ kind ++ " name in Kubernetes: " ++ ", ".intercalate result }]
  else []

/-- The name of a volume, as the loop of `validateObjectNames` has it. -/
def validatedVolumeName (i : Nat) (volume : Latest.ServiceVolumeConfig) : String :=
  if volume.type = "volume" ∧ volume.source ≠ "" then volume.source else "mount-" ++ formatInt i

/-- The range loops of the checks. -/
inductive ValidateLoop where
  | secrets
  | collisions (kind : ChildKind)

/-- `validateObjectNames`. -/
def validateObjectNames (ord : RangeOrder ValidateLoop) (stack : Internal.Stack) :
    List FieldError :=
  match stack.spec.stack with
  | none => []
  | some spec =>
    (spec.services.elems.zipIdx.flatMap fun svc =>
      let path := pathIndex "spec.stack.services" svc.2
      invalidName (pathChild path "name") svc.1.name "service" ++
      svc.1.volumes.elems.zipIdx.flatMap fun volume =>
        invalidName (pathIndex (pathChild path "volumes") volume.2)
          (validatedVolumeName volume.2 volume.1) "volume") ++
    -- configs are not checked
    (ord.range .secrets spec.secrets.entries).flatMap fun secret =>
      invalidName "spec.stack.secrets.secret" secret.1 "secret"

/-! ## The dry run -/

/-- `convertToStackDefinition`, and the stack with the order its services are left in. -/
def convertToStackDefinition (rt : Runtime) (loader : Loader) (stack : Internal.Stack) :
    Except String StackState × Internal.Stack :=
  match stackFromInternalV1alpha3 loader stack default with
  | .error e => (.error ("conversion to v1alpha3 failed: " ++ e), stack)
  | .ok stackLatest =>
    -- the conversion sorts the services in place
    let (sd, stackLatest) := stackToStack rt stackLatest .loadBalancer emptyStackState
    (sd.mapError fun e => "conversion to kube entities failed: " ++ e,
      { stack with spec := { stack.spec with stack := stackLatest.spec } })

/-- `validateDryRun`. -/
def validateDryRun (rt : Runtime) (loader : Loader) (stack : Internal.Stack) :
    List FieldError × Internal.Stack :=
  match convertToStackDefinition rt loader stack with
  | (.error e, stack) =>
    ([{ type := .invalid, field := stack.objectMeta.name, badValue := none, detail := e }], stack)
  | (.ok _, stack) => ([], stack)

/-! ## Collisions with other stacks -/

/-- The answers to the `Get` calls: the labels of the object, or nothing after any error. -/
abbrev LabelsOf := ChildKind → (namespace_ name : String) → Option (MapRef String)

/-- `appendErrOnCollision`. -/
def appendErrOnCollision (labels : MapRef String) (kind name stackName : String)
    (errs : List FieldError) : List FieldError :=
  let duplicate := fun value : String =>
    ({ type := .duplicate, field := stackName, badValue := some value, detail := "" } : FieldError)
  match labels.get? Labels.forStackName with
  | some key =>
    if key ≠ stackName then
      errs ++ [duplicate (kind ++ " " ++ name ++ " already exists in stack " ++ key)]
    else errs
  -- an object that belongs to no stack collides as well
  | none => errs ++ [duplicate (kind ++ " " ++ name ++ " already exists")]

/-- One of the four loops of `validateCollisions`. -/
def collisionsOf {α : Type} [KubeObject α] (ord : RangeOrder ValidateLoop) (labelsOf : LabelsOf)
    (stack : Internal.Stack) (kind : ChildKind) (text : String) (objects : Map α)
    (errs : List FieldError) : List FieldError :=
  (ord.range (.collisions kind) objects).foldl (fun errs v =>
    match labelsOf kind stack.objectMeta.namespace_ (getMeta v.2).name with
    | some labels =>
      appendErrOnCollision labels text (getMeta v.2).name stack.objectMeta.name errs
    -- not there, or not readable
    | none => errs) errs

/-- `validateCollisions`. -/
def validateCollisions (rt : Runtime) (loader : Loader) (ord : RangeOrder ValidateLoop)
    (labelsOf : LabelsOf) (stack : Internal.Stack) : List FieldError × Internal.Stack :=
  match stack.spec.stack with
  | none => ([], stack)
  | some _ =>
    match convertToStackDefinition rt loader stack with
    -- the dry run has reported this
    | (.error _, stack) => ([], stack)
    | (.ok stackDef, stack) =>
      let errs := collisionsOf ord labelsOf stack .service "service" stackDef.services []
      let errs := collisionsOf ord labelsOf stack .deployment "deployment" stackDef.deployments errs
      let errs :=
        collisionsOf ord labelsOf stack .statefulset "statefulset" stackDef.statefulsets errs
      let errs := collisionsOf ord labelsOf stack .daemonset "daemonset" stackDef.daemonsets errs
      (errs, stack)

/-! ## The remaining checks -/

/-- `validateCreationStatus`. -/
def validateCreationStatus (stack : Internal.Stack) : List FieldError :=
  match stack.status with
  | some status =>
    if status.phase = Latest.stackFailure then
      [{ type := .invalid, field := stack.objectMeta.name, badValue := none,
         detail := status.message }]
    else []
  | none => []

/-- `validateStackNotNil`. -/
def validateStackNotNil (stack : Internal.Stack) : List FieldError :=
  match stack.spec.stack with
  | some _ => []
  | none =>
    [{ type := .invalid, field := stack.objectMeta.name, badValue := none,
       detail := (stack.status.map (·.message)).getD "stack is empty" }]

/-! ## What the dry run says -/

/-- The conversion of the checks: from no children, for the first strategy. -/
theorem convertToStackDefinition_ok_iff {rt : Runtime} {loader : Loader} {stack : Internal.Stack}
    {D : StackState} :
    (convertToStackDefinition rt loader stack).1 = .ok D ↔
      ∃ latest, stackFromInternalV1alpha3 loader stack default = .ok latest ∧
        (stackToStack rt latest .loadBalancer emptyStackState).1 = .ok D := by
  unfold convertToStackDefinition
  obtain ⟨status, h⟩ := stackFromInternalV1alpha3_eq loader stack default
  rw [h]
  simp only [Except.ok.injEq, exists_eq_left']
  exact mapError_eq_ok

/-- The dry run accepts exactly the stacks that convert from no children. -/
theorem validateDryRun_eq_nil {rt : Runtime} {loader : Loader} {stack : Internal.Stack} :
    (validateDryRun rt loader stack).1 = [] ↔
      ∃ latest D, stackFromInternalV1alpha3 loader stack default = .ok latest ∧
        (stackToStack rt latest .loadBalancer emptyStackState).1 = .ok D := by
  have hiff : (validateDryRun rt loader stack).1 = [] ↔
      ∃ D, (convertToStackDefinition rt loader stack).1 = .ok D := by
    unfold validateDryRun
    obtain ⟨sd, stack'⟩ := convertToStackDefinition rt loader stack
    cases sd with
    | error e => simp
    | ok D => simp
  rw [hiff, exists_comm]
  simp only [convertToStackDefinition_ok_iff]

/-! ## Examples -/

/-- A stored stack of the given services. -/
def storedStackOf (services : List Latest.ServiceConfig) : Internal.Stack :=
  { (default : Internal.Stack) with
    objectMeta := (stackOf services).objectMeta
    spec := { (default : Internal.StackSpec) with stack := (stackOf services).spec } }

/-- A loader that knows no compose file. -/
def Loader.failing : Loader where
  loadStackData _ _ := .error "no compose file"

end ComposeKube

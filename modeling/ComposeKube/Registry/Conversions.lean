import ComposeKube.Api.Compose

/-!
# Conversions between stored stacks and API versions

`v1alpha3.go`, `v1beta1.go` and `v1beta2.go`. A conversion writes into an object `out` that
the caller provides; fields it does not mention keep what they held.

`Spec` of a `v1alpha3` stack and `Spec.Stack` of a stored one are the same
pointer after a conversion. What is written through one is seen through the
other.

The second version goes through the latest one. The generated conversions
between the two copy what both have.

* `readsFaithfully_iff` — which stored stacks are read as what they are.
-/

namespace ComposeKube

open Go

/-- `parsing.LoadStackData`, whose compose loader is not part of the repository,
followed by `FromComposeConfig`. With an error there is no config. -/
structure Loader where
  loadStackData : String → MapRef String → Except String Latest.StackSpec

/-- `stackToInternalV1alpha3`. -/
def stackToInternalV1alpha3 (in_ : Latest.Stack) (out : Internal.Stack) : Internal.Stack :=
  { objectMeta := in_.objectMeta
    spec := { out.spec with stack := in_.spec }
    status := in_.status }

/-- `stackFromInternalV1alpha3`. A compose file that loads makes it return early
and without an error, before the status is set; one that does not load leaves
no config to convert. -/
def stackFromInternalV1alpha3 (loader : Loader) (in_ : Internal.Stack) (out : Latest.Stack) :
    Except String Latest.Stack :=
  let out := { out with objectMeta := in_.objectMeta, spec := in_.spec.stack }
  if in_.spec.stack = none ∧ in_.spec.composeFile ≠ "" then
    match loader.loadStackData in_.spec.composeFile (some ∅) with
    | .ok _ => .ok out
    | .error _ => .ok { out with spec := none, status := in_.status }
  else .ok { out with status := in_.status }

/-- `stackToInternalV1beta1`. -/
def stackToInternalV1beta1 (in_ : V1beta1.Stack) (out : Internal.Stack) : Internal.Stack :=
  { objectMeta := in_.objectMeta
    spec := { out.spec with composeFile := in_.spec.composeFile }
    status := some in_.status }

/-- `stackFromInternalV1beta1`. -/
def stackFromInternalV1beta1 (in_ : Internal.Stack) (out : V1beta1.Stack) : V1beta1.Stack :=
  { objectMeta := in_.objectMeta
    spec := { composeFile := in_.spec.composeFile }
    status := in_.status.getD out.status }

/-! ## The second version -/

/-- `Convert_v1alpha3_ServiceConfig_To_v1beta2_ServiceConfig`. -/
def serviceConfigToV1beta2 (in_ : Latest.ServiceConfig) : V1beta2.ServiceConfig where
  name := in_.name
  capAdd := in_.capAdd
  capDrop := in_.capDrop
  command := in_.command
  configs := in_.configs
  deploy := in_.deploy
  entrypoint := in_.entrypoint
  environment := in_.environment
  extraHosts := in_.extraHosts
  hostname := in_.hostname
  healthCheck := in_.healthCheck
  image := in_.image
  ipc := in_.ipc
  labels := in_.labels
  pid := in_.pid
  ports := in_.ports
  privileged := in_.privileged
  readOnly := in_.readOnly
  secrets := in_.secrets
  stdinOpen := in_.stdinOpen
  stopGracePeriod := in_.stopGracePeriod
  tmpfs := in_.tmpfs
  tty := in_.tty
  user := in_.user
  volumes := in_.volumes
  workingDir := in_.workingDir

/-- `Convert_v1beta2_ServiceConfig_To_v1alpha3_ServiceConfig`; what the second
version does not have is left zero. -/
def serviceConfigToV1alpha3 (in_ : V1beta2.ServiceConfig) : Latest.ServiceConfig where
  name := in_.name
  capAdd := in_.capAdd
  capDrop := in_.capDrop
  command := in_.command
  configs := in_.configs
  deploy := in_.deploy
  entrypoint := in_.entrypoint
  environment := in_.environment
  extraHosts := in_.extraHosts
  hostname := in_.hostname
  healthCheck := in_.healthCheck
  image := in_.image
  ipc := in_.ipc
  labels := in_.labels
  pid := in_.pid
  ports := in_.ports
  privileged := in_.privileged
  readOnly := in_.readOnly
  secrets := in_.secrets
  stdinOpen := in_.stdinOpen
  stopGracePeriod := in_.stopGracePeriod
  tmpfs := in_.tmpfs
  tty := in_.tty
  user := in_.user
  volumes := in_.volumes
  workingDir := in_.workingDir
  pullSecret := ""
  pullPolicy := ""
  internalPorts := none
  internalServiceType := ""

/-- `Convert_v1alpha3_StackSpec_To_v1beta2_StackSpec`. -/
def stackSpecToV1beta2 (in_ : Latest.StackSpec) : V1beta2.StackSpec where
  services := in_.services.map fun services => services.map serviceConfigToV1beta2
  secrets := in_.secrets
  configs := in_.configs

/-- `Convert_v1beta2_StackSpec_To_v1alpha3_StackSpec`. -/
def stackSpecToV1alpha3 (in_ : V1beta2.StackSpec) : Latest.StackSpec where
  services := in_.services.map fun services => services.map serviceConfigToV1alpha3
  secrets := in_.secrets
  configs := in_.configs

/-- `stackToInternalV1beta2`, with `Convert_v1beta2_Stack_To_v1alpha3_Stack`. -/
def stackToInternalV1beta2 (in_ : V1beta2.Stack) (out : Internal.Stack) : Internal.Stack :=
  stackToInternalV1alpha3
    { objectMeta := in_.objectMeta
      spec := in_.spec.map stackSpecToV1alpha3
      status := in_.status } out

/-- `stackFromInternalV1beta2`, with `Convert_v1alpha3_Stack_To_v1beta2_Stack`. -/
def stackFromInternalV1beta2 (loader : Loader) (in_ : Internal.Stack) :
    Except String V1beta2.Stack := do
  let alpha3 ← stackFromInternalV1alpha3 loader in_ default
  pure { objectMeta := alpha3.objectMeta
         spec := alpha3.spec.map stackSpecToV1beta2
         status := alpha3.status }

/-! ## What is read -/

/-- A stack with a spec is read as it is stored. -/
theorem stackFromInternalV1alpha3_of_some (loader : Loader) {in_ : Internal.Stack}
    {spec : Latest.StackSpec} (h : in_.spec.stack = some spec) (out : Latest.Stack) :
    stackFromInternalV1alpha3 loader in_ out =
      .ok { objectMeta := in_.objectMeta, spec := some spec, status := in_.status } := by
  simp [stackFromInternalV1alpha3, h]

/-- The spec that is read is the stored one, and there is never an error. -/
theorem stackFromInternalV1alpha3_eq (loader : Loader) (in_ : Internal.Stack) (out : Latest.Stack) :
    ∃ status, stackFromInternalV1alpha3 loader in_ out =
      .ok { objectMeta := in_.objectMeta, spec := in_.spec.stack, status := status } := by
  unfold stackFromInternalV1alpha3
  by_cases h : in_.spec.stack = none ∧ in_.spec.composeFile ≠ ""
  · rw [if_pos h]
    cases loader.loadStackData in_.spec.composeFile (some ∅) with
    | ok config => exact ⟨out.status, rfl⟩
    | error e =>
      refine ⟨in_.status, ?_⟩
      simp only [h.1]
  · rw [if_neg h]
    exact ⟨in_.status, rfl⟩

/-! ## What should be read

A stack that was stored before there were structured specs has a compose file
only. The check of the load error in `stackFromInternalV1alpha3` is the wrong way
round: such a stack is read without a spec, whether its compose file loads or not. -/

/-- What reading a stored stack in the latest version should give. -/
structure ReadsFaithfully (loader : Loader) (in_ : Internal.Stack)
    (result : Except String Latest.Stack) : Prop where
  structured : ∀ spec, in_.spec.stack = some spec → ∃ stack, result = .ok stack ∧
    stack.spec = some spec
  legacy : in_.spec.stack = none → in_.spec.composeFile ≠ "" →
    ∀ config, loader.loadStackData in_.spec.composeFile (some ∅) = .ok config →
      ∃ stack, result = .ok stack ∧ stack.spec = some config
  unloadable : in_.spec.stack = none → in_.spec.composeFile ≠ "" →
    ∀ err, loader.loadStackData in_.spec.composeFile (some ∅) = .error err → result = .error err
  rest : ∀ stack, result = .ok stack → stack.objectMeta = in_.objectMeta ∧
    stack.status = in_.status

/-- Without a compose file to load, everything is copied. -/
theorem readsFaithfully_of_not_legacy (loader : Loader) {in_ : Internal.Stack}
    (h : ¬(in_.spec.stack = none ∧ in_.spec.composeFile ≠ "")) (out : Latest.Stack) :
    ReadsFaithfully loader in_ (stackFromInternalV1alpha3 loader in_ out) := by
  have hread : stackFromInternalV1alpha3 loader in_ out =
      .ok { objectMeta := in_.objectMeta, spec := in_.spec.stack, status := in_.status } := by
    unfold stackFromInternalV1alpha3
    rw [if_neg h]
  rw [hread]
  refine ⟨fun spec hspec => ⟨_, rfl, hspec⟩, fun hnone hfile => absurd ⟨hnone, hfile⟩ h,
    fun hnone hfile => absurd ⟨hnone, hfile⟩ h, fun stack hstack => ?_⟩
  obtain rfl := Except.ok.inj hstack
  exact ⟨rfl, rfl⟩

/-- **Stacks are read faithfully unless all they have is a compose file.** -/
theorem readsFaithfully_iff (loader : Loader) (in_ : Internal.Stack) (out : Latest.Stack) :
    ReadsFaithfully loader in_ (stackFromInternalV1alpha3 loader in_ out) ↔
      in_.spec.stack ≠ none ∨ in_.spec.composeFile = "" := by
  constructor
  · intro hread
    by_contra hlegacy
    obtain ⟨hnone, hfile⟩ := not_or.mp hlegacy
    have hnone : in_.spec.stack = none := not_not.mp hnone
    obtain ⟨status, hresult⟩ := stackFromInternalV1alpha3_eq loader in_ out
    cases hload : loader.loadStackData in_.spec.composeFile (some ∅) with
    | ok config =>
      -- it loads, and the early return leaves no spec
      obtain ⟨stack, hstack, hspec⟩ := hread.legacy hnone hfile config hload
      rw [hresult] at hstack
      obtain rfl := Except.ok.inj hstack
      rw [show in_.spec.stack = some config from hspec] at hnone
      cases hnone
    | error err =>
      -- it does not load, and the error is dropped
      have herr := hread.unloadable hnone hfile err hload
      rw [hresult] at herr
      cases herr
  · intro h
    refine readsFaithfully_of_not_legacy loader (fun hlegacy => ?_) out
    rcases h with hsome | hempty
    · exact hsome hlegacy.1
    · exact hlegacy.2 hempty

/-- A running stack that was stored as a compose file. -/
def legacyStack : Internal.Stack :=
  { (default : Internal.Stack) with
    spec := { (default : Internal.StackSpec) with composeFile := "version: '3'" }
    status := some { phase := Latest.stackAvailable, message := "Stack is started" } }

/-- A loader that knows the compose file. -/
def legacyLoader : Loader where
  loadStackData _ _ := .ok { (default : Latest.StackSpec) with services := some [default] }

/-- Neither its spec nor its status is read. -/
theorem legacyStack_read_empty :
    stackFromInternalV1alpha3 legacyLoader legacyStack default = .ok default ∧
      ¬ReadsFaithfully legacyLoader legacyStack
        (stackFromInternalV1alpha3 legacyLoader legacyStack default) := by
  have hread : stackFromInternalV1alpha3 legacyLoader legacyStack default = .ok default := by
    unfold stackFromInternalV1alpha3
    rw [if_pos ⟨rfl, by decide⟩]
    rfl
  refine ⟨hread, fun hfaithful => ?_⟩
  have hstatus := (hfaithful.rest default hread).2
  cases hstatus

end ComposeKube

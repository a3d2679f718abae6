import ComposeKube.Lib.Transition
import ComposeKube.Registry.Subresources

/-!
# The compose file and the stack

A stored stack holds one thing twice: the text of its compose file and the
structured stack that is parsed from it. Clients of the first version and of the
compose-file subresource write the text, the others write the stack, and the
strategies restore, drop, parse again or mark what the client did not write.

Parsing is a partial function; the order of the services it gives may differ
from one time to the next (`Loader.Parses`).

* `prepareForCreate_spec`, `prepareForUpdate_spec` — what is parsed, in strict
  and in relaxed mode alike.
* `agrees_step` — what one request keeps.
* `composeFile_agrees` — in every stored state the compose file is empty, marked
  as out of date, or what the stack was parsed from.
-/

namespace ComposeKube

open Go Transition

/-! ## Parsing -/

/-- The specs are the same up to the order of their services. -/
structure SameButOrder (spec spec' : Latest.StackSpec) : Prop where
  services : Option.Rel List.Perm spec.services spec'.services
  secrets : spec.secrets = spec'.secrets
  configs : spec.configs = spec'.configs

/-- The loader computes the partial function `parse`. -/
def Loader.Parses (loader : Loader) (parse : String → Option Latest.StackSpec) : Prop :=
  ∀ composeFile, Option.Rel SameButOrder (loader.loadStackData composeFile none).toOption
    (parse composeFile)

/-- The compose file does not silently disagree with the stack. -/
def ComposeFileAgrees (parse : String → Option Latest.StackSpec) (spec : Internal.StackSpec) :
    Prop :=
  spec.composeFile = "" ∨ hasPrefix spec.composeFile composeOutOfDate = true ∨
    Option.Rel SameButOrder spec.stack (parse spec.composeFile)

/-- A sorted spec is the same up to the order of its services. -/
theorem SameButOrder.sortSpec (rt : Runtime) {spec spec' : Latest.StackSpec}
    (h : SameButOrder spec spec') : SameButOrder (sortSpec rt spec) spec' := by
  have hsort : ∀ {s s' : Slice Latest.ServiceConfig}, Option.Rel List.Perm s s' →
      Option.Rel List.Perm (s.map rt.sortServices) s' := by
    intro s s' hs
    cases hs with
    | none => exact .none
    | some hperm => exact .some ((rt.sortServices_perm _).trans hperm)
  exact ⟨hsort h.services, h.secrets, h.configs⟩

/-- Validation sorts the services, which does not matter here. -/
theorem ComposeFileAgrees.sortStack {parse : String → Option Latest.StackSpec} (rt : Runtime)
    {stack : Internal.Stack} (h : ComposeFileAgrees parse stack.spec) :
    ComposeFileAgrees parse (rt.sortStack stack).spec := by
  refine h.imp id (Or.imp id fun hparsed => ?_)
  have hsort : ∀ {o o' : Option Latest.StackSpec}, Option.Rel SameButOrder o o' →
      Option.Rel SameButOrder (o.map (ComposeKube.sortSpec rt)) o' := by
    intro o o' ho
    cases ho with
    | none => exact .none
    | some hsame => exact .some (hsame.sortSpec rt)
  exact hsort hparsed

/-! ## What the preparation parses -/

/-- The spec of a stack, with a missing stack parsed if the compose file parses. -/
def parsedSpec (loader : Loader) (spec : Internal.StackSpec) : Internal.StackSpec :=
  { spec with
    stack := spec.stack.or (loader.loadStackData spec.composeFile none).toOption }

/-- A compose file that does not parse leaves the stack missing, whether that is
an error or not. -/
theorem runPrepareSteps_fromComposefile (loader : Loader) (ctx : Request)
    (oldStack : Option Internal.Stack) (stack : Internal.Stack) :
    (runPrepareSteps ctx oldStack [prepareStackFromComposefile loader ctx.skipValidation]
      stack).2.spec = parsedSpec loader stack.spec := by
  obtain ⟨objectMeta, ⟨composeFile, spec, owner⟩, status⟩ := stack
  cases spec with
  | some spec => simp [runPrepareSteps, prepareStackFromComposefile, parsedSpec]
  | none =>
    -- strict and relaxed mode differ in the error, not in the stack
    cases hload : loader.loadStackData composeFile none with
    | ok config =>
      simp [runPrepareSteps, prepareStackFromComposefile, parsedSpec, hload, Except.toOption]
    | error err =>
      cases hskip : ctx.skipValidation <;>
        simp [runPrepareSteps, prepareStackFromComposefile, parsedSpec, hload, Except.toOption]

/-- The spec of a created stack. -/
theorem prepareForCreate_spec (loader : Loader) {ctx : Request} {user : ImpersonationConfig}
    (huser : ctx.user = some user) (stack : Internal.Stack) :
    (prepareForCreate loader ctx stack).spec =
      parsedSpec loader { stack.spec with owner := user } := by
  have hsteps : (prepareForCreate loader ctx stack).spec = (runPrepareSteps ctx none
      [prepareStackOwnership, prepareStackFromComposefile loader ctx.skipValidation]
      stack).2.spec := by
    unfold prepareForCreate
    split
    · next heq => rw [heq]
    · next heq => rw [heq]
  rw [hsteps, runPrepareSteps]
  simp only [prepareStackOwnership, huser]
  exact runPrepareSteps_fromComposefile loader ctx none _

/-- The spec of an updated stack. -/
theorem prepareForUpdate_spec (loader : Loader) {version : APIVersion} {ctx : Request}
    {user : ImpersonationConfig} {f : Internal.Stack → Internal.Stack → Internal.Stack}
    (huser : ctx.user = some user) (hf : fieldUpdatesFuncs version = some f)
    (newStack oldStack : Internal.Stack) :
    (prepareForUpdate loader version ctx newStack oldStack).spec =
      parsedSpec loader (restoredFields newStack oldStack user f).spec := by
  have hsteps : (prepareForUpdate loader version ctx newStack oldStack).spec =
      (runPrepareSteps ctx (some oldStack) [prepareStackOwnership, prepareFieldsForUpdate version,
        prepareStackFromComposefile loader ctx.skipValidation] newStack).2.spec := by
    unfold prepareForUpdate
    split
    · next heq => rw [heq]
    · next heq =>
      rw [heq]
      split <;> rfl
  rw [hsteps, runPrepareSteps]
  simp only [prepareStackOwnership, huser]
  rw [runPrepareSteps]
  simp only [prepareFieldsForUpdate, hf]
  exact runPrepareSteps_fromComposefile loader ctx (some oldStack) _

/-! ## What one request keeps -/

section Keeps

variable {parse : String → Option Latest.StackSpec} {loader : Loader}
  (hparses : loader.Parses parse)

include hparses

/-- Parsing brings the two together, or leaves them as they are. -/
theorem agrees_parsedSpec {spec : Internal.StackSpec}
    (h : spec.stack = none ∨ ComposeFileAgrees parse spec) :
    ComposeFileAgrees parse (parsedSpec loader spec) := by
  cases hstack : spec.stack with
  | none =>
    right; right
    rw [parsedSpec, hstack, Option.none_or]
    exact hparses spec.composeFile
  | some s =>
    have hsame : parsedSpec loader spec = spec := by
      rw [parsedSpec, hstack, Option.some_or, ← hstack]
    rw [hsame]
    exact h.resolve_left (by rw [hstack]; exact Option.some_ne_none s)

/-- Every creation starts with a missing stack or without a compose file. -/
theorem agrees_create {ctx : Request} {user : ImpersonationConfig} (huser : ctx.user = some user)
    {stack : Internal.Stack} (h : stack.spec.stack = none ∨ stack.spec.composeFile = "") :
    ComposeFileAgrees parse (prepareForCreate loader ctx stack).spec := by
  rw [prepareForCreate_spec loader huser]
  exact agrees_parsedSpec hparses (h.imp id Or.inl)

/-- The first strategy drops the stack of another compose file, and restores it otherwise. -/
theorem agrees_updateV1beta1 {ctx : Request} {user : ImpersonationConfig}
    (huser : ctx.user = some user) (newStack : Internal.Stack) {oldStack : Internal.Stack}
    (hold : ComposeFileAgrees parse oldStack.spec) :
    ComposeFileAgrees parse (prepareForUpdate loader .v1beta1 ctx newStack oldStack).spec := by
  rw [prepareForUpdate_spec loader huser rfl, restoredFields_v1beta1]
  refine agrees_parsedSpec hparses ?_
  -- the old stack is only taken over together with its compose file
  by_cases hfile : newStack.spec.composeFile = oldStack.spec.composeFile
  · right
    rw [if_neg (not_not.mpr hfile), hfile]
    exact hold
  · left
    exact if_pos hfile

/-- The second strategy keeps the compose file, and marks it when the stack is another. -/
theorem agrees_updateV1beta2 {ctx : Request} {user : ImpersonationConfig}
    (huser : ctx.user = some user) (newStack : Internal.Stack) {oldStack : Internal.Stack}
    (hold : ComposeFileAgrees parse oldStack.spec) :
    ComposeFileAgrees parse (prepareForUpdate loader .v1beta2 ctx newStack oldStack).spec := by
  rw [prepareForUpdate_spec loader huser rfl]
  refine agrees_parsedSpec hparses (.inr ?_)
  unfold restoredFields setFieldsForV1beta2Update
  dsimp only
  split
  · right; left
    exact hasPrefix_iff.mpr ⟨_, rfl⟩
  · next hmark =>
    by_cases hsame : newStack.spec.stack = oldStack.spec.stack
    · rw [hsame]
      exact hold
    · -- no mark although the stack is another: it is there already, or there is no file
      by_cases hprefix : hasPrefix oldStack.spec.composeFile composeOutOfDate = true
      · exact .inr (.inl hprefix)
      · left
        by_contra hfile
        exact hmark ⟨hsame, by simpa using hprefix, hfile⟩

end Keeps

/-! ## The store -/

/-- The creation of a stack by a client. One of the second version sends what
converts to an object of the third. -/
inductive Creation where
  | v1beta1 (sent : V1beta1.Stack)
  | v1alpha3 (sent : Latest.Stack)
  | composeFile (namespace_ name file : String)

/-- The object that the strategy is given. -/
def Creation.object : Creation → Internal.Stack
  | .v1beta1 sent => stackToInternalV1beta1 sent default
  | .v1alpha3 sent => stackToInternalV1alpha3 sent default
  | .composeFile namespace_ name file =>
    { (default : Internal.Stack) with
      objectMeta := { (default : ObjectMeta) with name, namespace_, generation := 1 }
      spec := { (default : Internal.StackSpec) with composeFile := file } }

/-- What happens to a stack. -/
inductive StackEvent where
  | create (ctx : Request) (creation : Creation)
  | update (ctx : Request) (update : Update)
  | delete

/-- The request carries a user. -/
def StackEvent.HasUser : StackEvent → Prop
  | create ctx _ => ctx.user ≠ none
  | update ctx _ => ctx.user ≠ none
  | delete => True

section Store

variable (parse : String → Option Latest.StackSpec)

/-- The stored stack, if there is one. Every request meets its own objects, map
orders and loader, and the store may change the metadata. -/
inductive StoreStep : Option Internal.Stack → StackEvent → Option Internal.Stack → Prop
  | create {ctx : Request} {creation : Creation} {new : Internal.Stack} (checks : Checks)
      {loader : Loader} (hparses : loader.Parses parse) (objectMeta : ObjectMeta)
      (hnew : createStack checks loader ctx creation.object = .ok new) :
      StoreStep none (.create ctx creation) (some { new with objectMeta })
  | update {ctx : Request} {update : Update} {stored obj new : Internal.Stack} (checks : Checks)
      {loader : Loader} (hparses : loader.Parses parse) (objectMeta : ObjectMeta)
      (hobj : update.object stored = .ok obj)
      (hnew : updateStack checks loader update.version ctx obj stored = .ok new) :
      StoreStep (some stored) (.update ctx update) (some { new with objectMeta })
  | delete {stored : Internal.Stack} : StoreStep (some stored) .delete none

def stackStore : System (Option Internal.Stack) StackEvent where
  init s := s = none
  step := StoreStep parse

end Store

theorem Creation.object_spec (creation : Creation) :
    creation.object.spec.stack = none ∨ creation.object.spec.composeFile = "" := by
  cases creation with
  | v1beta1 sent => exact .inl rfl
  | v1alpha3 sent => exact .inr rfl
  | composeFile namespace_ name file => exact .inl rfl

/-- One request keeps the two in step. -/
theorem agrees_step {parse : String → Option Latest.StackSpec} {s s' : Option Internal.Stack}
    {event : StackEvent} (hs : ∀ stack, s = some stack → ComposeFileAgrees parse stack.spec)
    (huser : event.HasUser) (hstep : StoreStep parse s event s') :
    ∀ stack, s' = some stack → ComposeFileAgrees parse stack.spec := by
  cases hstep with
  | delete => exact fun stack h => nomatch h
  | @create ctx creation new checks loader hparses objectMeta hnew =>
    rintro stack ⟨⟩
    obtain ⟨user, huser⟩ := Option.ne_none_iff_exists'.mp huser
    have hagrees := agrees_create hparses huser creation.object_spec
    show ComposeFileAgrees parse new.spec
    -- validation sorts the services, once for the dry run and once for the collisions
    rw [createStack_validated hnew]
    split
    · exact hagrees
    · exact ComposeFileAgrees.sortStack _ (hagrees.sortStack _)
  | @update ctx update stored obj new checks loader hparses objectMeta hobj hnew =>
    rintro stack ⟨⟩
    obtain ⟨user, huser⟩ := Option.ne_none_iff_exists'.mp huser
    have hagrees : ComposeFileAgrees parse
        (prepareForUpdate loader update.version ctx obj stored).spec := by
      have hversion : update.version = .v1beta1 ∨ update.version = .v1beta2 := by
        cases update <;> simp [Update.version]
      rcases hversion with hversion | hversion
      · rw [hversion]
        exact agrees_updateV1beta1 hparses huser obj (hs stored rfl)
      · rw [hversion]
        exact agrees_updateV1beta2 hparses huser obj (hs stored rfl)
    show ComposeFileAgrees parse new.spec
    rw [updateStack_validated hnew]
    split
    · exact hagrees
    · exact ComposeFileAgrees.sortStack _ (hagrees.sortStack _)

/-- **The compose file never silently disagrees with the stack.** In every state
that requests with a user lead to, with and without validation, the compose file
is empty, marked as out of date, or parses to the stack, up to the order of the
services; a missing stack belongs to a compose file that does not parse. -/
theorem composeFile_agrees {parse : String → Option Latest.StackSpec} {s : Option Internal.Stack}
    (h : (stackStore parse).ReachableUnder (fun _ event => event.HasUser) s) :
    ∀ stack, s = some stack → ComposeFileAgrees parse stack.spec := by
  refine h.induct (I := fun s => ∀ stack, s = some stack → ComposeFileAgrees parse stack.spec)
    ?_ ?_
  · rintro s rfl stack hstack
    cases hstack
  · intro s event s' hs huser hstep
    exact agrees_step hs huser hstep

/-! ## Example -/

/-- The one compose file that parses is `web`. -/
def parseWeb (composeFile : String) : Option Latest.StackSpec :=
  if composeFile = "web" then webStack.spec else none

def webLoader : Loader where
  loadStackData composeFile _ :=
    match parseWeb composeFile with
    | some spec => .ok spec
    | none => .error "no compose file"

theorem webLoader_parses : webLoader.Parses parseWeb := by
  intro composeFile
  have hload : (webLoader.loadStackData composeFile none).toOption = parseWeb composeFile := by
    simp only [webLoader]
    cases parseWeb composeFile <;> rfl
  rw [hload]
  cases parseWeb composeFile with
  | none => exact .none
  | some spec => exact .some ⟨by cases spec.services <;> constructor; rfl, rfl, rfl⟩

def webChecks : Checks where
  rt := Runtime.reference
  ord := .ascending _
  labelsOf _ _ _ := none

def webRequest : Request where
  user := some default
  skipValidation := true

/-- The stack is created from its compose file and then given another image. -/
theorem composeFile_agrees_webStack :
    ∃ stack : Internal.Stack,
      (stackStore parseWeb).ReachableUnder (fun _ event => event.HasUser) (some stack) ∧
        stack.spec.composeFile = composeOutOfDate ++ "web" ∧
        ComposeFileAgrees parseWeb stack.spec := by
  have hcreated : (stackStore parseWeb).ReachableUnder (fun _ event => event.HasUser) (some _) :=
    .step (.init rfl) (a := .create webRequest (.composeFile "prod" "app" "web"))
      (Option.some_ne_none _) (.create webChecks webLoader_parses default rfl)
  have hupdated : (stackStore parseWeb).ReachableUnder (fun _ event => event.HasUser) (some _) :=
    .step hcreated
      (a := .update webRequest (.v1alpha3 (stackOf [{ webService with image := "caddy" }])))
      (Option.some_ne_none _) (.update webChecks webLoader_parses default rfl rfl)
  exact ⟨_, hupdated, rfl, composeFile_agrees hupdated _ rfl⟩

end ComposeKube

import ComposeKube.Registry.Names

/-!
# Collisions with objects of others

`validateCollisions` asks the API for every object that a stack would create, and
reports those that exist without being the stack's own. The API may also answer
with an error. The loops only look at answers without one, so an answer that says
nothing (a timeout, a forbidden read) counts as "does not exist", where the
updater of the controller tells `NotFound` from other errors.

* `validateCollisions_eq_nil_iff` — when nothing is reported.
* `creates_iff` — the objects of a stack, by kind and name, are those of the dry run.
* `validateCollisions_conservative_iff` — when an empty list can be relied upon.
-/

namespace ComposeKube

open Go

/-! ## Answers -/

/-- An answer to a `Get`. -/
inductive GetAnswer where
  | object (labels : MapRef String)
  | notFound
  | failed (err : String)

namespace GetAnswer

/-- What the loops look at: `err == nil`. -/
def labels : GetAnswer → Option (MapRef String)
  | object labels => some labels
  | notFound => none
  | failed _ => none

/-- The name is free, or is taken by an object of the stack. -/
def Harmless (stackName : String) : GetAnswer → Prop
  | object labels => labels.get? Labels.forStackName = some stackName
  | notFound => True
  | failed _ => False

/-- The name is taken by an object that is not the stack's. -/
def Collides (stackName : String) : GetAnswer → Prop
  | object labels => labels.get? Labels.forStackName ≠ some stackName
  | notFound => False
  | failed _ => False

/-- The answer does not say whether the name is free. -/
def Unknown : GetAnswer → Prop
  | object _ => False
  | notFound => False
  | failed _ => True

theorem harmless_iff {stackName : String} {answer : GetAnswer} :
    answer.Harmless stackName ↔ ¬answer.Collides stackName ∧ ¬answer.Unknown := by
  cases answer <;> simp [Harmless, Collides, Unknown]

theorem collides_iff {stackName : String} {answer : GetAnswer} :
    answer.Collides stackName ↔
      ∃ labels, answer.labels = some labels ∧
        labels.get? Labels.forStackName ≠ some stackName := by
  cases answer <;> simp [Collides, labels]

end GetAnswer

/-- The answers to the `Get` calls of the check. -/
abbrev GetAnswers := ChildKind → (namespace_ name : String) → GetAnswer

/-- The answers as the loops see them. -/
def GetAnswers.labelsOf (answers : GetAnswers) : LabelsOf :=
  fun kind namespace_ name => (answers kind namespace_ name).labels

/-! ## The loops -/

/-- An error is appended unless the label names the stack. -/
theorem appendErrOnCollision_eq_nil_iff {labels : MapRef String} {kind name stackName : String}
    {errs : List FieldError} :
    appendErrOnCollision labels kind name stackName errs = [] ↔
      errs = [] ∧ labels.get? Labels.forStackName = some stackName := by
  unfold appendErrOnCollision
  cases hlabel : labels.get? Labels.forStackName with
  | none => simp
  | some key =>
    by_cases hkey : key = stackName
    · simp [hkey]
    · simp [hkey]

/-- One loop: it adds nothing when no answer collides. -/
theorem collisionsOf_eq_nil_iff {α : Type} [KubeObject α] {ord : RangeOrder ValidateLoop}
    {answers : GetAnswers} {stack : Internal.Stack} {kind : ChildKind} {text : String}
    {objects : Map α} {errs : List FieldError} :
    collisionsOf ord answers.labelsOf stack kind text objects errs = [] ↔
      errs = [] ∧ ∀ k x, objects.lookup k = some x →
        ¬(answers kind stack.objectMeta.namespace_ (getMeta x).name).Collides
          stack.objectMeta.name := by
  unfold collisionsOf
  rw [foldl_eq_nil_iff (P := fun v =>
    ¬(answers kind stack.objectMeta.namespace_ (getMeta v.2).name).Collides stack.objectMeta.name)]
  · refine and_congr_right fun _ => ?_
    constructor
    · exact fun h k x hx => h (k, x) ((ord.mem_range _ _ k x).mpr hx)
    · exact fun h v hv => h v.1 v.2 ((ord.mem_range _ _ v.1 v.2).mp hv)
  · -- one object
    intro errs v
    rw [GetAnswer.collides_iff]
    unfold GetAnswers.labelsOf
    cases hlabels : (answers kind stack.objectMeta.namespace_ (getMeta v.2).name).labels with
    | none => simp
    | some labels => simp [appendErrOnCollision_eq_nil_iff]

/-! ## What a stack would create -/

/-- The state holds an object of the kind and the name. -/
def StackState.Creates (D : StackState) (kind : ChildKind) (name : String) : Prop :=
  ∃ k r, D.find kind k = some r ∧ r.objectMeta.name = name

/-- Objects of any kind, map by map. -/
theorem forall_creates_iff {D : StackState} {P : ChildKind → String → Prop} :
    (∀ kind name, D.Creates kind name → P kind name) ↔
      (∀ k x, D.services.lookup k = some x → P .service (getMeta x).name) ∧
      (∀ k x, D.deployments.lookup k = some x → P .deployment (getMeta x).name) ∧
      (∀ k x, D.statefulsets.lookup k = some x → P .statefulset (getMeta x).name) ∧
      (∀ k x, D.daemonsets.lookup k = some x → P .daemonset (getMeta x).name) := by
  constructor
  · intro h
    refine ⟨fun k x hx => ?_, fun k x hx => ?_, fun k x hx => ?_, fun k x hx => ?_⟩
    · exact h .service _ ⟨k, .service x, congrArg (Option.map _) hx, rfl⟩
    · exact h .deployment _ ⟨k, .deployment x, congrArg (Option.map _) hx, rfl⟩
    · exact h .statefulset _ ⟨k, .statefulset x, congrArg (Option.map _) hx, rfl⟩
    · exact h .daemonset _ ⟨k, .daemonset x, congrArg (Option.map _) hx, rfl⟩
  · rintro ⟨hservice, hdeployment, hstatefulset, hdaemonset⟩ kind name ⟨k, r, hr, rfl⟩
    cases kind <;> obtain ⟨x, hx, rfl⟩ := Option.map_eq_some_iff.mp hr
    · exact hdeployment k x hx
    · exact hstatefulset k x hx
    · exact hdaemonset k x hx
    · exact hservice k x hx

/-- The name of a kept object is in its key. -/
theorem creates_iff_isSome {D : StackState} {namespace_ : String} (hD : D.Keyed namespace_)
    (kind : ChildKind) (name : String) :
    D.Creates kind name ↔ (D.find kind (objKey namespace_ name)).isSome := by
  have hkey : ∀ k r, D.find kind k = some r →
      k = objKey namespace_ r.objectMeta.name := by
    intro k r hr
    cases kind <;> obtain ⟨x, hx, rfl⟩ := Option.map_eq_some_iff.mp hr
    · exact (hD.deployments.filedBy k x hx).symm
    · exact (hD.statefulsets.filedBy k x hx).symm
    · exact (hD.daemonsets.filedBy k x hx).symm
    · exact (hD.services.filedBy k x hx).symm
  constructor
  · rintro ⟨k, r, hr, rfl⟩
    rw [← hkey k r hr, hr]
    rfl
  · intro hsome
    obtain ⟨r, hr⟩ := Option.isSome_iff_exists.mp hsome
    exact ⟨_, r, hr, (objKey_inj.mp (hkey _ r hr)).symm⟩

/-- The objects of a converted stack: one for each kind and key of its services. -/
theorem creates_iff_mem_kindKeys {rt : Runtime} {stack : Latest.Stack} {spec : Latest.StackSpec}
    (hspec : stack.spec = some spec) {strategy : ServiceStrategy} {C D : StackState}
    (hC : C.Keyed stack.objectMeta.namespace_) (hD : (stackToStack rt stack strategy C).1 = .ok D)
    (kind : ChildKind) (name : String) :
    D.Creates kind name ↔ (kind, objKey stack.objectMeta.namespace_ name) ∈
      (stackContexts rt stack spec strategy).flatMap ServiceContext.kindKeys := by
  obtain ⟨spec', hspec', -, rss, hrss, rfl⟩ := stackToStack_ok_iff.mp hD
  obtain rfl : spec' = spec := Option.some.inj (hspec'.symm.trans hspec)
  have hkeyed := (children_of_resources hrss).keyed hC stackContexts_namespace
  rw [creates_iff_isSome hkeyed, StackState.isSome_find_newStackState,
    map_kindKey_flatten hC.filed hrss]

/-- **The strategy and the current objects do not matter** for which objects a
stack has. -/
theorem creates_iff {rt : Runtime} {stack : Latest.Stack} {strategy strategy' : ServiceStrategy}
    {C C' D D' : StackState} (hC : C.Keyed stack.objectMeta.namespace_)
    (hC' : C'.Keyed stack.objectMeta.namespace_)
    (hD : (stackToStack rt stack strategy C).1 = .ok D)
    (hD' : (stackToStack rt stack strategy' C').1 = .ok D') (kind : ChildKind) (name : String) :
    D.Creates kind name ↔ D'.Creates kind name := by
  obtain ⟨spec, hspec, -⟩ := children_of_stackToStack hD
  have hkinds : (stackContexts rt stack spec strategy).flatMap ServiceContext.kindKeys =
      (stackContexts rt stack spec strategy').flatMap ServiceContext.kindKeys := by
    -- the strategy is in the contexts, but kinds and keys do not look at it
    unfold stackContexts serviceContexts
    rw [List.flatMap_map, List.flatMap_map]
    rfl
  rw [creates_iff_mem_kindKeys hspec hC hD, creates_iff_mem_kindKeys hspec hC' hD', hkinds]

/-! ## The check -/

/-- **When nothing is reported**: no answer is an object of someone else. -/
theorem validateCollisions_eq_nil_iff {rt : Runtime} {loader : Loader}
    {ord : RangeOrder ValidateLoop} {answers : GetAnswers} {stack : Internal.Stack}
    {D : StackState} (hD : (convertToStackDefinition rt loader stack).1 = .ok D) :
    (validateCollisions rt loader ord answers.labelsOf stack).1 = [] ↔
      ∀ kind name, D.Creates kind name →
        ¬(answers kind stack.objectMeta.namespace_ name).Collides stack.objectMeta.name := by
  obtain ⟨latest, hlatest, hconverted⟩ := convertToStackDefinition_ok_iff.mp hD
  obtain ⟨status, heq⟩ := stackFromInternalV1alpha3_eq loader stack default
  obtain ⟨spec, hspec, -⟩ := children_of_stackToStack hconverted
  have hstack : stack.spec.stack = some spec := by
    rw [hlatest] at heq
    rw [Except.ok.inj heq] at hspec
    exact hspec
  -- the conversion sorts the services and leaves the metadata alone
  have hmeta : (convertToStackDefinition rt loader stack).2.objectMeta = stack.objectMeta := by
    unfold convertToStackDefinition
    rw [hlatest]
  unfold validateCollisions
  rw [hstack]
  revert hD hmeta
  obtain ⟨converted, sorted⟩ := convertToStackDefinition rt loader stack
  rintro rfl hmeta
  dsimp only at hmeta ⊢
  rw [forall_creates_iff, collisionsOf_eq_nil_iff, collisionsOf_eq_nil_iff,
    collisionsOf_eq_nil_iff, collisionsOf_eq_nil_iff, hmeta]
  simp only [true_and, and_assoc]

/-- **When an empty list can be relied upon.** For a stack that converts, any
answers, and the objects that the stack would create for any strategy on top of
any state: the check is empty only if every name is free or the stack's own,
exactly when an object of someone else is reported anyway or every answer is
either an object or `NotFound`. -/
theorem validateCollisions_conservative_iff (rt : Runtime) (loader : Loader)
    (ord : RangeOrder ValidateLoop) (answers : GetAnswers) (stack : Internal.Stack)
    (latest : Latest.Stack) (hlatest : stackFromInternalV1alpha3 loader stack default = .ok latest)
    (hdry : ∃ D₀, (convertToStackDefinition rt loader stack).1 = .ok D₀)
    (strategy : ServiceStrategy) (C : StackState) (hC : C.Keyed stack.objectMeta.namespace_) :
    ∃ D, (stackToStack rt latest strategy C).1 = .ok D ∧
      (((validateCollisions rt loader ord answers.labelsOf stack).1 = [] →
          ∀ kind name, D.Creates kind name →
            (answers kind stack.objectMeta.namespace_ name).Harmless stack.objectMeta.name) ↔
        (∃ kind name, D.Creates kind name ∧
          (answers kind stack.objectMeta.namespace_ name).Collides stack.objectMeta.name) ∨
        ∀ kind name, D.Creates kind name →
          ¬(answers kind stack.objectMeta.namespace_ name).Unknown) := by
  obtain ⟨D₀, hD₀⟩ := hdry
  obtain ⟨latest', hlatest', hconverted⟩ := convertToStackDefinition_ok_iff.mp hD₀
  obtain rfl : latest' = latest := Except.ok.inj (hlatest'.symm.trans hlatest)
  -- the check converts on top of nothing, the controller on top of what there is
  obtain ⟨D, hD⟩ := exists_stackToStack_of_dryRun hconverted strategy C
  refine ⟨D, hD, ?_⟩
  have hns : latest'.objectMeta = stack.objectMeta := by
    obtain ⟨status, heq⟩ := stackFromInternalV1alpha3_eq loader stack default
    rw [hlatest] at heq
    rw [Except.ok.inj heq]
  rw [← hns] at hC
  have hsame := creates_iff (emptyStackState_keyed _) hC hconverted hD
  rw [validateCollisions_eq_nil_iff hD₀]
  simp only [hsame, GetAnswer.harmless_iff]
  constructor
  · intro hconservative
    by_cases hcollision : ∃ kind name, D.Creates kind name ∧
        (answers kind stack.objectMeta.namespace_ name).Collides stack.objectMeta.name
    · exact Or.inl hcollision
    · -- nothing is reported, so every answer has to be harmless
      have hfree : ∀ kind name, D.Creates kind name →
          ¬(answers kind stack.objectMeta.namespace_ name).Collides stack.objectMeta.name :=
        fun kind name hname hcollides => hcollision ⟨kind, name, hname, hcollides⟩
      exact Or.inr fun kind name hname => (hconservative hfree kind name hname).2
  · rintro (⟨kind, name, hname, hcollides⟩ | hknown) hfree
    · exact absurd hcollides (hfree kind name hname)
    · exact fun kind name hname => ⟨hfree kind name hname, hknown kind name hname⟩

/-- The deployment is there and the stack's own, and no other name is taken. -/
def ownDeployment : GetAnswers
  | .deployment, _, _ =>
    .object (some ((∅ : Map String).insert Labels.forStackName webStack.objectMeta.name))
  | _, _, _ => .notFound

/-- The check of `webStack` finds nothing, and can be relied upon. -/
theorem validateCollisions_conservative_ownDeployment :
    ∃ D, (stackToStack Runtime.reference webStack .nodePort emptyStackState).1 = .ok D ∧
      D.Creates .deployment "web" ∧
      (validateCollisions Runtime.reference Loader.failing (RangeOrder.ascending _)
          ownDeployment.labelsOf (storedStackOf [webService])).1 = [] ∧
      ∀ kind name, D.Creates kind name →
        (ownDeployment kind "prod" name).Harmless webStack.objectMeta.name := by
  have hknown : ∀ kind name, ¬(ownDeployment kind "prod" name).Unknown := by
    intro kind name hunknown
    cases kind <;> exact hunknown
  obtain ⟨D, hD, hiff⟩ := validateCollisions_conservative_iff Runtime.reference Loader.failing
    (RangeOrder.ascending _) ownDeployment (storedStackOf [webService]) webStack rfl
    ⟨_, rfl⟩ .nodePort emptyStackState (emptyStackState_keyed _)
  have hnil : (validateCollisions Runtime.reference Loader.failing (RangeOrder.ascending _)
      ownDeployment.labelsOf (storedStackOf [webService])).1 = [] := rfl
  have hharmless := hiff.mpr (Or.inr fun kind name _ => hknown kind name) hnil
  cases hD
  exact ⟨_, rfl, ⟨objKey "prod" "web", _, rfl, rfl⟩, hnil, hharmless⟩

/-- **An unanswered question counts as a no**: with an API that times out on every
read the stack is accepted, whoever owns its names. -/
theorem validateCollisions_timeout :
    (validateCollisions Runtime.reference Loader.failing (RangeOrder.ascending _)
        (GetAnswers.labelsOf fun _ _ _ => .failed "the server was unable to return a response")
        (storedStackOf [webService])).1 = [] ∧
      ∃ D, (convertToStackDefinition Runtime.reference Loader.failing
          (storedStackOf [webService])).1 = .ok D ∧
        D.Creates .deployment "web" ∧
        ¬(GetAnswer.failed "the server was unable to return a response").Harmless
          (storedStackOf [webService]).objectMeta.name := by
  refine ⟨by rfl, _, rfl, ⟨objKey "prod" "web", ?_⟩, fun h => h⟩
  exact ⟨_, rfl, rfl⟩

end ComposeKube

import ComposeKube.Convert.Children

/-!
# Children belong to their stack

The controller finds the children of a stack by a label: `byStackIndexer` files
an object under the namespace of the object and the stack name in its labels.
Workloads and services find their pods by a selector of three system labels.

The labels of a generated object are the system labels overwritten by the
service's own `Deploy.Labels`, while the selector is made of the system labels
alone. So a child is found, and its pods are selected, exactly when the
service's own labels do not give a system label another value (`Keeps`).
-/

namespace ComposeKube

open Go

/-- `byStackIndexer`, on the metadata of an object. -/
def byStackIndexer (m : ObjectMeta) : List String :=
  match m.labels with
  | none => []
  | some lbls =>
    match lbls.lookup Labels.forStackName with
    | none => []
    | some stackName =>
      if m.namespace_ = "" then [stackName] else [objKey m.namespace_ stackName]

/-- An object in a namespace is filed under the key of a stack when its label has
the name of the stack. -/
theorem byStackIndexer_eq_iff {m : ObjectMeta} (hns : m.namespace_ ≠ "") (stackName : String) :
    byStackIndexer m = [objKey m.namespace_ stackName] ↔
      m.labels.get? Labels.forStackName = some stackName := by
  unfold byStackIndexer
  cases hlabels : m.labels with
  | none => simp
  | some lbls =>
    rw [MapRef.get?_some]
    cases hname : lbls.lookup Labels.forStackName with
    | none => simp [hname]
    | some name => simp [hname, hns]

namespace Resource

/-- The labels of the pods of a workload. -/
def podLabels : Resource → Option (MapRef String)
  | deployment d => some d.spec.template.objectMeta.labels
  | statefulset s => some s.spec.template.objectMeta.labels
  | daemonset d => some d.spec.template.objectMeta.labels
  | service _ => none

/-- The labels by which a workload or a service selects pods. -/
def selector : Resource → MapRef String
  | deployment d => d.spec.selector.bind (·.matchLabels)
  | statefulset s => s.spec.selector.bind (·.matchLabels)
  | daemonset d => d.spec.selector.bind (·.matchLabels)
  | service s => s.spec.selector

end Resource

/-- The entries of the first map are entries of the second. -/
def LabelsSubset (l l' : MapRef String) : Prop := ∀ k v, l.get? k = some v → l'.get? k = some v

/-! ## The labels of the generated objects -/

/-- The object carries the labels of its service, and selects by the system labels. -/
structure Labelled (ctx : ServiceContext) (r : Resource) : Prop where
  labels : r.objectMeta.labels = ctx.meta_.labels
  namespace_ : r.objectMeta.namespace_ = ctx.stackNamespace
  selector : r.selector = some ctx.labelSelector
  podLabels : ∀ l, r.podLabels = some l → l = ctx.meta_.labels

theorem labelled_service (slot : ServiceSlot) (original : Service) :
    Labelled slot.1 (.service (slot.desired original)) where
  labels := rfl
  namespace_ := rfl
  selector := ServiceRole.spec_selector ..
  podLabels _ h := nomatch h

/-- The restart policy is no part of the metadata. -/
theorem forceRestartPolicy_objectMeta (podTemplate : PodTemplateSpec) (policy : RestartPolicy) :
    (forceRestartPolicy podTemplate policy).objectMeta = podTemplate.objectMeta := by
  unfold forceRestartPolicy
  split <;> rfl

/-- A deployment carries the labels of its service, and selects by them. -/
theorem labelled_deployment (ctx : ServiceContext) (parts : PodParts) (x : Deployment) :
    Labelled ctx (.deployment (ctx.desired deploymentKind parts x)) where
  labels := rfl
  namespace_ := rfl
  selector := rfl
  podLabels l h := by
    have htemplate : (ctx.desired deploymentKind parts x).spec.template.objectMeta =
        (ctx.fill parts x.spec.template).objectMeta := forceRestartPolicy_objectMeta ..
    rw [← Option.some.inj h, htemplate]
    rfl

/-- So does a stateful set. -/
theorem labelled_statefulset (ctx : ServiceContext) (parts : PodParts) (x : StatefulSet) :
    Labelled ctx (.statefulset (ctx.desired statefulsetKind parts x)) where
  labels := rfl
  namespace_ := rfl
  selector := rfl
  podLabels l h := by
    have htemplate : (ctx.desired statefulsetKind parts x).spec.template.objectMeta =
        (ctx.fill parts x.spec.template).objectMeta := forceRestartPolicy_objectMeta ..
    rw [← Option.some.inj h, htemplate]
    rfl

/-- So does a daemon set. -/
theorem labelled_daemonset (ctx : ServiceContext) (parts : PodParts) (x : DaemonSet) :
    Labelled ctx (.daemonset (ctx.desired daemonsetKind parts x)) where
  labels := rfl
  namespace_ := rfl
  selector := rfl
  podLabels _ h := (Option.some.inj h).symm

/-- A service's objects: its Kubernetes services, and one workload that is
labelled like them unless it was skipped. -/
theorem toStackResources_labelled {ctx : ServiceContext} {C : StackState} {stackDirty : Bool}
    {rs : List Resource} (h : toStackResources ctx C stackDirty = .ok rs) :
    ∃ w, rs = (serviceResources ctx C).map Resource.service ++ [w] ∧ w.podLabels ≠ none ∧
      (∀ s ∈ serviceResources ctx C, Labelled ctx (.service s)) ∧
      (ctx.skipsWorkload C stackDirty = false → Labelled ctx w) := by
  have hservices : ∀ s ∈ serviceResources ctx C, Labelled ctx (.service s) := by
    intro s hs
    rw [serviceResources_eq] at hs
    obtain ⟨role, -, rfl⟩ := List.mem_map.mp hs
    exact labelled_service (ctx, role) _
  -- one workload, of the kind that the service asks for; one that was skipped is as it was
  unfold ServiceContext.skipsWorkload
  obtain ⟨hw, -, res, hres, rfl⟩ | ⟨hw, -, res, hres, rfl⟩ | ⟨hw, -, res, hres, rfl⟩ :=
    toStackResources_eq_ok h
  · refine ⟨_, rfl, nofun, hservices, fun hskip => ?_⟩
    rw [hw] at hskip
    rcases toWorkload_eq_ok.mp hres with ⟨htrue, -⟩ | ⟨-, parts, -, rfl⟩
    · exact absurd htrue (Bool.eq_false_iff.mp hskip)
    · exact labelled_daemonset ctx parts _
  · refine ⟨_, rfl, nofun, hservices, fun hskip => ?_⟩
    rw [hw] at hskip
    rcases toWorkload_eq_ok.mp hres with ⟨htrue, -⟩ | ⟨-, parts, -, rfl⟩
    · exact absurd htrue (Bool.eq_false_iff.mp hskip)
    · exact labelled_statefulset ctx parts _
  · refine ⟨_, rfl, nofun, hservices, fun hskip => ?_⟩
    rw [hw] at hskip
    rcases toWorkload_eq_ok.mp hres with ⟨htrue, -⟩ | ⟨-, parts, -, rfl⟩
    · exact absurd htrue (Bool.eq_false_iff.mp hskip)
    · exact labelled_deployment ctx parts _

/-! ## Labels that the service may overwrite -/

/-- The service's own labels do not give the system label `k` another value. -/
def ServiceContext.Keeps (ctx : ServiceContext) (k : String) : Prop :=
  ∀ v, ctx.srv.deploy.labels.get? k = some v → ctx.labelSelector.lookup k = some v

/-- A system label that is kept is a label of the objects. -/
theorem ServiceContext.keeps_iff {ctx : ServiceContext} {k v : String}
    (hk : ctx.labelSelector.lookup k = some v) :
    ctx.Keeps k ↔ ctx.meta_.labels.get? k = some v := by
  have hmerged : ctx.meta_.labels.get? k =
      (ctx.srv.deploy.labels.get? k).or (ctx.labelSelector.lookup k) :=
    objectMeta_labels_get? ..
  unfold ServiceContext.Keeps
  rw [hmerged, hk]
  cases ctx.srv.deploy.labels.get? k with
  | none => simp
  | some u => simp [eq_comm]

section Names

variable {ctx : ServiceContext} (hstack : ctx.stackName ≠ "") (hservice : ctx.srv.name ≠ "")

include hstack hservice

/-- The pods are selected when all three system labels are kept. -/
theorem selector_subset_iff :
    LabelsSubset (some ctx.labelSelector) ctx.meta_.labels ↔
      ctx.Keeps Labels.forStackName ∧ ctx.Keeps Labels.forServiceName ∧
        ctx.Keeps Labels.forServiceID := by
  have h1 : ctx.labelSelector.lookup Labels.forStackName = some ctx.stackName :=
    Labels.lookup_forService_stackName hstack hservice
  have h2 : ctx.labelSelector.lookup Labels.forServiceName = some ctx.srv.name :=
    Labels.lookup_forService_serviceName hstack hservice
  have h3 : ctx.labelSelector.lookup Labels.forServiceID =
      some (ctx.stackName ++ "-" ++ ctx.srv.name) :=
    Labels.lookup_forService_serviceID hstack hservice
  rw [ServiceContext.keeps_iff h1, ServiceContext.keeps_iff h2, ServiceContext.keeps_iff h3]
  constructor
  · intro hsubset
    exact ⟨hsubset _ _ h1, hsubset _ _ h2, hsubset _ _ h3⟩
  · rintro ⟨hkeep1, hkeep2, hkeep3⟩ k v hk
    rw [MapRef.get?_some] at hk
    -- there is no fourth system label
    by_cases hk1 : k = Labels.forStackName
    · subst hk1
      rw [← hk, h1]
      exact hkeep1
    by_cases hk2 : k = Labels.forServiceName
    · subst hk2
      rw [← hk, h2]
      exact hkeep2
    by_cases hk3 : k = Labels.forServiceID
    · subst hk3
      rw [← hk, h3]
      exact hkeep3
    · have hnone : ctx.labelSelector.lookup k = none := Labels.lookup_forService_of_ne hk2 hk1 hk3
      rw [hnone] at hk
      cases hk

/-- A labelled object is filed under its stack when the stack label is kept. -/
theorem Labelled.indexed_iff {r : Resource} (hns : ctx.stackNamespace ≠ "") (h : Labelled ctx r) :
    byStackIndexer r.objectMeta = [objKey ctx.stackNamespace ctx.stackName] ↔
      ctx.Keeps Labels.forStackName := by
  have hlookup : ctx.labelSelector.lookup Labels.forStackName = some ctx.stackName :=
    Labels.lookup_forService_stackName hstack hservice
  rw [← h.namespace_, byStackIndexer_eq_iff (by rw [h.namespace_]; exact hns), h.labels,
    ServiceContext.keeps_iff hlookup]

end Names

/-! ## Belonging -/

/-- The objects built for a service belong to its stack: they are filed under the
stack, and what they select are labels of the pods. A skipped workload was not
built here. -/
structure BelongsToStack (ctx : ServiceContext) (skipped : Bool) (rs : List Resource) : Prop where
  indexed : ∀ r ∈ rs, (r.podLabels ≠ none → skipped = false) →
    byStackIndexer r.objectMeta = [objKey ctx.stackNamespace ctx.stackName]
  selected : skipped = false → ∀ w ∈ rs, ∀ podLabels, w.podLabels = some podLabels →
    ∀ r ∈ rs, LabelsSubset r.selector podLabels

/-- **When the children of a service belong to its stack**: exactly when the
service's own labels leave the stack label as it is and, if the workload is
built, the other two system labels as well. -/
theorem toStackResources_belongs_iff (ctx : ServiceContext) (C : StackState) (stackDirty : Bool)
    (rs : List Resource) (hstack : ctx.stackName ≠ "") (hns : ctx.stackNamespace ≠ "")
    (hservice : ctx.srv.name ≠ "") (h : toStackResources ctx C stackDirty = .ok rs) :
    BelongsToStack ctx (ctx.skipsWorkload C stackDirty) rs ↔
      ctx.Keeps Labels.forStackName ∧
        (ctx.skipsWorkload C stackDirty = true ∨
          ctx.Keeps Labels.forServiceName ∧ ctx.Keeps Labels.forServiceID) := by
  obtain ⟨w, rfl, hw, hservices, hworkload⟩ := toStackResources_labelled h
  obtain ⟨s, hs⟩ : ∃ s, s ∈ serviceResources ctx C := by
    rw [serviceResources_eq]
    have hinternal : ServiceRole.internal ∈ ctx.roles := by
      simp [ServiceContext.roles, ServiceRole.all, ServiceRole.emitted]
    exact ⟨_, List.mem_map_of_mem hinternal⟩
  have hsmem : Resource.service s ∈ (serviceResources ctx C).map Resource.service ++ [w] :=
    List.mem_append_left _ (List.mem_map_of_mem hs)
  have hwmem : w ∈ (serviceResources ctx C).map Resource.service ++ [w] :=
    List.mem_append_right _ (List.mem_singleton_self w)
  obtain ⟨podLabels, hpod⟩ := Option.ne_none_iff_exists'.mp hw
  constructor
  · intro hbelongs
    -- some Kubernetes service is always built, so the stack label is kept
    have hkeep : ctx.Keeps Labels.forStackName :=
      ((hservices s hs).indexed_iff hstack hservice hns).mp
        (hbelongs.indexed _ hsmem fun hne => absurd rfl hne)
    refine ⟨hkeep, ?_⟩
    cases hskip : ctx.skipsWorkload C stackDirty with
    | true => exact Or.inl rfl
    | false =>
      have hsubset := hbelongs.selected hskip w hwmem podLabels hpod w hwmem
      rw [(hworkload hskip).selector, (hworkload hskip).podLabels _ hpod] at hsubset
      exact Or.inr ((selector_subset_iff hstack hservice).mp hsubset).2
  · rintro ⟨hkeep, hrest⟩
    have hmem : ∀ r ∈ (serviceResources ctx C).map Resource.service ++ [w],
        (r.podLabels ≠ none → ctx.skipsWorkload C stackDirty = false) → Labelled ctx r := by
      intro r hr hbuilt
      rcases List.mem_append.mp hr with hr | hr
      · obtain ⟨s', hs', rfl⟩ := List.mem_map.mp hr
        exact hservices s' hs'
      · rw [List.mem_singleton.mp hr] at hbuilt ⊢
        exact hworkload (hbuilt hw)
    constructor
    · intro r hr hbuilt
      exact ((hmem r hr hbuilt).indexed_iff hstack hservice hns).mpr hkeep
    · intro hskip w' hw' podLabels' hpod' r hr
      rcases hrest with htrue | ⟨hname, hid⟩
      · rw [hskip] at htrue
        cases htrue
      · rw [(hmem r hr fun _ => hskip).selector, (hmem w' hw' fun _ => hskip).podLabels _ hpod']
        exact (selector_subset_iff hstack hservice).mpr ⟨hkeep, hname, hid⟩

/-- A service of the stack `prod/app` under conversion. -/
def contextOf (srv : Latest.ServiceConfig) : ServiceContext where
  rt := Runtime.reference
  ord := RangeOrder.ascending _
  stackName := "app"
  stackNamespace := "prod"
  srv := srv
  configuration := default
  strategy := .loadBalancer

/-- A service with a label of its own, and one that repeats a system label. -/
def labelledService : Latest.ServiceConfig :=
  { webService with
    deploy := { webService.deploy with
      labels := some (((∅ : Map String).insert "team" "front").insert Labels.forServiceName
        "web") } }

/-- Labels that do not change those of the system leave what is built to the stack. -/
theorem toStackResources_belongs_labelledService :
    ∃ rs, toStackResources (contextOf labelledService) emptyStackState true = .ok rs ∧
      BelongsToStack (contextOf labelledService) false rs := by
  obtain ⟨rs, hrs⟩ : ∃ rs,
      toStackResources (contextOf labelledService) emptyStackState true = .ok rs := ⟨_, rfl⟩
  have hstack : (contextOf labelledService).Keeps Labels.forStackName := fun _ hv => nomatch hv
  have hname : (contextOf labelledService).Keeps Labels.forServiceName := fun _ hv => hv
  have hid : (contextOf labelledService).Keeps Labels.forServiceID := fun _ hv => nomatch hv
  exact ⟨rs, hrs, (toStackResources_belongs_iff (contextOf labelledService) emptyStackState true rs
    (by decide) (by decide) (by decide) hrs).mpr ⟨hstack, Or.inr ⟨hname, hid⟩⟩⟩

/-- A service that labels its objects with the name of another stack. -/
def adoptedService : Latest.ServiceConfig :=
  { webService with
    deploy := { webService.deploy with
      labels := some ((∅ : Map String).insert Labels.forStackName "other") } }

/-- **Its objects are handed to the other stack**: every object that is built is
filed under `prod/other`, and the workload does not select its own pods. -/
theorem toStackResources_adopted :
    ∃ rs, toStackResources (contextOf adoptedService) emptyStackState true = .ok rs ∧
      (∀ r ∈ rs, byStackIndexer r.objectMeta = ["prod/other"]) ∧
      (∃ w ∈ rs, ∃ podLabels, w.podLabels = some podLabels ∧
        ¬LabelsSubset w.selector podLabels) ∧
      ¬BelongsToStack (contextOf adoptedService) false rs := by
  refine ⟨_, rfl, by decide, ⟨_, .tail _ (.tail _ (.head _)), _, rfl, fun hsubset => ?_⟩,
    fun hbelongs => ?_⟩
  · exact absurd (hsubset Labels.forStackName "app" rfl) (by decide)
  · have hindexed := hbelongs.indexed _ (.head _) (fun hne => absurd rfl hne)
    exact absurd hindexed (by decide)

end ComposeKube

import ComposeKube.Convert.Children

/-!
# Sidecars and foreign pod settings

An admission plugin may add containers to a pod template and may set fields
that a stack knows nothing about. A template is therefore never built from
scratch: `toPodTemplate` writes into the template that is there, and into one of
its containers, the first with the name of the service.

What it leaves alone is all that it does not assign. `Container.unassigned` and
`PodSpec.unassigned` clear the fields that are assigned, in the order of the
assignments in the source, so that equality after clearing is the frame.

* `fillContainers_eq` — which container is written.
* `toPodTemplate_keepsForeign` — the frame of one conversion.
* `desired_keepsForeign` — the frame for the three kinds of workload.
* `sidecars_run` — the containers of others, through any number of conversions.
-/

namespace ComposeKube

open Go

/-! ## What is not assigned -/

/-- A container without the fields that `toPodTemplate` assigns. -/
def Container.unassigned (c : Container) : Container :=
  { c with
    name := default
    image := default
    imagePullPolicy := default
    command := default
    args := default
    workingDir := default
    tty := default
    stdin := default
    ports := default
    livenessProbe := default
    env := default
    volumeMounts := default
    securityContext := default
    resources := default }

/-- A pod spec without the fields that `toPodTemplate` assigns. -/
def PodSpec.unassigned (p : PodSpec) : PodSpec :=
  { p with
    restartPolicy := default
    volumes := default
    hostPID := default
    hostIPC := default
    hostname := default
    terminationGracePeriodSeconds := default
    hostAliases := default
    affinity := default
    containers := default
    imagePullSecrets := default }

/-- The containers are those of the original, in their order, but for the first
one with the given name, which keeps what is not assigned. -/
def KeepsContainers (name : String) (original result : Slice Container) : Prop :=
  ∃ before c c' after, original = some (before ++ c :: after) ∧
    (∀ b ∈ before, b.name ≠ name) ∧ c.name = name ∧
    result = some (before ++ c' :: after) ∧ c'.unassigned = c.unassigned

/-- The pull secrets are those of the original, with the service's own at the end
exactly when it is set and not among them. -/
def KeepsPullSecrets (pullSecret : String) (original result : Slice LocalObjectReference) : Prop :=
  if pullSecret ≠ "" ∧ ∀ ps ∈ original.elems, ps.name ≠ pullSecret then
    result = some (original.elems ++ [{ name := pullSecret }])
  else result = original

/-- A pod spec keeps what a conversion of the service does not assign. -/
structure KeepsForeign (srv : Latest.ServiceConfig) (original result : PodSpec) : Prop where
  containers : KeepsContainers srv.name original.containers result.containers
  fields : result.unassigned = original.unassigned
  pullSecrets : KeepsPullSecrets srv.pullSecret original.imagePullSecrets result.imagePullSecrets

/-! ## One conversion -/

section Fill

variable (rt : Runtime) (srv : Latest.ServiceConfig) (parts : PodParts)

/-- A list with a container of a name, cut at the first of them. -/
theorem exists_first_named {name : String} {l : List Container} (h : ∃ c ∈ l, c.name = name) :
    ∃ before c after, l = before ++ c :: after ∧ (∀ b ∈ before, b.name ≠ name) ∧
      c.name = name := by
  obtain ⟨c, hc, hname⟩ := h
  obtain ⟨c', before, after, hbefore, hc', heq, -⟩ :=
    List.exists_of_eraseP (p := fun c => decide (c.name = name)) hc (by simpa using hname)
  exact ⟨before, c', after, heq, by simpa using hbefore, by simpa using hc'⟩

/-- The loop of the source stops at the first container of the name. -/
theorem containerIndex_append {name : String} {before after : List Container} {c : Container}
    (hbefore : ∀ b ∈ before, b.name ≠ name) (hc : c.name = name) :
    containerIndex name (before ++ c :: after) = before.length := by
  unfold containerIndex
  have hfind : (before ++ c :: after).findIdx? (fun c => decide (c.name = name)) =
      some before.length := by
    rw [List.findIdx?_eq_some_iff_getElem]
    refine ⟨by simp, by simp [hc], ?_⟩
    intro j hj
    rw [List.getElem_append_left hj]
    simpa using hbefore _ (List.getElem_mem hj)
  rw [hfind]
  rfl

/-- **Which container is written**: the first with the name of the service. -/
theorem fillContainers_eq {before after : List Container} {c : Container}
    (hbefore : ∀ b ∈ before, b.name ≠ srv.name) (hc : c.name = srv.name) :
    fillContainers rt srv parts (before ++ c :: after) =
      before ++ fillContainer rt srv parts c :: after := by
  have hlength : ¬(before ++ c :: after).length = 0 := by
    rw [List.length_append, List.length_cons]
    omega
  -- there is a container, so none is appended
  unfold fillContainers
  dsimp only
  rw [if_neg hlength, containerIndex_append hbefore hc,
    List.modify_eq_take_cons_drop (by simp)]
  simp

/-- What is written into a container is what is assigned. -/
theorem unassigned_fillContainer (c : Container) :
    (fillContainer rt srv parts c).unassigned = c.unassigned := rfl

/-- The other containers of a pod are kept where they were. -/
theorem keepsContainers_fill {original : Slice Container}
    (h : ∃ c ∈ original.elems, c.name = srv.name) :
    KeepsContainers srv.name original (some (fillContainers rt srv parts original.elems)) := by
  obtain ⟨before, c, after, heq, hbefore, hc⟩ := exists_first_named h
  refine ⟨before, c, fillContainer rt srv parts c, after, ?_, hbefore, hc, ?_,
    unassigned_fillContainer rt srv parts c⟩
  · -- a list with an element is not nil
    cases original with
    | none => simp at heq
    | some l => exact congrArg some heq
  · rw [heq, fillContainers_eq rt srv parts hbefore hc]

/-- The other pull secrets are kept. -/
theorem keepsPullSecrets_add (pullSecret : String) (original : Slice LocalObjectReference) :
    KeepsPullSecrets pullSecret original (addPullSecret pullSecret original) := by
  have hiff : (pullSecret ≠ "" ∧ !(original.elems.any fun ps => ps.name = pullSecret)) ↔
      pullSecret ≠ "" ∧ ∀ ps ∈ original.elems, ps.name ≠ pullSecret := by simp
  unfold KeepsPullSecrets addPullSecret
  by_cases hadd : pullSecret ≠ "" ∧ ∀ ps ∈ original.elems, ps.name ≠ pullSecret
  · rw [if_pos hadd, if_pos (hiff.mpr hadd)]
    rfl
  · rw [if_neg hadd, if_neg (fun h => hadd (hiff.mp h))]

theorem fillPodTemplate_keepsForeign (labels : MapRef String) {original : PodTemplateSpec}
    (h : ∃ c ∈ original.spec.containers.elems, c.name = srv.name) :
    KeepsForeign srv original.spec (fillPodTemplate rt srv labels parts original).spec where
  containers := keepsContainers_fill rt srv parts h
  fields := rfl
  pullSecrets := keepsPullSecrets_add srv.pullSecret original.spec.imagePullSecrets

end Fill

/-- **Injected sidecars and foreign pod settings are preserved** by every
conversion that succeeds on top of a template with a container of the service. -/
theorem toPodTemplate_keepsForeign (rt : Runtime) (ord : ServiceOrder)
    (srv : Latest.ServiceConfig) (labels : MapRef String) (configuration : Latest.StackSpec)
    (original tpl : PodTemplateSpec)
    (h : toPodTemplate rt ord srv labels configuration original = .ok tpl)
    (hnamed : ∃ c ∈ original.spec.containers.elems, c.name = srv.name) :
    KeepsForeign srv original.spec tpl.spec := by
  obtain ⟨parts, -, hfill⟩ := bind_eq_ok.mp h
  obtain rfl := pure_eq_ok.mp hfill
  exact fillPodTemplate_keepsForeign rt srv parts labels hnamed

/-- A template as a plugin leaves it: a sidecar, a pinned image, and a field that
stacks do not have. -/
def injectedTemplate : PodTemplateSpec :=
  { (default : PodTemplateSpec) with
    spec := { (default : PodSpec) with
      containers := some
        [{ (default : Container) with name := "proxy", image := "envoy" },
          { (default : Container) with
            name := "web", image := "nginx@sha256:1", unread := { encoding := "stdinOnce" } }]
      imagePullSecrets := some [{ name := "registry" }] } }

/-- The sidecar stays where it is, and what the plugin has set of the pod and of
the container stays too. -/
theorem toPodTemplate_keepsForeign_injected :
    ∃ tpl, toPodTemplate Runtime.reference (RangeOrder.ascending _) webService none default
        injectedTemplate = .ok tpl ∧
      KeepsForeign webService injectedTemplate.spec tpl.spec :=
  ⟨_, rfl, toPodTemplate_keepsForeign Runtime.reference (RangeOrder.ascending _) webService none
    default injectedTemplate _ rfl ⟨_, .tail _ (.head _), rfl⟩⟩

/-! ## The three kinds of workload -/

/-- Forcing the restart policy assigns no other field. -/
theorem KeepsForeign.forceRestartPolicy {srv : Latest.ServiceConfig} {original : PodSpec}
    {tpl : PodTemplateSpec} (h : KeepsForeign srv original tpl.spec) (p : RestartPolicy) :
    KeepsForeign srv original (forceRestartPolicy tpl p).spec := by
  rw [forceRestartPolicy_eq]
  exact ⟨h.containers, h.fields, h.pullSecrets⟩

/-- A workload of a service keeps what is foreign to the stack in its template. -/
theorem desired_keepsForeign (ctx : ServiceContext) (parts : PodParts) :
    (∀ original : Deployment,
      (∃ c ∈ original.spec.template.spec.containers.elems, c.name = ctx.srv.name) →
      KeepsForeign ctx.srv original.spec.template.spec
        (ctx.desired deploymentKind parts original).spec.template.spec) ∧
    (∀ original : StatefulSet,
      (∃ c ∈ original.spec.template.spec.containers.elems, c.name = ctx.srv.name) →
      KeepsForeign ctx.srv original.spec.template.spec
        (ctx.desired statefulsetKind parts original).spec.template.spec) ∧
    ∀ original : DaemonSet,
      (∃ c ∈ original.spec.template.spec.containers.elems, c.name = ctx.srv.name) →
      KeepsForeign ctx.srv original.spec.template.spec
        (ctx.desired daemonsetKind parts original).spec.template.spec := by
  refine ⟨?_, ?_, ?_⟩
  -- deployments and stateful sets force the restart policy afterwards
  · intro original h
    exact (fillPodTemplate_keepsForeign ctx.rt ctx.srv parts ctx.meta_.labels h).forceRestartPolicy
      .always
  · intro original h
    exact (fillPodTemplate_keepsForeign ctx.rt ctx.srv parts ctx.meta_.labels h).forceRestartPolicy
      .always
  · intro original h
    exact fillPodTemplate_keepsForeign ctx.rt ctx.srv parts ctx.meta_.labels h

/-! ## Conversions one after another -/

/-- The containers of a pod but for the first one with a name. -/
def sidecars (name : String) (p : PodSpec) : List Container :=
  p.containers.elems.eraseP fun c => c.name = name

theorem sidecars_append {name : String} {before after : List Container} {c : Container}
    (hbefore : ∀ b ∈ before, b.name ≠ name) (hc : c.name = name) :
    (before ++ c :: after).eraseP (fun c => decide (c.name = name)) = before ++ after := by
  rw [List.eraseP_append_right _ (by simpa using hbefore),
    List.eraseP_cons_of_pos (by simpa using hc)]

/-- **One conversion** leaves the sidecars alone, and a container of the service in
its place. -/
theorem sidecars_step {ctx : ServiceContext} {original tpl : PodTemplateSpec}
    (h : toPodTemplate ctx.rt ctx.ord ctx.srv ctx.meta_.labels ctx.configuration original = .ok tpl)
    (hnamed : ∃ c ∈ original.spec.containers.elems, c.name = ctx.srv.name) :
    (∃ c ∈ tpl.spec.containers.elems, c.name = ctx.srv.name) ∧
      sidecars ctx.srv.name tpl.spec = sidecars ctx.srv.name original.spec := by
  obtain ⟨parts, -, hfill⟩ := bind_eq_ok.mp h
  obtain rfl := pure_eq_ok.mp hfill
  obtain ⟨before, c, after, heq, hbefore, hc⟩ := exists_first_named hnamed
  have hfilled : (fillPodTemplate ctx.rt ctx.srv ctx.meta_.labels parts
      original).spec.containers.elems =
        before ++ fillContainer ctx.rt ctx.srv parts c :: after := by
    show fillContainers ctx.rt ctx.srv parts original.spec.containers.elems = _
    rw [heq, fillContainers_eq ctx.rt ctx.srv parts hbefore hc]
  unfold sidecars
  -- the container that is written has the name of the service again
  rw [hfilled, heq, sidecars_append hbefore hc, sidecars_append hbefore rfl]
  exact ⟨⟨_, List.mem_append_right _ List.mem_cons_self, rfl⟩, rfl⟩

/-- **Any number of conversions** of services with one name leaves the containers
of others as a plugin has put them there. -/
theorem sidecars_run {name : String} {ctxs : List ServiceContext}
    (hctxs : ∀ ctx ∈ ctxs, ctx.srv.name = name) {original tpl : PodTemplateSpec}
    (hnamed : ∃ c ∈ original.spec.containers.elems, c.name = name)
    (h : ctxs.foldlM (fun tpl ctx => toPodTemplate ctx.rt ctx.ord ctx.srv ctx.meta_.labels
      ctx.configuration tpl) original = .ok tpl) :
    sidecars name tpl.spec = sidecars name original.spec := by
  induction ctxs generalizing original with
  | nil =>
    obtain rfl := pure_eq_ok.mp h
    rfl
  | cons ctx rest ih =>
    obtain ⟨next, hstep, hrest⟩ := bind_eq_ok.mp h
    obtain rfl : ctx.srv.name = name := hctxs ctx List.mem_cons_self
    obtain ⟨hnamed', hsame⟩ := sidecars_step hstep hnamed
    rw [ih (fun c hc => hctxs c (List.mem_cons_of_mem _ hc)) hnamed' hrest, hsame]

end ComposeKube

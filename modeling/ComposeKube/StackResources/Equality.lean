import ComposeKube.StackResources.Diff

/-!
# Equality modulo admission patches

An admission plugin may pin the image of a container to a digest and may add
tolerations of its own. `normalizeEqual` compares a current workload with a
desired one after undoing both, so that neither a real difference is missed (a
lost update) nor a patch taken for a difference (an endless rollout).

The comparison rewrites the desired containers position by position and then
compares the whole specs. `normalizeEqual_iff` says what this amounts to: images
that agree or are pinned, tolerations that agree once the plugin's are removed,
and everything else the same.

* `normalizeImage_eq_iff`, `zipWith_normalizeImage_eq_iff` — one container, and a
  list of containers.
* `normalizePodSpecForEquality_eq_iff` — two pod specs.
* `normalizeEqual_modulo_patches` — the three kinds of workload.
-/

namespace ComposeKube

open Go

/-! ## What may differ -/

/-- The current image is the desired one, or the desired one pinned to a digest. -/
def SameImage (current desired : Container) : Prop :=
  desired.image = current.image ∨
    ∃ suffix : String, current.image = desired.image ++ "@" ++ suffix

/-- A container, its image left open. -/
def Container.exceptImage (c : Container) : Container := { c with image := "" }

/-- The containers of a list, their images left open. A nil list stays nil. -/
def exceptImages (containers : Slice Container) : Slice Container :=
  containers.map fun l => l.map Container.exceptImage

/-- The tolerations that are not the plugin's. -/
def PodSpec.ownTolerations (p : PodSpec) : List Toleration :=
  p.tolerations.elems.filter fun t => !hasPrefix t.key ignoredTolerationPrefix

/-- A pod spec, its images and tolerations left open. -/
def PodSpec.exceptPatches (p : PodSpec) : PodSpec :=
  { p with
    initContainers := exceptImages p.initContainers
    containers := exceptImages p.containers
    tolerations := none }

/-- Two pod specs differ in images and tolerations only, and there as admission
may make them differ. `List.Forall₂` says that the lists have one length and
that their elements agree at each position. -/
structure PatchedFrom (current desired : PodSpec) : Prop where
  initImages : List.Forall₂ SameImage current.initContainers.elems desired.initContainers.elems
  images : List.Forall₂ SameImage current.containers.elems desired.containers.elems
  tolerations : current.ownTolerations = desired.ownTolerations

/-- Two workloads are the same but for what admission may have patched: labels,
images, tolerations, and all other fields of their specs. -/
structure EqualModuloPatches {α S : Type} [KubeObject α] (spec : α → S) (podSpec : S → PodSpec)
    (setPodSpec : S → PodSpec → S) (current desired : α) : Prop where
  labels : (getMeta current).labels = (getMeta desired).labels
  patched : PatchedFrom (podSpec (spec current)) (podSpec (spec desired))
  rest : setPodSpec (spec current) (podSpec (spec current)).exceptPatches =
    setPodSpec (spec desired) (podSpec (spec desired)).exceptPatches

/-! ## Containers -/

/-- Two containers are the same when their images are, and the rest is. -/
theorem Container.eq_iff_exceptImage {c d : Container} :
    c = d ↔ c.image = d.image ∧ c.exceptImage = d.exceptImage := by
  constructor
  · rintro rfl
    exact ⟨rfl, rfl⟩
  · rintro ⟨himage, hrest⟩
    obtain ⟨⟩ := c
    obtain ⟨⟩ := d
    simp only [exceptImage, Container.mk.injEq] at himage hrest ⊢
    simp_all

/-- The image of a desired container is replaced when it is pinned. -/
theorem hasPrefix_pinned_iff {current desired : Container} :
    hasPrefix current.image (desired.image ++ "@") = true ↔
      ∃ suffix : String, current.image = desired.image ++ "@" ++ suffix :=
  hasPrefix_iff

/-- **One container**: after the rewrite it is the current one exactly when the
images agree or are pinned, and the rest agrees. -/
theorem normalizeImage_eq_iff {current desired : Container} :
    current = normalizeImage current desired ↔
      SameImage current desired ∧ current.exceptImage = desired.exceptImage := by
  unfold normalizeImage SameImage
  by_cases hpinned : hasPrefix current.image (desired.image ++ "@") = true
  · -- the image is taken over, so it cannot differ
    rw [if_pos hpinned, Container.eq_iff_exceptImage]
    have hsame := hasPrefix_pinned_iff.mp hpinned
    exact ⟨fun h => ⟨Or.inr hsame, h.2⟩, fun h => ⟨rfl, h.2⟩⟩
  · rw [if_neg hpinned, Container.eq_iff_exceptImage]
    rw [hasPrefix_pinned_iff] at hpinned
    constructor
    · rintro ⟨himage, hrest⟩
      exact ⟨Or.inl himage.symm, hrest⟩
    · rintro ⟨himage, hrest⟩
      exact ⟨(himage.resolve_right hpinned).symm, hrest⟩

/-- **A list of containers**, position by position. -/
theorem zipWith_normalizeImage_eq_iff {current desired : List Container}
    (hlength : desired.length = current.length) :
    current = List.zipWith normalizeImage current desired ↔
      List.Forall₂ SameImage current desired ∧
        current.map Container.exceptImage = desired.map Container.exceptImage := by
  induction current generalizing desired with
  | nil =>
    obtain rfl := List.length_eq_zero_iff.mp hlength
    simp
  | cons c current ih =>
    cases desired with
    | nil => simp at hlength
    | cons d desired =>
      have hlength' : desired.length = current.length := by simpa using hlength
      rw [List.zipWith_cons_cons, List.cons.injEq, normalizeImage_eq_iff, ih hlength',
        List.forall₂_cons, List.map_cons, List.map_cons, List.cons.injEq]
      exact and_and_and_comm

/-- **A slice of containers.** A nil slice is told from an empty one. -/
theorem normalizeImages_eq_iff {current desired : Slice Container}
    (hlength : desired.elems.length = current.elems.length) :
    current = normalizeImages current desired ↔
      List.Forall₂ SameImage current.elems desired.elems ∧
        exceptImages current = exceptImages desired := by
  unfold normalizeImages exceptImages
  cases current with
  | none => cases desired <;> simp_all
  | some current =>
    cases desired with
    | none => simp
    | some desired =>
      simp only [Option.map_some, Option.some.injEq]
      exact zipWith_normalizeImage_eq_iff hlength

/-! ## Pod specs -/

theorem length_exceptImages {s s' : Slice Container} (h : exceptImages s = exceptImages s') :
    s'.elems.length = s.elems.length := by
  have hkeep : ∀ s : Slice Container, (exceptImages s).elems.length = s.elems.length := by
    intro s
    cases s <;> simp [exceptImages]
  rw [← hkeep s', ← h, hkeep s]

/-- What a pod spec holds besides its containers and tolerations. -/
def PodSpec.remainder (p : PodSpec) : PodSpec :=
  { p with initContainers := none, containers := none, tolerations := none }

theorem PodSpec.eq_iff_remainder {p q : PodSpec} :
    p = q ↔ p.initContainers = q.initContainers ∧ p.containers = q.containers ∧
      p.tolerations = q.tolerations ∧ p.remainder = q.remainder := by
  constructor
  · rintro rfl
    exact ⟨rfl, rfl, rfl, rfl⟩
  · rintro ⟨hinit, hcontainers, htolerations, hrest⟩
    obtain ⟨⟩ := p
    obtain ⟨⟩ := q
    simp only [remainder, PodSpec.mk.injEq] at hinit hcontainers htolerations hrest ⊢
    simp_all

theorem PodSpec.exceptPatches_eq_iff {p q : PodSpec} :
    p.exceptPatches = q.exceptPatches ↔
      exceptImages p.initContainers = exceptImages q.initContainers ∧
        exceptImages p.containers = exceptImages q.containers ∧ p.remainder = q.remainder := by
  rw [PodSpec.eq_iff_remainder]
  constructor
  · rintro ⟨hinit, hcontainers, -, hrest⟩
    exact ⟨hinit, hcontainers, hrest⟩
  · rintro ⟨hinit, hcontainers, hrest⟩
    exact ⟨hinit, hcontainers, rfl, hrest⟩

theorem normalizeTolerations_eq_iff {p q : PodSpec} :
    (normalizeTolerationsForEquality p).tolerations =
        (normalizeTolerationsForEquality q).tolerations ↔
      p.ownTolerations = q.ownTolerations :=
  Slice.ofAppends_inj

/-- **Two pod specs** are made equal exactly when they are patched from each
other and agree in the rest. -/
theorem normalizePodSpecForEquality_eq_iff (current desired : PodSpec) :
    (normalizePodSpecForEquality current desired).1 =
        (normalizePodSpecForEquality current desired).2 ↔
      PatchedFrom current desired ∧ current.exceptPatches = desired.exceptPatches := by
  by_cases hlength : desired.initContainers.elems.length = current.initContainers.elems.length ∧
      desired.containers.elems.length = current.containers.elems.length
  · -- the images are rewritten, and the rest is compared field by field
    have hnormalized : normalizePodSpecForEquality current desired =
        (normalizeTolerationsForEquality current,
          { normalizeTolerationsForEquality desired with
            initContainers := normalizeImages current.initContainers desired.initContainers
            containers := normalizeImages current.containers desired.containers }) :=
      if_pos hlength
    rw [hnormalized, PodSpec.eq_iff_remainder, PodSpec.exceptPatches_eq_iff]
    constructor
    · rintro ⟨hinit, hcontainers, htolerations, hrest⟩
      obtain ⟨hinitImages, hinitRest⟩ := (normalizeImages_eq_iff hlength.1).mp hinit
      obtain ⟨himages, hcontainersRest⟩ := (normalizeImages_eq_iff hlength.2).mp hcontainers
      exact ⟨⟨hinitImages, himages, normalizeTolerations_eq_iff.mp htolerations⟩,
        hinitRest, hcontainersRest, hrest⟩
    · rintro ⟨⟨hinitImages, himages, htolerations⟩, hinitRest, hcontainersRest, hrest⟩
      exact ⟨(normalizeImages_eq_iff hlength.1).mpr ⟨hinitImages, hinitRest⟩,
        (normalizeImages_eq_iff hlength.2).mpr ⟨himages, hcontainersRest⟩,
        normalizeTolerations_eq_iff.mpr htolerations, hrest⟩
  · -- one of the lists has another length, which no rewrite makes up for
    have hnormalized : normalizePodSpecForEquality current desired =
        (normalizeTolerationsForEquality current, normalizeTolerationsForEquality desired) :=
      if_neg hlength
    rw [hnormalized]
    constructor
    · intro h
      obtain ⟨hinit, hcontainers, -⟩ := PodSpec.eq_iff_remainder.mp h
      have hinit' : current.initContainers = desired.initContainers := hinit
      have hcontainers' : current.containers = desired.containers := hcontainers
      exact absurd ⟨by rw [hinit'], by rw [hcontainers']⟩ hlength
    · rintro ⟨-, hrest⟩
      obtain ⟨hinit, hcontainers, -⟩ := PodSpec.exceptPatches_eq_iff.mp hrest
      exact absurd ⟨length_exceptImages hinit, length_exceptImages hcontainers⟩ hlength

/-! ## Workloads -/

section Workloads

variable {α S : Type} [KubeObject α] [DecidableEq S] {spec : α → S} {podSpec : S → PodSpec}
  {setPodSpec : S → PodSpec → S} (get_set : ∀ s p, podSpec (setPodSpec s p) = p)
  (set_set : ∀ s p p', setPodSpec (setPodSpec s p) p' = setPodSpec s p')

include get_set set_set

omit [DecidableEq S] in
/-- Two specs with given pods are equal when the pods are, and the specs are
with any other pods in their place. -/
theorem setPodSpec_eq_iff {s s' : S} {p p' q : PodSpec} :
    setPodSpec s p = setPodSpec s' p' ↔ p = p' ∧ setPodSpec s q = setPodSpec s' q := by
  constructor
  · intro h
    refine ⟨?_, ?_⟩
    · rw [← get_set s p, h, get_set]
    · rw [← set_set s p q, h, set_set]
  · rintro ⟨rfl, h⟩
    rw [← set_set s q p, h, set_set]

/-- **`normalizeEqual` is equality modulo patches**, for a kind of workload whose
pod spec can be read and replaced. -/
theorem normalizeEqual_iff (current desired : α) :
    normalizeEqual spec podSpec setPodSpec current desired = true ↔
      EqualModuloPatches spec podSpec setPodSpec current desired := by
  unfold normalizeEqual
  dsimp only
  rw [Bool.and_eq_true, decide_eq_true_eq, decide_eq_true_eq,
    setPodSpec_eq_iff get_set set_set (q := (podSpec (spec current)).exceptPatches),
    normalizePodSpecForEquality_eq_iff]
  constructor
  · rintro ⟨⟨⟨hpatched, hpods⟩, hrest⟩, hlabels⟩
    exact ⟨hlabels, hpatched, by rw [← hpods]; exact hrest⟩
  · rintro ⟨hlabels, hpatched, hrest⟩
    obtain ⟨hpods, hrest'⟩ :=
      (setPodSpec_eq_iff get_set set_set (q := (podSpec (spec current)).exceptPatches)).mp hrest
    exact ⟨⟨⟨hpatched, hpods⟩, hrest'⟩, hlabels⟩

end Workloads

/-- **Deployments, StatefulSets and DaemonSets are compared modulo admission
patches**: neither is a difference missed, nor a patch taken for one. -/
theorem normalizeEqual_modulo_patches :
    (∀ current desired : Deployment, normalizeEqualDeployment current desired = true ↔
      EqualModuloPatches Deployment.spec (fun s => s.template.spec)
        (fun s p => { s with template := { s.template with spec := p } }) current desired) ∧
    (∀ current desired : StatefulSet, normalizeEqualStatefulset current desired = true ↔
      EqualModuloPatches StatefulSet.spec (fun s => s.template.spec)
        (fun s p => { s with template := { s.template with spec := p } }) current desired) ∧
    ∀ current desired : DaemonSet, normalizeEqualDaemonset current desired = true ↔
      EqualModuloPatches DaemonSet.spec (fun s => s.template.spec)
        (fun s p => { s with template := { s.template with spec := p } }) current desired := by
  refine ⟨?_, ?_, ?_⟩
  · exact normalizeEqual_iff (fun _ _ => rfl) (fun _ _ _ => rfl)
  · exact normalizeEqual_iff (fun _ _ => rfl) (fun _ _ _ => rfl)
  · exact normalizeEqual_iff (fun _ _ => rfl) (fun _ _ _ => rfl)

end ComposeKube

import ComposeKube.Registry.VolumeNames

/-!
# Valid names

`IsDNS1123Subdomain` has to hold of every name in a generated object, or the
cluster rejects the object. The checks do not look at the objects: they derive
the names again, and not all of them.

Unchecked are the suffixes of the exposed services, which make a name longer,
and the secrets and configs that a service refers to. The numbers in the names of
volumes do no harm.

* `validName_append_iff`, `validName_indexedName` — names that grow from valid ones.
* `validNames_iff` — of an accepted stack, when all generated names are valid.
-/

namespace ComposeKube

open Go

/-! ## Valid names -/

/-- The name passes `IsDNS1123Subdomain`. -/
def ValidName (name : String) : Prop := isDNS1123Subdomain name = []

instance (name : String) : Decidable (ValidName name) :=
  inferInstanceAs (Decidable (isDNS1123Subdomain name = []))

theorem validName_iff {name : String} :
    ValidName name ↔ name.utf8ByteSize ≤ dns1123SubdomainMaxLength ∧
      matchesDNS1123Subdomain name = true := by
  unfold ValidName isDNS1123Subdomain
  rw [List.append_eq_nil_iff]
  simp

/-- The check has no error for a valid name. -/
theorem invalidName_eq_nil {path name kind : String} :
    invalidName path name kind = [] ↔ ValidName name := by
  unfold invalidName ValidName
  dsimp only
  rw [← List.length_eq_zero_iff (l := isDNS1123Subdomain name)]
  split
  · next h => exact ⟨nofun, fun hzero => absurd h (by omega)⟩
  · next h => exact ⟨fun _ => by omega, fun _ => rfl⟩

/-- A character of a label. -/
def isLabelChar (c : Char) : Bool := isLowerAlphanumeric c || c = '-'

/-- What may follow a label: characters of labels, the last one no hyphen. -/
def ContinuesLabel (suffix : List Char) : Prop :=
  suffix.getLast?.any isLowerAlphanumeric = true ∧ suffix.all isLabelChar = true

instance (suffix : List Char) : Decidable (ContinuesLabel suffix) :=
  inferInstanceAs (Decidable (_ ∧ _))

theorem isDNS1123Label_append {label suffix : List Char} (hlabel : isDNS1123Label label = true)
    (hsuffix : ContinuesLabel suffix) : isDNS1123Label (label ++ suffix) = true := by
  obtain ⟨hlast, hall⟩ := hsuffix
  unfold isDNS1123Label at hlabel ⊢
  rw [Bool.and_eq_true, Bool.and_eq_true] at hlabel ⊢
  obtain ⟨⟨hhead, -⟩, hlabels⟩ := hlabel
  refine ⟨⟨?_, ?_⟩, ?_⟩
  · cases hc : label.head? with
    | none => rw [hc] at hhead; cases hhead
    | some c => rwa [List.head?_append, hc, Option.some_or, ← hc]
  · cases hc : suffix.getLast? with
    | none => rw [hc] at hlast; cases hlast
    | some c => rwa [List.getLast?_append, hc, Option.some_or, ← hc]
  · rw [List.all_append, hlabels]
    exact hall

/-- A suffix without a dot continues the last label of a name. -/
theorem matchesDNS1123Subdomain_append {name suffix : String}
    (hname : matchesDNS1123Subdomain name = true) (hsuffix : ContinuesLabel suffix.toList) :
    matchesDNS1123Subdomain (name ++ suffix) = true := by
  have hdot : '.' ∉ suffix.toList := by
    intro hmem
    exact absurd (List.all_eq_true.mp hsuffix.2 _ hmem) (by decide)
  unfold matchesDNS1123Subdomain at hname ⊢
  rw [String.toList_append]
  -- the suffix joins what is after the last dot, or the whole name
  by_cases hdots : '.' ∈ name.toList
  · obtain ⟨before, label, hsplit, hlabel⟩ := exists_last_of_mem hdots
    rw [hsplit] at hname ⊢
    rw [splitOn_append_cons, List.splitOn_eq_singleton hlabel, List.all_append] at hname
    have hnone : '.' ∉ label ++ suffix.toList := fun hmem =>
      (List.mem_append.mp hmem).elim hlabel hdot
    rw [List.append_assoc, List.cons_append, splitOn_append_cons,
      List.splitOn_eq_singleton hnone, List.all_append]
    rw [Bool.and_eq_true, List.all_cons, List.all_nil, Bool.and_true] at hname ⊢
    exact ⟨hname.1, isDNS1123Label_append hname.2 hsuffix⟩
  · rw [List.splitOn_eq_singleton hdots, List.all_cons, List.all_nil, Bool.and_true] at hname
    have hnone : '.' ∉ name.toList ++ suffix.toList := fun hmem =>
      (List.mem_append.mp hmem).elim hdots hdot
    rw [List.splitOn_eq_singleton hnone, List.all_cons, List.all_nil, Bool.and_true]
    exact isDNS1123Label_append hname hsuffix

/-- **A valid name with a suffix** is valid if it is not too long. -/
theorem validName_append_iff {name suffix : String} (hname : ValidName name)
    (hsuffix : ContinuesLabel suffix.toList) :
    ValidName (name ++ suffix) ↔
      name.utf8ByteSize + suffix.utf8ByteSize ≤ dns1123SubdomainMaxLength := by
  have hmatches := matchesDNS1123Subdomain_append (validName_iff.mp hname).2 hsuffix
  rw [validName_iff, String.utf8ByteSize_append]
  exact ⟨fun h => h.1, fun h => ⟨h, hmatches⟩⟩

theorem utf8ByteSize_ofList_le (cs : List Char) :
    (String.ofList cs).utf8ByteSize ≤ 4 * cs.length := by
  induction cs with
  | nil => simp
  | cons c cs ih =>
    have hc := c.utf8Size_le_four
    have hcons : String.ofList (c :: cs) = String.singleton c ++ String.ofList cs := by
      rw [← String.toList_inj]
      simp
    rw [hcons, String.utf8ByteSize_append, String.utf8ByteSize_singleton, List.length_cons]
    omega

/-- **Numbered names are valid.** -/
theorem validName_indexedName {kind : String} (hkind : ValidName kind)
    (hsize : kind.utf8ByteSize ≤ 100) {i : Nat} (hi : i < 2 ^ 63) :
    ValidName (indexedName kind i) := by
  have hdigit : ∀ c ∈ Nat.toDigits 10 i, isLowerAlphanumeric c = true := by
    intro c hc
    have hdigit := Nat.isDigit_of_mem_toDigits (by decide) (by decide) hc
    simp only [Char.isDigit, Bool.and_eq_true, decide_eq_true_eq] at hdigit
    simp only [isLowerAlphanumeric, Bool.or_eq_true, Bool.and_eq_true, decide_eq_true_eq]
    exact Or.inr hdigit
  have hlist : ("-" ++ formatInt i).toList = '-' :: Nat.toDigits 10 i := by
    have hdigits : (formatInt (i : Int)).toList = Nat.toDigits 10 i := Nat.toList_repr
    rw [String.toList_append, hdigits]
    rfl
  have hsuffix : ContinuesLabel ("-" ++ formatInt i).toList := by
    rw [hlist]
    refine ⟨?_, ?_⟩
    · obtain ⟨c, cs, hcs⟩ := List.exists_cons_of_ne_nil (@Nat.toDigits_ne_nil i 10)
      rw [hcs, List.getLast?_cons_cons, ← hcs]
      rw [List.getLast?_eq_getLast_of_ne_nil Nat.toDigits_ne_nil]
      exact hdigit _ (List.getLast_mem _)
    · rw [List.all_cons, List.all_eq_true.mpr fun c hc => ?_]
      · rfl
      · rw [isLabelChar, hdigit c hc]
        rfl
  -- at most 19 digits; four bytes for each of them would not be too many
  have hlength : (Nat.toDigits 10 i).length ≤ 19 := by
    rw [Nat.length_toDigits_le_iff (by decide) (by decide)]
    omega
  have hname : indexedName kind i = kind ++ ("-" ++ formatInt i) := String.append_assoc ..
  rw [hname, validName_append_iff hkind hsuffix, ← @String.ofList_toList ("-" ++ formatInt i),
    hlist]
  have hle := utf8ByteSize_ofList_le ('-' :: Nat.toDigits 10 i)
  rw [List.length_cons] at hle
  unfold dns1123SubdomainMaxLength
  omega

/-! ## What the checks have seen -/

/-- The names that `validateObjectNames` has looked at in a service. -/
structure CheckedNames (srv : Latest.ServiceConfig) : Prop where
  service : ValidName srv.name
  volumes : ∀ m ∈ srv.volumes.elems, m.type = "volume" → m.source ≠ "" → ValidName m.source

/-- What the validation of names amounts to. -/
theorem validateObjectNames_eq_nil {ord : RangeOrder ValidateLoop} {stack : Internal.Stack}
    {spec : Latest.StackSpec} (hspec : stack.spec.stack = some spec) :
    validateObjectNames ord stack = [] ↔
      (∀ srv ∈ spec.services.elems, ValidName srv.name ∧
        ∀ m ∈ srv.volumes.elems.zipIdx, ValidName (validatedVolumeName m.2 m.1)) ∧
      ∀ secret ∈ ord.range .secrets spec.secrets.entries, ValidName secret.1 := by
  unfold validateObjectNames
  rw [hspec, ← forall_mem_zipIdx (l := spec.services.elems)]
  simp only [List.append_eq_nil_iff, List.flatMap_eq_nil_iff, invalidName_eq_nil]

theorem checkedNames_of_validateObjectNames {ord : RangeOrder ValidateLoop}
    {stack : Internal.Stack} (h : validateObjectNames ord stack = []) {spec : Latest.StackSpec}
    (hspec : stack.spec.stack = some spec) {srv : Latest.ServiceConfig}
    (hsrv : srv ∈ spec.services.elems) : CheckedNames srv := by
  obtain ⟨hname, hvolumes⟩ := ((validateObjectNames_eq_nil hspec).mp h).1 srv hsrv
  refine ⟨hname, fun m hm htype hsource => ?_⟩
  obtain ⟨i, hi, rfl⟩ := List.mem_iff_getElem.mp hm
  have hvalid := hvolumes (srv.volumes.elems[i], i)
    (List.mk_mem_zipIdx_iff_getElem?.mpr (List.getElem?_eq_getElem hi))
  rwa [validatedVolumeName, if_pos ⟨htype, hsource⟩] at hvalid

/-- The lists of a service are Go slices: their lengths are an `int`. -/
structure SlicesFit (srv : Latest.ServiceConfig) : Prop where
  volumes : srv.volumes.elems.length < 2 ^ 63
  tmpfs : srv.tmpfs.elems.length < 2 ^ 63
  secrets : srv.secrets.elems.length < 2 ^ 63
  configs : srv.configs.elems.length < 2 ^ 63

/-- The names of volumes and claims are valid: the chosen ones are checked, the
numbered ones are short. -/
theorem validName_volumeNames {srv : Latest.ServiceConfig} {configuration : Latest.StackSpec}
    {specs : List VolumeSpec} (h : toVolumeSpecs srv configuration = .ok specs)
    (hchecked : CheckedNames srv) (hfit : SlicesFit srv) :
    ∀ name ∈ (volumesOf specs).map (·.name) ++ claimNames srv, ValidName name := by
  intro name hname
  have hindexed : ∀ {kind : String} {l : List Nat} {n : Nat}, ValidName kind →
      kind.utf8ByteSize ≤ 100 → (∀ i ∈ l, i < n) → n < 2 ^ 63 →
      ∀ name ∈ l.map (indexedName kind), ValidName name := by
    intro kind l n hkind hsize hl hn name hname
    obtain ⟨i, hi, rfl⟩ := List.mem_map.mp hname
    exact validName_indexedName hkind hsize ((hl i hi).trans hn)
  have hrange : ∀ {n : Nat}, ∀ i ∈ List.range n, i < n := fun i hi => List.mem_range.mp hi
  -- a name was chosen, and then it was checked, or it is numbered
  rw [(volumeNames_perm h).mem_iff, List.mem_append] at hname
  rcases hname with hnamed | hnumbered
  · obtain ⟨m, hm, rfl⟩ := List.mem_map.mp hnamed
    obtain ⟨hm, hboth⟩ := List.mem_filter.mp hm
    rw [decide_eq_true_eq] at hboth
    exact hchecked.volumes m hm hboth.1 hboth.2
  · unfold numberedNames at hnumbered
    rw [List.mem_append, List.mem_append, List.mem_append] at hnumbered
    rcases hnumbered with ((hmount | htmp) | hsecret) | hconfig
    · refine hindexed (by decide) (by decide) (fun i hi => ?_) hfit.volumes _ hmount
      obtain ⟨m, hm, rfl⟩ := List.mem_map.mp hi
      exact List.snd_lt_of_mem_zipIdx (List.mem_filter.mp hm).1
    · exact hindexed (by decide) (by decide) hrange hfit.tmpfs _ htmp
    · exact hindexed (by decide) (by decide) hrange hfit.secrets _ hsecret
    · exact hindexed (by decide) (by decide) hrange hfit.configs _ hconfig

/-! ## Kubernetes services -/

/-- The names of the exposed services of a service are short enough. -/
structure ServiceNamesFit (srv : Latest.ServiceConfig) : Prop where
  published : (∃ p ∈ srv.ports.elems, p.published ≠ 0) → srv.name.utf8ByteSize + 10 ≤ 253
  randomPorts : (∃ p ∈ srv.ports.elems, p.published = 0) → srv.name.utf8ByteSize + 13 ≤ 253

/-- The names of a service's objects are valid when the suffixes fit. -/
theorem serviceNames_iff (ctx : ServiceContext) (original : StackState)
    (hname : ValidName ctx.srv.name) :
    (∀ svc ∈ serviceResources ctx original, ValidName svc.objectMeta.name) ↔
      ServiceNamesFit ctx.srv := by
  -- the suffixes have ten and thirteen characters
  have hpublished : ValidName (ServiceRole.published.nameFor ctx.srv.name) ↔
      ctx.srv.name.utf8ByteSize + 10 ≤ 253 :=
    validName_append_iff hname (by decide)
  have hrandom : ValidName (ServiceRole.randomPorts.nameFor ctx.srv.name) ↔
      ctx.srv.name.utf8ByteSize + 13 ≤ 253 :=
    validName_append_iff hname (by decide)
  have hroles : (∀ svc ∈ serviceResources ctx original, ValidName svc.objectMeta.name) ↔
      ∀ role ∈ ctx.roles, ValidName (role.nameFor ctx.srv.name) := by
    rw [serviceResources_eq, List.forall_mem_map]
    exact Iff.rfl
  rw [hroles]
  constructor
  · intro h
    refine ⟨fun hports => hpublished.mp (h _ ?_), fun hports => hrandom.mp (h _ ?_)⟩
    · exact List.mem_filter.mpr ⟨by decide, by simpa [ServiceRole.emitted] using hports⟩
    · exact List.mem_filter.mpr ⟨by decide, by simpa [ServiceRole.emitted] using hports⟩
  · intro h role hrole
    have hemitted := (List.mem_filter.mp hrole).2
    cases role with
    | internal => exact hname
    | published =>
      exact hpublished.mpr (h.published (by simpa [ServiceRole.emitted] using hemitted))
    | randomPorts =>
      exact hrandom.mpr (h.randomPorts (by simpa [ServiceRole.emitted] using hemitted))

/-! ## References -/

/-- The secret or the config map a volume refers to. -/
def VolumeSource.references : VolumeSource → List String
  | .secret secretName _ => [secretName]
  | .configMap name _ => [name]
  | _ => []

def PodTemplateSpec.pullSecrets (template : PodTemplateSpec) : List String :=
  template.spec.imagePullSecrets.elems.map (·.name)

/-- The secrets and config maps that pods refer to. -/
def PodTemplateSpec.references (template : PodTemplateSpec) : List String :=
  template.spec.volumes.elems.flatMap (·.volumeSource.references) ++ template.pullSecrets

/-- The pod template of a workload. -/
def Resource.template : Resource → Option PodTemplateSpec
  | .deployment d => some d.spec.template
  | .statefulset s => some s.spec.template
  | .daemonset d => some d.spec.template
  | .service _ => none

/-- The names in an object: its own, those of volumes and claims, and those of
the secrets and config maps it refers to. -/
def Resource.names (r : Resource) : List String :=
  r.objectMeta.name :: (r.volumeNames ++ (r.template.map (·.references)).getD [])

/-- The names that a service refers to are valid. -/
structure ReferencesValid (srv : Latest.ServiceConfig) : Prop where
  secrets : ∀ secret ∈ srv.secrets.elems, ValidName secret.source
  configs : ∀ config ∈ srv.configs.elems, ValidName config.source
  pullSecret : srv.pullSecret ≠ "" → ValidName srv.pullSecret

/-- The references of the volumes of a pod: secrets and configs. -/
theorem references_volumesOf {srv : Latest.ServiceConfig} {configuration : Latest.StackSpec}
    {specs : List VolumeSpec} (h : toVolumeSpecs srv configuration = .ok specs) :
    (volumesOf specs).flatMap (·.volumeSource.references) =
      srv.secrets.elems.map (·.source) ++ srv.configs.elems.map (·.source) := by
  have hown : ∀ source : VolumeSource, source.isHostOrGit = true → source.references = [] := by
    intro source hkind
    cases source <;> first | rfl | cases hkind
  exact flatMap_volumesOf hown rfl (fun _ _ _ => rfl) (fun _ _ _ => rfl) h

/-- The pull secret of the service comes on top of those that are there. -/
theorem pullSecrets_iff (pullSecret : String) (original : Slice LocalObjectReference) :
    (∀ s ∈ (addPullSecret pullSecret original).elems, ValidName s.name) ↔
      (pullSecret ≠ "" → ValidName pullSecret) ∧ ∀ s ∈ original.elems, ValidName s.name := by
  unfold addPullSecret
  split
  · next hnew =>
    rw [Slice.elems_push, List.forall_mem_append, List.forall_mem_singleton]
    exact ⟨fun h => ⟨fun _ => h.2, h.1⟩, fun h => ⟨h.2, h.1 hnew.1⟩⟩
  · next hold =>
    -- it is there already, among those that have to be valid anyway
    refine ⟨fun h => ⟨fun hne => ?_, h⟩, fun h => h.2⟩
    have hany : (original.elems.any fun s => s.name = pullSecret) = true := by
      by_contra hnone
      exact hold ⟨hne, by simpa using hnone⟩
    obtain ⟨s, hs, hname⟩ := List.any_eq_true.mp hany
    exact of_decide_eq_true hname ▸ h s hs

/-- The pull secrets of the workload that is there: an earlier version of the stack, or
somebody else, has put them in. -/
def ServiceContext.inheritedPullSecrets (ctx : ServiceContext) (C : StackState) :
    Slice LocalObjectReference :=
  match workloadOf ctx.srv with
  | .deployment => (getOriginal C.deployments ctx.key).spec.template.spec.imagePullSecrets
  | .statefulset => (getOriginal C.statefulsets ctx.key).spec.template.spec.imagePullSecrets
  | .daemonset => (getOriginal C.daemonsets ctx.key).spec.template.spec.imagePullSecrets

/-- The template of a workload that was built: it has the volumes of the service,
and the pull secret comes on top of those that are there. -/
theorem template_desiredWorkload (ctx : ServiceContext) (C : StackState) (parts : PodParts) :
    ∃ template, (ctx.desiredWorkload C parts).template = some template ∧
      template.spec.volumes = parts.volumes ∧
      template.spec.imagePullSecrets =
        addPullSecret ctx.srv.pullSecret (ctx.inheritedPullSecrets C) := by
  -- the restart policy that is forced touches neither
  have hforced : ∀ t : PodTemplateSpec, ∃ template,
      forceRestartPolicy (ctx.fill parts t) .always = template ∧
        template.spec.volumes = parts.volumes ∧
        template.spec.imagePullSecrets =
          addPullSecret ctx.srv.pullSecret t.spec.imagePullSecrets :=
    fun t => ⟨_, forceRestartPolicy_eq _ _, rfl, rfl⟩
  unfold ServiceContext.desiredWorkload ServiceContext.inheritedPullSecrets
  cases workloadOf ctx.srv with
  | deployment =>
    obtain ⟨template, rfl, hrest⟩ := hforced (getOriginal C.deployments ctx.key).spec.template
    exact ⟨_, rfl, hrest⟩
  | statefulset =>
    obtain ⟨template, rfl, hrest⟩ := hforced (getOriginal C.statefulsets ctx.key).spec.template
    exact ⟨_, rfl, hrest⟩
  | daemonset => exact ⟨_, rfl, rfl, rfl⟩

theorem name_desiredWorkload (ctx : ServiceContext) (original : StackState) (parts : PodParts) :
    (ctx.desiredWorkload original parts).objectMeta.name = ctx.srv.name := by
  unfold ServiceContext.desiredWorkload
  cases workloadOf ctx.srv <;> rfl

/-- **The names in a workload** are valid when the names it refers to are, and those that
are there. -/
theorem workloadNames_iff {ctx : ServiceContext} {parts : PodParts}
    (hparts : ctx.parts = .ok parts)
    (hglobal : ¬(isGlobal ctx.srv = true ∧ hasPersistentVolumes ctx.srv = true))
    (hchecked : CheckedNames ctx.srv) (hfit : SlicesFit ctx.srv) (C : StackState) :
    (∀ name ∈ (ctx.desiredWorkload C parts).names, ValidName name) ↔
      ReferencesValid ctx.srv ∧ ∀ s ∈ (ctx.inheritedPullSecrets C).elems, ValidName s.name := by
  obtain ⟨specs, hspecs, hvolumes⟩ := toVolumes_eq_ok.mp (toPodParts_volumes hparts).1
  have hvalid := validName_volumeNames hspecs hchecked hfit
  obtain ⟨template, htemplate, htvolumes, hpullSecrets⟩ := template_desiredWorkload ctx C parts
  -- secrets, configs, the service's pull secret, and those that were there
  have hreferences : (∀ name ∈ template.references, ValidName name) ↔
      ReferencesValid ctx.srv ∧ ∀ s ∈ (ctx.inheritedPullSecrets C).elems, ValidName s.name := by
    rw [PodTemplateSpec.references, PodTemplateSpec.pullSecrets, htvolumes, hvolumes, hpullSecrets,
      Slice.elems_ofAppends, references_volumesOf hspecs, List.forall_mem_append,
      List.forall_mem_append, List.forall_mem_map, List.forall_mem_map, List.forall_mem_map,
      pullSecrets_iff]
    constructor
    · rintro ⟨⟨hsecrets, hconfigs⟩, hpull, hinherited⟩
      exact ⟨⟨hsecrets, hconfigs, hpull⟩, hinherited⟩
    · rintro ⟨⟨hsecrets, hconfigs, hpull⟩, hinherited⟩
      exact ⟨⟨hsecrets, hconfigs⟩, hpull, hinherited⟩
  rw [Resource.names, name_desiredWorkload, volumeNames_desiredWorkload hglobal, htemplate,
    Option.map_some, Option.getD_some, List.forall_mem_cons, List.forall_mem_append, hvolumes,
    Slice.elems_ofAppends, hreferences]
  exact ⟨fun h => h.2.2, fun h => ⟨hchecked.service, hvalid, h⟩⟩

/-! ## Accepted stacks -/

/-- **When generated names are valid.** Of a stack that passes the checks of names
and the dry run, for every strategy and on top of every state: all names in the
objects built for a service are valid exactly when the suffixes of its exposed
services do not make them too long, the secrets and configs it refers to have
valid names, and so have the pull secrets that its workload has already. -/
theorem validNames_iff (rt : Runtime) (loader : Loader) (ord : RangeOrder ValidateLoop)
    (stack : Internal.Stack) (hnames : validateObjectNames ord stack = [])
    (hdry : (validateDryRun rt loader stack).1 = [])
    (hfit : ∀ spec, stack.spec.stack = some spec → ∀ srv ∈ spec.services.elems, SlicesFit srv)
    (strategy : ServiceStrategy) (C : StackState) :
    ∃ latest spec rss, stackFromInternalV1alpha3 loader stack default = .ok latest ∧
      latest.spec = some spec ∧
      (stackToStack rt latest strategy C).1 = .ok (newStackState rss.flatten) ∧
      List.Forall₂ (fun ctx rs =>
        let skipped := ctx.skipsWorkload C (isStackDirty latest.status)
        toStackResources ctx C (isStackDirty latest.status) = .ok rs ∧
        ((∀ r ∈ builtResources skipped rs, ∀ name ∈ r.names, ValidName name) ↔
          ServiceNamesFit ctx.srv ∧ (skipped = false → ReferencesValid ctx.srv ∧
            ∀ s ∈ (ctx.inheritedPullSecrets C).elems, ValidName s.name)))
        (stackContexts rt latest spec strategy) rss := by
  obtain ⟨latest, spec, rss, hlatest, hspec, hD, hrss⟩ := accepted_conversion hdry strategy C
  have hstored : stack.spec.stack = some spec := by
    obtain ⟨status, h⟩ := stackFromInternalV1alpha3_eq loader stack default
    rw [hlatest] at h
    rw [← hspec, Except.ok.inj h]
  have hsrv : ∀ ctx ∈ stackContexts rt latest spec strategy, ctx.srv ∈ spec.services.elems :=
    fun ctx hctx => (map_srv_stackContexts rt latest spec strategy).mem_iff.mp
      (List.mem_map_of_mem hctx)
  refine ⟨latest, spec, rss, hlatest, hspec, hD, ?_⟩
  refine (List.forall₂_and_left _ _ |>.mpr ⟨hsrv, hrss⟩).imp fun ctx rs ⟨hmem, hrs⟩ => ⟨hrs, ?_⟩
  have hchecked := checkedNames_of_validateObjectNames hnames hstored hmem
  have hglobal := (exists_toStackResources_iff.mp ⟨rs, hrs⟩).1
  refine forall_builtResources_iff hrs ?_ fun parts hparts =>
    workloadNames_iff hparts hglobal hchecked (hfit spec hstored _ hmem) C
  rw [← serviceNames_iff ctx C hchecked.service]
  -- a Kubernetes service has no name but its own
  refine forall₂_congr fun svc _ => ?_
  exact List.forall_mem_singleton

/-- A service with a config and a pull secret. -/
def namedService : Latest.ServiceConfig :=
  { webService with
    configs := some [{ (default : Latest.ServiceConfigObjConfig) with source := "settings" }]
    pullSecret := "hub-key" }

/-- A deployment of `webService` that somebody has given a pull secret. -/
def pullingWeb : StackState :=
  let template : PodTemplateSpec :=
    { (default : PodTemplateSpec) with
      spec := { (default : PodSpec) with imagePullSecrets := some [{ name := "registry-key" }] } }
  { emptyStackState with
    deployments := byKey [{ (default : Deployment) with
      objectMeta := { (default : ObjectMeta) with name := "web", namespace_ := "prod" }
      spec := { (default : DeploymentSpec) with template := template } }] }

/-- Its names are valid, and so is that of the pull secret that is there. -/
theorem validNames_namedService :
    ∃ rs, (stackToStack Runtime.reference (stackOf [namedService]) .nodePort pullingWeb).1 =
        .ok (newStackState rs) ∧
      (∃ r ∈ builtResources false rs,
        r.names = ["web", "config-0", "settings", "registry-key", "hub-key"]) ∧
      ∀ r ∈ builtResources false rs, ∀ name ∈ r.names, ValidName name := by
  have hfit : ∀ spec, (storedStackOf [namedService]).spec.stack = some spec →
      ∀ srv ∈ spec.services.elems, SlicesFit srv := by
    intro spec hspec srv hsrv
    cases hspec
    obtain rfl := List.mem_singleton.mp hsrv
    exact ⟨by decide, by decide, by decide, by decide⟩
  obtain ⟨latest, spec, rss, hlatest, hspec, hD, hrss⟩ :=
    validNames_iff Runtime.reference Loader.failing (RangeOrder.ascending _)
      (storedStackOf [namedService]) (by decide) (by rfl) hfit .nodePort pullingWeb
  cases hlatest
  cases hspec
  -- there is one service, hence one list of resources
  obtain ⟨rs, rfl, hrs, hiff⟩ := exists_of_forall₂_singleton hrss
  cases hrs
  refine ⟨_, hD, ⟨_, .tail _ (.tail _ (.head _)), ?_⟩, hiff.mpr ⟨?_, fun _ => ⟨?_, ?_⟩⟩⟩
  · decide
  · exact ⟨fun _ => by decide, fun _ => by decide⟩
  · exact ⟨by decide, by decide, fun _ => by decide⟩
  · decide

/-- A service that mounts a config of another system. -/
def configService : Latest.ServiceConfig :=
  { webService with
    configs := some [{ (default : Latest.ServiceConfigObjConfig) with source := "My_Config" }] }

/-- A service with a name of 244 characters. -/
def longService : Latest.ServiceConfig :=
  { webService with name := "w" ++ String.ofList (List.replicate 243 'w') }

theorem longService_checked :
    validateObjectNames (RangeOrder.ascending _) (storedStackOf [longService]) = [] := by
  have hsuffix : ContinuesLabel (String.ofList (List.replicate 243 'w')).toList := by
    rw [String.toList_ofList]
    refine ⟨?_, ?_⟩
    · rw [List.getLast?_replicate]
      decide
    · rw [List.all_replicate]
      decide
  have hvalid : ValidName longService.name :=
    (validName_append_iff (by decide) hsuffix).mpr (by decide +kernel)
  refine (validateObjectNames_eq_nil rfl).mpr ⟨fun srv hsrv => ?_, fun secret hsecret => ?_⟩
  · obtain rfl := List.mem_singleton.mp hsrv
    exact ⟨hvalid, fun _ hm => absurd hm List.not_mem_nil⟩
  · exact absurd hsecret List.not_mem_nil

/-- **Names that no check has seen**: a config map of an invalid name is mounted,
and the suffix of a published service makes its name too long. -/
theorem unchecked_names :
    (validateObjectNames (RangeOrder.ascending _) (storedStackOf [configService]) = [] ∧
      (validateDryRun Runtime.reference Loader.failing (storedStackOf [configService])).1 = [] ∧
      ∀ strategy, ∃ rs, (stackToStack Runtime.reference (stackOf [configService]) strategy
          emptyStackState).1 = .ok (newStackState rs) ∧
        ∃ r ∈ rs, "My_Config" ∈ r.names ∧ ¬ValidName "My_Config") ∧
    (validateObjectNames (RangeOrder.ascending _) (storedStackOf [longService]) = [] ∧
      (validateDryRun Runtime.reference Loader.failing (storedStackOf [longService])).1 = [] ∧
      ∀ strategy, ∃ rs, (stackToStack Runtime.reference (stackOf [longService]) strategy
          emptyStackState).1 = .ok (newStackState rs) ∧
        ∃ r ∈ rs, longService.name ++ "-published" ∈ r.names ∧
          ¬ValidName (longService.name ++ "-published")) := by
  refine ⟨⟨by decide, by rfl, fun strategy => ?_⟩, longService_checked, by rfl,
    fun strategy => ?_⟩
  · cases strategy
    · exact ⟨_, rfl, _, .tail _ (.tail _ (.head _)), by decide, by decide⟩
    · exact ⟨_, rfl, _, .tail _ (.tail _ (.head _)), by decide, by decide⟩
  · cases strategy
    · exact ⟨_, rfl, _, .tail _ (.head _), .head _, by decide +kernel⟩
    · exact ⟨_, rfl, _, .tail _ (.head _), .head _, by decide +kernel⟩

end ComposeKube

import ComposeKube.Install.NoLoss

/-!
# Installing twice

`install` does nothing when what is asked for is installed already. It decides that from the
labels of the deployments in the whole cluster: the tag, the default service type (a label
of the controller alone), and an annotation of the API server with the hash of its
certificates. Neither the namespace, the replicas nor the rest of the options are looked at.

A second installation with the same options is such a case: the first one has labelled its
deployments accordingly, provided that it has installed the controller, or that there is no
default service type to be read from it.

* `match_statusOf` — deployments with the right labels match, in whatever order they are
  listed.
* `do_idle` — an installation that finds them only reads.
* `do_twice` — an installation after one that has succeeded only reads.
-/

namespace ComposeKube.Install

open Go Client

/-! ## What is read from the labels -/

namespace Installer

variable (i : Installer)

/-- The deployment is taken for the controller that the installer wants. -/
structure IsController (o : Object) : Prop where
  fry : o.objectMeta.labels.get? fryKey = some composeFry
  tag : o.objectMeta.labels.get? imageTagKey = some i.commonOptions.tag
  svcType : o.objectMeta.labels.get? defaultServiceTypeKey =
    some i.commonOptions.defaultServiceType

/-- The deployment is taken for the API server that the installer wants. -/
structure IsAPIServer (o : Object) : Prop where
  fry : o.objectMeta.labels.get? fryKey = some composeAPIServerFry
  tag : o.objectMeta.labels.get? imageTagKey = some i.commonOptions.tag
  svcType : o.objectMeta.labels.get? defaultServiceTypeKey = none
  hash : (o.objectMeta.annotations.get? customTLSHashAnnotationName).getD "" = i.customTLSHash

/-- The installation can be recognised by its labels. -/
structure Recognisable : Prop where
  tag : i.commonOptions.tag ≠ "debug"
  customMatch : i.customMatch = none
  controllerOnly : i.controllerOnly = false

/-- What the deployments that have been looked at have added to the status. -/
structure Seen (s : Status) (done : List Object) : Prop where
  isInstalled : s.isInstalled = true
  tag : s.tag = i.commonOptions.tag
  svcType : s.defaultServiceType = i.commonOptions.defaultServiceType ∨
    s.defaultServiceType = "" ∧ ∀ o ∈ done, ¬ i.IsController o
  hash : (s.apiServiceAnnotations.get? customTLSHashAnnotationName).getD "" = i.customTLSHash ∨
    s.apiServiceAnnotations = none ∧ ∀ o ∈ done, ¬ i.IsAPIServer o

end Installer

section Status

variable {i : Installer} {o : Object} {s : Status}

/-- A controller sets the default service type. -/
theorem addDeployment_controller (h : i.IsController o) :
    (s.addDeployment o).isInstalled = s.isInstalled ∧ (s.addDeployment o).tag = s.tag ∧
      (s.addDeployment o).defaultServiceType = i.commonOptions.defaultServiceType ∧
      (s.addDeployment o).apiServiceAnnotations = s.apiServiceAnnotations := by
  obtain ⟨hfry, -, hsvcType⟩ := h
  unfold Status.addDeployment
  cases hlabels : o.objectMeta.labels with
  -- without labels it would not be listed as a deployment of the installer
  | none =>
    rw [hlabels] at hfry
    cases hfry
  | some labels =>
    rw [hlabels] at hfry hsvcType
    simp only [MapRef.get?_some] at hfry hsvcType
    simp [hfry, hsvcType]

/-- An API server sets the annotations. -/
theorem addDeployment_apiServer (h : i.IsAPIServer o) :
    (s.addDeployment o).isInstalled = s.isInstalled ∧ (s.addDeployment o).tag = s.tag ∧
      (s.addDeployment o).defaultServiceType = s.defaultServiceType ∧
      (s.addDeployment o).apiServiceAnnotations = o.objectMeta.annotations := by
  obtain ⟨hfry, -, hsvcType, -⟩ := h
  unfold Status.addDeployment
  cases hlabels : o.objectMeta.labels with
  | none =>
    rw [hlabels] at hfry
    cases hfry
  | some labels =>
    rw [hlabels] at hfry hsvcType
    simp only [MapRef.get?_some] at hfry hsvcType
    -- the two branches of the loop tell the deployments apart by this label
    have hne : composeAPIServerFry ≠ composeFry := by decide
    simp [hfry, hsvcType, hne]

/-- The labels that `newInstaller` makes are those that are looked for. -/
theorem isController_of_labels {rt : InstallRuntime} {options : List InstallerOption}
    (h : o.objectMeta.labels = (configured rt options).labels) :
    (configured rt options).IsController o := by
  have hlookup : ∀ key, o.objectMeta.labels.get? key =
      (configured rt options).labels.get? key := fun key => by rw [h]
  refine ⟨(hlookup _).trans ?_, (hlookup _).trans ?_, (hlookup _).trans ?_⟩
  · simp (disch := decide) [configured, Finmap.lookup_insert_of_ne, Finmap.lookup_insert]
  · simp (disch := decide) [configured, Finmap.lookup_insert_of_ne, Finmap.lookup_insert]
  · simp [configured, Finmap.lookup_insert]

/-- A deployment with the labels and the hash of the installer is its API server. -/
theorem isAPIServer_of_labels {rt : InstallRuntime} {options : List InstallerOption}
    (h : o.objectMeta.labels = (configured rt options).apiLabels)
    (hhash : (o.objectMeta.annotations.get? customTLSHashAnnotationName).getD "" =
      (configured rt options).customTLSHash) :
    (configured rt options).IsAPIServer o := by
  have hlookup : ∀ key, o.objectMeta.labels.get? key =
      (configured rt options).apiLabels.get? key := fun key => by rw [h]
  refine ⟨(hlookup _).trans ?_, (hlookup _).trans ?_, (hlookup _).trans ?_, hhash⟩
  · simp (disch := decide) [configured, Finmap.lookup_insert_of_ne, Finmap.lookup_insert]
  · simp (disch := decide) [configured, Finmap.lookup_insert_of_ne, Finmap.lookup_insert]
  · simp (disch := decide) [configured, Finmap.lookup_insert_of_ne]

/-- No deployment is both: the label says which one it is. -/
theorem not_isController (h : i.IsAPIServer o) : ¬ i.IsController o := by
  intro h'
  have heq : composeAPIServerFry = composeFry := Option.some.inj (h.fry.symm.trans h'.fry)
  exact absurd heq (by decide)

/-- One deployment more has been looked at. -/
theorem Installer.Seen.addDeployment {done : List Object} (hs : i.Seen s done)
    (ho : i.IsController o ∨ i.IsAPIServer o) : i.Seen (s.addDeployment o) (done ++ [o]) := by
  -- each of the two deployments settles its own part of the status and leaves the other's
  rcases ho with ho | ho
  · obtain ⟨hinstalled, htag, hsvcType, hannotations⟩ := addDeployment_controller (s := s) ho
    refine ⟨hinstalled.trans hs.isInstalled, htag.trans hs.tag, Or.inl hsvcType, ?_⟩
    rw [hannotations]
    refine hs.hash.imp_right fun ⟨hnone, hdone⟩ => ⟨hnone, fun x hx => ?_⟩
    rcases List.mem_append.mp hx with hx | hx
    · exact hdone x hx
    · cases List.mem_singleton.mp hx
      exact fun h => not_isController h ho
  · obtain ⟨hinstalled, htag, hsvcType, hannotations⟩ := addDeployment_apiServer (s := s) ho
    refine ⟨hinstalled.trans hs.isInstalled, htag.trans hs.tag, ?_, ?_⟩
    · rw [hsvcType]
      refine hs.svcType.imp_right fun ⟨hempty, hdone⟩ => ⟨hempty, fun x hx => ?_⟩
      rcases List.mem_append.mp hx with hx | hx
      · exact hdone x hx
      · cases List.mem_singleton.mp hx
        exact not_isController ho
    · rw [hannotations]
      exact Or.inl ho.hash

/-- The loop of `isInstalled` over the deployments. -/
theorem seen_foldl {done items : List Object} (hs : i.Seen s done)
    (hitems : ∀ o ∈ items, i.IsController o ∨ i.IsAPIServer o) :
    i.Seen (items.foldl Status.addDeployment s) (done ++ items) := by
  induction items generalizing s done with
  | nil =>
    rw [List.append_nil]
    exact hs
  -- what has been seen grows by the deployment at the head
  | cons o items ih =>
    have hnext := ih (hs.addDeployment (hitems o (List.mem_cons_self ..)))
      fun x hx => hitems x (List.mem_cons_of_mem o hx)
    rw [List.append_assoc] at hnext
    exact hnext

/-- The tag is that of the first deployment, and they all have the same. -/
theorem seen_statusOf {first : Object} {rest : List Object} (isCrdPresent : Bool)
    (hitems : ∀ o ∈ first :: rest, i.IsController o ∨ i.IsAPIServer o) :
    i.Seen (statusOf isCrdPresent (first :: rest)) (first :: rest) := by
  have htag : first.objectMeta.labels.get? imageTagKey = some i.commonOptions.tag := by
    rcases hitems first (List.mem_cons_self ..) with h | h
    · exact h.tag
    · exact h.tag
  -- nothing has been seen yet, so nothing is asked of the service type and the hash
  have hstart : ∀ s : Status, s.isInstalled = true → s.tag = i.commonOptions.tag →
      s.defaultServiceType = "" → s.apiServiceAnnotations = none → i.Seen s [] :=
    fun s hinstalled htag hsvcType hannotations =>
      ⟨hinstalled, htag, Or.inr ⟨hsvcType, fun o ho => nomatch ho⟩,
        Or.inr ⟨hannotations, fun o ho => nomatch ho⟩⟩
  refine seen_foldl (hstart _ rfl ?_ rfl rfl) hitems
  show (first.objectMeta.labels.get? imageTagKey).getD "" = _
  rw [htag]
  rfl

/-- **Deployments with the right labels match**, in whatever order they are listed. -/
theorem match_statusOf {items : List Object} (hi : i.Recognisable) (isCrdPresent : Bool)
    (hitems : ∀ o ∈ items, i.IsController o ∨ i.IsAPIServer o) (hsome : items ≠ [])
    (hcontroller : i.commonOptions.defaultServiceType = "" ∨ ∃ o ∈ items, i.IsController o)
    (hserver : i.customTLSHash = "" ∨ ∃ o ∈ items, i.IsAPIServer o) :
    (statusOf isCrdPresent items).isInstalled = true ∧
      ((statusOf isCrdPresent items).match_ i).1 = true := by
  obtain ⟨first, rest, rfl⟩ := List.exists_cons_of_ne_nil hsome
  obtain ⟨hinstalled, htag, hsvcType, hhash⟩ := seen_statusOf isCrdPresent hitems
  -- from here on only what has been seen of the status matters
  generalize statusOf isCrdPresent (first :: rest) = s at *
  -- without a controller the service type is empty, and none was asked for
  have hsvcType' : s.defaultServiceType = i.commonOptions.defaultServiceType := by
    rcases hsvcType with h | ⟨hempty, hnone⟩
    · exact h
    · rcases hcontroller with h | ⟨o, ho, hcontroller⟩
      · exact hempty.trans h.symm
      · exact absurd hcontroller (hnone o ho)
  -- without an API server there are no annotations, and no hash was asked for
  have hhash' : (s.apiServiceAnnotations.get? customTLSHashAnnotationName).getD "" =
      i.customTLSHash := by
    rcases hhash with h | ⟨hempty, hnone⟩
    · exact h
    · rcases hserver with h | ⟨o, ho, hserver⟩
      · rw [hempty, h]
        rfl
      · exact absurd hserver (hnone o ho)
  refine ⟨hinstalled, ?_⟩
  unfold Status.match_
  -- neither tag is `debug`, which would force a new deployment
  rw [if_neg (not_or.mpr ⟨hi.tag, htag ▸ hi.tag⟩), if_pos ⟨htag, hsvcType'⟩, if_neg, if_neg,
    hi.customMatch]
  · rfl
  · exact fun h => h.2 hhash'
  · rintro ⟨hnone, hne⟩
    rw [hnone] at hhash'
    exact hne hhash'.symm

end Status

/-! ## An installation that is in place -/

/-- The deployments of the installer. -/
def Cluster.deployments (c : Cluster) : List Object :=
  c.objects.items.filter (listed .deployment none true)

/-- What is installed is what the installer wants, as far as the labels tell. -/
structure Installer.InPlace (i : Installer) (c : Cluster) : Prop where
  all : ∀ o ∈ c.deployments, i.IsController o ∨ i.IsAPIServer o
  some : c.deployments ≠ []
  controller : i.commonOptions.defaultServiceType = "" ∨ ∃ o ∈ c.deployments, i.IsController o
  server : i.customTLSHash = "" ∨ ∃ o ∈ c.deployments, i.IsAPIServer o

section Idle

variable {env : Cluster → Cluster → Prop} {i : Installer} {c : Cluster}

/-- An installation that is in place matches, in whatever order its deployments are listed. -/
theorem Installer.InPlace.match_ {items : List Object} (h : i.InPlace c) (hi : i.Recognisable)
    (hperm : items.Perm c.deployments) (isCrdPresent : Bool) :
    (statusOf isCrdPresent items).isInstalled = true ∧
      ((statusOf isCrdPresent items).match_ i).1 = true := by
  refine match_statusOf hi isCrdPresent (fun o ho => h.all o (hperm.mem_iff.mp ho)) ?_
    (h.controller.imp_right ?_) (h.server.imp_right ?_)
  · rintro rfl
    exact h.some hperm.nil_eq.symm
  · exact fun ⟨o, ho, hcontroller⟩ => ⟨o, hperm.mem_iff.mpr ho, hcontroller⟩
  · exact fun ⟨o, ho, hserver⟩ => ⟨o, hperm.mem_iff.mpr ho, hserver⟩

end Idle

namespace Installer

variable (i : Installer)

/-- The key of a deployment of the installer. -/
def deploymentKey (name : String) : Key := ⟨.deployment, i.commonOptions.namespace_, name⟩

/-- The deployment is there, and is taken for what the installer wants. -/
def HasDeployment (name : String) (D : Object → Prop) (c : Cluster) : Prop :=
  ∃ o, c.find (i.deploymentKey name) = some o ∧ D o

/-- All deployments are the installer's, and the API server and the controller are there as
far as they have been installed. -/
structure Installed (server controller : Prop) (c : Cluster) : Prop where
  all : ∀ o ∈ c.deployments, i.IsController o ∨ i.IsAPIServer o
  server : server → i.HasDeployment "compose-api" i.IsAPIServer c
  controller : controller → i.HasDeployment "compose" i.IsController c

end Installer

section First

variable {env : Cluster → Cluster → Prop} {i : Installer} {c c' : Cluster} {r : Request}
  {o : Object}

/-- What the steps leave behind under a key: what was there, or what they have written. -/
theorem find_of_writes (hr : i.Writes r) (h : Effect r c c') (key : Key) :
    c'.find key = c.find key ∨ ∃ ns o x, i.MayWrite ns o ∧ Object.Alike x o ∧
      c'.find key = some x := by
  cases h with
  -- a request that has failed, or that only reads, changes no object
  | nothing => exact Or.inl rfl
  | @created user ns o _ hnone =>
    rw [Cluster.find_insert]
    split
    · exact Or.inr ⟨ns, o, o.stored ns _, hr, ⟨rfl, rfl, rfl, rfl⟩, rfl⟩
    · exact Or.inl rfl
  | @updated ns o current _ hcurrent =>
    rw [Cluster.find_replace]
    cases c.find key with
    | none => exact Or.inl rfl
    | some y =>
      rw [Option.map_some]
      split
      · exact Or.inr ⟨ns, o, o.storedOver ns _ current, hr, ⟨rfl, rfl, rfl, rfl⟩, rfl⟩
      · exact Or.inl rfl
  -- the steps of an installation delete nothing
  | deleted => exact hr.elim
  | deletedCollection => exact hr.elim
  | marked => exact hr.elim
  | markedCollection => exact hr.elim

/-- The deployments are the labelled ones that are stored. -/
theorem mem_deployments : o ∈ c.deployments ↔
    c.find o.key = some o ∧ listed .deployment none true o = true := by
  rw [Cluster.deployments, List.mem_filter, Cluster.find, Collection.find_eq_some_iff]
  simp

section Configured

variable {rt : InstallRuntime} {options : List InstallerOption} {server controller : Prop}

/-- The deployment can be recognised, and has the name of what it is. -/
inductive Named (i : Installer) (x : Object) : Prop
  | server (hname : x.objectMeta.name = "compose-api") (h : i.IsAPIServer x)
  | controller (hname : x.objectMeta.name = "compose") (h : i.IsController x)

/-- Of the two names, `compose-api` is that of the API server. -/
theorem Named.isAPIServer {x : Object} (h : Named i x) (hname : x.objectMeta.name = "compose-api") :
    i.IsAPIServer x := by
  cases h with
  | server _ h => exact h
  | controller hname' _ =>
    have hne : "compose" = "compose-api" := hname'.symm.trans hname
    exact absurd hne (by decide)

/-- Of the two names, `compose` is that of the controller. -/
theorem Named.isController {x : Object} (h : Named i x) (hname : x.objectMeta.name = "compose") :
    i.IsController x := by
  cases h with
  | server hname' _ =>
    have hne : "compose-api" = "compose" := hname'.symm.trans hname
    exact absurd hne (by decide)
  | controller _ h => exact h

/-- A deployment that is labelled by the installer can be recognised. -/
theorem named_of_labelled {x : Object} (h : (configured rt options).Labelled x) :
    Named (configured rt options) x := by
  cases h with
  | api hname hlabels hhash => exact .server hname (isAPIServer_of_labels hlabels hhash)
  | controller hname hlabels => exact .controller hname (isController_of_labels hlabels)

/-- A deployment that the installer writes has one of its two names. -/
theorem named_of_mayWrite (hfilter : (configured rt options).objectFilter = []) {ns : String}
    {x : Object} (hmay : (configured rt options).MayWrite ns o) (halike : x.Alike o)
    (hkind : x.content.kind = .deployment) : Named (configured rt options) x :=
  named_of_labelled
    (((hmay.wanted hfilter).labelled (halike.kind.symm.trans hkind)).congr halike)

/-- A write of the installer does not take its deployments away: it replaces them by its own. -/
theorem hasDeployment_of_writes (hfilter : (configured rt options).objectFilter = [])
    (hr : (configured rt options).Writes r) (h : Effect r c c') {name : String}
    {D : Object → Prop}
    (hD : ∀ x, Named (configured rt options) x → x.objectMeta.name = name → D x)
    (hc : (configured rt options).HasDeployment name D c) :
    (configured rt options).HasDeployment name D c' := by
  obtain ⟨o, hfind, ho⟩ := hc
  rcases find_of_writes hr h ((configured rt options).deploymentKey name) with
    hsame | ⟨ns, o', x, hmay, halike, hx⟩
  · exact ⟨o, hsame.trans hfind, ho⟩
  · have hkey := Collection.find_key hx
    have hnamed := named_of_mayWrite hfilter hmay halike (congrArg Key.kind hkey)
    exact ⟨x, hx, hD x hnamed (congrArg Key.name hkey)⟩

/-- The steps keep the deployments recognisable. -/
theorem Installer.Installed.writes (hfilter : (configured rt options).objectFilter = [])
    (hr : (configured rt options).Writes r) (h : Effect r c c')
    (hc : (configured rt options).Installed server controller c) :
    (configured rt options).Installed server controller c' where
  all o ho := by
    obtain ⟨hfind, hlisted⟩ := mem_deployments.mp ho
    -- a deployment is as it was, or it has just been written
    rcases find_of_writes hr h o.key with hsame | ⟨ns, o', x, hmay, halike, hx⟩
    · exact hc.all o (mem_deployments.mpr ⟨hsame.symm.trans hfind, hlisted⟩)
    · cases hfind.symm.trans hx
      have hkind : o.content.kind = .deployment := by
        simp only [listed, Bool.and_eq_true, decide_eq_true_eq] at hlisted
        exact hlisted.1.1
      cases named_of_mayWrite hfilter hmay halike hkind with
      | server _ h => exact Or.inr h
      | controller _ h => exact Or.inl h
  server hserver := hasDeployment_of_writes hfilter hr h (fun _ => Named.isAPIServer)
    (hc.server hserver)
  controller hcontroller := hasDeployment_of_writes hfilter hr h (fun _ => Named.isController)
    (hc.controller hcontroller)

/-- Less may be asked of an installation. -/
theorem Installer.Installed.mono {server' controller' : Prop} (h : i.Installed server controller c)
    (hserver : server' → server) (hcontroller : controller' → controller) :
    i.Installed server' controller' c :=
  ⟨h.all, fun hs => h.server (hserver hs), fun hc => h.controller (hcontroller hc)⟩

end Configured

end First

end ComposeKube.Install

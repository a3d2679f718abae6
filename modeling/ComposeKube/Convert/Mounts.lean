import ComposeKube.Convert.Volumes

/-!
# Mounts and claims

Of a service's volumes, `toVolumeSpecs` makes the mounts of its pod and
`toPersistentVolumeClaims` the claims of its StatefulSet. The first looks for
the docker socket and for git repositories before it looks at the type of a
volume; the second looks at the type only.

* `claimsAgree_iff` — the claims are what the mounts without a volume ask for,
  unless a volume of type `volume` is a git repository or the docker socket.
* `bindMount_resolves_iff` — a bind mount is the host path it asks for, unless
  that looks like a git repository.
-/

namespace ComposeKube

open Go

/-! ## One volume -/

/-- The docker socket, mounted where it is on the host. -/
def isDockerSock (m : Latest.ServiceVolumeConfig) : Bool :=
  m.source = dockerSock ∧ m.target = dockerSock

/-- The source is taken for a git repository. -/
def isGit (m : Latest.ServiceVolumeConfig) : Bool := hasSuffix m.source ".git"

/-- The volume is mounted from a claim. -/
def mountsClaim (m : Latest.ServiceVolumeConfig) : Bool :=
  m.type = "volume" ∧ isDockerSock m = false ∧ isGit m = false

/-- The name of the claim of the volume at position `i`. -/
def claimName (m : Latest.ServiceVolumeConfig) (i : Nat) : String :=
  if m.source ≠ "" then m.source else indexedName "mount" i

/-- The source of a volume that is on the host or in a repository. -/
def VolumeSource.isHostOrGit : VolumeSource → Bool
  | .hostPath _ => true
  | .gitRepo _ => true
  | _ => false

theorem isDockerSock_iff {m : Latest.ServiceVolumeConfig} :
    isDockerSock m = true ↔ m.source = dockerSock ∧ m.target = dockerSock := decide_eq_true_iff

theorem mountsClaim_iff {m : Latest.ServiceVolumeConfig} :
    mountsClaim m = true ↔ m.type = "volume" ∧ isDockerSock m = false ∧ isGit m = false :=
  decide_eq_true_iff

theorem isAbs_of_isDockerSock {m : Latest.ServiceVolumeConfig} (h : isDockerSock m = true) :
    isAbs m.source = true := by
  rw [(isDockerSock_iff.mp h).1]
  decide

/-- **What a volume is mounted from**: a claim, or a volume named by its position. -/
theorem toVolumeSpec_eq_ok {m : Latest.ServiceVolumeConfig} {i : Nat} {spec : VolumeSpec}
    (h : toVolumeSpec m i = .ok spec) :
    (mountsClaim m = true ∧ spec.source = none ∧ spec.mount.name = claimName m i) ∨
    (mountsClaim m = false ∧ (∃ source, spec.source = some source ∧ source.isHostOrGit = true) ∧
      spec.mount.name = indexedName "mount" i) := by
  have hclaim : mountsClaim m = true ↔ m.type = "volume" ∧
      ¬(m.source = dockerSock ∧ m.target = dockerSock) ∧ ¬hasSuffix m.source ".git" = true := by
    rw [mountsClaim_iff, ← Bool.not_eq_true, ← Bool.not_eq_true, isDockerSock_iff]
    rfl
  rw [← Bool.not_eq_true, hclaim]
  unfold toVolumeSpec at h
  dsimp only at h
  -- the branches in their order: the docker socket, git, the type, a bind mount
  by_cases hdocker : m.source = dockerSock ∧ m.target = dockerSock
  · rw [if_pos hdocker] at h
    obtain rfl := Except.ok.inj h
    exact Or.inr ⟨fun hclaim => hclaim.2.1 hdocker, ⟨_, rfl, rfl⟩, rfl⟩
  rw [if_neg hdocker] at h
  by_cases hgit : hasSuffix m.source ".git" = true
  · rw [if_pos hgit] at h
    obtain rfl := Except.ok.inj h
    exact Or.inr ⟨fun hclaim => hclaim.2.2 hgit, ⟨_, rfl, rfl⟩, rfl⟩
  rw [if_neg hgit] at h
  by_cases htype : m.type = "volume"
  · rw [if_pos htype] at h
    obtain rfl := Except.ok.inj h
    exact Or.inl ⟨⟨htype, hdocker, hgit⟩, rfl, rfl⟩
  rw [if_neg htype] at h
  -- a bind mount, of the root or of something below it
  by_cases habs : isAbs m.source = true
  · rw [if_neg (by simp [habs])] at h
    refine Or.inr ⟨fun hclaim => htype hclaim.1, ?_⟩
    split at h
    · obtain rfl := Except.ok.inj h
      exact ⟨⟨_, rfl, rfl⟩, rfl⟩
    · obtain rfl := Except.ok.inj h
      exact ⟨⟨_, rfl, rfl⟩, rfl⟩
  · rw [if_pos (by simp [habs])] at h
    cases h

/-- A volume is rejected if it is a bind mount of a relative path. -/
theorem exists_toVolumeSpec_iff {m : Latest.ServiceVolumeConfig} {i : Nat} :
    (∃ spec, toVolumeSpec m i = .ok spec) ↔
      m.type = "volume" ∨ isGit m = true ∨ isAbs m.source = true := by
  unfold toVolumeSpec
  dsimp only
  -- the branches in the order of the source
  by_cases hdocker : m.source = dockerSock ∧ m.target = dockerSock
  · rw [if_pos hdocker]
    exact ⟨fun _ => .inr (.inr (isAbs_of_isDockerSock (isDockerSock_iff.mpr hdocker))),
      fun _ => ⟨_, rfl⟩⟩
  rw [if_neg hdocker]
  by_cases hgit : hasSuffix m.source ".git" = true
  · rw [if_pos hgit]
    exact ⟨fun _ => .inr (.inl hgit), fun _ => ⟨_, rfl⟩⟩
  rw [if_neg hgit]
  by_cases htype : m.type = "volume"
  · rw [if_pos htype]
    exact ⟨fun _ => .inl htype, fun _ => ⟨_, rfl⟩⟩
  rw [if_neg htype]
  by_cases habs : isAbs m.source = true
  · rw [if_neg (by simp [habs])]
    refine ⟨fun _ => .inr (.inr habs), fun _ => ?_⟩
    split <;> exact ⟨_, rfl⟩
  · rw [if_pos (by simp [habs])]
    simp [isGit, hgit, htype, habs]

/-! ## All volumes of a service -/

theorem map_fst_zipIdx {α β : Type} (l : List α) (f : α → β) :
    (l.zipIdx.map fun m => f m.1) = l.map f := by
  nth_rewrite 2 [← List.zipIdx_map_fst 0 l]
  rw [List.map_map]
  rfl

theorem forall_mem_zipIdx {α : Type} {l : List α} {P : α → Prop} :
    (∀ m ∈ l.zipIdx, P m.1) ↔ ∀ m ∈ l, P m := by
  rw [← List.forall_mem_map, List.zipIdx_map_fst]

/-- The volumes that the specs declare. -/
def volumesOf (specs : List VolumeSpec) : List Volume :=
  specs.filterMap fun spec =>
    spec.source.map fun volumeSource => { name := spec.mount.name, volumeSource }

/-- The volumes are those of the specifications with a source. -/
theorem toVolumes_eq_ok {srv : Latest.ServiceConfig} {configuration : Latest.StackSpec}
    {volumes : Slice Volume} :
    toVolumes srv configuration = .ok volumes ↔
      ∃ specs, toVolumeSpecs srv configuration = .ok specs ∧
        volumes = Slice.ofAppends (volumesOf specs) := by
  constructor
  · intro h
    obtain ⟨specs, hspecs, h⟩ := bind_eq_ok.mp h
    exact ⟨specs, hspecs, (pure_eq_ok.mp h).symm⟩
  · rintro ⟨specs, hspecs, rfl⟩
    exact bind_eq_ok.mpr ⟨specs, hspecs, rfl⟩

/-- The specs of the mounts other than those of the service's volumes. -/
def fileSpecs (srv : Latest.ServiceConfig) (configuration : Latest.StackSpec) : List VolumeSpec :=
  (srv.tmpfs.elems.zipIdx.map fun m => toTmpfsSpec m.1 m.2) ++
    (srv.secrets.elems.zipIdx.map fun m => toSecretSpec configuration m.1 m.2) ++
    srv.configs.elems.zipIdx.map fun m => toConfigSpec configuration m.1 m.2

theorem toVolumeSpecs_eq_ok {srv : Latest.ServiceConfig} {configuration : Latest.StackSpec}
    {specs : List VolumeSpec} :
    toVolumeSpecs srv configuration = .ok specs ↔
      ∃ volumes, (srv.volumes.elems.zipIdx.mapM fun m => toVolumeSpec m.1 m.2) = .ok volumes ∧
        specs = volumes ++ fileSpecs srv configuration := by
  constructor
  · intro h
    obtain ⟨volumes, hvolumes, h⟩ := bind_eq_ok.mp h
    refine ⟨volumes, hvolumes, (pure_eq_ok.mp h).symm.trans ?_⟩
    rw [fileSpecs, List.append_assoc, List.append_assoc, List.append_assoc]
  · rintro ⟨volumes, hvolumes, rfl⟩
    refine bind_eq_ok.mpr ⟨volumes, hvolumes, pure_eq_ok.mpr ?_⟩
    rw [fileSpecs, List.append_assoc, List.append_assoc, List.append_assoc]

/-- Every other mount has a volume. -/
theorem source_fileSpecs {srv : Latest.ServiceConfig} {configuration : Latest.StackSpec}
    {spec : VolumeSpec} (h : spec ∈ fileSpecs srv configuration) : spec.source ≠ none := by
  unfold fileSpecs at h
  rw [List.mem_append, List.mem_append, List.mem_map, List.mem_map, List.mem_map] at h
  obtain (⟨_, -, rfl⟩ | ⟨_, -, rfl⟩) | ⟨_, -, rfl⟩ := h <;> exact nofun

theorem volumesOf_append (specs specs' : List VolumeSpec) :
    volumesOf (specs ++ specs') = volumesOf specs ++ volumesOf specs' := List.filterMap_append

/-- The volumes of the other mounts, each named by its kind and position. -/
theorem volumesOf_fileSpecs (srv : Latest.ServiceConfig) (configuration : Latest.StackSpec) :
    volumesOf (fileSpecs srv configuration) =
      (srv.tmpfs.elems.zipIdx.map fun m =>
        { name := indexedName "tmp" m.2, volumeSource := emptyVolumeInMemory }) ++
      (srv.secrets.elems.zipIdx.map fun m =>
        { name := indexedName "secret" m.2
          volumeSource := secretVolume m.1 ((configuration.secrets.get? m.1.source).getD default)
            (indexedName "secret" m.2) }) ++
      srv.configs.elems.zipIdx.map fun m =>
        { name := indexedName "config" m.2
          volumeSource := configVolume m.1 ((configuration.configs.get? m.1.source).getD default)
            (indexedName "config" m.2) } := by
  rw [fileSpecs, volumesOf_append, volumesOf_append]
  unfold volumesOf
  rw [List.filterMap_map, List.filterMap_map, List.filterMap_map, ← List.filterMap_eq_map,
    ← List.filterMap_eq_map, ← List.filterMap_eq_map]
  rfl

/-- The volumes of a service's own volumes, each named by its position. -/
theorem volumesOf_toVolumeSpec {ms : List (Latest.ServiceVolumeConfig × Nat)}
    {specs : List VolumeSpec} (h : (ms.mapM fun m => toVolumeSpec m.1 m.2) = .ok specs) :
    List.Forall₂ (fun m v => v.name = indexedName "mount" m.2 ∧ v.volumeSource.isHostOrGit = true)
      (ms.filter fun m => !mountsClaim m.1) (volumesOf specs) := by
  induction mapM_eq_ok_iff.mp h with
  | nil => exact .nil
  | @cons m spec ms specs hm hms ih =>
    have ih := ih (mapM_eq_ok_iff.mpr hms)
    obtain ⟨hclaim, hsource, -⟩ | ⟨hclaim, ⟨source, hsource, hkind⟩, hname⟩ := toVolumeSpec_eq_ok hm
    · rw [List.filter_cons_of_neg (by simp [hclaim]), volumesOf,
        List.filterMap_cons_none (by rw [hsource]; rfl)]
      exact ih
    · rw [List.filter_cons_of_pos (by simp [hclaim]), volumesOf,
        List.filterMap_cons_some (by rw [hsource]; rfl)]
      exact .cons ⟨hname, hkind⟩ ih

theorem isHostOrGit_of_mem {ms : List (Latest.ServiceVolumeConfig × Nat)}
    {specs : List VolumeSpec} (h : (ms.mapM fun m => toVolumeSpec m.1 m.2) = .ok specs)
    {v : Volume} (hv : v ∈ volumesOf specs) : v.volumeSource.isHostOrGit = true := by
  obtain ⟨i, hi, rfl⟩ := List.mem_iff_getElem.mp hv
  exact ((volumesOf_toVolumeSpec h).get (by rwa [(volumesOf_toVolumeSpec h).length_eq]) hi).2

/-- To read something off the volumes of a pod that only secrets and configs have. -/
theorem flatMap_volumesOf {β : Type} {g : VolumeSource → List β}
    (hown : ∀ source, source.isHostOrGit = true → g source = [])
    (htmpfs : g emptyVolumeInMemory = [])
    {ofSecret : Latest.ServiceSecretConfig → β}
    (hsecret : ∀ secret topLevel subPath, g (secretVolume secret topLevel subPath) =
      [ofSecret secret])
    {ofConfig : Latest.ServiceConfigObjConfig → β}
    (hconfig : ∀ config topLevel subPath, g (configVolume config topLevel subPath) =
      [ofConfig config])
    {srv : Latest.ServiceConfig} {configuration : Latest.StackSpec} {specs : List VolumeSpec}
    (h : toVolumeSpecs srv configuration = .ok specs) :
    ((volumesOf specs).flatMap fun v => g v.volumeSource) =
      srv.secrets.elems.map ofSecret ++ srv.configs.elems.map ofConfig := by
  obtain ⟨volumes, hvolumes, rfl⟩ := toVolumeSpecs_eq_ok.mp h
  have hnil : ((volumesOf volumes).flatMap fun v => g v.volumeSource) = [] :=
    List.flatMap_eq_nil_iff.mpr fun v hv => hown _ (isHostOrGit_of_mem hvolumes hv)
  have hnil' : (srv.tmpfs.elems.zipIdx.flatMap fun _ => ([] : List β)) = [] :=
    List.flatMap_eq_nil_iff.mpr fun _ _ => rfl
  rw [volumesOf_append, volumesOf_fileSpecs, List.flatMap_append, hnil, List.flatMap_append,
    List.flatMap_append, List.flatMap_map, List.flatMap_map, List.flatMap_map]
  simp only [htmpfs, hsecret, hconfig]
  rw [hnil', ← List.map_eq_flatMap, ← List.map_eq_flatMap, map_fst_zipIdx _ ofSecret,
    map_fst_zipIdx _ ofConfig]
  rfl

/-- The specs of a list of volumes that are mounted from claims. -/
theorem claimMounts_eq {ms : List (Latest.ServiceVolumeConfig × Nat)} {specs : List VolumeSpec}
    (h : (ms.mapM fun m => toVolumeSpec m.1 m.2) = .ok specs) :
    (specs.filter fun spec => spec.source = none).map (·.mount.name) =
      (ms.filter fun m => mountsClaim m.1).map fun m => claimName m.1 m.2 := by
  induction mapM_eq_ok_iff.mp h with
  | nil => rfl
  | cons hm hms ih =>
    have ih := ih (mapM_eq_ok_iff.mpr hms)
    obtain ⟨hclaim, hsource, hname⟩ | ⟨hclaim, ⟨source, hsource, -⟩, -⟩ := toVolumeSpec_eq_ok hm
    · rw [List.filter_cons_of_pos (by simp [hsource]), List.filter_cons_of_pos (by exact hclaim),
        List.map_cons, List.map_cons, ih, hname]
    · rw [List.filter_cons_of_neg (by simp [hsource]), List.filter_cons_of_neg (by simp [hclaim]),
        ih]

theorem claimNames_eq (srv : Latest.ServiceConfig) :
    claimNames srv =
      (srv.volumes.elems.zipIdx.filter fun m => m.1.type = "volume").map
        fun m => claimName m.1 m.2 := by
  unfold claimNames
  induction srv.volumes.elems.zipIdx with
  | nil => rfl
  | cons m ms ih =>
    by_cases htype : m.1.type = "volume"
    · rw [List.filterMap_cons_some (by simp only [htype, ne_eq, not_true, if_false]; rfl),
        List.filter_cons_of_pos (by simpa using htype), List.map_cons, ih]
      rfl
    · rw [List.filterMap_cons_none (by simp [htype]),
        List.filter_cons_of_neg (by simpa using htype), ih]

/-! ## Claims -/

/-- Claims and mounts agree. -/
structure ClaimsAgree (srv : Latest.ServiceConfig) (specs : List VolumeSpec)
    (mounts : List VolumeMount) (volumes : List Volume) (claims : List PersistentVolumeClaim) :
    Prop where
  names : claims.map (·.objectMeta.name) =
    (specs.filter fun spec => spec.source = none).map (·.mount.name)
  backed : ∀ mount ∈ mounts, mount.name ∈ volumes.map (·.name) ∨
    mount.name ∈ claims.map (·.objectMeta.name)
  mounted : ∀ claim ∈ claims, ∃ mount ∈ mounts, mount.name = claim.objectMeta.name
  persistent : hasPersistentVolumes srv = true ↔
    ∃ spec ∈ specs, spec.source = none ∧ spec.mount.name ∈ claims.map (·.objectMeta.name)

/-- The claims are named as the volumes of the service. -/
theorem names_toPersistentVolumeClaims (srv : Latest.ServiceConfig)
    (original : Slice PersistentVolumeClaim) :
    (toPersistentVolumeClaims srv original).elems.map (·.objectMeta.name) = claimNames srv := by
  unfold toPersistentVolumeClaims
  rw [Slice.elems_ofAppends, List.map_map]
  exact List.map_id _

/-- The names of the claims against those of the mounts without a volume. -/
theorem claimNames_agree_iff {srv : Latest.ServiceConfig} {configuration : Latest.StackSpec}
    {specs : List VolumeSpec} (h : toVolumeSpecs srv configuration = .ok specs) :
    claimNames srv = (specs.filter fun spec => spec.source = none).map (·.mount.name) ↔
      ∀ m ∈ srv.volumes.elems, m.type = "volume" → isDockerSock m = false ∧ isGit m = false := by
  obtain ⟨volumes, hvolumes, rfl⟩ := toVolumeSpecs_eq_ok.mp h
  have hfiles : (fileSpecs srv configuration).filter (fun spec => spec.source = none) = [] :=
    List.filter_eq_nil_iff.mpr fun spec hspec => by simpa using source_fileSpecs hspec
  -- a volume with a claim has the type, so both lists are made from the volumes of that type
  have hfilter : (srv.volumes.elems.zipIdx.filter fun m => mountsClaim m.1) =
      (srv.volumes.elems.zipIdx.filter fun m => m.1.type = "volume").filter
        fun m => mountsClaim m.1 := by
    rw [List.filter_filter]
    refine List.filter_congr fun m _ => ?_
    by_cases hclaim : mountsClaim m.1 = true
    · simp [hclaim, (mountsClaim_iff.mp hclaim).1]
    · simp [hclaim]
  rw [List.filter_append, hfiles, List.append_nil, claimMounts_eq hvolumes, hfilter, claimNames_eq]
  set typed := srv.volumes.elems.zipIdx.filter fun m => m.1.type = "volume" with htyped
  have hall : (∀ m ∈ typed, mountsClaim m.1 = true) ↔
      ∀ m ∈ srv.volumes.elems, m.type = "volume" → isDockerSock m = false ∧ isGit m = false := by
    rw [htyped, List.forall_mem_filter, ← forall_mem_zipIdx (l := srv.volumes.elems)]
    refine forall₂_congr fun m _ => ?_
    simp only [decide_eq_true_eq, mountsClaim_iff]
    exact ⟨fun h htype => (h htype).2, fun h htype => ⟨htype, h htype⟩⟩
  rw [← hall]
  constructor
  · intro heq
    -- of lists of the same length, the filtered one has lost nothing
    have hlength := congrArg List.length heq
    rw [List.length_map, List.length_map] at hlength
    exact List.length_filter_eq_length_iff.mp hlength.symm
  · intro hclaims
    rw [List.filter_eq_self.mpr hclaims]

/-- Every mount has a volume or a claim, whatever the volumes are. -/
theorem mount_backed {srv : Latest.ServiceConfig} {configuration : Latest.StackSpec}
    {specs : List VolumeSpec} (h : toVolumeSpecs srv configuration = .ok specs) {spec : VolumeSpec}
    (hspec : spec ∈ specs) :
    spec.mount.name ∈ (volumesOf specs).map (·.name) ∨ spec.mount.name ∈ claimNames srv := by
  cases hsource : spec.source with
  -- a mount with a source has a volume
  | some source =>
    refine Or.inl (List.mem_map.mpr ⟨{ name := spec.mount.name, volumeSource := source }, ?_, rfl⟩)
    exact List.mem_filterMap.mpr ⟨spec, hspec, by rw [hsource]; rfl⟩
  -- one without a source is a claim's
  | none =>
    obtain ⟨volumes, hvolumes, rfl⟩ := toVolumeSpecs_eq_ok.mp h
    rcases List.mem_append.mp hspec with hspec | hspec
    · have hmem : spec.mount.name ∈
          (volumes.filter fun spec => spec.source = none).map (·.mount.name) :=
        List.mem_map_of_mem (List.mem_filter.mpr ⟨hspec, decide_eq_true hsource⟩)
      rw [claimMounts_eq hvolumes] at hmem
      obtain ⟨m, hm, hname⟩ := List.mem_map.mp hmem
      obtain ⟨hm, hclaim⟩ := List.mem_filter.mp hm
      refine Or.inr ?_
      rw [claimNames_eq, ← hname]
      exact List.mem_map_of_mem
        (List.mem_filter.mpr ⟨hm, decide_eq_true (mountsClaim_iff.mp hclaim).1⟩)
    · exact absurd hsource (source_fileSpecs hspec)

theorem hasPersistentVolumes_iff (srv : Latest.ServiceConfig) :
    hasPersistentVolumes srv = true ↔ claimNames srv ≠ [] := by
  have hnil : claimNames srv = [] ↔ ∀ m ∈ srv.volumes.elems, m.type ≠ "volume" := by
    rw [claimNames_eq, List.map_eq_nil_iff, List.filter_eq_nil_iff,
      ← forall_mem_zipIdx (l := srv.volumes.elems)]
    simp only [decide_eq_true_eq, ne_eq]
  rw [ne_eq, hnil]
  simp [hasPersistentVolumes]

/-- **When claims and mounts agree.** The claims of a service are, name by name,
what its mounts without a volume ask for, exactly when no volume of type
`volume` is the docker socket or has the name of a git repository. Then every
mount is backed, every claim mounted, and a service has persistent volumes if
one of its mounts is backed by a claim. -/
theorem claimsAgree_iff (srv : Latest.ServiceConfig) (configuration : Latest.StackSpec)
    (original : Slice PersistentVolumeClaim) (specs : List VolumeSpec)
    (h : toVolumeSpecs srv configuration = .ok specs) :
    ∃ mounts volumes, toVolumeMounts srv configuration = .ok mounts ∧
      toVolumes srv configuration = .ok volumes ∧
      (ClaimsAgree srv specs mounts.elems volumes.elems
          (toPersistentVolumeClaims srv original).elems ↔
        ∀ m ∈ srv.volumes.elems, m.type = "volume" →
          ¬(m.source = dockerSock ∧ m.target = dockerSock) ∧
            hasSuffix m.source ".git" = false) := by
  -- the two exceptions, as the functions of the model test them
  have hcondition : (∀ m ∈ srv.volumes.elems, m.type = "volume" →
      isDockerSock m = false ∧ isGit m = false) ↔
      ∀ m ∈ srv.volumes.elems, m.type = "volume" →
        ¬(m.source = dockerSock ∧ m.target = dockerSock) ∧ hasSuffix m.source ".git" = false := by
    simp only [← isDockerSock_iff, Bool.not_eq_true]
    exact Iff.rfl
  refine ⟨Slice.ofAppends (specs.map (·.mount)), Slice.ofAppends (volumesOf specs),
    bind_eq_ok.mpr ⟨specs, h, rfl⟩, toVolumes_eq_ok.mpr ⟨specs, h, rfl⟩, ?_⟩
  rw [Slice.elems_ofAppends, Slice.elems_ofAppends, ← hcondition, ← claimNames_agree_iff h]
  have hnames := names_toPersistentVolumeClaims srv original
  constructor
  · intro hagree
    exact hnames.symm.trans hagree.names
  · intro hagree
    -- every claim is mounted
    have hmounted : ∀ name ∈ claimNames srv, ∃ spec ∈ specs, spec.source = none ∧
        spec.mount.name = name := by
      intro name hname
      rw [hagree] at hname
      obtain ⟨spec, hspec, rfl⟩ := List.mem_map.mp hname
      obtain ⟨hspec, hsource⟩ := List.mem_filter.mp hspec
      exact ⟨spec, hspec, of_decide_eq_true hsource, rfl⟩
    refine ⟨hnames.trans hagree, fun mount hmount => ?_, fun claim hclaim => ?_, ?_⟩
    · obtain ⟨spec, hspec, rfl⟩ := List.mem_map.mp hmount
      rw [hnames]
      exact mount_backed h hspec
    · have hname : claim.objectMeta.name ∈ claimNames srv := hnames ▸ List.mem_map_of_mem hclaim
      obtain ⟨spec, hspec, -, hmount⟩ := hmounted _ hname
      exact ⟨spec.mount, List.mem_map_of_mem hspec, hmount⟩
    · rw [hasPersistentVolumes_iff, hnames]
      constructor
      · intro hne
        obtain ⟨name, hname⟩ := List.exists_mem_of_ne_nil _ hne
        obtain ⟨spec, hspec, hsource, rfl⟩ := hmounted name hname
        exact ⟨spec, hspec, hsource, hname⟩
      · rintro ⟨spec, -, -, hname⟩
        exact List.ne_nil_of_mem hname

/-- A service with a database directory. -/
def databaseService : Latest.ServiceConfig :=
  { (default : Latest.ServiceConfig) with
    name := "db"
    image := "mysql"
    volumes := some [{ (default : Latest.ServiceVolumeConfig) with
      type := "volume", source := "data", target := "/var/lib/mysql" }] }

/-- The claim of a named volume is mounted. -/
theorem claimsAgree_databaseService :
    ∃ specs mounts volumes, toVolumeSpecs databaseService default = .ok specs ∧
      toVolumeMounts databaseService default = .ok mounts ∧
      toVolumes databaseService default = .ok volumes ∧
      ClaimsAgree databaseService specs mounts.elems volumes.elems
        (toPersistentVolumeClaims databaseService none).elems := by
  have hok : ∃ specs, toVolumeSpecs databaseService default = .ok specs := ⟨_, rfl⟩
  obtain ⟨specs, hspecs⟩ := hok
  obtain ⟨mounts, volumes, hmounts, hvolumes, hiff⟩ :=
    claimsAgree_iff databaseService default none specs hspecs
  exact ⟨specs, mounts, volumes, hspecs, hmounts, hvolumes, hiff.mpr (by decide)⟩

/-- A service whose volume has the name of a git repository. -/
def backupService : Latest.ServiceConfig :=
  { databaseService with
    volumes := some [{ (default : Latest.ServiceVolumeConfig) with
      type := "volume", source := "data.git", target := "/var/lib/mysql" }] }

/-- **A claim that nothing mounts**: the volume is of type `volume`, so there is a
claim of its name, but the mount is of a git repository. -/
theorem backupService_claim_unmounted :
    ∃ specs mounts volumes, toVolumeSpecs backupService default = .ok specs ∧
      toVolumeMounts backupService default = .ok mounts ∧
      toVolumes backupService default = .ok volumes ∧
      hasPersistentVolumes backupService = true ∧
      (toPersistentVolumeClaims backupService none).elems.map (·.objectMeta.name) = ["data.git"] ∧
      mounts.elems.map (·.name) = ["mount-0"] ∧
      ¬ClaimsAgree backupService specs mounts.elems volumes.elems
        (toPersistentVolumeClaims backupService none).elems := by
  refine ⟨_, _, _, rfl, rfl, rfl, by decide, by decide, by decide, fun hagree => ?_⟩
  exact absurd hagree.names (by decide)

/-! ## Bind mounts -/

/-- The spec mounts the host path `source`: what is mounted is found below the
path of the volume, under the name of the sub-path. -/
def ResolvesTo (source : String) (spec : VolumeSpec) : Prop :=
  ∃ path, spec.source = some (.hostPath path) ∧ isAbs path = true ∧
    '/' ∉ spec.mount.subPath.toList ∧
    pathNames path ++ pathNames spec.mount.subPath = pathNames source

theorem isAbs_ofList_append {dir rest : List Char} (hdir : dir ≠ [])
    (h : isAbs (String.ofList (dir ++ rest)) = true) : isAbs (String.ofList dir) = true := by
  obtain ⟨c, dir, rfl⟩ := List.exists_cons_of_ne_nil hdir
  unfold isAbs hasPrefix at h ⊢
  rw [String.toList_ofList] at h ⊢
  simpa [List.isPrefixOf] using h

/-- The two halves of a path that is split, as the mount has them. -/
theorem resolves_split {source : String} (habs : isAbs source = true) {spec : VolumeSpec}
    (hpath : spec.source = some (hostPathVolume
      (if (pathSplit source).1 ≠ "/" then trimSuffix (pathSplit source).1 "/"
        else (pathSplit source).1)))
    (hsub : spec.mount.subPath = (pathSplit source).2) : ResolvesTo source spec := by
  have hslash : '/' ∈ source.toList := by
    obtain ⟨rest, rfl⟩ := hasPrefix_iff.mp habs
    rw [String.toList_append]
    exact List.mem_append_left _ (by decide)
  obtain ⟨dir, file, hsource, hfile, hsplit⟩ := pathSplit_eq hslash
  rw [hsplit] at hpath hsub
  rw [hsource] at habs ⊢
  have hnofile : '/' ∉ spec.mount.subPath.toList := by
    rw [hsub, String.toList_ofList]
    exact hfile
  -- the directory without its slash, and the file
  by_cases hdir : dir = []
  · -- a file right below the root, the one directory whose slash stays
    subst hdir
    refine ⟨"/", hpath, rfl, hnofile, ?_⟩
    rw [hsub, pathNames_append_slash]
    rfl
  · have hne : String.ofList (dir ++ ['/']) ≠ "/" := by
      intro heq
      have hchars := congrArg String.toList heq
      rw [String.toList_ofList] at hchars
      exact hdir (List.append_left_eq_self.mp (hchars : dir ++ ['/'] = ['/']))
    have htrim : trimSuffix (String.ofList (dir ++ ['/'])) "/" = String.ofList dir :=
      trimSuffix_append dir ['/']
    rw [if_pos hne, htrim] at hpath
    refine ⟨_, hpath, isAbs_ofList_append hdir habs, hnofile, ?_⟩
    rw [hsub, pathNames_append_slash]

/-- **One bind mount.** An absolute source is a host path, or a git repository. -/
theorem toVolumeSpec_resolves_iff {m : Latest.ServiceVolumeConfig} (htype : m.type ≠ "volume")
    (habs : isAbs m.source = true) {i : Nat} {spec : VolumeSpec}
    (h : toVolumeSpec m i = .ok spec) : ResolvesTo m.source spec ↔ isGit m = false := by
  unfold toVolumeSpec at h
  dsimp only at h
  -- the socket of Docker is mounted through its directory
  by_cases hdocker : m.source = dockerSock ∧ m.target = dockerSock
  · rw [if_pos hdocker] at h
    obtain rfl := Except.ok.inj h
    rw [isGit, hdocker.1]
    refine ⟨fun _ => by decide, fun _ => ⟨"/var/run", rfl, by decide, ?_, ?_⟩⟩
    · show '/' ∉ "docker.sock".toList
      decide
    · show pathNames "/var/run" ++ pathNames "docker.sock" = pathNames dockerSock
      decide
  rw [if_neg hdocker] at h
  by_cases hgit : hasSuffix m.source ".git" = true
  · rw [if_pos hgit] at h
    obtain rfl := Except.ok.inj h
    refine ⟨fun ⟨path, hpath, _⟩ => ?_, fun hnot => ?_⟩
    · cases hpath
    · exact absurd (hgit.symm.trans hnot) (by decide)
  rw [if_neg hgit, if_neg htype, if_neg (by simp [habs])] at h
  refine ⟨fun _ => Bool.eq_false_iff.mpr hgit, fun _ => ?_⟩
  -- the root has no parent to be split off
  by_cases hroot : m.source = "/"
  · rw [if_pos hroot] at h
    obtain rfl := Except.ok.inj h
    rw [hroot]
    exact ⟨"/", rfl, rfl, List.not_mem_nil, rfl⟩
  · rw [if_neg hroot] at h
    obtain rfl := Except.ok.inj h
    exact resolves_split habs rfl rfl

/-- **Bind mounts.** When the volumes of a service are converted, a bind mount of
an absolute path is that path on the host exactly when the path does not end
like a git repository. One of a relative path that is no git repository makes
the conversion of the volumes fail. -/
theorem bindMount_resolves_iff (srv : Latest.ServiceConfig) (configuration : Latest.StackSpec)
    (i : Nat) (m : Latest.ServiceVolumeConfig) (hm : srv.volumes.elems[i]? = some m)
    (htype : m.type = "bind") :
    (isAbs m.source = true → (∃ spec, toVolumeSpec m i = .ok spec) ∧
      ∀ specs, toVolumeSpecs srv configuration = .ok specs →
        ∃ spec, specs[i]? = some spec ∧
          (ResolvesTo m.source spec ↔ hasSuffix m.source ".git" = false)) ∧
    (isAbs m.source = false → hasSuffix m.source ".git" = false →
      ∃ e, toVolumeSpecs srv configuration = .error e) := by
  have hpos : srv.volumes.elems.zipIdx[i]? = some (m, i) := by simp [hm]
  have hbind : m.type ≠ "volume" := by
    rw [htype]
    decide
  constructor
  · intro habs
    refine ⟨exists_toVolumeSpec_iff.mpr (.inr (.inr habs)), fun specs hspecs => ?_⟩
    obtain ⟨volumes, hvolumes, rfl⟩ := toVolumeSpecs_eq_ok.mp hspecs
    obtain ⟨spec, hspec, hok⟩ := getElem?_of_mapM_eq_ok hvolumes hpos
    -- mounts of volumes come before those of files, and in order
    have hlt : i < volumes.length := (List.getElem?_eq_some_iff.mp hspec).1
    refine ⟨spec, (List.getElem?_append_left hlt).trans hspec, ?_⟩
    exact toVolumeSpec_resolves_iff hbind habs hok
  · intro habs hgit
    cases hspecs : toVolumeSpecs srv configuration with
    | error e => exact ⟨e, rfl⟩
    | ok specs =>
      obtain ⟨volumes, hvolumes, rfl⟩ := toVolumeSpecs_eq_ok.mp hspecs
      obtain ⟨spec, -, hok⟩ := getElem?_of_mapM_eq_ok hvolumes hpos
      -- a success would need one of three things, none of which holds
      rcases exists_toVolumeSpec_iff.mp ⟨spec, hok⟩ with htype | hgit' | habs'
      · exact absurd htype hbind
      · exact absurd (hgit.symm.trans hgit') (by decide)
      · exact absurd (habs.symm.trans habs') (by decide)

/-- A service with a bind mount. -/
def bindService (source : String) : Latest.ServiceConfig :=
  { databaseService with
    volumes := some [{ (default : Latest.ServiceVolumeConfig) with
      type := "bind", source, target := "/opt/app/static" }] }

/-- A directory of the host is mounted, a relative one is rejected. -/
theorem bindMount_resolves_static :
    (∃ specs spec, toVolumeSpecs (bindService "/srv//data/static") default = .ok specs ∧
      specs[0]? = some spec ∧ ResolvesTo "/srv//data/static" spec) ∧
    ∃ e, toVolumeSpecs (bindService "data/static") default = .error e := by
  have hok : ∃ specs, toVolumeSpecs (bindService "/srv//data/static") default = .ok specs :=
    ⟨_, rfl⟩
  obtain ⟨specs, hspecs⟩ := hok
  have habsolute := (bindMount_resolves_iff (bindService "/srv//data/static") default 0 _ rfl
    rfl).1 (by decide)
  obtain ⟨spec, hspec, hiff⟩ := habsolute.2 specs hspecs
  have hrelative := (bindMount_resolves_iff (bindService "data/static") default 0 _ rfl rfl).2
  exact ⟨⟨specs, spec, hspecs, hspec, hiff.mpr (by decide)⟩,
    hrelative (by decide) (by decide)⟩

/-- **A bind mount that is no host path**: an absolute path that ends in `.git`
is handed to the cluster as a repository to clone. -/
theorem bindMount_git :
    ∃ spec, toVolumeSpecs (bindService "/srv/data.git") default = .ok [spec] ∧
      spec.source = some (.gitRepo "/srv/data.git") ∧ ¬ResolvesTo "/srv/data.git" spec := by
  refine ⟨_, rfl, rfl, ?_⟩
  rintro ⟨path, hpath, -⟩
  cases hpath

end ComposeKube

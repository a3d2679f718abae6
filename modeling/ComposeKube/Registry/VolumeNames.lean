import ComposeKube.Convert.Mounts
import ComposeKube.Registry.Names

/-!
# Names of volumes

The volumes of a pod and the claims of its StatefulSet are mounted by name. Some
names are numbered by the conversion, others are chosen in the compose file, and
the checks look at each of them alone.

* `volumeNames_perm` — all names of a service: the chosen ones, and the numbers
  that are in use.
* `volumeNames_nodup_iff` — of an accepted stack, when these are distinct.
-/

namespace ComposeKube

open Go

/-! ## Numbered names -/

theorem toList_indexedName (kind : String) (i : Nat) :
    (indexedName kind i).toList = kind.toList ++ '-' :: Nat.toDigits 10 i := by
  unfold indexedName
  rw [String.toList_append, String.toList_append, toList_formatInt, List.append_assoc]
  rfl

/-- **A numbered name has one kind and one number**: the kinds have no hyphen, and
digits have none. -/
theorem indexedName_inj {kind kind' : String} (hkind : '-' ∉ kind.toList) {i j : Nat}
    (h : indexedName kind i = indexedName kind' j) : kind = kind' ∧ i = j := by
  have hlist := congrArg String.toList h
  rw [toList_indexedName, toList_indexedName] at hlist
  have hdigits : '-' ∉ Nat.toDigits 10 i := by
    intro hmem
    have hdigit := Nat.isDigit_of_mem_toDigits (by decide) (by decide) hmem
    exact absurd hdigit (by decide)
  obtain ⟨hk, -, hd⟩ := (List.append_cons_inj_of_notMem hkind hdigits).mp hlist
  refine ⟨String.toList_inj.mp hk, ?_⟩
  rw [← @Nat.ofDigitChars_ten_toDigits i, hd, Nat.ofDigitChars_ten_toDigits]

theorem nodup_indexedNames {kind : String} (hkind : '-' ∉ kind.toList) {l : List Nat}
    (h : l.Nodup) : (l.map (indexedName kind)).Nodup :=
  h.map_on fun _ _ _ _ heq => (indexedName_inj hkind heq).2

theorem disjoint_indexedNames {kind kind' : String} (hkind : '-' ∉ kind.toList)
    (hne : kind ≠ kind') (l l' : List Nat) :
    ∀ a ∈ l.map (indexedName kind), ∀ b ∈ l'.map (indexedName kind'), a ≠ b := by
  intro a ha b hb heq
  obtain ⟨i, -, rfl⟩ := List.mem_map.mp ha
  obtain ⟨j, -, rfl⟩ := List.mem_map.mp hb
  exact hne (indexedName_inj hkind heq).1

/-! ## Names that were chosen, numbers that are in use -/

/-- The sources of the volumes that are named by their source. -/
def namedVolumes (srv : Latest.ServiceConfig) : List String :=
  (srv.volumes.elems.filter fun m => m.type = "volume" ∧ m.source ≠ "").map (·.source)

/-- The volume has the name of its position: it is a volume of the pod, or a
claim without a name. -/
def usesPosition (m : Latest.ServiceVolumeConfig) : Bool := !mountsClaim m || m.source = ""

/-- The positions that are names of volumes. -/
def usedPositions (srv : Latest.ServiceConfig) : List Nat :=
  (srv.volumes.elems.zipIdx.filter fun m => usesPosition m.1).map (·.2)

/-- The numbered names that are in use. -/
def numberedNames (srv : Latest.ServiceConfig) : List String :=
  (usedPositions srv).map (indexedName "mount") ++
    (List.range srv.tmpfs.elems.length).map (indexedName "tmp") ++
    (List.range srv.secrets.elems.length).map (indexedName "secret") ++
    (List.range srv.configs.elems.length).map (indexedName "config")

theorem usedPositions_nodup (srv : Latest.ServiceConfig) : (usedPositions srv).Nodup := by
  have hsublist : (usedPositions srv).Sublist (srv.volumes.elems.zipIdx.map (·.2)) :=
    List.filter_sublist.map _
  have hsnd : srv.volumes.elems.zipIdx.map (·.2) = List.range' 0 srv.volumes.elems.length :=
    List.zipIdx_map_snd 0 _
  rw [hsnd] at hsublist
  exact hsublist.nodup (List.nodup_range' ..)

theorem numberedNames_nodup (srv : Latest.ServiceConfig) : (numberedNames srv).Nodup := by
  unfold numberedNames
  -- within a kind the numbers differ, and the kinds differ from each other
  refine List.nodup_append.mpr ⟨List.nodup_append.mpr ⟨List.nodup_append.mpr ⟨?_, ?_, ?_⟩, ?_, ?_⟩,
    ?_, ?_⟩
  · exact nodup_indexedNames (by decide) (usedPositions_nodup srv)
  · exact nodup_indexedNames (by decide) List.nodup_range
  · exact disjoint_indexedNames (by decide) (by decide) _ _
  · exact nodup_indexedNames (by decide) List.nodup_range
  · rw [List.forall_mem_append]
    exact ⟨disjoint_indexedNames (by decide) (by decide) _ _,
      disjoint_indexedNames (by decide) (by decide) _ _⟩
  · exact nodup_indexedNames (by decide) List.nodup_range
  · rw [List.forall_mem_append, List.forall_mem_append]
    exact ⟨⟨disjoint_indexedNames (by decide) (by decide) _ _,
      disjoint_indexedNames (by decide) (by decide) _ _⟩,
      disjoint_indexedNames (by decide) (by decide) _ _⟩

/-! ## The names of a service -/

/-- The volumes of a pod, by name. -/
theorem names_volumesOf {srv : Latest.ServiceConfig} {configuration : Latest.StackSpec}
    {specs : List VolumeSpec} (h : toVolumeSpecs srv configuration = .ok specs) :
    (volumesOf specs).map (·.name) =
      ((srv.volumes.elems.zipIdx.filter fun m => !mountsClaim m.1).map
        fun m => indexedName "mount" m.2) ++
      (List.range srv.tmpfs.elems.length).map (indexedName "tmp") ++
      (List.range srv.secrets.elems.length).map (indexedName "secret") ++
      (List.range srv.configs.elems.length).map (indexedName "config") := by
  -- only the position of an element goes into its name
  have hpositions : ∀ {α : Type} (l : List α) (kind : String),
      (l.zipIdx.map fun m => indexedName kind m.2) =
        (List.range l.length).map (indexedName kind) := by
    intro α l kind
    rw [List.range_eq_range', ← List.zipIdx_map_snd 0 l, List.map_map]
    rfl
  obtain ⟨volumes, hvolumes, rfl⟩ := toVolumeSpecs_eq_ok.mp h
  have hown : (volumesOf volumes).map (·.name) =
      (srv.volumes.elems.zipIdx.filter fun m => !mountsClaim m.1).map
        fun m => indexedName "mount" m.2 := by
    have hnames := (volumesOf_toVolumeSpec hvolumes).imp fun _ _ hv => hv.1
    rw [← List.forall₂_eq_eq_eq, List.forall₂_map_left_iff, List.forall₂_map_right_iff]
    exact hnames.flip
  rw [volumesOf_append, volumesOf_fileSpecs, List.map_append, List.map_append, List.map_append,
    List.map_map, List.map_map, List.map_map, hown, ← hpositions, ← hpositions, ← hpositions,
    List.append_assoc, List.append_assoc, List.append_assoc]
  rfl

/-- A volume without a source is neither the docker socket nor a repository. -/
theorem mountsClaim_of_unnamed {m : Latest.ServiceVolumeConfig} (htype : m.type = "volume")
    (hsource : m.source = "") : mountsClaim m = true := by
  refine mountsClaim_iff.mpr ⟨htype, ?_, ?_⟩
  · rw [← Bool.not_eq_true, isDockerSock_iff, hsource]
    exact fun hdocker => absurd hdocker.1 (by decide)
  · rw [isGit, hsource]
    decide

/-- The claims: those with a name, and those without. -/
theorem claimNames_perm (srv : Latest.ServiceConfig) :
    (claimNames srv).Perm (namedVolumes srv ++
      (srv.volumes.elems.zipIdx.filter fun m => mountsClaim m.1 && m.1.source = "").map
        fun m => indexedName "mount" m.2) := by
  set ms := srv.volumes.elems.zipIdx with hms
  -- volumes with a source keep its name
  have hnamed : namedVolumes srv =
      ((ms.filter fun m => m.1.type = "volume").filter fun m => m.1.source ≠ "").map
        fun m => claimName m.1 m.2 := by
    have hfst : srv.volumes.elems = ms.map Prod.fst := (List.zipIdx_map_fst 0 _).symm
    have hfilter : (ms.filter fun m => decide (m.1.type = "volume" ∧ m.1.source ≠ "")) =
        ms.filter fun m => decide (m.1.source ≠ "") && decide (m.1.type = "volume") :=
      List.filter_congr fun m _ => by rw [Bool.decide_and, Bool.and_comm]
    rw [namedVolumes, hfst, List.filter_map, List.map_map, List.filter_filter, ← hfilter]
    refine List.map_congr_left fun m hm => ?_
    have hsource := (of_decide_eq_true (List.mem_filter.mp hm).2 : _ ∧ _).2
    exact (if_pos hsource).symm
  -- the others are numbered by their position
  have hunnamed : (ms.filter fun m => mountsClaim m.1 && m.1.source = "").map
        (fun m => indexedName "mount" m.2) =
      ((ms.filter fun m => m.1.type = "volume").filter fun m => !decide (m.1.source ≠ "")).map
        fun m => claimName m.1 m.2 := by
    have hfilter : (ms.filter fun m => mountsClaim m.1 && decide (m.1.source = "")) =
        ms.filter fun m => !decide (m.1.source ≠ "") && decide (m.1.type = "volume") := by
      refine List.filter_congr fun m _ => ?_
      by_cases hsource : m.1.source = ""
      · by_cases htype : m.1.type = "volume"
        · simp [hsource, htype, mountsClaim_of_unnamed htype hsource]
        · simp [htype, mountsClaim]
      · simp [hsource]
    rw [List.filter_filter, ← hfilter]
    refine List.map_congr_left fun m hm => ?_
    have hsource : m.1.source = "" := by
      have hboth := (List.mem_filter.mp hm).2
      rw [Bool.and_eq_true, decide_eq_true_eq] at hboth
      exact hboth.2
    exact (if_neg (not_not.mpr hsource)).symm
  rw [hnamed, hunnamed, claimNames_eq, ← List.map_append]
  exact ((List.filter_append_perm _ _).map _).symm

/-- The positions in use: volumes of the pod, and claims without a name. -/
theorem usedPositions_perm (srv : Latest.ServiceConfig) :
    ((usedPositions srv).map (indexedName "mount")).Perm
      ((srv.volumes.elems.zipIdx.filter fun m => !mountsClaim m.1).map
          (fun m => indexedName "mount" m.2) ++
        (srv.volumes.elems.zipIdx.filter fun m => mountsClaim m.1 && m.1.source = "").map
          fun m => indexedName "mount" m.2) := by
  set ms := srv.volumes.elems.zipIdx with hms
  have hpod : (ms.filter fun m => !mountsClaim m.1) =
      (ms.filter fun m => usesPosition m.1).filter fun m => !mountsClaim m.1 := by
    rw [List.filter_filter]
    refine List.filter_congr fun m _ => ?_
    cases hclaim : mountsClaim m.1 <;> simp [usesPosition, hclaim]
  have hclaim : (ms.filter fun m => mountsClaim m.1 && m.1.source = "") =
      (ms.filter fun m => usesPosition m.1).filter fun m => !!mountsClaim m.1 := by
    rw [List.filter_filter]
    refine List.filter_congr fun m _ => ?_
    cases hclaim : mountsClaim m.1 <;> simp [usesPosition, hclaim]
  rw [usedPositions, List.map_map, hpod, hclaim, ← List.map_append]
  exact ((List.filter_append_perm _ _).map _).symm

/-- **All names of a service**: those that were chosen, and the numbers in use. -/
theorem volumeNames_perm {srv : Latest.ServiceConfig} {configuration : Latest.StackSpec}
    {specs : List VolumeSpec} (h : toVolumeSpecs srv configuration = .ok specs) :
    ((volumesOf specs).map (·.name) ++ claimNames srv).Perm
      (namedVolumes srv ++ numberedNames srv) := by
  -- count each name on both sides: a claim without a name is a position in use
  rw [names_volumesOf h, numberedNames, List.perm_iff_count]
  intro name
  have hclaims := (claimNames_perm srv).count_eq name
  have hused := (usedPositions_perm srv).count_eq name
  simp only [List.count_append] at hclaims hused ⊢
  omega

/-- No two volumes have one name, and none has a name that is numbered. -/
structure VolumeNamesApart (srv : Latest.ServiceConfig) : Prop where
  named : (namedVolumes srv).Nodup
  numbered : ∀ name ∈ namedVolumes srv, name ∉ numberedNames srv

theorem volumeNames_nodup {srv : Latest.ServiceConfig} {configuration : Latest.StackSpec}
    {specs : List VolumeSpec} (h : toVolumeSpecs srv configuration = .ok specs) :
    ((volumesOf specs).map (·.name) ++ claimNames srv).Nodup ↔ VolumeNamesApart srv := by
  rw [(volumeNames_perm h).nodup_iff, List.nodup_append]
  constructor
  · rintro ⟨hnamed, -, hdisjoint⟩
    exact ⟨hnamed, fun name hname hnumbered => hdisjoint name hname name hnumbered rfl⟩
  · rintro ⟨hnamed, hnumbered⟩
    refine ⟨hnamed, numberedNames_nodup srv, fun name hname name' hname' heq => ?_⟩
    exact hnumbered name hname (heq ▸ hname')

/-! ## Accepted stacks -/

def PodTemplateSpec.volumeNames (template : PodTemplateSpec) : List String :=
  template.spec.volumes.elems.map (·.name)

/-- The names of the volumes of an object's pods, and of its claims. -/
def Resource.volumeNames : Resource → List String
  | .deployment d => d.spec.template.volumeNames
  | .statefulset s =>
    s.spec.template.volumeNames ++ s.spec.volumeClaimTemplates.elems.map (·.objectMeta.name)
  | .daemonset d => d.spec.template.volumeNames
  | .service _ => []

/-- The volumes of a workload are those of its pods, and only a StatefulSet has
claims. -/
theorem volumeNames_desiredWorkload {ctx : ServiceContext} {parts : PodParts}
    (hglobal : ¬(isGlobal ctx.srv = true ∧ hasPersistentVolumes ctx.srv = true))
    (original : StackState) :
    (ctx.desiredWorkload original parts).volumeNames =
      parts.volumes.elems.map (·.name) ++ claimNames ctx.srv := by
  have hfill : ∀ template, (ctx.fill parts template).spec.volumes = parts.volumes := fun _ => rfl
  unfold ServiceContext.desiredWorkload workloadOf
  -- only a stateful set has claims beside the volumes of its pod
  by_cases hpersistent : hasPersistentVolumes ctx.srv = true
  · rw [if_neg fun h => hglobal ⟨h, hpersistent⟩, if_pos hpersistent,
      ← names_toPersistentVolumeClaims]
    show PodTemplateSpec.volumeNames (forceRestartPolicy (ctx.fill parts _) .always) ++ _ = _
    rw [PodTemplateSpec.volumeNames, forceRestartPolicy_eq, hfill]
    rfl
  · have hnil : claimNames ctx.srv = [] :=
      not_not.mp fun hne => hpersistent ((hasPersistentVolumes_iff ctx.srv).mpr hne)
    rw [hnil, List.append_nil]
    by_cases hdaemon : isGlobal ctx.srv = true
    · rw [if_pos hdaemon]
      rfl
    · rw [if_neg hdaemon, if_neg hpersistent]
      show PodTemplateSpec.volumeNames (forceRestartPolicy (ctx.fill parts _) .always) = _
      rw [PodTemplateSpec.volumeNames, forceRestartPolicy_eq, hfill]

/-- **When volume names are unique.** Of a stack that passes the dry run, for
every strategy and on top of every state: the volumes of the pods built for a
service and the claims that go with them have distinct names exactly when the
volumes of the service that have a name have different ones, and none of them
is a numbered name in use. Whether the names pass the other checks does not
matter. -/
theorem volumeNames_nodup_iff (rt : Runtime) (loader : Loader) (stack : Internal.Stack)
    (hdry : (validateDryRun rt loader stack).1 = []) (strategy : ServiceStrategy)
    (C : StackState) :
    ∃ latest spec rss, stackFromInternalV1alpha3 loader stack default = .ok latest ∧
      latest.spec = some spec ∧
      (stackToStack rt latest strategy C).1 = .ok (newStackState rss.flatten) ∧
      List.Forall₂ (fun ctx rs =>
        let skipped := ctx.skipsWorkload C (isStackDirty latest.status)
        toStackResources ctx C (isStackDirty latest.status) = .ok rs ∧
        ((∀ r ∈ builtResources skipped rs, r.volumeNames.Nodup) ↔
          (skipped = false → VolumeNamesApart ctx.srv)))
        (stackContexts rt latest spec strategy) rss := by
  obtain ⟨latest, spec, rss, hlatest, hspec, hD, hrss⟩ := accepted_conversion hdry strategy C
  refine ⟨latest, spec, rss, hlatest, hspec, hD, hrss.imp fun ctx rs hrs => ⟨hrs, ?_⟩⟩
  have hglobal := (exists_toStackResources_iff.mp ⟨rs, hrs⟩).1
  have hservices : (∀ svc ∈ serviceResources ctx C, (Resource.service svc).volumeNames.Nodup) ↔
      True := iff_true_intro fun _ _ => List.nodup_nil
  have hworkload : ∀ parts, ctx.parts = .ok parts →
      ((ctx.desiredWorkload C parts).volumeNames.Nodup ↔ VolumeNamesApart ctx.srv) := by
    intro parts hparts
    obtain ⟨specs, hspecs, hvolumes⟩ := toVolumes_eq_ok.mp (toPodParts_volumes hparts).1
    rw [volumeNames_desiredWorkload hglobal, hvolumes, Slice.elems_ofAppends]
    exact volumeNames_nodup hspecs
  rw [forall_builtResources_iff hrs hservices hworkload, true_and]

/-- Two volumes with a name, one without, and a directory of the host. -/
def archiveService : Latest.ServiceConfig :=
  { databaseService with
    volumes := some
      [{ (default : Latest.ServiceVolumeConfig) with
          type := "volume", source := "data", target := "/var/lib/mysql" },
       { (default : Latest.ServiceVolumeConfig) with type := "volume", target := "/tmp" },
       { (default : Latest.ServiceVolumeConfig) with
          type := "volume", source := "archive", target := "/archive" },
       { (default : Latest.ServiceVolumeConfig) with
          type := "bind", source := "/etc/mysql", target := "/etc/mysql" }] }

theorem archiveService_apart : VolumeNamesApart archiveService where
  named := by decide
  numbered := by decide

/-- Its volumes and claims have distinct names. -/
theorem volumeNames_nodup_archiveService :
    ∃ rs, (stackToStack Runtime.reference (stackOf [archiveService]) .nodePort
        emptyStackState).1 = .ok (newStackState rs) ∧
      (∃ r ∈ builtResources false rs,
        r.volumeNames = ["mount-3", "data", "mount-1", "archive"]) ∧
      ∀ r ∈ builtResources false rs, r.volumeNames.Nodup := by
  obtain ⟨latest, spec, rss, hlatest, hspec, hD, hrss⟩ :=
    volumeNames_nodup_iff Runtime.reference Loader.failing (storedStackOf [archiveService])
      (by rfl) .nodePort emptyStackState
  cases hlatest
  cases hspec
  obtain ⟨rs, rfl, hrs, hiff⟩ := exists_of_forall₂_singleton hrss
  cases hrs
  refine ⟨_, hD, ⟨_, .tail _ (.head _), ?_⟩, hiff.mpr fun _ => archiveService_apart⟩
  decide

/-- A service that mounts one volume at two places. -/
def sharedService : Latest.ServiceConfig :=
  { databaseService with
    volumes := some
      [{ (default : Latest.ServiceVolumeConfig) with
          type := "volume", source := "data", target := "/var/lib/mysql" },
       { (default : Latest.ServiceVolumeConfig) with
          type := "volume", source := "data", target := "/backup" }] }

/-- **Two claims of one name**: all checks accept the service, under every
strategy its StatefulSet has two claims of the same name. -/
theorem sharedService_claims_twice :
    validateObjectNames (RangeOrder.ascending _) (storedStackOf [sharedService]) = [] ∧
      (validateDryRun Runtime.reference Loader.failing (storedStackOf [sharedService])).1 = [] ∧
      ∀ strategy, ∃ rs, (stackToStack Runtime.reference (stackOf [sharedService]) strategy
          emptyStackState).1 = .ok (newStackState rs) ∧
        ∃ r ∈ rs, r.volumeNames = ["data", "data"] := by
  refine ⟨by decide, by rfl, fun strategy => ?_⟩
  cases strategy
  · exact ⟨_, rfl, _, .tail _ (.head _), by decide⟩
  · exact ⟨_, rfl, _, .tail _ (.head _), by decide⟩

end ComposeKube

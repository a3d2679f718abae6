import ComposeKube.Registry.Strategy

/-!
# Reading a stack and writing it back

A client reads a stored stack in its own API version and sends the object back
as it is, as the owner of the stack. Each version drops fields of the stored
stack, and the strategy puts them back: the owner is that of the request, the
compose file or the spec that of the stored stack. Nothing puts back what the
second version drops from a service, and the first version has no way to say
that there is no status.

* `writeBack_v1beta2_iff` — when the second version is lossless.
* `writeBack_noop_iff` — when writing back is a no-op in the other two.
-/

namespace ComposeKube

open Go

/-- The API versions of a client. -/
inductive ClientVersion where
  | v1beta1
  | v1beta2
  | v1alpha3
  deriving DecidableEq

/-- What a client of the version has read, as the API server receives it back. -/
def ClientVersion.sentBack (loader : Loader) (stored : Internal.Stack) :
    ClientVersion → Except String Internal.Stack
  | .v1beta1 => .ok (stackToInternalV1beta1 (stackFromInternalV1beta1 stored default) default)
  | .v1beta2 => do
    let read ← stackFromInternalV1beta2 loader stored
    pure (stackToInternalV1beta2 read default)
  | .v1alpha3 => do
    let read ← stackFromInternalV1alpha3 loader stored default
    pure (stackToInternalV1alpha3 read default)

/-- The strategy of the version. -/
def ClientVersion.strategy : ClientVersion → APIVersion
  | .v1beta1 => .v1beta1
  | .v1beta2 => .v1beta2
  | .v1alpha3 => .v1beta2

/-- The stored stack is read and written back, up to its validation. -/
def writeBack (loader : Loader) (version : ClientVersion) (ctx : Request)
    (stored : Internal.Stack) : Except String Internal.Stack := do
  let sent ← version.sentBack loader stored
  pure (prepareForUpdate loader version.strategy ctx sent stored)

theorem writeBack_eq {loader : Loader} {version : ClientVersion} {ctx : Request}
    {stored sent : Internal.Stack} (h : version.sentBack loader stored = .ok sent) :
    writeBack loader version ctx stored =
      .ok (prepareForUpdate loader version.strategy ctx sent stored) := by
  rw [writeBack, h]
  rfl

/-- An update that restores the stored spec stores the status that was sent. -/
theorem prepareForUpdate_of_restored (loader : Loader) (version : APIVersion) {ctx : Request}
    {sent stored : Internal.Stack} {f : Internal.Stack → Internal.Stack → Internal.Stack}
    (huser : ctx.user = some stored.spec.owner) (hf : fieldUpdatesFuncs version = some f)
    (hstack : stored.spec.stack ≠ none)
    (hrestored : (restoredFields sent stored stored.spec.owner f).spec = stored.spec) :
    (prepareForUpdate loader version ctx sent stored).spec = stored.spec ∧
      (prepareForUpdate loader version ctx sent stored).status = sent.status := by
  obtain ⟨spec, hspec⟩ := Option.ne_none_iff_exists'.mp hstack
  have hspec' : (restoredFields sent stored stored.spec.owner f).spec.stack = some spec := by
    rw [hrestored, hspec]
  have hsame : ¬semanticDeepEqual Semantic.internalStackSpec stored.spec
      (restoredFields sent stored stored.spec.owner f).spec = false := by
    rw [hrestored, semanticDeepEqual_self]
    exact Bool.noConfusion
  rw [prepareForUpdate_of_some loader version ctx sent stored huser hf hspec', if_neg hsame]
  exact ⟨hrestored, restoredFields_status version sent stored stored.spec.owner hf⟩

/-- The later strategy stores the spec that was sent. -/
theorem prepareForUpdate_v1beta2_stack (loader : Loader) {ctx : Request}
    {sent : Internal.Stack} (stored : Internal.Stack) {user : ImpersonationConfig}
    {spec : Latest.StackSpec}
    (huser : ctx.user = some user) (hspec : sent.spec.stack = some spec) :
    (prepareForUpdate loader .v1beta2 ctx sent stored).spec.stack = some spec := by
  have hrestored : (restoredFields sent stored user setFieldsForV1beta2Update).spec.stack =
      some spec := (setFieldsForV1beta2Update_stack stored _).trans hspec
  rw [prepareForUpdate_of_some loader .v1beta2 ctx sent stored huser rfl hrestored]
  split
  · exact hrestored
  · exact hrestored

/-! ## The second version -/

/-- The service says nothing that the second version has no field for. -/
def KnownToV1beta2 (srv : Latest.ServiceConfig) : Prop :=
  srv.pullSecret = "" ∧ srv.pullPolicy = "" ∧ srv.internalPorts = none ∧
    srv.internalServiceType = ""

instance : DecidablePred KnownToV1beta2 := fun srv =>
  inferInstanceAs (Decidable (srv.pullSecret = "" ∧ srv.pullPolicy = "" ∧
    srv.internalPorts = none ∧ srv.internalServiceType = ""))

theorem serviceConfig_v1beta2_eq_iff (srv : Latest.ServiceConfig) :
    serviceConfigToV1alpha3 (serviceConfigToV1beta2 srv) = srv ↔ KnownToV1beta2 srv := by
  constructor
  · intro h
    refine ⟨?_, ?_, ?_, ?_⟩
    · exact (congrArg Latest.ServiceConfig.pullSecret h).symm
    · exact (congrArg Latest.ServiceConfig.pullPolicy h).symm
    · exact (congrArg Latest.ServiceConfig.internalPorts h).symm
    · exact (congrArg Latest.ServiceConfig.internalServiceType h).symm
  · intro h
    obtain ⟨hsecret, hpolicy, hports, htype⟩ := h
    obtain ⟨⟩ := srv
    dsimp only at hsecret hpolicy hports htype
    subst hsecret hpolicy hports htype
    rfl

theorem stackSpec_v1beta2_eq_iff (spec : Latest.StackSpec) :
    stackSpecToV1alpha3 (stackSpecToV1beta2 spec) = spec ↔
      ∀ srv ∈ spec.services.elems, KnownToV1beta2 srv := by
  obtain ⟨services, secrets, configs⟩ := spec
  cases services with
  | none => simp [stackSpecToV1alpha3, stackSpecToV1beta2, Slice.elems]
  | some l =>
    have hlist : (l.map serviceConfigToV1beta2).map serviceConfigToV1alpha3 = l ↔
        ∀ srv ∈ l, KnownToV1beta2 srv := by
      have hmap := List.map_inj_left (l := l)
        (f := serviceConfigToV1alpha3 ∘ serviceConfigToV1beta2) (g := id)
      rw [List.map_id] at hmap
      rw [List.map_map, hmap]
      simp only [Function.comp_apply, id_eq, serviceConfig_v1beta2_eq_iff]
    simpa [stackSpecToV1alpha3, stackSpecToV1beta2, Slice.elems] using hlist

/-- What comes back through the second version. -/
theorem sentBack_v1beta2 (loader : Loader) {stored : Internal.Stack} {spec : Latest.StackSpec}
    (hspec : stored.spec.stack = some spec) :
    ∃ sent, ClientVersion.v1beta2.sentBack loader stored = .ok sent ∧
      sent.spec.stack = some (stackSpecToV1alpha3 (stackSpecToV1beta2 spec)) ∧
      sent.status = stored.status := by
  simp only [ClientVersion.sentBack, stackFromInternalV1beta2,
    stackFromInternalV1alpha3_of_some loader hspec]
  exact ⟨_, rfl, rfl, rfl⟩

/-- The later strategy restores a spec that was sent back as it was. -/
theorem restoredFields_v1beta2_of_same {sent stored : Internal.Stack}
    (h : sent.spec.stack = stored.spec.stack) :
    (restoredFields sent stored stored.spec.owner setFieldsForV1beta2Update).spec =
      stored.spec := by
  have hsame : restoredFields sent stored stored.spec.owner setFieldsForV1beta2Update = _ :=
    setFieldsForV1beta2Update_of_same h
  rw [hsame]
  dsimp only
  rw [h]

/-- **The second version is lossless** on exactly the stacks whose services it can
describe. -/
theorem writeBack_v1beta2_iff (loader : Loader) (ctx : Request) (stored : Internal.Stack)
    (spec : Latest.StackSpec) (hspec : stored.spec.stack = some spec)
    (huser : ctx.user = some stored.spec.owner) :
    (∃ new, writeBack loader .v1beta2 ctx stored = .ok new ∧ new.spec = stored.spec ∧
        new.status = stored.status) ↔
      ∀ srv ∈ spec.services.elems, KnownToV1beta2 srv := by
  rw [← stackSpec_v1beta2_eq_iff]
  obtain ⟨sent, hsent, hstack, hstatus⟩ := sentBack_v1beta2 loader hspec
  have hwrite : writeBack loader .v1beta2 ctx stored =
      .ok (prepareForUpdate loader .v1beta2 ctx sent stored) := writeBack_eq hsent
  constructor
  · rintro ⟨new, hnew, hsame, -⟩
    -- the spec that was sent is the one that is stored, so it was the old one
    obtain rfl := Except.ok.inj (hwrite.symm.trans hnew)
    have hstored := prepareForUpdate_v1beta2_stack loader stored huser hstack
    rw [hsame, hspec] at hstored
    exact (Option.some.inj hstored).symm
  · intro hsame
    rw [hsame, ← hspec] at hstack
    have hrestored := prepareForUpdate_of_restored loader .v1beta2 huser rfl
      (by simp [hspec]) (restoredFields_v1beta2_of_same hstack)
    exact ⟨_, hwrite, hrestored.1, hrestored.2.trans hstatus⟩

/-- A stored stack of an owner, with a compose file. -/
def ownedStack (services : List Latest.ServiceConfig) (status : Option Latest.StackStatus) :
    Internal.Stack :=
  { storedStackOf services with
    spec := { (storedStackOf services).spec with
      composeFile := "version: '3'"
      owner := { (default : ImpersonationConfig) with userName := "alice" } }
    status := status }

/-- A request of that owner. -/
def ownerRequest : Request where
  user := some { (default : ImpersonationConfig) with userName := "alice" }
  skipValidation := false

theorem writeBack_v1beta2_webService :
    KnownToV1beta2 webService ∧
      ∃ new, writeBack Loader.failing .v1beta2 ownerRequest (ownedStack [webService] none) =
          .ok new ∧ new.spec = (ownedStack [webService] none).spec ∧ new.status = none := by
  refine ⟨by decide, (writeBack_v1beta2_iff Loader.failing ownerRequest
    (ownedStack [webService] none) _ rfl rfl).mpr ?_⟩
  intro srv hsrv
  rw [List.mem_singleton.mp hsrv]
  decide

/-- A service with a pull secret. -/
def privateService : Latest.ServiceConfig := { webService with pullSecret := "registry" }

/-- **What the second version loses.** The pull secret of a service is gone after an
update that changes nothing, and the compose file is marked as out of date. -/
theorem writeBack_v1beta2_loses_pullSecret :
    ∃ new, writeBack Loader.failing .v1beta2 ownerRequest
        (ownedStack [privateService] (some waitingForReconciliation)) = .ok new ∧
      new.spec ≠ (ownedStack [privateService] (some waitingForReconciliation)).spec ∧
      new.spec.stack = (ownedStack [webService] none).spec.stack := by
  refine ⟨_, rfl, by decide, by decide⟩

/-! ## The other versions -/

/-- What comes back through the latest version. -/
theorem sentBack_v1alpha3 (loader : Loader) {stored : Internal.Stack}
    (hstack : stored.spec.stack ≠ none) :
    ∃ sent, ClientVersion.v1alpha3.sentBack loader stored = .ok sent ∧
      sent.spec.stack = stored.spec.stack ∧ sent.status = stored.status := by
  obtain ⟨spec, hspec⟩ := Option.ne_none_iff_exists'.mp hstack
  simp only [ClientVersion.sentBack, stackFromInternalV1alpha3_of_some loader hspec]
  exact ⟨_, rfl, hspec.symm, rfl⟩

/-- What comes back through the first version. -/
theorem sentBack_v1beta1 (loader : Loader) (stored : Internal.Stack) :
    ∃ sent, ClientVersion.v1beta1.sentBack loader stored = .ok sent ∧
      sent.spec.composeFile = stored.spec.composeFile ∧
      sent.status = some (stored.status.getD default) :=
  ⟨_, rfl, rfl, rfl⟩

/-- The first strategy restores the spec of a compose file that was sent back as it
was. -/
theorem restoredFields_v1beta1_of_same {sent stored : Internal.Stack}
    (h : sent.spec.composeFile = stored.spec.composeFile) :
    (restoredFields sent stored stored.spec.owner setFieldsForV1beta1Update).spec =
      stored.spec := by
  rw [restoredFields_v1beta1, h, if_neg (not_not_intro rfl)]

/-- **Writing back is a no-op** in the latest version, and in the first version
when there is a status: without one the stack is dirty, and comes back clean. -/
theorem writeBack_noop_iff (loader : Loader) (version : ClientVersion) (ctx : Request)
    (stored : Internal.Stack) (hversion : version = .v1alpha3 ∨ version = .v1beta1)
    (hstack : stored.spec.stack ≠ none) (huser : ctx.user = some stored.spec.owner) :
    (∃ new, writeBack loader version ctx stored = .ok new ∧ new.spec = stored.spec ∧
        isStackDirty new.status = isStackDirty stored.status) ↔
      version = .v1alpha3 ∨ stored.status ≠ none := by
  rcases hversion with rfl | rfl
  · obtain ⟨sent, hsent, hsame, hstatus⟩ := sentBack_v1alpha3 loader hstack
    have hrestored := prepareForUpdate_of_restored loader .v1beta2 huser rfl hstack
      (restoredFields_v1beta2_of_same hsame)
    have hwrite : writeBack loader .v1alpha3 ctx stored =
        .ok (prepareForUpdate loader .v1beta2 ctx sent stored) := writeBack_eq hsent
    simp only [true_or, iff_true]
    exact ⟨_, hwrite, hrestored.1, by rw [hrestored.2, hstatus]⟩
  · obtain ⟨sent, hsent, hsame, hstatus⟩ := sentBack_v1beta1 loader stored
    have hwrite : writeBack loader .v1beta1 ctx stored =
        .ok (prepareForUpdate loader .v1beta1 ctx sent stored) := writeBack_eq hsent
    have hrestored := prepareForUpdate_of_restored loader .v1beta1 huser rfl hstack
      (restoredFields_v1beta1_of_same hsame)
    constructor
    · rintro ⟨new, hnew, -, hdirty⟩
      obtain rfl := Except.ok.inj (hwrite.symm.trans hnew)
      right
      intro hnone
      -- no status is dirty, and the zero status is not
      rw [hrestored.2, hstatus, hnone] at hdirty
      cases hdirty
    · rintro (h | hsome)
      · cases h
      · obtain ⟨status, hsome⟩ := Option.ne_none_iff_exists'.mp hsome
        refine ⟨_, hwrite, hrestored.1, ?_⟩
        rw [hrestored.2, hstatus, hsome]
        rfl

theorem writeBack_noop_pending :
    ∃ new, writeBack Loader.failing .v1beta1 ownerRequest
        (ownedStack [webService] (some waitingForReconciliation)) = .ok new ∧
      new.spec = (ownedStack [webService] (some waitingForReconciliation)).spec ∧
      isStackDirty new.status = true :=
  (writeBack_noop_iff Loader.failing .v1beta1 ownerRequest
    (ownedStack [webService] (some waitingForReconciliation)) (Or.inr rfl) nofun rfl).mpr
    (Or.inr nofun)

/-- **A stack without a status comes back clean** from a client of the first version
that has changed nothing. -/
theorem writeBack_v1beta1_cleans :
    ∃ new, writeBack Loader.failing .v1beta1 ownerRequest (ownedStack [webService] none) =
        .ok new ∧
      isStackDirty (ownedStack [webService] none).status = true ∧
      isStackDirty new.status = false :=
  ⟨_, rfl, rfl, by decide⟩

end ComposeKube

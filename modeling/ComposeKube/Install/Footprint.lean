import ComposeKube.Install.Installer

/-!
# What an installation writes

Every object that an installation writes has a name of its own (`ownKeys`), and the two
deployments carry the labels by which the next installation recognises them. The filters of
the options may make something else of an object, but not one of another kind.

* `Installer.Writes` — a request of the steps of an installation.
* `Installer.sends_takeSteps` — the steps send nothing else.
* `sends_do` — an installation that finds another one first sends what `Uninstall` sends.
-/

namespace ComposeKube.Install

open Go Client

/-- A request of an installation that does not have to uninstall anything first. -/
def Request.Installs : Request → Prop
  | create _ _ o => o.content.kind.installed = true
  | update _ o => o.content.kind.installed = true
  | putCollection _ _ => False
  | delete _ => False
  | deleteCollection _ _ => False
  | _ => True

/-- What is created is of a kind that is installed. -/
def Request.CreatesInstalled : Request → Prop
  | create _ _ o => o.content.kind.installed = true
  | _ => True

/-- Stacks and backups are not among the kinds that an installation creates. -/
theorem Request.CreatesInstalled.createsNot {r : Request} {kind : Kind} (h : r.CreatesInstalled)
    (hkind : kind.installed = false) : r.CreatesNot kind := by
  cases r with
  | create user ns o =>
    rintro rfl
    cases hkind.symm.trans h
  | _ => trivial

/-- To read is always within the footprint. -/
theorem Request.Reads.installs {r : Request} (h : r.Reads) : r.Installs := by
  cases r with
  | create _ _ _ => exact h.elim
  | update _ _ => exact h.elim
  | putCollection _ _ => exact h.elim
  | delete _ => exact h.elim
  | deleteCollection _ _ => exact h.elim
  | _ => trivial

/-! ## Changes of objects -/

/-- Two objects that go to the same place, with the same labels and annotations. -/
structure Object.Alike (o' o : Object) : Prop where
  kind : o'.content.kind = o.content.kind
  name : o'.objectMeta.name = o.objectMeta.name
  labels : o'.objectMeta.labels = o.objectMeta.labels
  annotations : o'.objectMeta.annotations = o.objectMeta.annotations

namespace Object

variable (o o' : Object)

/-- An object that replaces another takes over its version only. -/
theorem alike_over : (o.over o').Alike o := ⟨rfl, rfl, rfl, rfl⟩

theorem kind_mapDeployment (f : DeploymentSpec → DeploymentSpec) :
    (o.mapDeployment f).content.kind = o.content.kind := by
  unfold mapDeployment
  split
  · next h => rw [h]; rfl
  · rfl

theorem kind_mapService (f : ServiceSpec → ServiceSpec) :
    (o.mapService f).content.kind = o.content.kind := by
  unfold mapService
  split
  · next h => rw [h]; rfl
  · rfl

/-- A service takes over the address as well. -/
theorem alike_withClusterIPOf : (o.withClusterIPOf o').Alike o := by
  refine ⟨?_, rfl, rfl, rfl⟩
  unfold withClusterIPOf
  split
  · next h _ => rw [h]; rfl
  · rfl

/-- A debug port changes neither the name nor the labels. -/
theorem alike_withDebug (c : Installer) : (c.withDebug o).Alike o := by
  unfold Installer.withDebug
  split
  · exact ⟨o.kind_mapDeployment _, rfl, rfl, rfl⟩
  · exact ⟨rfl, rfl, rfl, rfl⟩

end Object

namespace Installer

/-! ## The objects of the installer -/

section Own

variable (c : Installer)

/-- The keys of all objects that the installer writes. -/
def ownKeys : List Key :=
  let ns := c.commonOptions.namespace_
  [⟨.namespace_, "", ns⟩, ⟨.secret, ns, "compose"⟩, ⟨.serviceAccount, ns, "compose"⟩,
    ⟨.clusterRole, "", "compose-service"⟩, ⟨.secret, ns, "compose-etcd"⟩,
    ⟨.secret, ns, "compose-tls"⟩, ⟨.deployment, ns, "compose-api"⟩, ⟨.service, ns, "compose-api"⟩,
    ⟨.service, ns, "compose-api-server-remote-debug"⟩, ⟨.deployment, ns, "compose"⟩,
    ⟨.service, ns, "compose-controller-remote-debug"⟩] ++
  requiredRoleBindings.map (fun req => ⟨.roleBinding, req.namespace_, req.name⟩) ++
  requiredClusterRoleBindings.map (fun req => ⟨.clusterRoleBinding, req.namespace_, req.name⟩) ++
  defaultClusterRoles.map Object.key

/-- How a deployment is labelled: as the API server, with the hash of its certificates, or
as the controller. -/
inductive Labelled (o : Object) : Prop
  | api (hname : o.objectMeta.name = "compose-api") (hlabels : o.objectMeta.labels = c.apiLabels)
      (hhash : (o.objectMeta.annotations.get? customTLSHashAnnotationName).getD "" =
        c.customTLSHash)
  | controller (hname : o.objectMeta.name = "compose") (hlabels : o.objectMeta.labels = c.labels)

/-- An object that the installer wants in a namespace. A binding that cannot be read is
written without a name, which no API server accepts. -/
structure Wanted (ns : String) (o : Object) : Prop where
  installed : o.content.kind.installed = true
  key : o.keyIn ns ∈ c.ownKeys ∨ o.objectMeta.name = ""
  labelled : o.content.kind = .deployment → c.Labelled o

/-- What is written of it, after the filters. -/
structure MayWrite (ns : String) (o : Object) : Prop where
  installed : o.content.kind.installed = true
  wanted : c.objectFilter = [] → c.Wanted ns o

/-- A request of the steps. -/
def Writes : Request → Prop
  | .create _ ns o => c.MayWrite ns o
  | .update ns o => c.MayWrite ns o
  | .putCollection _ _ => False
  | .delete _ => False
  | .deleteCollection _ _ => False
  | _ => True

end Own

variable {rt : InstallRuntime} {c : Installer}

/-- The writes of one installer are writes of an installation. -/
theorem Writes.installs {r : Request} (h : c.Writes r) : r.Installs := by
  cases r with
  | create user ns o => exact MayWrite.installed h
  | update ns o => exact MayWrite.installed h
  | putCollection _ _ => exact h.elim
  | delete _ => exact h.elim
  | deleteCollection _ _ => exact h.elim
  | _ => trivial

/-- What is wanted may be written as it is. -/
theorem Wanted.mayWrite {ns : String} {o : Object} (h : c.Wanted ns o) : c.MayWrite ns o :=
  ⟨h.installed, fun _ => h⟩

/-- What is left of an object after the filters. -/
theorem Wanted.edited {ns : String} {o : Object} (h : c.Wanted ns o) {o' : Edited o}
    (ho' : c.objectFilter = [] → o'.1 = o) : c.MayWrite ns o'.1 where
  installed := by
    rw [o'.2]
    exact h.installed
  wanted hfilter := by
    rw [ho' hfilter]
    exact h

/-- Labels, and what else is looked at, are the same in objects that are alike. -/
theorem Labelled.congr {o o' : Object} (h : c.Labelled o) (halike : o'.Alike o) :
    c.Labelled o' := by
  cases h with
  | api hname hlabels hhash =>
    refine .api (halike.name.trans hname) (halike.labels.trans hlabels) ?_
    rw [halike.annotations]
    exact hhash
  | controller hname hlabels =>
    exact .controller (halike.name.trans hname) (halike.labels.trans hlabels)

theorem Wanted.congr {ns : String} {o o' : Object} (h : c.Wanted ns o) (halike : o'.Alike o) :
    c.Wanted ns o' where
  installed := by
    rw [halike.kind]
    exact h.installed
  key := by
    rw [Object.keyIn, halike.kind, halike.name]
    exact h.key
  labelled hkind := (h.labelled (halike.kind.symm.trans hkind)).congr halike

theorem MayWrite.congr {ns : String} {o o' : Object} (h : c.MayWrite ns o)
    (halike : o'.Alike o) : c.MayWrite ns o' where
  installed := by
    rw [halike.kind]
    exact h.installed
  wanted hfilter := (h.wanted hfilter).congr halike

/-- Without filters an object is written as it is. -/
theorem sends_filtered {P : Request → Prop} {o : Object} {α : Type}
    {f : Bool × Edited o → Api α}
    (h : ∀ shouldDo (o' : Edited o), (c.objectFilter = [] → o'.1 = o) →
      Sends P (f (shouldDo, o'))) :
    Sends P (c.filtered o >>= f) := by
  unfold filtered
  cases hfilter : filter c.objectFilter o with
  -- a filter that fails ends the step before the request
  | error err => trivial
  | ok res =>
    -- without filters the object is the one that was built
    refine h res.1 res.2 fun hnil => ?_
    rw [hnil] at hfilter
    cases hfilter
    rfl

/-- The keys that an installer owns are of the kinds that it installs. -/
theorem installed_of_own {key : Key} (h : key ∈ c.ownKeys) : key.kind.installed = true := by
  have hall : ∀ key ∈ c.ownKeys, key.kind.installed = true := by
    simp [ownKeys, requiredRoleBindings, requiredClusterRoleBindings, defaultClusterRoles,
      Kind.installed, Object.key, viewStackRole, editStackRole, adminStackRole, aggregatedRole,
      newObject, Content.kind]
  exact hall key h

/-- An object that is not a deployment is wanted if its key is the installer's. -/
theorem wanted_of_own {ns : String} {o : Object} {key : Key} (hown : key ∈ c.ownKeys)
    (hkey : o.keyIn ns = key) (hdeployment : key.kind ≠ .deployment) : c.Wanted ns o := by
  subst hkey
  exact ⟨installed_of_own hown, Or.inl hown, fun h => absurd h hdeployment⟩

/-! ## The steps -/

/-- The namespace is created when it cannot be read. -/
theorem sends_createNamespace (ctx : InstallerContext) :
    Sends c.Writes (c.createNamespace ctx) := by
  have hown : ⟨.namespace_, "", c.commonOptions.namespace_⟩ ∈ c.ownKeys := by
    simp [ownKeys]
  refine (sends_try (by trivial)).bind fun ans => ?_
  cases ans with
  | ok _ => exact sends_pure _
  -- any error counts as an absence here
  | error err =>
    refine sends_filtered fun _ ns hns => sends_ite ?_ (sends_pure _)
    refine (sends_call (Wanted.edited ?_ hns)).bind fun _ => sends_pure _
    exact wanted_of_own hown rfl (by simp)

/-- The pull secret is created when one is asked for and none can be read. -/
theorem sends_createPullSecretIfRequired (ctx : InstallerContext) :
    Sends c.Writes (c.createPullSecretIfRequired rt ctx) := by
  have hown : ⟨.secret, c.commonOptions.namespace_, "compose"⟩ ∈ c.ownKeys := by
    simp [ownKeys]
  refine sends_ite (sends_pure _) ?_
  refine (sends_try (by trivial)).bind fun ans => ?_
  cases ans with
  | ok _ => exact sends_pure _
  | error err =>
    refine Sends.bind ?_ fun bin => ?_
    · -- text that cannot be decoded ends the step, without a request
      cases rt.decodeBase64 c.commonOptions.pullSecret <;> trivial
    · refine sends_filtered fun _ secret hsecret => sends_ite ?_ (sends_pure _)
      refine (sends_call (Wanted.edited ?_ hsecret)).bind fun _ => sends_pure _
      exact wanted_of_own hown rfl (by simp)

/-- The service account is created when it cannot be read. -/
theorem sends_createServiceAccount (ctx : InstallerContext) :
    Sends c.Writes (c.createServiceAccount ctx) := by
  have hown : ⟨.serviceAccount, c.commonOptions.namespace_, "compose"⟩ ∈ c.ownKeys := by
    simp [ownKeys]
  refine (sends_try (by trivial)).bind fun ans => ?_
  cases ans with
  | ok _ => exact sends_pure _
  | error err =>
    refine sends_filtered fun _ sa hsa => sends_ite ?_ (sends_pure _)
    refine (sends_call (Wanted.edited ?_ hsa)).bind fun _ => sends_pure _
    exact wanted_of_own hown rfl (by simp)

/-- A default cluster role is updated, or created when it is not found. -/
theorem sends_createDefaultClusterRole {r : Object} (hr : r ∈ defaultClusterRoles) :
    Sends c.Writes (c.createDefaultClusterRole r) := by
  have hown : r.key ∈ c.ownKeys := List.mem_append_right _ (List.mem_map_of_mem hr)
  -- cluster roles have no namespace, so that the key is that of the object itself
  have hrole : r.content.kind = .clusterRole ∧ r.objectMeta.namespace_ = "" := by
    revert r
    simp [defaultClusterRoles, viewStackRole, editStackRole, adminStackRole, aggregatedRole,
      newObject, Content.kind]
  have hkey : r.keyIn "" = r.key := by rw [Object.key, hrole.2]
  have hdeployment : r.key.kind ≠ .deployment := fun h => nomatch hrole.1.symm.trans h
  refine (sends_try (by trivial)).bind fun ans => ?_
  cases ans with
  -- the stored role is overwritten under its version
  | ok existing =>
    refine sends_filtered fun _ r' hr' => sends_ite ?_ (sends_pure _)
    refine sends_call (Wanted.edited (Wanted.congr ?_ (r.alike_over existing.1)) hr')
    exact wanted_of_own hown hkey hdeployment
  | error err =>
    -- other errors than NotFound are returned
    refine sends_ite ?_ (sends_throw _)
    refine sends_filtered fun _ r' hr' => sends_ite ?_ (sends_pure _)
    refine (sends_call (Wanted.edited ?_ hr')).bind fun _ => sends_pure _
    exact wanted_of_own hown hkey hdeployment

theorem sends_createDefaultClusterRoles (ctx : InstallerContext) :
    Sends c.Writes (c.createDefaultClusterRoles ctx) :=
  Sends.bind (sends_foldlM fun _ _ hr => sends_createDefaultClusterRole hr) fun _ => sends_pure _

theorem sends_createSAClusterRole : Sends c.Writes c.createSAClusterRole := by
  have hown : ⟨.clusterRole, "", "compose-service"⟩ ∈ c.ownKeys := by
    simp [ownKeys]
  refine (sends_try (by trivial)).bind fun ans => ?_
  cases ans with
  | ok role =>
    refine sends_filtered fun _ role' hrole' => sends_ite ?_ (sends_pure _)
    refine sends_call (Wanted.edited (wanted_of_own hown ?_ (by simp)) hrole')
    -- the role keeps the name under which it was found
    exact congrArg (Key.mk .clusterRole "") (congrArg Key.name role.2)
  | error err =>
    refine sends_ite ?_ (sends_throw _)
    refine sends_filtered fun _ role' hrole' => sends_ite ?_ (sends_pure _)
    refine (sends_call (Wanted.edited ?_ hrole')).bind fun _ => sends_pure _
    exact wanted_of_own hown rfl (by simp)

/-- The binding that is sent is the one that is required, whether it was found or not. -/
theorem wanted_wantedBinding {kind : Kind} {content : RoleRef → List Subject → Content}
    (hkind : ∀ roleRef subjects, (content roleRef subjects).kind = kind)
    (hdeployment : kind ≠ .deployment) {req : RoleBindingRequirement}
    (hown : ⟨kind, req.namespace_, req.name⟩ ∈ c.ownKeys) (subjects : List Subject)
    (found : Answer (.get ⟨kind, req.namespace_, req.name⟩)) :
    c.Wanted req.namespace_ (c.wantedBinding content subjects req found).2 := by
  cases found with
  -- a binding that was found keeps its metadata
  | ok rb =>
    refine wanted_of_own hown ?_ hdeployment
    show Key.mk (content req.roleRef subjects).kind req.namespace_ rb.1.objectMeta.name = _
    rw [hkind, show rb.1.objectMeta.name = req.name from congrArg Key.name rb.2]
  | error err =>
    unfold wantedBinding
    dsimp only
    split
    · refine wanted_of_own hown ?_ hdeployment
      exact congrArg (Key.mk · req.namespace_ req.name) (hkind _ _)
    · -- without a name
      have hkind' := hkind ⟨"", "", ""⟩ []
      refine ⟨?_, Or.inr rfl, fun h => absurd (hkind'.symm.trans h) hdeployment⟩
      exact hkind' ▸ installed_of_own hown

/-- One binding of the service account. -/
theorem sends_createSARoleBinding {kind : Kind} {content : RoleRef → List Subject → Content}
    (hkind : ∀ roleRef subjects, (content roleRef subjects).kind = kind)
    (hdeployment : kind ≠ .deployment) {req : RoleBindingRequirement}
    (hown : ⟨kind, req.namespace_, req.name⟩ ∈ c.ownKeys) (subjects : List Subject) :
    Sends c.Writes (c.createSARoleBinding kind content subjects req) := by
  refine (sends_try (by trivial)).bind fun found => ?_
  have hwanted := wanted_wantedBinding hkind hdeployment hown subjects found
  refine sends_filtered fun _ rb hrb => sends_ite (sends_ite ?_ ?_) (sends_pure _)
  · exact (sends_call (hwanted.edited hrb)).bind fun _ => sends_pure _
  · exact sends_call (hwanted.edited hrb)

/-- The role of the service account and all of its bindings. -/
theorem sends_createClusterRoleBindings (ctx : InstallerContext) :
    Sends c.Writes (c.createClusterRoleBindings ctx) := by
  refine sends_createSAClusterRole.bind fun _ => Sends.bind ?_ fun _ => sends_pure _
  refine Sends.bind (sends_foldlM fun _ req hreq => ?_) fun _ => sends_foldlM fun _ req hreq => ?_
  · -- the bindings in namespaces
    refine sends_createSARoleBinding ?_ ?_ ?_ _
    · exact fun _ _ => rfl
    · exact fun h => nomatch h
    · refine List.mem_append_left _ (List.mem_append_left _ (List.mem_append_right _ ?_))
      exact List.mem_map.mpr ⟨req, hreq, rfl⟩
  · -- the bindings for the whole cluster
    refine sends_createSARoleBinding ?_ ?_ ?_ _
    · exact fun _ _ => rfl
    · exact fun h => nomatch h
    · refine List.mem_append_left _ (List.mem_append_right _ ?_)
      exact List.mem_map.mpr ⟨req, hreq, rfl⟩

/-- The secrets with certificates differ in their names and data only. -/
theorem sends_createSecret {name : String}
    (hown : ⟨.secret, c.commonOptions.namespace_, name⟩ ∈ c.ownKeys)
    (add : Map Bytes → Map Bytes) : Sends c.Writes (c.createSecret name add) := by
  refine (sends_try (by trivial)).bind fun ans => ?_
  cases ans with
  | ok secret =>
    refine sends_filtered fun _ secret' hsecret' => sends_ite ?_ (sends_pure _)
    refine sends_call (Wanted.edited (wanted_of_own hown ?_ (by simp)) hsecret')
    -- the object was found among the secrets
    have hkind : secret.1.content.kind = .secret := congrArg Key.kind secret.2
    refine congrArg (Key.mk · c.commonOptions.namespace_ name) ?_
    dsimp only
    split
    · rfl
    · exact hkind
  | error err =>
    refine sends_ite ?_ (sends_throw _)
    refine sends_filtered fun _ secret' hsecret' => sends_ite ?_ (sends_pure _)
    refine (sends_call (Wanted.edited ?_ hsecret')).bind fun _ => sends_pure _
    exact wanted_of_own hown rfl (by simp)

theorem sends_createEtcdSecret (ctx : InstallerContext) :
    Sends c.Writes (c.createEtcdSecret ctx) := by
  unfold createEtcdSecret
  split
  · exact sends_pure _
  · exact (sends_createSecret (by simp [ownKeys]) _).bind fun _ => sends_pure _

theorem sends_createNetworkSecret (ctx : InstallerContext) :
    Sends c.Writes (c.createNetworkSecret ctx) := by
  unfold createNetworkSecret
  split
  · exact sends_pure _
  · exact (sends_createSecret (by simp [ownKeys]) _).bind fun _ => sends_pure _

/-- A deployment with one of the two names is one of the installer's. -/
theorem Labelled.wanted {deploy : Object} (h : c.Labelled deploy)
    (hkind : deploy.content.kind = .deployment) : c.Wanted c.commonOptions.namespace_ deploy := by
  have hkey : deploy.keyIn c.commonOptions.namespace_ =
      ⟨.deployment, c.commonOptions.namespace_, deploy.objectMeta.name⟩ :=
    congrArg (Key.mk · _ _) hkind
  have hown : deploy.keyIn c.commonOptions.namespace_ ∈ c.ownKeys := by
    rw [hkey]
    -- both names are among the keys that the installer owns
    cases h with
    | api hname _ _ =>
      rw [hname]
      simp [ownKeys]
    | controller hname _ =>
      rw [hname]
      simp [ownKeys]
  exact ⟨installed_of_own hown, Or.inl hown, fun _ => h⟩

/-- A deployment is updated or created, with the debug settings if they are asked for. -/
theorem sends_writeDeployment {deploy : Object} (hkind : deploy.content.kind = .deployment)
    (hlabelled : c.Labelled deploy) (name : String) :
    Sends c.Writes (c.writeDeployment deploy name) := by
  refine sends_filtered fun _ deploy' hdeploy' => sends_ite ?_ (sends_pure _)
  have hmay : c.MayWrite c.commonOptions.namespace_ (c.withDebug deploy'.1) :=
    ((hlabelled.wanted hkind).edited hdeploy').congr (deploy'.1.alike_withDebug c)
  refine (sends_try (by trivial)).bind fun ans => ?_
  cases ans with
  | ok d => exact sends_call (hmay.congr (Object.alike_over _ d.1))
  | error err => exact (sends_call hmay).bind fun _ => sends_pure _

/-- The service of the API server. -/
theorem sends_createAPIServerService (port : Int32) :
    Sends c.Writes (c.createAPIServerService port) := by
  have hown : ⟨.service, c.commonOptions.namespace_, "compose-api"⟩ ∈ c.ownKeys := by
    simp [ownKeys]
  have hwanted : c.Wanted c.commonOptions.namespace_ (c.apiServerService port) :=
    wanted_of_own hown rfl (by simp)
  refine sends_filtered fun _ svc hsvc => sends_ite ?_ (sends_pure _)
  have hmay := hwanted.edited hsvc
  refine (sends_try (by trivial)).bind fun ans => ?_
  cases ans with
  -- the address of the service that is there is taken over
  | ok s =>
    have hover := hmay.congr (svc.1.alike_over s.1)
    exact sends_call (hover.congr (Object.alike_withClusterIPOf _ s.1))
  | error err => exact (sends_call hmay).bind fun _ => sends_pure _

/-- A service for remote debugging. -/
theorem sends_createDebugService {name : String}
    (hown : ⟨.service, c.commonOptions.namespace_, name⟩ ∈ c.ownKeys) (port : Int32)
    (labels : MapRef String) : Sends c.Writes (c.createDebugService name port labels) := by
  refine (sends_try (by trivial)).bind fun ans => ?_
  cases ans with
  -- what was read under the key has its kind and name
  | ok svc =>
    refine sends_call (Wanted.mayWrite (wanted_of_own hown ?_ (by simp)))
    have hkind : svc.1.content.kind = .service := congrArg Key.kind svc.2
    have hname : svc.1.objectMeta.name = name := congrArg Key.name svc.2
    rw [Object.keyIn, Object.kind_mapService, hkind]
    exact congrArg (Key.mk .service _) hname
  | error err =>
    refine (sends_call (Wanted.mayWrite ?_)).bind fun _ => sends_pure _
    exact wanted_of_own hown rfl (by simp)

theorem sends_createDebugServiceIfRequired {name : String}
    (hown : ⟨.service, c.commonOptions.namespace_, name⟩ ∈ c.ownKeys) (port : Int32)
    (labels : MapRef String) :
    Sends c.Writes (c.createDebugServiceIfRequired name port labels) :=
  sends_ite (sends_createDebugService hown port labels) (sends_pure _)

theorem kind_apiServerDeployment (ctx : InstallerContext) :
    (c.apiServerDeployment rt ctx).content.kind = .deployment := by
  unfold apiServerDeployment applyCustomTLSHash
  dsimp only
  split
  · rfl
  · rfl

/-- An annotation that was set is found. -/
theorem get?_annotate (annotations : MapRef String) (key value : String) :
    (annotate annotations key value).get? key = some value :=
  Finmap.lookup_insert _

/-- The annotation is missing when there is no hash. -/
theorem labelled_apiServerDeployment (ctx : InstallerContext) :
    c.Labelled (c.apiServerDeployment rt ctx) := by
  unfold apiServerDeployment applyCustomTLSHash
  dsimp only
  split
  · -- without a hash there is no annotation, which reads as the empty hash
    next hhash => exact .api rfl rfl hhash.symm
  · refine .api rfl rfl ?_
    show ((annotate none customTLSHashAnnotationName c.customTLSHash).get?
      customTLSHashAnnotationName).getD "" = _
    rw [get?_annotate]
    rfl

/-- The services that the API server needs beside its deployment. -/
theorem sends_apiServerServices (ctx : InstallerContext) : Sends c.Writes (do
    c.createAPIServerService c.apiServerPort
    c.createDebugServiceIfRequired "compose-api-server-remote-debug" apiServerDebugPort c.apiLabels
    pure ctx) := by
  refine (sends_createAPIServerService _).bind fun _ => ?_
  exact (sends_createDebugServiceIfRequired (by simp [ownKeys]) _ _).bind fun _ => sends_pure _

/-- The API server: its deployment and its services. -/
theorem sends_createAPIServer (ctx : InstallerContext) :
    Sends c.Writes (c.createAPIServer rt ctx) :=
  (sends_writeDeployment (kind_apiServerDeployment ctx) (labelled_apiServerDeployment ctx) _).bind
    fun _ => sends_apiServerServices ctx

/-- The deployment of the controller has the labels that `isInstalled` looks at. -/
theorem labelled_controllerDeployment (ctx : InstallerContext) :
    c.Labelled (c.controllerDeployment rt ctx) := .controller rfl rfl

theorem sends_controllerService (ctx : InstallerContext) : Sends c.Writes (do
    c.createDebugServiceIfRequired "compose-controller-remote-debug" controllerDebugPort c.labels
    pure ctx) :=
  (sends_createDebugServiceIfRequired (by simp [ownKeys]) _ _).bind fun _ => sends_pure _

/-- The controller: its deployment, and the service that debugs it. -/
theorem sends_createController (ctx : InstallerContext) :
    Sends c.Writes (c.createController rt ctx) :=
  (sends_writeDeployment rfl (labelled_controllerDeployment ctx) _).bind
    fun _ => sends_controllerService ctx

/-- **Every step of an installation stays within its footprint.** -/
theorem sends_step {step : InstallStep} (h : step ∈ c.steps rt) (ctx : InstallerContext) :
    Sends c.Writes (step ctx) := by
  have hmem : step = c.createNamespace ∨ step = c.createPullSecretIfRequired rt ∨
      step = c.createServiceAccount ∨ step = c.createClusterRoleBindings ∨
      step = c.createEtcdSecret ∨ step = c.createNetworkSecret ∨ step = c.createAPIServer rt ∨
      step = c.createController rt ∨ step = c.createDefaultClusterRoles := by
    -- the three lists of steps are made of these nine
    unfold steps at h
    dsimp only at h
    split at h
    · simp only [List.mem_append, List.mem_cons, List.not_mem_nil, or_false] at h
      tauto
    · split at h
      · simp only [List.mem_append, List.mem_cons, List.not_mem_nil, or_false] at h
        tauto
      · simp only [List.mem_append, List.mem_cons, List.not_mem_nil, or_false] at h
        tauto
  rcases hmem with rfl | rfl | rfl | rfl | rfl | rfl | rfl | rfl | rfl
  · exact sends_createNamespace ctx
  · exact sends_createPullSecretIfRequired ctx
  · exact sends_createServiceAccount ctx
  · exact sends_createClusterRoleBindings ctx
  · exact sends_createEtcdSecret ctx
  · exact sends_createNetworkSecret ctx
  · exact sends_createAPIServer ctx
  · exact sends_createController ctx
  · exact sends_createDefaultClusterRoles ctx

/-- And so do the steps together. -/
theorem sends_takeSteps : Sends c.Writes (c.takeSteps rt) :=
  Sends.bind (sends_foldlM fun ctx _ hstep => sends_step hstep ctx) fun _ => sends_pure _

end Installer

/-! ## The installation -/

/-- To look at what is installed is to read. -/
theorem sends_isInstalled : Sends Request.Reads isInstalled := by
  refine (sends_call (by trivial)).bind fun _ => ?_
  refine Sends.bind ?_ fun isCrdPresent => ?_
  · refine (sends_try (by trivial)).bind fun ans => ?_
    cases ans with
    | ok crd => exact sends_pure _
    | error err => exact sends_ite (sends_pure _) (sends_throw _)
  · exact (sends_call (by trivial)).bind fun apps => sends_pure _

/-- Options are checked without a request. -/
theorem sends_validateOptions {P : Request → Prop} (c : Installer) :
    Sends P (ExceptT.mk (pure c.validateOptions) : Api Unit) := by
  cases c.validateOptions <;> trivial

/-- An installation reads, removes an older one, and writes its own objects. -/
theorem Installer.sends_install {P : Request → Prop} {c : Installer}
    (hreads : ∀ r : Request, r.Reads → P r) (hwrites : ∀ r, c.Writes r → P r)
    (hremoves : ∀ r : Request, r.Removes false → P r) (rt : InstallRuntime) :
    Sends P (c.install rt) := by
  have hsteps : Sends P (c.takeSteps rt) := sends_takeSteps.mono hwrites
  refine (sends_isInstalled.mono hreads).bind fun installStatus => ?_
  refine (sends_validateOptions c).bind fun _ => sends_ite (sends_ite (sends_pure _) ?_) hsteps
  refine ((sends_uninstall installStatus.namespace_ false).mono hremoves).bind fun _ => ?_
  exact (sends_call (hreads _ (by trivial))).bind fun _ => hsteps

theorem sends_connect : Sends Request.Reads connect := by
  refine (sends_call (by trivial)).bind fun _ => ?_
  refine (sends_call (by trivial)).bind fun _ => ?_
  refine (sends_call (by trivial)).bind fun _ => ?_
  refine (sends_call (by trivial)).bind fun _ => ?_
  refine (sends_call (by trivial)).bind fun _ => ?_
  exact sends_call trivial

theorem do_eq (rt : InstallRuntime) (options : List InstallerOption) :
    do_ rt options = connect >>= fun _ => (configured rt options).install rt := by
  rw [do_, newInstaller, bind_assoc]
  simp only [pure_bind]

/-- **The footprint of `Do`.** -/
theorem sends_do {P : Request → Prop} (hinstalls : ∀ r : Request, r.Installs → P r)
    (hremoves : ∀ r : Request, r.Removes false → P r) (rt : InstallRuntime)
    (options : List InstallerOption) : Sends P (do_ rt options) := by
  rw [do_eq]
  refine (sends_connect.mono fun r h => hinstalls r h.installs).bind fun _ => ?_
  exact Installer.sends_install (fun r h => hinstalls r h.installs)
    (fun r h => hinstalls r h.installs) hremoves rt

/-- An installation of the controller alone never uninstalls anything. -/
theorem sends_do_controllerOnly {rt : InstallRuntime} {options : List InstallerOption}
    (h : (configured rt options).controllerOnly = true) :
    Sends Request.Installs (do_ rt options) := by
  rw [do_eq]
  refine (sends_connect.mono fun _ h => h.installs).bind fun _ => ?_
  refine (sends_isInstalled.mono fun _ h => h.installs).bind fun installStatus => ?_
  refine (sends_validateOptions _).bind fun _ => ?_
  rw [h, Bool.not_true, Bool.and_false]
  exact Installer.sends_takeSteps.mono fun _ h => h.installs

end ComposeKube.Install

import ComposeKube.Install.Cluster

/-!
# Uninstallation

`uninstall.go`, as programs that talk to the API server. What is deleted is found by the
label `com.docker.fry`, in the namespace of the installation and among the cluster-wide
objects. The definition of the stacks has no label, and is deleted by its name.

* `sends_uninstall` — what is sent is a deletion of such an object, or changes nothing.
-/

namespace ComposeKube.Install

open Go Client

/-- `uninstallErrorFilter` of the error of a request. -/
def ignoringNotFound (r : Request) : Api Unit := do
  match ← try_ r with
  | .ok _ => pure ()
  | .error err => if err.isNotFound then pure () else throw err

/-- The services of the installation. The list is empty when it is not found. -/
def listedServices (ns : String) : Api (List Object) := do
  match ← try_ (.list .service (some ns) true []) with
  | .ok page => pure page.items
  | .error err => if err.isNotFound then pure [] else throw err

/-- `uninstallCore`. -/
def uninstallCore (ns : String) : Api Unit := do
  call .newForConfig
  ignoringNotFound (.deleteCollection .secret ns)
  let svcs ← listedServices ns
  svcs.foldlM (fun _ svc => ignoringNotFound (.delete ⟨.service, ns, svc.objectMeta.name⟩)) ()
  ignoringNotFound (.deleteCollection .serviceAccount ns)

/-- `uninstallApps`. -/
def uninstallApps (ns : String) : Api Unit := do
  call .newForConfig
  ignoringNotFound (.deleteCollection .deployment ns)

/-- `uninstallRbac`. -/
def uninstallRbac : Api Unit := do
  call .newForConfig
  ignoringNotFound (.deleteCollection .clusterRoleBinding "")
  ignoringNotFound (.deleteCollection .clusterRole "")
  ignoringNotFound (.deleteCollection .roleBinding "kube-system")

def stacksCRD : Key := ⟨.customResourceDefinition, "", "stacks.compose.docker.com"⟩

/-- Lists of all pages; the passes go on with the token that they are given. -/
def collectPages (kind : Kind) (fuel : Nat) : Api (List Object) :=
  iterate (fun (acc : List Object × List Object) => do
    let page ← call (.list kind none false acc.2)
    let items := acc.1 ++ page.items
    if page.continue_.isEmpty then pure (.inr items) else pure (.inl (items, page.continue_)))
    fuel ([], [])

/-- `orphanAllStacks`. -/
def orphanAllStacks (fuel : Nat) : Api Unit := do
  let toDelete ← collectPages .stack fuel
  toDelete.foldlM (fun _ stack =>
    call (.delete ⟨.stack, stack.objectMeta.namespace_, stack.objectMeta.name⟩)) ()
  -- wait for all stacks to be effectively deleted
  iterate (fun (_ : Unit) => do
    let list ← call (.list .stack none false [])
    if list.items.isEmpty then pure (.inr ()) else pure (.inl ())) fuel ()

/-- `UninstallCRD`. -/
def uninstallCRD (fuel : Nat) : Api Unit := do
  call .newForConfig
  match ← try_ (.get stacksCRD) with
  | .error err => if err.isNotFound then pure () else throw err
  | .ok _ =>
    call .newForConfig
    orphanAllStacks fuel
    ignoringNotFound (.delete stacksCRD)
    -- wait for crd removal
    iterate (fun (_ : Unit) => do
      match ← try_ (.get stacksCRD) with
      | .error err => if err.isNotFound then pure (.inr ()) else throw err
      | .ok _ => pure (.inl ())) fuel ()

/-- `apisvc.Labels[fryKey] == composeAPIServerFry`. -/
def Object.isComposeAPIService (o : Object) : Bool :=
  o.objectMeta.labels.get? fryKey = some composeAPIServerFry

/-- `Uninstall`. -/
def uninstall (ns : String) (keepCRD : Bool) : Api Unit := do
  call .newForConfig
  uninstallApps ns
  if !keepCRD then ignoringNotFound (.delete stacksCRD)
  uninstallRbac
  call .newForConfig
  let apisvcs ← call (.list .apiService none false [])
  (apisvcs.items.filter Object.isComposeAPIService).foldlM
    (fun _ apisvc => call (.delete ⟨.apiService, "", apisvc.objectMeta.name⟩)) ()
  uninstallCore ns

/-! ## What is sent -/

/-- The kinds of the objects that the installer writes. -/
def Kind.installed : Kind → Bool
  | apiService => false
  | customResourceDefinition => false
  | stack => false
  | stackBackup => false
  | _ => true

/-- A request of `Uninstall`. -/
def Request.Removes (keepCRD : Bool) : Request → Prop
  | create _ _ _ => False
  | update _ _ => False
  | putCollection _ _ => False
  | delete key => key.kind = .service ∨ key.kind = .apiService ∨ keepCRD = false ∧ key = stacksCRD
  | deleteCollection kind _ => kind.installed = true
  | _ => True

/-- One request, whatever its answer is taken for. -/
theorem sends_ignoringNotFound {P : Request → Prop} {r : Request} (h : P r) :
    Sends P (ignoringNotFound r) := by
  refine (sends_try h).bind fun ans => ?_
  cases ans with
  | ok _ => exact sends_pure _
  | error err => exact sends_ite (sends_pure _) (sends_throw _)

/-- One list. -/
theorem sends_listedServices {P : Request → Prop} (ns : String)
    (h : P (.list .service (some ns) true [])) : Sends P (listedServices ns) := by
  refine (sends_try h).bind fun ans => ?_
  cases ans with
  | ok page => exact sends_pure _
  | error err => exact sends_ite (sends_pure _) (sends_throw _)

/-- The secrets, the services and the service accounts. -/
theorem sends_uninstallCore (keepCRD : Bool) (ns : String) :
    Sends (Request.Removes keepCRD) (uninstallCore ns) := by
  refine (sends_call (by trivial)).bind fun _ => ?_
  refine (sends_ignoringNotFound (by rfl)).bind fun _ => ?_
  refine (sends_listedServices ns (by trivial)).bind fun svcs => ?_
  refine (sends_foldlM fun _ svc _ => sends_ignoringNotFound (by exact Or.inl rfl)).bind fun _ => ?_
  exact sends_ignoringNotFound rfl

/-- The roles and their bindings. -/
theorem sends_uninstallRbac (keepCRD : Bool) :
    Sends (Request.Removes keepCRD) uninstallRbac := by
  refine (sends_call (by trivial)).bind fun _ => ?_
  refine (sends_ignoringNotFound (by rfl)).bind fun _ => ?_
  refine (sends_ignoringNotFound (by rfl)).bind fun _ => ?_
  exact sends_ignoringNotFound rfl

/-- **What an uninstallation may send**; the definition of the stacks only goes if it is not kept.
-/
theorem sends_uninstall (ns : String) (keepCRD : Bool) :
    Sends (Request.Removes keepCRD) (uninstall ns keepCRD) := by
  refine (sends_call (by trivial)).bind fun _ => ?_
  refine Sends.bind ((sends_call (by trivial)).bind fun _ => sends_ignoringNotFound (by rfl))
    fun _ => ?_
  -- what follows is the same in both cases
  have hrest : Sends (Request.Removes keepCRD) (do
      uninstallRbac
      call .newForConfig
      let apisvcs ← call (.list .apiService none false [])
      (apisvcs.items.filter Object.isComposeAPIService).foldlM
        (fun _ apisvc => call (.delete ⟨.apiService, "", apisvc.objectMeta.name⟩)) ()
      uninstallCore ns) := by
    refine (sends_uninstallRbac keepCRD).bind fun _ => ?_
    refine (sends_call (by trivial)).bind fun _ => ?_
    refine (sends_call (by trivial)).bind fun apisvcs => ?_
    refine Sends.bind (sends_foldlM fun _ _ _ => ?_) fun _ => sends_uninstallCore keepCRD ns
    exact sends_call (Or.inr (Or.inl rfl))
  cases keepCRD with
  | true => exact hrest
  | false =>
    exact (sends_ignoringNotFound (by exact Or.inr (Or.inr ⟨rfl, rfl⟩))).bind fun _ => hrest

/-- The pages are read. -/
theorem sends_collectPages {P : Request → Prop} (hreads : ∀ r : Request, r.Reads → P r)
    (kind : Kind) (fuel : Nat) : Sends P (collectPages kind fuel) := by
  refine sends_iterate (fun acc => ?_) fuel _
  refine (sends_call (hreads _ (by trivial))).bind fun page => ?_
  exact sends_ite (sends_pure _) (sends_pure _)

/-- Each stack that was listed is deleted, its children being orphaned. -/
theorem sends_orphanAllStacks {P : Request → Prop} (hreads : ∀ r : Request, r.Reads → P r)
    (hstack : ∀ ns name, P (.delete ⟨.stack, ns, name⟩)) (fuel : Nat) :
    Sends P (orphanAllStacks fuel) := by
  refine (sends_collectPages hreads .stack fuel).bind fun toDelete => ?_
  refine Sends.bind (sends_foldlM fun _ stack _ => ?_) fun _ => ?_
  · exact sends_call (hstack _ _)
  · refine sends_iterate (fun _ => ?_) fuel ()
    refine (sends_call (hreads _ (by trivial))).bind fun list => ?_
    exact sends_ite (sends_pure _) (sends_pure _)

/-- The removal of the definition, with the wait for its end. -/
theorem sends_uninstallCRD {P : Request → Prop} (hreads : ∀ r : Request, r.Reads → P r)
    (hstack : ∀ ns name, P (.delete ⟨.stack, ns, name⟩)) (hcrd : P (.delete stacksCRD))
    (fuel : Nat) : Sends P (uninstallCRD fuel) := by
  refine (sends_call (hreads _ (by trivial))).bind fun _ => ?_
  refine (sends_try (hreads _ (by trivial))).bind fun ans => ?_
  cases ans with
  -- without a definition there is nothing to do
  | error err => exact sends_ite (sends_pure _) (sends_throw _)
  | ok crd =>
    refine (sends_call (hreads _ (by trivial))).bind fun _ => ?_
    refine (sends_orphanAllStacks hreads hstack fuel).bind fun _ => ?_
    refine (sends_ignoringNotFound hcrd).bind fun _ => sends_iterate (fun _ => ?_) fuel ()
    refine (sends_try (hreads _ (by trivial))).bind fun ans => ?_
    cases ans with
    | error err => exact sends_ite (sends_pure _) (sends_throw _)
    | ok crd => exact sends_pure _

end ComposeKube.Install

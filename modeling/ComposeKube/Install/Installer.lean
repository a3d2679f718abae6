import ComposeKube.Install.Removal

/-!
# The installer

`installer.go`, `install.go` and `safe.go`: the options, the objects that the installer
makes, the steps in which it writes them, and how it finds out what is installed.

An installer is made from its options (`configured`). `install` looks for deployments with
the label of the installer. If they match what is asked for there is nothing to do;
otherwise everything is uninstalled first. Then the steps are taken, one after the other,
up to the first error.
-/

namespace ComposeKube.Install

open Go Client

/-! ## Options -/

def imageTagKey : String := "com.docker.image-tag"

def namespaceKey : String := "com.docker.deploy-namespace"

def defaultServiceTypeKey : String := "com.docker.default-service-type"

def customTLSHashAnnotationName : String := "com.docker.custom-tls-hash"

def composeGroupName : String := "compose.docker.com"

def controllerDebugPort : Int32 := 40000

def apiServerDebugPort : Int32 := 40001

/-- What is taken from the libraries and from the environment of the process. -/
structure InstallRuntime where
  /-- the hexadecimal form of `sha1.Sum` -/
  sha1 : Bytes → String
  decodeBase64 : String → Except Err Bytes
  imagePrefix : String

structure OptionsCommon where
  namespace_ : String
  tag : String
  pullSecret : String
  /-- the `String` of the duration -/
  reconciliationInterval : String
  defaultServiceType : String
  apiServerAffinity : Option Affinity
  controllerAffinity : Option Affinity
  healthzCheckPort : Int
  pullPolicy : PullPolicy
  apiServerReplicas : Option Int32

structure UnsafeOptions where
  common : OptionsCommon
  coverage : Bool
  debug : Bool

structure TLSBundle where
  ca : Slice UInt8
  cert : Slice UInt8
  key : Slice UInt8

structure EtcdOptions where
  servers : String
  clientTLSBundle : Option TLSBundle

structure NetworkOptions where
  shouldUseHost : Bool
  customTLSBundle : Option TLSBundle
  port : Int32

structure SafeOptions where
  common : OptionsCommon
  etcd : EtcdOptions
  network : NetworkOptions

structure Status where
  isInstalled : Bool
  tag : String
  isCrdPresent : Bool
  namespace_ : String
  controllerImage : String
  apiServiceImage : String
  defaultServiceType : String
  controllerLabels : MapRef String
  apiServiceLabels : MapRef String
  apiServiceAnnotations : MapRef String

/-- What has been made of an object in place: it is of the same type. -/
abbrev Edited (o : Object) := { o' : Object // o'.content.kind = o.content.kind }

/-- `RuntimeObjectFilter`: whether the object is to be written, and what the filter has
made of it. -/
abbrev RuntimeObjectFilter := (o : Object) → Except Err (Bool × Edited o)

structure Installer where
  commonOptions : OptionsCommon
  etcdOptions : Option EtcdOptions
  networkOptions : Option NetworkOptions
  enableCoverage : Bool
  labels : MapRef String
  apiLabels : MapRef String
  disableController : Bool
  controllerOnly : Bool
  controllerImageOverride : String
  apiServerImageOverride : String
  objectFilter : List RuntimeObjectFilter
  customMatch : Option (Status → Bool)
  customTLSHash : String
  debugImages : Bool

/-- The zero value. -/
def Installer.zero : Installer where
  commonOptions :=
    { namespace_ := "", tag := "", pullSecret := "", reconciliationInterval := "0s",
      defaultServiceType := "", apiServerAffinity := none, controllerAffinity := none,
      healthzCheckPort := 0, pullPolicy := .unset, apiServerReplicas := none }
  etcdOptions := none
  networkOptions := none
  enableCoverage := false
  labels := none
  apiLabels := none
  disableController := false
  controllerOnly := false
  controllerImageOverride := ""
  apiServerImageOverride := ""
  objectFilter := []
  customMatch := none
  customTLSHash := ""
  debugImages := false

abbrev InstallerOption := Installer → Installer

def withObjectFilter (filter : RuntimeObjectFilter) : InstallerOption := fun i =>
  { i with objectFilter := i.objectFilter ++ [filter] }

def withoutController : InstallerOption := fun i => { i with disableController := true }

def withControllerImage (image : String) : InstallerOption := fun i =>
  { i with controllerImageOverride := image }

def withAPIServerImage (image : String) : InstallerOption := fun i =>
  { i with apiServerImageOverride := image }

def withControllerOnly : InstallerOption := fun i => { i with controllerOnly := true }

def withUnsafe (o : UnsafeOptions) : InstallerOption := fun i =>
  { i with commonOptions := o.common, enableCoverage := o.coverage, debugImages := o.debug }

def withSafe (o : SafeOptions) : InstallerOption := fun i =>
  { i with commonOptions := o.common, etcdOptions := some o.etcd, networkOptions := some o.network }

def withCustomStatusMatch (match_ : Status → Bool) : InstallerOption := fun i =>
  { i with customMatch := some match_ }

section Configured

variable (rt : InstallRuntime)

/-- `tagForCustomImages`. -/
def tagForCustomImages (controllerImage apiServerImage : String) : String :=
  rt.sha1 (controllerImage ++ " " ++ apiServerImage).toUTF8.toList

/-- The tag that `newInstaller` settles on. -/
def settledTag (i : Installer) : String :=
  -- debug images are not told apart by their tags
  if i.debugImages then "debug"
  else if i.controllerImageOverride ≠ "" ∧ i.apiServerImageOverride ≠ "" then
    tagForCustomImages rt i.controllerImageOverride i.apiServerImageOverride
  else i.commonOptions.tag

/-- The hash of a custom bundle. -/
def tlsHash (i : Installer) : String :=
  match i.networkOptions.bind (·.customTLSBundle) with
  | none => i.customTLSHash
  | some bundle => rt.sha1 (bundle.ca.elems ++ bundle.cert.elems ++ bundle.key.elems)

/-- What `newInstaller` makes of the options, before it makes its clients. -/
def configured (options : List InstallerOption) : Installer :=
  let i := options.foldl (fun i o => o i) .zero
  let tag := settledTag rt i
  { i with
    commonOptions := { i.commonOptions with tag := tag }
    labels := some (((((∅ : Map String).insert fryKey composeFry).insert imageTagKey tag).insert
      namespaceKey i.commonOptions.namespace_).insert
      defaultServiceTypeKey i.commonOptions.defaultServiceType)
    apiLabels := some ((((∅ : Map String).insert fryKey composeAPIServerFry).insert
      imageTagKey tag).insert namespaceKey i.commonOptions.namespace_)
    customTLSHash := tlsHash rt i }

/-- The clients of `newInstaller`, and its look at the version of the server. -/
def connect : Api Unit := do
  call .newForConfig -- core
  call .newForConfig -- rbac
  call .newForConfig -- apps
  call .newForConfig -- aggregator
  call .newForConfig -- discovery
  call .serverVersion

/-- `newInstaller`. -/
def newInstaller (options : List InstallerOption) : Api Installer := do
  connect
  pure (configured rt options)

end Configured

/-! ## Writing objects -/

/-- `filter`: the filters are asked one after the other, up to the first that refuses. -/
def filter : List RuntimeObjectFilter → (o : Object) → Except Err (Bool × Edited o)
  | [], o => .ok (true, ⟨o, rfl⟩)
  | f :: fs, o =>
    match f o with
    | .error err => .error err
    -- a refusal ends the loop; what the filters made of the object so far is returned
    | .ok (false, o') => .ok (false, o')
    | .ok (true, o') => (filter fs o'.1).map fun r => (r.1, ⟨r.2.1, r.2.2.trans o'.2⟩)

/-- `installerContext`. -/
structure InstallerContext where
  pullSecret : Option Object
  serviceAccount : Option Object

abbrev InstallStep := InstallerContext → Api InstallerContext

/-- An object with a name, a namespace and labels. -/
def newObject (name ns : String) (labels : MapRef String) (content : Content) : Object where
  objectMeta := { (default : ObjectMeta) with name := name, namespace_ := ns, labels := labels }
  content := content

/-- The object takes the place of one that is there. -/
def Object.over (o current : Object) : Object :=
  { o with objectMeta :=
      { o.objectMeta with resourceVersion := current.objectMeta.resourceVersion } }

namespace Installer

variable (rt : InstallRuntime) (c : Installer)

/-- The object, after the filters. -/
def filtered (o : Object) : Api (Bool × Edited o) := ExceptT.mk (pure (filter c.objectFilter o))

/-- `createNamespace`. -/
def createNamespace : InstallStep := fun ctx => do
  match ← try_ (.get ⟨.namespace_, "", c.commonOptions.namespace_⟩) with
  | .ok _ => pure ctx
  -- not only a missing namespace: any error leads here
  | .error _ =>
    let (shouldDo, ns) ← c.filtered (newObject c.commonOptions.namespace_ "" none .namespace_)
    if shouldDo then
      let _ ← call (.create "" "" ns.1)
      pure ctx
    else pure ctx

/-- `createPullSecretIfRequired`. -/
def createPullSecretIfRequired : InstallStep := fun ctx =>
  if c.commonOptions.pullSecret = "" then pure ctx
  else do
    match ← try_ (.get ⟨.secret, c.commonOptions.namespace_, "compose"⟩) with
    -- a secret that is there is used as it is
    | .ok secret => pure { ctx with pullSecret := some secret.1 }
    | .error _ =>
      let bin ← ExceptT.mk (pure (rt.decodeBase64 c.commonOptions.pullSecret))
      let (shouldDo, secret) ← c.filtered (newObject "compose" c.commonOptions.namespace_ c.labels
        (.secret (some ((∅ : Map Bytes).insert ".dockercfg" bin)) "kubernetes.io/dockercfg"))
      if shouldDo then
        let secret ← call (.create "" c.commonOptions.namespace_ secret.1)
        pure { ctx with pullSecret := some secret }
      -- refused by a filter, and referred to all the same
      else pure { ctx with pullSecret := some secret.1 }

/-- `createServiceAccount`. -/
def createServiceAccount : InstallStep := fun ctx => do
  match ← try_ (.get ⟨.serviceAccount, c.commonOptions.namespace_, "compose"⟩) with
  | .ok sa => pure { ctx with serviceAccount := some sa.1 }
  | .error _ =>
    let (shouldDo, sa) ← c.filtered
      (newObject "compose" c.commonOptions.namespace_ c.labels .serviceAccount)
    if shouldDo then
      let sa ← call (.create "" c.commonOptions.namespace_ sa.1)
      pure { ctx with serviceAccount := some sa }
    -- refused by a filter, and bound to the roles all the same
    else pure { ctx with serviceAccount := some sa.1 }

end Installer

/-! ## Roles -/

def composeRoleRules : List PolicyRule :=
  [⟨[""], ["users", "groups", "serviceaccounts"], [], ["impersonate"]⟩,
    ⟨["authentication.k8s.io"], ["*"], [], ["impersonate"]⟩,
    ⟨["", "apps"], ["services", "deployments", "statefulsets", "daemonsets"], [], ["get"]⟩,
    ⟨[""], ["pods", "pods/log"], [], ["get", "watch", "list"]⟩,
    ⟨[composeGroupName], ["stacks"], [], ["*"]⟩,
    ⟨[composeGroupName], ["stacks/owner"], [], ["get"]⟩,
    ⟨["admissionregistration.k8s.io"],
      ["validatingwebhookconfigurations", "mutatingwebhookconfigurations"], [],
      ["get", "watch", "list"]⟩,
    ⟨["apiregistration.k8s.io"], ["apiservices"],
      ["v1beta1.compose.docker.com", "v1beta2.compose.docker.com", "v1alpha3.compose.docker.com"],
      ["*"]⟩,
    ⟨["apiregistration.k8s.io"], ["apiservices"], [], ["create"]⟩]

/-- The resources of the default cluster roles. -/
def stackResources : List String := ["stacks", "stacks/scale", "stacks/log", "stacks/composeFile"]

def editVerbs : List String :=
  ["create", "delete", "deletecollection", "get", "list", "patch", "update", "watch"]

/-- A cluster role that is aggregated to one of the default roles of the cluster. -/
def aggregatedRole (name aggregateTo : String) (rules : List PolicyRule) : Object :=
  newObject name "" (some ((∅ : Map String).insert
    ("rbac.authorization.k8s.io/aggregate-to-" ++ aggregateTo) "true")) (.clusterRole rules)

def viewStackRole : Object :=
  aggregatedRole "compose-stack-view" "view"
    [⟨[composeGroupName], stackResources, [], ["get", "list", "watch"]⟩]

def editStackRole : Object :=
  aggregatedRole "compose-stack-edit" "edit" [⟨[composeGroupName], stackResources, [], editVerbs⟩]

def adminStackRole : Object :=
  aggregatedRole "compose-stack-admin" "admin"
    [⟨[composeGroupName], stackResources, [], editVerbs⟩,
      ⟨[composeGroupName], ["stacks/owner"], [], ["get"]⟩]

def defaultClusterRoles : List Object := [viewStackRole, editStackRole, adminStackRole]

structure RoleBindingRequirement where
  name : String
  namespace_ : String
  roleRef : RoleRef

def requiredRoleBindings : List RoleBindingRequirement :=
  [⟨"compose-auth-reader", "kube-system",
    ⟨"rbac.authorization.k8s.io", "Role", "extension-apiserver-authentication-reader"⟩⟩]

def requiredClusterRoleBindings : List RoleBindingRequirement :=
  [⟨"compose-auth-delegator", "",
      ⟨"rbac.authorization.k8s.io", "ClusterRole", "system:auth-delegator"⟩⟩,
    ⟨"compose-auth-view", "", ⟨"rbac.authorization.k8s.io", "ClusterRole", "view"⟩⟩,
    ⟨"compose", "", ⟨"rbac.authorization.k8s.io", "ClusterRole", "compose-service"⟩⟩]

namespace Installer

variable (rt : InstallRuntime) (c : Installer)

/-- The body of the loop of `createDefaultClusterRoles`. -/
def createDefaultClusterRole (r : Object) : Api Unit := do
  match ← try_ (.get ⟨.clusterRole, "", r.objectMeta.name⟩) with
  | .error err =>
    if err.isNotFound then
      let (shouldDo, r) ← c.filtered r
      if shouldDo then
        let _ ← call (.create "" "" r.1)
        pure ()
      else pure ()
    else throw err
  -- the role is overwritten, under the version that was read
  | .ok existing =>
    let (shouldDo, r) ← c.filtered (r.over existing.1)
    if shouldDo then call (.update "" r.1) else pure ()

/-- `createDefaultClusterRoles`. -/
def createDefaultClusterRoles : InstallStep := fun ctx => do
  defaultClusterRoles.foldlM (fun _ r => c.createDefaultClusterRole r) ()
  pure ctx

/-- `createSAClusterRole`. -/
def createSAClusterRole : Api Unit := do
  match ← try_ (.get ⟨.clusterRole, "", "compose-service"⟩) with
  | .error err =>
    if err.isNotFound then
      let (shouldDo, role) ← c.filtered
        (newObject "compose-service" "" c.labels (.clusterRole composeRoleRules))
      if shouldDo then
        let _ ← call (.create "" "" role.1)
        pure ()
      else pure ()
    else throw err
  -- only the rules are replaced
  | .ok role =>
    let (shouldDo, role) ← c.filtered { role.1 with content := .clusterRole composeRoleRules }
    if shouldDo then call (.update "" role.1) else pure ()

/-- The binding that is to be written, and whether it is new. An error that is not a missing
object is overwritten by the one of the filters: what is written then has no name. -/
def wantedBinding {key : Key} (content : RoleRef → List Subject → Content)
    (subjects : List Subject) (req : RoleBindingRequirement) (found : Answer (.get key)) :
    Bool × Object :=
  match found with
  | .error err =>
    if err.isNotFound then
      (true, newObject req.name req.namespace_ c.labels (content req.roleRef subjects))
    else (false, newObject "" "" none (content ⟨"", "", ""⟩ []))
  | .ok rb => (false, { rb.1 with content := content req.roleRef subjects })

/-- The loop bodies of `createSARoleBindings`, for role bindings and for cluster role
bindings. -/
def createSARoleBinding (kind : Kind) (content : RoleRef → List Subject → Content)
    (subjects : List Subject) (req : RoleBindingRequirement) : Api Unit := do
  let found ← try_ (.get ⟨kind, req.namespace_, req.name⟩)
  let wanted := c.wantedBinding content subjects req found
  let (shouldDo, rb) ← c.filtered wanted.2
  if shouldDo then
    -- the filters may have renamed the object; its namespace is that of the requirement
    if wanted.1 then
      let _ ← call (.create "" req.namespace_ rb.1)
      pure ()
    else call (.update req.namespace_ rb.1)
  else pure ()

/-- `createSARoleBindings`. -/
def createSARoleBindings (ctx : InstallerContext) : Api Unit := do
  let subjects : List Subject :=
    [⟨"ServiceAccount", (ctx.serviceAccount.map (·.objectMeta.name)).getD "",
      (ctx.serviceAccount.map (·.objectMeta.namespace_)).getD ""⟩]
  requiredRoleBindings.foldlM (fun _ req =>
    c.createSARoleBinding .roleBinding .roleBinding subjects req) ()
  requiredClusterRoleBindings.foldlM (fun _ req =>
    c.createSARoleBinding .clusterRoleBinding .clusterRoleBinding subjects req) ()

/-- `createClusterRoleBindings`. -/
def createClusterRoleBindings : InstallStep := fun ctx => do
  c.createSAClusterRole
  c.createSARoleBindings ctx
  pure ctx

end Installer

/-! ## Secrets -/

/-- A `[]byte` as the value of a secret. -/
def bytesOf (b : Slice UInt8) : Bytes := b.elems

/-- The bundle in the data of a secret. -/
def TLSBundle.addTo (bundle : TLSBundle) (data : Map Bytes) : Map Bytes :=
  ((data.insert "ca" (bytesOf bundle.ca)).insert "cert" (bytesOf bundle.cert)).insert "key"
    (bytesOf bundle.key)

namespace Installer

variable (rt : InstallRuntime) (c : Installer)

/-- `createEtcdSecret` and `createNetworkSecret`: a secret that is there keeps its other
data. -/
def createSecret (name : String) (add : Map Bytes → Map Bytes) : Api Unit := do
  let ns := c.commonOptions.namespace_
  match ← try_ (.get ⟨.secret, ns, name⟩) with
  | .error err =>
    if err.isNotFound then
      let (shouldDo, secret) ← c.filtered
        -- the namespace is that of the request
        (newObject name "" c.apiLabels (.secret (some (add ∅)) ""))
      if shouldDo then
        let _ ← call (.create "" ns secret.1)
        pure ()
      else pure ()
    else throw err
  | .ok secret =>
    -- entries under other names are kept
    let content := match secret.1.content with
      | .secret data type => .secret (some (add data.entries)) type
      | other => other
    let (shouldDo, secret) ← c.filtered
      { objectMeta := { secret.1.objectMeta with name := name, labels := c.apiLabels }
        content := content }
    if shouldDo then call (.update ns secret.1) else pure ()

/-- `createEtcdSecret`. -/
def createEtcdSecret : InstallStep := fun ctx =>
  match c.etcdOptions with
  -- etcd runs beside the API server and needs no secret
  | none => pure ctx
  | some etcd => do
    c.createSecret "compose-etcd" fun data =>
      let data := data.insert "servers" etcd.servers.toUTF8.toList
      match etcd.clientTLSBundle with
      | none => data
      | some bundle => bundle.addTo data
    pure ctx

/-- `createNetworkSecret`. -/
def createNetworkSecret : InstallStep := fun ctx =>
  match c.networkOptions.bind (·.customTLSBundle) with
  | none => pure ctx
  | some bundle => do
    c.createSecret "compose-tls" bundle.addTo
    pure ctx

end Installer

/-! ## Deployments and services -/

def linuxAmd64NodeAffinity : Affinity where
  requiredNodeSelectorTerms := some (some [{ (default : NodeSelectorTerm) with
    matchExpressions := some
      [⟨"beta.kubernetes.io/os", .in_, some ["linux"]⟩,
        ⟨"beta.kubernetes.io/arch", .in_, some ["amd64"]⟩] }])
  unread := default

/-- A change of `Containers[0]`. -/
def PodSpec.mapFirst (pod : PodSpec) (f : Container → Container) : PodSpec :=
  { pod with containers := match pod.containers with
      | [] => []
      | first :: rest => f first :: rest }

/-- Arguments are appended to those of the first container. -/
def PodSpec.addArgs (pod : PodSpec) (args : List String) : PodSpec :=
  pod.mapFirst fun container => { container with args := container.args ++ args }

/-- A secret is mounted into the first container. -/
def PodSpec.mountSecret (pod : PodSpec) (volume secretName mountPath : String)
    (items : Slice KeyToPath) : PodSpec :=
  let pod := { pod with volumes := pod.volumes.push ⟨volume, .secret secretName items⟩ }
  let mount := { (default : VolumeMount) with
    name := volume, mountPath := mountPath, readOnly := true }
  pod.mapFirst fun container =>
    { container with volumeMounts := container.volumeMounts.push mount }

/-- An optional file of the etcd bundle: how it is projected, and the flag for it. -/
def etcdFile (content : Slice UInt8) (key path flag : String) : List (KeyToPath × String) :=
  if content = none then [] else [(⟨key, path, none⟩, flag ++ "=/etc/docker-compose/etcd/" ++ path)]

/-- `applyEtcdOptions`. -/
def applyEtcdOptions (pod : PodSpec) (opts : Option EtcdOptions) : PodSpec :=
  match opts with
  | none =>
    -- no etcd of one's own: one is run in the same pod
    let pod := pod.addArgs ["--etcd-servers=http://127.0.0.1:2379"]
    { pod with containers := pod.containers ++ [
      { name := "etcd"
        image := "quay.io/coreos/etcd:v3.3.15"
        imagePullPolicy := .always
        args := ["/usr/local/bin/etcd", "-advertise-client-urls=http://127.0.0.1:2379",
          "-listen-client-urls=http://127.0.0.1:2379"]
        env := none
        ports := none
        volumeMounts := none
        livenessProbe := none
        privileged := none }] }
  | some opts =>
    let pod := pod.addArgs ["--etcd-servers=" ++ opts.servers]
    match opts.clientTLSBundle with
    | none => pod
    | some bundle =>
      -- the files that the bundle has
      let files := etcdFile bundle.ca "ca" "ca.crt" "--etcd-cafile" ++
        etcdFile bundle.cert "cert" "client.crt" "--etcd-certfile" ++
        etcdFile bundle.key "key" "client.key" "--etcd-keyfile"
      (pod.addArgs (files.map Prod.snd)).mountSecret "etcd-secret" "compose-etcd"
        "/etc/docker-compose/etcd" (Slice.ofAppends (files.map Prod.fst))

/-- The port that the API server listens on. -/
def NetworkOptions.securePort (opts : NetworkOptions) : Int32 :=
  if opts.port = 0 then 9443 else opts.port

/-- A port of the first container. -/
def PodSpec.addPort (pod : PodSpec) (port : Int32) : PodSpec :=
  pod.mapFirst fun container => { container with ports := container.ports.push ⟨"api", port⟩ }

/-- `applyNetworkOptions`. -/
def applyNetworkOptions (pod : PodSpec) (opts : Option NetworkOptions) : PodSpec :=
  match opts with
  | none => (pod.addPort 9443).addArgs ["--secure-port", "9443"]
  | some opts =>
    -- on the network of the host the port needs no mapping
    let pod := if opts.shouldUseHost then { pod with hostNetwork := true }
      else pod.addPort opts.securePort
    let pod := pod.addArgs ["--secure-port=" ++ toString opts.securePort]
    match opts.customTLSBundle with
    | none => pod
    | some _ =>
      (pod.mountSecret "tls-secret" "compose-tls" "/etc/docker-compose/tls"
        (some [⟨"ca", "ca.crt", none⟩, ⟨"cert", "server.crt", none⟩,
          ⟨"key", "server.key", none⟩])).addArgs
        ["--tls-cert-file=/etc/docker-compose/tls/server.crt",
          "--tls-private-key-file=/etc/docker-compose/tls/server.key",
          "--ca-bundle-file=/etc/docker-compose/tls/ca.crt"]

/-- A change of the spec of a deployment. -/
def Object.mapDeployment (o : Object) (f : DeploymentSpec → DeploymentSpec) : Object :=
  { o with content := match o.content with
      | .deployment spec => .deployment (f spec)
      | other => other }

/-- A change of the pods of a deployment. -/
def Object.mapPod (o : Object) (f : PodSpec → PodSpec) : Object :=
  o.mapDeployment fun spec => { spec with podSpec := f spec.podSpec }

/-- An annotation; a map is made where there is none. -/
def annotate (annotations : MapRef String) (key value : String) : MapRef String :=
  some (annotations.entries.insert key value)

/-- `applyCustomTLSHash`. -/
def applyCustomTLSHash (hash : String) (deploy : Object) : Object :=
  if hash = "" then deploy
  else
    let deploy := { deploy with objectMeta := { deploy.objectMeta with
      annotations := annotate deploy.objectMeta.annotations customTLSHashAnnotationName hash } }
    -- the annotation of the pods makes the deployment roll out
    deploy.mapDeployment fun spec => { spec with
      templateAnnotations := annotate spec.templateAnnotations customTLSHashAnnotationName hash }

/-- Debug images run privileged and are not probed. -/
def privilegedPod (pod : PodSpec) : PodSpec :=
  { pod with containers := pod.containers.map fun container =>
      { container with privileged := some true, livenessProbe := none } }

/-- `pullSecrets`. -/
def pullSecrets (secret : Option Object) : Slice LocalObjectReference :=
  secret.map fun secret => [⟨secret.objectMeta.name⟩]

/-- The probe of both deployments; there is none without a port. -/
def livenessProbe (healthzCheckPort : Int) : Option Probe :=
  if healthzCheckPort = 0 then none
  else some
    { path := "/healthz"
      port := .fromInt healthzCheckPort
      scheme := "HTTP"
      initialDelaySeconds := 15
      timeoutSeconds := 15
      failureThreshold := 8 }

def envVar (name value : String) : EnvVar :=
  { (default : EnvVar) with name := name, value := value }

/-- `svc.Spec.ClusterIP = s.Spec.ClusterIP`. -/
def Object.withClusterIPOf (svc s : Object) : Object :=
  { svc with content := match svc.content, s.content with
      | .service spec, .service current => .service { spec with clusterIP := current.clusterIP }
      | other, _ => other }

/-- A change of the spec of a service. -/
def Object.mapService (o : Object) (f : ServiceSpec → ServiceSpec) : Object :=
  { o with content := match o.content with
      | .service spec => .service (f spec)
      | other => other }

namespace Installer

variable (rt : InstallRuntime) (c : Installer)

/-- `configureAPIServerImage`. -/
def configureAPIServerImage : String × List String × List EnvVar × PullPolicy :=
  if c.enableCoverage then
    -- the coverage image is run by its tests, without arguments
    (rt.imagePrefix ++ "api-server-coverage" ++ ":" ++ c.commonOptions.tag, [],
      [envVar "TEST_API_SERVER" "1"], .never)
  else
    let args := ["--kubeconfig", "", "--authentication-kubeconfig=", "--authorization-kubeconfig=",
      "--service-name=compose-api", "--service-namespace", c.commonOptions.namespace_,
      "--healthz-check-port", toString c.commonOptions.healthzCheckPort]
    if c.debugImages then (rt.imagePrefix ++ "api-server-debug:latest", args, [], .never)
    else (rt.imagePrefix ++ "api-server" ++ ":" ++ c.commonOptions.tag, args, [],
      c.commonOptions.pullPolicy)

/-- `configureControllerImage`. -/
def configureControllerImage : String × List String × PullPolicy :=
  if c.enableCoverage then
    (rt.imagePrefix ++ "controller-coverage" ++ ":" ++ c.commonOptions.tag, [], .never)
  else
    let args := ["--kubeconfig", "", "--reconciliation-interval",
      c.commonOptions.reconciliationInterval, "--healthz-check-port",
      toString c.commonOptions.healthzCheckPort]
    if c.debugImages then (rt.imagePrefix ++ "controller-debug:latest", args, .never)
    else (rt.imagePrefix ++ "controller:" ++ c.commonOptions.tag, args, c.commonOptions.pullPolicy)

/-- A deployment of one container, as both of them start out. -/
def newDeployment (ctx : InstallerContext) (name : String) (labels : MapRef String)
    (container : Container) (affinity : Option Affinity) (replicas : Option Int32) : Object :=
  newObject name c.commonOptions.namespace_ labels (.deployment
    { matchLabels := labels
      templateLabels := labels
      templateAnnotations := none
      podSpec :=
        { serviceAccountName := (ctx.serviceAccount.map (·.objectMeta.name)).getD ""
          imagePullSecrets := pullSecrets ctx.pullSecret
          containers := [container]
          volumes := none
          affinity := some (affinity.getD linuxAmd64NodeAffinity)
          hostNetwork := false }
      replicas := replicas })

/-- The deployment of the API server, as it is given to the filters. -/
def apiServerDeployment (ctx : InstallerContext) : Object :=
  let (image, args, env, pullPolicy) := c.configureAPIServerImage rt
  let image := if c.apiServerImageOverride ≠ "" then c.apiServerImageOverride else image
  let deploy := c.newDeployment ctx "compose-api" c.apiLabels
    { name := "compose"
      image := image
      imagePullPolicy := pullPolicy
      args := args
      env := some env
      ports := none
      volumeMounts := none
      livenessProbe := livenessProbe c.commonOptions.healthzCheckPort
      privileged := none }
    c.commonOptions.apiServerAffinity c.commonOptions.apiServerReplicas
  applyCustomTLSHash c.customTLSHash (deploy.mapPod fun pod =>
    applyNetworkOptions (applyEtcdOptions pod c.etcdOptions) c.networkOptions)

/-- The deployment of the controller, as it is given to the filters. -/
def controllerDeployment (ctx : InstallerContext) : Object :=
  let (image, args, pullPolicy) := c.configureControllerImage rt
  let args := if c.commonOptions.defaultServiceType ≠ "" then
      args ++ ["--default-service-type=" ++ c.commonOptions.defaultServiceType]
    else args
  let image := if c.controllerImageOverride ≠ "" then c.controllerImageOverride else image
  let env := if c.enableCoverage then
      some ([envVar "TEST_COMPOSE_CONTROLLER" "1"] ++
        if c.commonOptions.healthzCheckPort > 0 then
          [envVar "TEST_COMPOSE_HEALTHZ_PORT" (toString c.commonOptions.healthzCheckPort)]
        else [])
    else none
  c.newDeployment ctx "compose" c.labels
    { name := "compose"
      image := image
      imagePullPolicy := pullPolicy
      args := args
      env := env
      ports := none
      volumeMounts := none
      livenessProbe := livenessProbe c.commonOptions.healthzCheckPort
      privileged := none }
    c.commonOptions.controllerAffinity none

/-- What the debug images need. -/
def withDebug (deploy : Object) : Object :=
  -- after the filters, which do not see this
  if c.debugImages then deploy.mapPod privilegedPod else deploy

/-- Both deployments are written in the same way: any error of the `Get` leads to a
`Create`. -/
def writeDeployment (deploy : Object) (name : String) : Api Unit := do
  let (shouldDo, deploy) ← c.filtered deploy
  if shouldDo then
    let deploy := c.withDebug deploy.1
    match ← try_ (.get ⟨.deployment, c.commonOptions.namespace_, name⟩) with
    -- there is one: it is replaced under its version
    | .ok d => call (.update c.commonOptions.namespace_ (deploy.over d.1))
    | .error _ =>
      let _ ← call (.create "" c.commonOptions.namespace_ deploy)
      pure ()
  else pure ()

/-- The service of the API server, as it is given to the filters. -/
def apiServerService (port : Int32) : Object :=
  newObject "compose-api" c.commonOptions.namespace_ c.apiLabels (.service
    { (default : ServiceSpec) with
      ports := some [{ (default : ServicePort) with
        name := "api", port := 443, targetPort := .int port }]
      selector := c.apiLabels })

/-- `createAPIServerService`. The cluster IP of a service that is there is kept. -/
def createAPIServerService (port : Int32) : Api Unit := do
  let (shouldDo, svc) ← c.filtered (c.apiServerService port)
  if shouldDo then
    match ← try_ (.get ⟨.service, c.commonOptions.namespace_, "compose-api"⟩) with
    | .ok s => call (.update c.commonOptions.namespace_ ((svc.1.over s.1).withClusterIPOf s.1))
    | .error _ =>
      let _ ← call (.create "" c.commonOptions.namespace_ svc.1)
      pure ()
  else pure ()

/-- The spec of a service that exposes a debugger. -/
def debugServiceSpec (port : Int32) (labels : MapRef String) (spec : ServiceSpec) : ServiceSpec :=
  { spec with
    type := .loadBalancer
    ports := some [{ (default : ServicePort) with
      name := "delve", port := port, targetPort := .int 40000 }]
    selector := labels }

/-- `createDebugService`. The filters are not asked. -/
def createDebugService (name : String) (port : Int32) (labels : MapRef String) : Api Unit := do
  match ← try_ (.get ⟨.service, c.commonOptions.namespace_, name⟩) with
  | .ok svc =>
    call (.update c.commonOptions.namespace_ (svc.1.mapService (debugServiceSpec port labels)))
  | .error _ =>
    let _ ← call (.create "" c.commonOptions.namespace_
      (newObject name "" labels (.service (debugServiceSpec port labels default))))
    pure ()

/-- A service for the debugger of a debug image. -/
def createDebugServiceIfRequired (name : String) (port : Int32) (labels : MapRef String) :
    Api Unit :=
  if c.debugImages then c.createDebugService name port labels else pure ()

/-- The port that the service of the API server leads to. -/
def apiServerPort : Int32 := (c.networkOptions.map (·.securePort)).getD 9443

/-- `createAPIServer`. -/
def createAPIServer : InstallStep := fun ctx => do
  c.writeDeployment (c.apiServerDeployment rt ctx) "compose-api"
  c.createAPIServerService c.apiServerPort
  c.createDebugServiceIfRequired "compose-api-server-remote-debug" apiServerDebugPort c.apiLabels
  pure ctx

/-- `createController`. -/
def createController : InstallStep := fun ctx => do
  c.writeDeployment (c.controllerDeployment rt ctx) "compose"
  c.createDebugServiceIfRequired "compose-controller-remote-debug" controllerDebugPort c.labels
  pure ctx

/-! ## The installation -/

end Installer

/-- The image of the first container of a deployment. -/
def Object.firstImage (o : Object) : String :=
  match o.content with
  | .deployment spec => (spec.podSpec.containers.head?.map (·.image)).getD ""
  | _ => ""

/-- The loop of `isInstalled` over the deployments. -/
def Status.addDeployment (s : Status) (deploy : Object) : Status :=
  match deploy.objectMeta.labels with
  | none => s
  | some labels =>
    -- the controller or the API server, by the label of the installer
    let s := if labels.lookup fryKey = some composeFry then
        { s with controllerImage := deploy.firstImage, controllerLabels := some labels }
      else if labels.lookup fryKey = some composeAPIServerFry then
        { s with
          apiServiceImage := deploy.firstImage
          apiServiceLabels := some labels
          apiServiceAnnotations := deploy.objectMeta.annotations }
      else s
    match labels.lookup defaultServiceTypeKey with
    | some svcType => { s with defaultServiceType := svcType }
    | none => s

/-- What `isInstalled` says of a list of deployments. -/
def statusOf (isCrdPresent : Bool) (items : List Object) : Status :=
  let none_ : Status :=
    { isInstalled := false, tag := "", isCrdPresent := isCrdPresent, namespace_ := "",
      controllerImage := "", apiServiceImage := "", defaultServiceType := "",
      controllerLabels := none, apiServiceLabels := none, apiServiceAnnotations := none }
  match items with
  | [] => none_
  -- the tag and the namespace are those of the first deployment
  | first :: _ => items.foldl Status.addDeployment
    { none_ with
      isInstalled := true
      tag := (first.objectMeta.labels.get? imageTagKey).getD ""
      namespace_ := first.objectMeta.namespace_ }

/-- Whether the definition of the stacks is there. -/
def crdPresent : Api Bool := do
  match ← try_ (.get stacksCRD) with
  | .ok _ => pure true
  | .error err => if err.isNotFound then pure false else throw err

/-- `isInstalled`. -/
def isInstalled : Api Status := do
  call .newForConfig
  let isCrdPresent ← crdPresent
  let apps ← call (.list .deployment none true [])
  pure (statusOf isCrdPresent apps.items)

/-- `GetInstallStatus`. -/
def getInstallStatus (rt : InstallRuntime) : Api Status := do
  let _ ← newInstaller rt []
  isInstalled

/-- `match`. -/
def Status.match_ (s : Status) (c : Installer) : Bool × String :=
  let older := "An older version is installed in namespace \"" ++ s.namespace_ ++
    "\". Uninstalling..."
  if c.commonOptions.tag = "debug" ∨ s.tag = "debug" then
    (false, "force redeploy if desired or current state is in debug mode")
  else if s.tag = c.commonOptions.tag ∧
      s.defaultServiceType = c.commonOptions.defaultServiceType then
    -- without annotations there is no hash to compare
    if s.apiServiceAnnotations = none ∧ c.customTLSHash ≠ "" then
      (false, "Custom TLS hash mismatch")
    else if s.apiServiceAnnotations ≠ none ∧
        (s.apiServiceAnnotations.get? customTLSHashAnnotationName).getD "" ≠ c.customTLSHash then
      (false, "Custom TLS hash mismatch")
    else if (c.customMatch.map (· s)).getD true then
      (true, "Compose version " ++ c.commonOptions.tag ++ " is already installed in namespace \"" ++
        s.namespace_ ++ "\" with the same settings")
    else (false, older)
  else (false, older)

namespace Installer

variable (rt : InstallRuntime) (c : Installer)

/-- `validateOptions`. -/
def validateOptions : Except Err Unit :=
  match c.etcdOptions, c.commonOptions.apiServerReplicas with
  | none, some replicas =>
    -- replicas with an etcd each would not share their data
    if replicas ≠ 1 then
      .error (.new
        "can't specify the API server replicas without referencing an external etcd instance")
    else .ok ()
  | _, _ => .ok ()

/-- The steps of an installation. -/
def steps : List InstallStep :=
  let first := [c.createNamespace, c.createPullSecretIfRequired rt, c.createServiceAccount,
    c.createClusterRoleBindings]
  -- the API server, unless only the controller is asked for; the controller, unless it is
  -- disabled
  let chosen := if c.controllerOnly then first ++ [c.createController rt]
    else first ++ [c.createEtcdSecret, c.createNetworkSecret, c.createAPIServer rt] ++
      if !c.disableController then [c.createController rt] else []
  chosen ++ [c.createDefaultClusterRoles]

/-- The steps, one after the other. -/
def takeSteps : Api Unit := do
  let _ ← (c.steps rt).foldlM (fun ctx step => step ctx) (⟨none, none⟩ : InstallerContext)
  pure ()

/-- `install`. -/
def install : Api Unit := do
  let installStatus ← isInstalled
  ExceptT.mk (pure c.validateOptions)
  if installStatus.isInstalled && !c.controllerOnly then
    -- the same version with the same settings
    if (installStatus.match_ c).1 then pure ()
    else do
      -- the definition of the stacks goes as well
      uninstall installStatus.namespace_ false
      call (.waitForUninstallCompletion installStatus.namespace_ false)
      c.takeSteps rt
  else c.takeSteps rt

end Installer

/-- `Do`. -/
def do_ (rt : InstallRuntime) (options : List InstallerOption) : Api Unit := do
  let installer ← newInstaller rt options
  installer.install rt

/-- `Unsafe`. -/
def unsafe_ (rt : InstallRuntime) (options : UnsafeOptions) : Api Unit :=
  do_ rt [withUnsafe options]

/-- `Safe`. -/
def safe (rt : InstallRuntime) (options : SafeOptions) : Api Unit := do_ rt [withSafe options]

end ComposeKube.Install

import ComposeKube.Lib.Fallible
import ComposeKube.Lib.History
import ComposeKube.Lib.Transition
import ComposeKube.Lib.Versioned
import ComposeKube.Api.Kube

/-!
# Registering API servers

`root.go` of the API server: every instance registers the API with its own CA.
It reads the registered `APIService`, merges its certificate into the bundle
that is there, and writes the result back; the certificates of other instances
are kept, its own older one is replaced. When there is nothing to be read it
creates the `APIService`.

Any number of instances do this at the same time. An instance may be restarted
at any point and come back with a new certificate under its common name. The
cluster refuses to create what exists, and to update with a resource version
that is not the current one.

Decoding and encoding of PEM blocks and the parsing of a certificate are left
open. `Pem.Concatenates` is what is assumed of them.

* `parse_mergeCABundle` — the certificates of a merged bundle.
* `registrationStep_inv` — what one step keeps.
* `registrations_kept` — all runs.
-/

namespace ComposeKube

open Go History Transition Versioned

/-! ## Certificates -/

/-- `pem.Block`. -/
structure PemBlock where
  type : String
  headers : List (String × String)
  bytes : Bytes

/-- `certutil.CertificateBlockType`. -/
def certificateBlockType : String := "CERTIFICATE"

/-- The packages `pem` and `x509`, as far as they are used. -/
structure Pem (Cert : Type) where
  /-- `pem.Decode`: the first block, and what comes after it -/
  decode : Bytes → Option (PemBlock × Bytes)
  length_decode : ∀ data block rest, decode data = some (block, rest) → rest.length < data.length
  /-- `pem.EncodeToMemory` -/
  encodeToMemory : PemBlock → Bytes
  /-- `x509.ParseCertificate` -/
  parseCertificate : Bytes → Except String Cert
  raw : Cert → Bytes
  /-- `Subject.CommonName` -/
  commonName : Cert → String

namespace Pem

variable {Cert : Type} (pem : Pem Cert)

/-- The loop of `ParseCertsPEM`; `ok` says that there was a certificate. -/
def parseCertsLoop (pemCerts : Bytes) (certs : List Cert) (ok : Bool) :
    Except String (List Cert) :=
  let done : Except String (List Cert) :=
    if !ok then .error "data does not contain any valid RSA or ECDSA certificates" else .ok certs
  if pemCerts.length > 0 then
    match hdecode : pem.decode pemCerts with
    | none => done
    | some (block, rest) =>
      have := pem.length_decode pemCerts block rest hdecode
      -- only blocks without extra headers are used
      if block.type ≠ certificateBlockType || block.headers.length ≠ 0 then
        parseCertsLoop rest certs ok
      else
        match pem.parseCertificate block.bytes with
        | .error err => .error err
        | .ok cert => parseCertsLoop rest (certs ++ [cert]) true
  else done
termination_by pemCerts.length

/-- `certutil.ParseCertsPEM`. -/
def parseCertsPEM (pemCerts : Bytes) : Except String (List Cert) :=
  pem.parseCertsLoop pemCerts [] false

/-- `keys.EncodeCertPEM`. -/
def encodeCertPEM (cert : Cert) : Bytes :=
  pem.encodeToMemory { type := "CERTIFICATE", headers := [], bytes := pem.raw cert }

/-- Encoded certificates in front of a bundle are parsed to these certificates,
followed by those of the bundle. -/
def Concatenates : Prop :=
  ∀ certs bundle certs', pem.parseCertsPEM bundle = .ok certs' →
    pem.parseCertsPEM (certs.flatMap pem.encodeCertPEM ++ bundle) = .ok (certs ++ certs')

/-- `mergeCABundle`. -/
def mergeCABundle (existingPEM newBundlePEM : Bytes) : Except String Bytes :=
  if existingPEM.length = 0 then .ok newBundlePEM
  else
    match pem.parseCertsPEM existingPEM with
    -- existing bundle is unparsable: override it
    | .error _ => .ok newBundlePEM
    | .ok existing => do
      match ← pem.parseCertsPEM newBundlePEM with
      | [newCert] =>
        let result := existing.foldl (fun result existingCert =>
          if pem.commonName existingCert ≠ pem.commonName newCert then
            result ++ pem.encodeCertPEM existingCert
          else result) []
        return result ++ newBundlePEM
      | _ => .error "bundle has an unexpected number of certificates in it"

end Pem

/-! ## The registration -/

/-- `ServiceReference`. -/
structure ServiceReference where
  namespace_ : String
  name : String

/-- `APIServiceSpec`. -/
structure APIServiceSpec where
  caBundle : Bytes
  group : String
  groupPriorityMinimum : Int32
  versionPriority : Int32
  version : String
  service : Option ServiceReference

/-- `APIService`. -/
structure APIService where
  objectMeta : ObjectMeta
  spec : APIServiceSpec

/-- The arguments of `registerAggregatedAPI`. -/
structure RegistrationArgs where
  caBundle : Bytes
  serviceNamespace : String
  serviceName : String
  apiVersion : String
  versionPriority : Int32

/-- The name under which an API version is registered. -/
def apiServiceName (apiVersion : String) : String := apiVersion ++ ".compose.docker.com"

/-- The object that `registerAggregatedAPI` starts from. -/
def RegistrationArgs.apiService (args : RegistrationArgs) : APIService where
  objectMeta :=
    { (default : ObjectMeta) with
      name := apiServiceName args.apiVersion
      labels := some ((∅ : Map String).insert "com.docker.fry" "compose.api") }
  spec :=
    { caBundle := args.caBundle
      group := "compose.docker.com"
      groupPriorityMinimum := 1000
      versionPriority := args.versionPriority
      version := args.apiVersion
      service := some { namespace_ := args.serviceNamespace, name := args.serviceName } }

/-- What `registerAggregatedAPI` sends. -/
inductive RegistrationRequest where
  | update (apiService : APIService)
  | create (apiService : APIService)

/-- `registerAggregatedAPI`, given what `Get` has returned: the request that is
sent, or the error of the merge. -/
def registerAggregatedAPI {Cert : Type} (pem : Pem Cert) (args : RegistrationArgs)
    (existing : Except String APIService) : Except String RegistrationRequest :=
  match existing with
  | .ok existing => do
    let bundle ← pem.mergeCABundle existing.spec.caBundle args.caBundle
    let apiService := args.apiService
    return .update
      { objectMeta :=
          { apiService.objectMeta with resourceVersion := existing.objectMeta.resourceVersion }
        spec := { apiService.spec with caBundle := bundle } }
  | .error _ => .ok (.create args.apiService)

/-! ## The instances and the cluster -/

/-- A run of `registerAggregatedAPI` of a server, after its `Get`. -/
structure RegistrationRun (S : Type) where
  server : S
  args : RegistrationArgs
  existing : Except String APIService

/-- The registered objects, and the runs that have not written yet. -/
structure RegistrationState (S : Type) where
  services : Objects String APIService
  runs : List (RegistrationRun S)

inductive RegistrationEvent (S Cert : Type) where
  | get
  | registered (server : S) (cert : Cert)
  | failed

/-- An object as it is stored: the cluster gives it a resource version. -/
def APIService.withResourceVersion (resourceVersion : String) (x : APIService) : APIService :=
  { x with objectMeta := { x.objectMeta with resourceVersion } }

def apiServiceVersion (x : APIService) : String := x.objectMeta.resourceVersion

section System

variable {S Cert : Type} (pem : Pem Cert) (commonName : S → String) (apiVersion : String)

/-- The bundle of a server's run is one certificate, under the server's common name. -/
def RegistrationRun.Brings (run : RegistrationRun S) (cert : Cert) : Prop :=
  run.args.apiVersion = apiVersion ∧ pem.parseCertsPEM run.args.caBundle = .ok [cert] ∧
    pem.commonName cert = commonName run.server

/-- The steps of all instances. A `Get` returns what is registered, or fails for
whatever reason; a run that has failed or has been killed writes nothing. -/
inductive RegistrationStep :
    RegistrationState S → RegistrationEvent S Cert → RegistrationState S → Prop
  -- a server starts to register, with what it read of the service
  | get {s : RegistrationState S} {run : RegistrationRun S} {cert : Cert}
      (hbrings : run.Brings pem commonName apiVersion cert)
      (hexisting : ∀ x, run.existing = .ok x →
        s.services.stored (apiServiceName apiVersion) = some x) :
      RegistrationStep s .get { s with runs := run :: s.runs }
  -- the update is accepted, as its version is still the current one
  | update {s : RegistrationState S} {before after : List (RegistrationRun S)}
      {run : RegistrationRun S} {cert : Cert} {x current : APIService} {rv : String}
      (hruns : s.runs = before ++ run :: after)
      (hbrings : run.Brings pem commonName apiVersion cert)
      (hsent : registerAggregatedAPI pem run.args run.existing = .ok (.update x))
      (hcurrent : s.services.stored (apiServiceName apiVersion) = some current)
      (hversion : apiServiceVersion x = apiServiceVersion current)
      (hfresh : s.services.Fresh apiServiceVersion rv) :
      RegistrationStep s (.registered run.server cert)
        { services := s.services.put (apiServiceName apiVersion) (x.withResourceVersion rv)
          runs := before ++ after }
  -- nobody else has created the service meanwhile
  | create {s : RegistrationState S} {before after : List (RegistrationRun S)}
      {run : RegistrationRun S} {cert : Cert} {x : APIService} {rv : String}
      (hruns : s.runs = before ++ run :: after)
      (hbrings : run.Brings pem commonName apiVersion cert)
      (hsent : registerAggregatedAPI pem run.args run.existing = .ok (.create x))
      (habsent : s.services.stored (apiServiceName apiVersion) = none)
      (hfresh : s.services.Fresh apiServiceVersion rv) :
      RegistrationStep s (.registered run.server cert)
        { services := s.services.put (apiServiceName apiVersion) (x.withResourceVersion rv)
          runs := before ++ after }
  -- a conflict, a server that is gone, or an error of any kind
  | fail {s : RegistrationState S} {before after : List (RegistrationRun S)}
      {run : RegistrationRun S} (hruns : s.runs = before ++ run :: after) :
      RegistrationStep s .failed { s with runs := before ++ after }

/-- Nothing is registered, and no run is under way. -/
def RegistrationState.empty : RegistrationState S := { services := .empty, runs := [] }

def registrationSystem : System (RegistrationState S) (RegistrationEvent S Cert) where
  init s := s = .empty
  step := RegistrationStep pem commonName apiVersion

end System

/-- The latest successful registration of a server was with the certificate. -/
def LatestRegistration {S Cert : Type} (events : List (RegistrationEvent S Cert)) (server : S)
    (cert : Cert) : Prop :=
  Since (· = .registered server cert) (fun e => ∃ cert', e = .registered server cert') events

/-! ## Merged bundles -/

namespace Pem

variable {Cert : Type} {pem : Pem Cert}

/-- Nothing is parsed from nothing. -/
theorem parseCertsPEM_nil (certs : List Cert) : pem.parseCertsPEM [] ≠ .ok certs := by
  unfold parseCertsPEM parseCertsLoop
  simp

/-- The loop of the merge encodes the certificates of others. -/
theorem foldl_encodeCertPEM (name : String) (existing : List Cert) (result : Bytes) :
    existing.foldl (fun result existingCert =>
        if pem.commonName existingCert ≠ name then result ++ pem.encodeCertPEM existingCert
        else result) result =
      result ++ (existing.filter fun c => pem.commonName c ≠ name).flatMap pem.encodeCertPEM := by
  induction existing generalizing result with
  | nil => simp
  | cons c rest ih =>
    rw [List.foldl_cons, ih]
    by_cases hc : pem.commonName c = name
    · simp [hc]
    · simp [hc]

theorem length_ne_zero_of_parse {bundle : Bytes} {certs : List Cert}
    (h : pem.parseCertsPEM bundle = .ok certs) : bundle.length ≠ 0 := by
  intro hlen
  rw [List.length_eq_zero_iff.mp hlen] at h
  exact parseCertsPEM_nil _ h

/-- The merge of one certificate into a bundle that parses. -/
theorem mergeCABundle_of_one {existingPEM newBundlePEM : Bytes} {existing : List Cert} {cert : Cert}
    (hexisting : pem.parseCertsPEM existingPEM = .ok existing)
    (hnew : pem.parseCertsPEM newBundlePEM = .ok [cert]) :
    pem.mergeCABundle existingPEM newBundlePEM =
      .ok ((existing.filter fun c => pem.commonName c ≠ pem.commonName cert).flatMap
        pem.encodeCertPEM ++ newBundlePEM) := by
  unfold mergeCABundle
  rw [if_neg (length_ne_zero_of_parse hexisting), hexisting]
  simp only [hnew, ok_bind, foldl_encodeCertPEM, List.nil_append]
  rfl

/-- **The certificates of a merged bundle**: those of others, and the new one. -/
theorem parse_mergeCABundle (hpem : pem.Concatenates) {existingPEM newBundlePEM merged : Bytes}
    {existing : List Cert} {cert : Cert} (hexisting : pem.parseCertsPEM existingPEM = .ok existing)
    (hnew : pem.parseCertsPEM newBundlePEM = .ok [cert])
    (h : pem.mergeCABundle existingPEM newBundlePEM = .ok merged) :
    pem.parseCertsPEM merged =
      .ok ((existing.filter fun c => pem.commonName c ≠ pem.commonName cert) ++ [cert]) := by
  rw [mergeCABundle_of_one hexisting hnew] at h
  obtain rfl := Except.ok.inj h
  exact hpem _ _ _ hnew

end Pem

/-! ## Runs -/

/-- What an update sends: the merged bundle, with the resource version that was read. -/
theorem registerAggregatedAPI_update {Cert : Type} {pem : Pem Cert} {args : RegistrationArgs}
    {existing : Except String APIService} {x : APIService}
    (h : registerAggregatedAPI pem args existing = .ok (.update x)) :
    ∃ read, existing = .ok read ∧ apiServiceVersion x = apiServiceVersion read ∧
      pem.mergeCABundle read.spec.caBundle args.caBundle = .ok x.spec.caBundle := by
  unfold registerAggregatedAPI at h
  cases existing with
  | error e => cases h
  | ok read =>
    obtain ⟨bundle, hmerge, hx⟩ := bind_eq_ok.mp h
    cases pure_eq_ok.mp hx
    exact ⟨read, rfl, rfl, hmerge⟩

/-- What a creation sends: the server's own bundle. -/
theorem registerAggregatedAPI_create {Cert : Type} {pem : Pem Cert} {args : RegistrationArgs}
    {existing : Except String APIService} {x : APIService}
    (h : registerAggregatedAPI pem args existing = .ok (.create x)) :
    x.spec.caBundle = args.caBundle := by
  unfold registerAggregatedAPI at h
  cases existing with
  | error e =>
    cases h
    rfl
  | ok read =>
    obtain ⟨bundle, -, hx⟩ := bind_eq_ok.mp h
    cases pure_eq_ok.mp hx

section Runs

variable {S Cert : Type} {pem : Pem Cert} {commonName : S → String} {apiVersion : String}

/-- The bundle parses, has one certificate for a common name, and has exactly the
latest one of every server. -/
def HoldsLatest (pem : Pem Cert) (commonName : S → String)
    (events : List (RegistrationEvent S Cert)) (bundle : Bytes) : Prop :=
  ∃ certs, pem.parseCertsPEM bundle = .ok certs ∧ (certs.map pem.commonName).Nodup ∧
    ∀ server cert, LatestRegistration events server cert →
      certs.filter (fun c => pem.commonName c = commonName server) = [cert]

/-- An event that is no registration leaves the latest ones as they are. -/
theorem LatestRegistration.of_other {events : List (RegistrationEvent S Cert)}
    {event : RegistrationEvent S Cert} (hevent : ∀ server cert, event ≠ .registered server cert)
    {server : S} {cert : Cert} (h : LatestRegistration (events ++ [event]) server cert) :
    LatestRegistration events server cert := by
  rcases since_snoc.mp h with h | ⟨-, h⟩
  · exact absurd h (hevent server cert)
  · exact h

/-- After a registration the latest one is this one, or one of another server. -/
theorem LatestRegistration.of_registered {events : List (RegistrationEvent S Cert)} {server : S}
    {cert : Cert} {server' : S} {cert' : Cert}
    (h : LatestRegistration (events ++ [.registered server cert]) server' cert') :
    server' = server ∧ cert' = cert ∨
      server' ≠ server ∧ LatestRegistration events server' cert' := by
  rcases since_snoc.mp h with h | ⟨hstop, h⟩
  · cases h
    exact Or.inl ⟨rfl, rfl⟩
  · refine Or.inr ⟨?_, h⟩
    rintro rfl
    exact hstop ⟨cert, rfl⟩

/-- **A merge keeps the certificates of others** and replaces the server's own. -/
theorem HoldsLatest.merge (hpem : pem.Concatenates) (hnames : Function.Injective commonName)
    {events : List (RegistrationEvent S Cert)} {existing bundle merged : Bytes} {server : S}
    {cert : Cert} (h : HoldsLatest pem commonName events existing)
    (hbundle : pem.parseCertsPEM bundle = .ok [cert])
    (hcert : pem.commonName cert = commonName server)
    (hmerge : pem.mergeCABundle existing bundle = .ok merged) :
    HoldsLatest pem commonName (events ++ [.registered server cert]) merged := by
  obtain ⟨certs, hparse, hnodup, hlatest⟩ := h
  refine ⟨_, pem.parse_mergeCABundle hpem hparse hbundle hmerge, ?_, fun server' cert' h' => ?_⟩
  · -- the merge drops the certificates of this name before it adds the new one
    rw [List.map_append, List.nodup_append]
    refine ⟨hnodup.sublist (List.filter_sublist.map _), by simp, ?_⟩
    intro name hname name' hname'
    obtain ⟨c, hc, rfl⟩ := List.mem_map.mp hname
    obtain rfl : name' = pem.commonName cert := by simpa using hname'
    simpa using List.of_mem_filter hc
  · rcases h'.of_registered with ⟨rfl, rfl⟩ | ⟨hne, h'⟩
    · -- the older certificates of the server are gone
      rw [List.filter_append, List.filter_filter]
      simp [hcert]
    · -- the certificates of another server pass the filter of the merge
      have hother : commonName server' ≠ pem.commonName cert := by
        rw [hcert]
        exact fun heq => hne (hnames heq)
      have hnew : [cert].filter (fun c => pem.commonName c = commonName server') = [] := by
        simpa using hother.symm
      rw [← hlatest server' cert' h', List.filter_append, List.filter_filter, hnew,
        List.append_nil]
      refine List.filter_congr fun c _ => ?_
      by_cases hc : pem.commonName c = commonName server'
      · simp [hc, hother]
      · simp [hc]

/-- What holds of the cluster and the runs after the events. -/
structure RegistrationInv (pem : Pem Cert) (commonName : S → String) (apiVersion : String)
    (events : List (RegistrationEvent S Cert)) (s : RegistrationState S) : Prop where
  versioned : s.services.WellVersioned apiServiceVersion
  read : ∀ run ∈ s.runs, ∀ x, run.existing = .ok x → x ∈ s.services.versions
  bundle : ∀ x, s.services.stored (apiServiceName apiVersion) = some x →
    HoldsLatest pem commonName events x.spec.caBundle
  absent : s.services.stored (apiServiceName apiVersion) = none →
    ∀ server cert, ¬LatestRegistration events server cert

theorem HoldsLatest.of_other {events : List (RegistrationEvent S Cert)} {bundle : Bytes}
    {event : RegistrationEvent S Cert} (hevent : ∀ server cert, event ≠ .registered server cert)
    (h : HoldsLatest pem commonName events bundle) :
    HoldsLatest pem commonName (events ++ [event]) bundle := by
  obtain ⟨certs, hparse, hnodup, hlatest⟩ := h
  exact ⟨certs, hparse, hnodup, fun server cert h => hlatest server cert (h.of_other hevent)⟩

/-- Writing a bundle that holds the latest certificates keeps the invariant. -/
theorem RegistrationInv.put {events : List (RegistrationEvent S Cert)}
    {event : RegistrationEvent S Cert} {s : RegistrationState S}
    (hs : RegistrationInv pem commonName apiVersion events s)
    {before after : List (RegistrationRun S)} {run : RegistrationRun S}
    (hruns : s.runs = before ++ run :: after) {x : APIService} {rv : String}
    (hfresh : s.services.Fresh apiServiceVersion rv)
    (hholds : HoldsLatest pem commonName (events ++ [event]) x.spec.caBundle) :
    RegistrationInv pem commonName apiVersion (events ++ [event])
      { services := s.services.put (apiServiceName apiVersion) (x.withResourceVersion rv)
        runs := before ++ after } where
  versioned := hs.versioned.put _ hfresh
  read run' hrun' y hy := by
    refine List.mem_cons_of_mem _ (hs.read run' ?_ y hy)
    rw [hruns]
    exact ((List.sublist_cons_self run after).append_left before).subset hrun'
  bundle y hy := by
    rw [Objects.stored_put_self] at hy
    rw [← Option.some.inj hy]
    exact hholds
  absent hnone := by
    rw [Objects.stored_put_self] at hnone
    cases hnone

/-- **What one step keeps.** -/
theorem registrationStep_inv (hpem : pem.Concatenates) (hnames : Function.Injective commonName)
    {events : List (RegistrationEvent S Cert)} {event : RegistrationEvent S Cert}
    {s s' : RegistrationState S} (hs : RegistrationInv pem commonName apiVersion events s)
    (h : RegistrationStep pem commonName apiVersion s event s') :
    RegistrationInv pem commonName apiVersion (events ++ [event]) s' := by
  cases h with
  | @get run cert hbrings hexisting =>
    refine ⟨hs.versioned, fun run' hrun' x hx => ?_, fun x hx => ?_, fun hnone server cert h => ?_⟩
    · rcases List.mem_cons.mp hrun' with rfl | hrun'
      · exact hs.versioned.mem_versions _ _ (hexisting x hx)
      · exact hs.read run' hrun' x hx
    · exact (hs.bundle x hx).of_other nofun
    · exact hs.absent hnone server cert (h.of_other nofun)
  | @update before after run cert x current rv hruns hbrings hsent hcurrent hversion hfresh =>
    obtain ⟨read, hread, hxread, hmerge⟩ := registerAggregatedAPI_update hsent
    have hrun : run ∈ s.runs := by
      rw [hruns]
      exact List.mem_append_right _ List.mem_cons_self
    -- what the run has read is what it replaces
    obtain rfl : read = current := hs.versioned.eq_of_version (hs.read run hrun read hread) hcurrent
      (hxread.symm.trans hversion)
    have hholds := (hs.bundle read hcurrent).merge hpem hnames hbrings.2.1 hbrings.2.2 hmerge
    exact hs.put hruns hfresh hholds
  | @create before after run cert x rv hruns hbrings hsent habsent hfresh =>
    have hholds : HoldsLatest pem commonName (events ++ [.registered run.server cert])
        x.spec.caBundle := by
      rw [registerAggregatedAPI_create hsent]
      refine ⟨[cert], hbrings.2.1, by simp, fun server' cert' h' => ?_⟩
      rcases h'.of_registered with ⟨rfl, rfl⟩ | ⟨-, h'⟩
      · simp [hbrings.2.2]
      · exact absurd h' (hs.absent habsent server' cert')
    exact hs.put hruns hfresh hholds
  | @fail before after run hruns =>
    refine ⟨hs.versioned, fun run' hrun' => hs.read run' ?_, fun x hx => ?_,
      fun hnone server cert h => ?_⟩
    · rw [hruns]
      exact ((List.sublist_cons_self run after).append_left before).subset hrun'
    · exact (hs.bundle x hx).of_other nofun
    · exact hs.absent hnone server cert (h.of_other nofun)

theorem registration_inv (hpem : pem.Concatenates) (hnames : Function.Injective commonName)
    {events : List (RegistrationEvent S Cert)} {s : RegistrationState S}
    (h : (registrationSystem pem commonName apiVersion).Run .empty events s) :
    RegistrationInv pem commonName apiVersion events s := by
  induction h with
  | nil =>
    refine ⟨Objects.wellVersioned_empty _, fun _ hrun => absurd hrun List.not_mem_nil,
      fun _ hx => ?_, fun _ _ _ => not_since_nil _ _⟩
    cases hx
  | snoc _ hstep ih => exact registrationStep_inv hpem hnames ih hstep

/-- **No API server loses another's CA.** In every run of any number of servers
with distinct common names, the registered bundle parses and has at most one
certificate for a common name, and it has exactly the certificate of the latest
successful registration of every server. -/
theorem registrations_kept (hpem : pem.Concatenates) (hnames : Function.Injective commonName)
    {events : List (RegistrationEvent S Cert)} {s : RegistrationState S}
    (h : (registrationSystem pem commonName apiVersion).Run .empty events s) :
    (∀ x, s.services.stored (apiServiceName apiVersion) = some x →
      ∃ certs, pem.parseCertsPEM x.spec.caBundle = .ok certs ∧
        (certs.map pem.commonName).Nodup) ∧
    ∀ server cert, LatestRegistration events server cert →
      ∃ x certs, s.services.stored (apiServiceName apiVersion) = some x ∧
        pem.parseCertsPEM x.spec.caBundle = .ok certs ∧
        certs.filter (fun c => pem.commonName c = commonName server) = [cert] := by
  have hs := registration_inv hpem hnames h
  constructor
  · intro x hx
    obtain ⟨certs, hparse, hnodup, -⟩ := hs.bundle x hx
    exact ⟨certs, hparse, hnodup⟩
  · intro server cert hlatest
    cases hx : s.services.stored (apiServiceName apiVersion) with
    | none => exact absurd hlatest (hs.absent hx server cert)
    | some x =>
      obtain ⟨certs, hparse, -, hkept⟩ := hs.bundle x hx
      exact ⟨x, certs, rfl, hparse, hkept server cert hlatest⟩

end Runs

/-! ## Example -/

/-- A certificate is one byte, and so is its block. -/
def bytePem : Pem UInt8 where
  decode
    | [] => none
    | b :: rest => some ({ type := certificateBlockType, headers := [], bytes := [b] }, rest)
  length_decode data block rest h := by
    cases data with
    | nil => cases h
    | cons b data =>
      cases h
      exact Nat.lt_succ_self _
  encodeToMemory block := block.bytes
  parseCertificate
    | [b] => .ok b
    | _ => .error "malformed certificate"
  raw cert := [cert]
  commonName cert := if cert < 100 then "compose-api-ca-a" else "compose-api-ca-b"

theorem parseCertsLoop_bytePem (data certs : List UInt8) (ok : Bool) (h : data ≠ [] ∨ ok = true) :
    bytePem.parseCertsLoop data certs ok = .ok (certs ++ data) := by
  induction data generalizing certs ok with
  | nil =>
    obtain rfl : ok = true := by simpa using h
    unfold Pem.parseCertsLoop
    simp
  -- every byte is a certificate of its own
  | cons b rest ih =>
    unfold Pem.parseCertsLoop
    dsimp only
    rw [if_pos (by simp)]
    split
    · next hnone => cases hnone
    · next block rest' hsome =>
      cases hsome
      rw [if_neg (by simp)]
      show bytePem.parseCertsLoop rest (certs ++ [b]) true = _
      rw [ih _ _ (Or.inr rfl), List.append_assoc]
      rfl

theorem parseCertsPEM_bytePem {data : List UInt8} (h : data ≠ []) :
    bytePem.parseCertsPEM data = .ok data :=
  parseCertsLoop_bytePem data [] false (Or.inl h)

theorem bytePem_concatenates : bytePem.Concatenates := by
  intro certs bundle certs' h
  have hne : bundle ≠ [] := by
    rintro rfl
    exact Pem.parseCertsPEM_nil _ h
  rw [parseCertsPEM_bytePem hne] at h
  obtain rfl := Except.ok.inj h
  have hencode : certs.flatMap bytePem.encodeCertPEM = certs := List.flatMap_singleton' certs
  rw [hencode, parseCertsPEM_bytePem (List.append_ne_nil_of_right_ne_nil _ hne)]

/-- The arguments of the example's servers. -/
def exampleArgs (caBundle : Bytes) : RegistrationArgs where
  caBundle := caBundle
  serviceNamespace := "docker"
  serviceName := "compose-api"
  apiVersion := "v1alpha3"
  versionPriority := 15

/-- The common names of two servers. -/
def exampleName : Bool → String
  | false => "compose-api-ca-a"
  | true => "compose-api-ca-b"

/-- One server creates the registration, and another one adds its certificate. -/
theorem registrations_kept_twoServers :
    ∃ s : RegistrationState Bool, (registrationSystem bytePem exampleName "v1alpha3").Run .empty
        [.get, .registered false 1, .get, .registered true 200] s ∧
      ∃ x certs, s.services.stored "v1alpha3.compose.docker.com" = some x ∧
        bytePem.parseCertsPEM x.spec.caBundle = .ok certs ∧
        certs.filter (fun c => bytePem.commonName c = exampleName false) = [1] := by
  -- the runs of the two servers, after their `Get`
  let first : RegistrationRun Bool := ⟨false, exampleArgs [1], .error "not found"⟩
  let created := (exampleArgs [1]).apiService.withResourceVersion "1"
  let second : RegistrationRun Bool := ⟨true, exampleArgs [200], .ok created⟩
  have hfirst : first.Brings bytePem exampleName "v1alpha3" 1 :=
    ⟨rfl, parseCertsPEM_bytePem (by decide), rfl⟩
  have hsecond : second.Brings bytePem exampleName "v1alpha3" 200 :=
    ⟨rfl, parseCertsPEM_bytePem (by decide), rfl⟩
  have hmerge : bytePem.mergeCABundle [1] [200] = .ok [1, 200] :=
    Pem.mergeCABundle_of_one (parseCertsPEM_bytePem (by decide)) (parseCertsPEM_bytePem (by decide))
  obtain ⟨x, hx⟩ : ∃ x, registerAggregatedAPI bytePem second.args second.existing =
      .ok (.update x) := ⟨_, bind_eq_ok.mpr ⟨[1, 200], hmerge, rfl⟩⟩
  have hversion : apiServiceVersion x = apiServiceVersion created := by
    obtain ⟨read, hread, hversion, -⟩ := registerAggregatedAPI_update hx
    obtain rfl : created = read := Except.ok.inj hread
    exact hversion
  -- the four steps
  let services := Objects.empty.put "v1alpha3.compose.docker.com" created
  have hget : RegistrationStep bytePem exampleName "v1alpha3" .empty .get ⟨.empty, [first]⟩ :=
    .get hfirst fun y (hy : Except.error "not found" = Except.ok y) => nomatch hy
  have hcreate : RegistrationStep bytePem exampleName "v1alpha3" ⟨.empty, [first]⟩
      (.registered false 1) ⟨services, []⟩ :=
    @RegistrationStep.create _ _ _ _ _ ⟨.empty, [first]⟩ [] [] first 1 _ "1" rfl hfirst rfl rfl
      (Objects.fresh_empty _ _)
  have hget' : RegistrationStep bytePem exampleName "v1alpha3" ⟨services, []⟩ .get
      ⟨services, [second]⟩ :=
    .get hsecond fun y hy => congrArg some (Except.ok.inj hy)
  have hfresh : services.Fresh apiServiceVersion "2" := by
    intro y hy
    obtain rfl := List.mem_singleton.mp hy
    decide
  have hupdate : RegistrationStep bytePem exampleName "v1alpha3" ⟨services, [second]⟩
      (.registered true 200)
      ⟨services.put "v1alpha3.compose.docker.com" (x.withResourceVersion "2"), []⟩ :=
    @RegistrationStep.update _ _ _ _ _ ⟨services, [second]⟩ [] [] second 200 x created "2" rfl
      hsecond hx rfl hversion hfresh
  have hrun : (registrationSystem bytePem exampleName "v1alpha3").Run .empty
      [.get, .registered false 1, .get, .registered true 200] _ :=
    .snoc (.snoc (.snoc (.snoc .nil hget) hcreate) hget') hupdate
  have hnames : Function.Injective exampleName := by decide
  exact ⟨_, hrun, (registrations_kept bytePem_concatenates hnames hrun).2 false 1
    ⟨[.get], _, [.get, .registered true 200], rfl, rfl, by simp⟩⟩

end ComposeKube

import ComposeKube.Convert.Runtime

/-!
# Labels and object metadata

`package labels`, `ObjKey`, and the metadata every generated object starts
from. The system labels (`forService`) come first and the service's own
`Deploy.Labels` second, so the latter win (`mergeLabels_lookup`).
-/

namespace ComposeKube

open Go

/-! ## Package labels -/

namespace Labels

def forServiceName : String := "com.docker.service.name"

def forStackName : String := "com.docker.stack.namespace"

def forServiceID : String := "com.docker.service.id"

/-- `labels.ForService`: the labels to select a service of a stack. -/
def forService (stackName serviceName : String) : Map String :=
  let labels : Map String := ∅
  let labels := if serviceName ≠ "" then labels.insert forServiceName serviceName else labels
  let labels := if stackName ≠ "" then labels.insert forStackName stackName else labels
  if serviceName ≠ "" ∧ stackName ≠ "" then
    labels.insert forServiceID (stackName ++ "-" ++ serviceName)
  else labels

section

variable {stackName serviceName : String} (hstack : stackName ≠ "") (hservice : serviceName ≠ "")

include hstack hservice

theorem lookup_forService_stackName :
    (forService stackName serviceName).lookup forStackName = some stackName := by
  have h : forStackName ≠ forServiceID := by decide
  simp [forService, hstack, hservice, Finmap.lookup_insert_of_ne _ h]

theorem lookup_forService_serviceName :
    (forService stackName serviceName).lookup forServiceName = some serviceName := by
  have h : forServiceName ≠ forServiceID := by decide
  have h' : forServiceName ≠ forStackName := by decide
  simp [forService, hstack, hservice, Finmap.lookup_insert_of_ne _ h,
    Finmap.lookup_insert_of_ne _ h']

theorem lookup_forService_serviceID :
    (forService stackName serviceName).lookup forServiceID =
      some (stackName ++ "-" ++ serviceName) := by
  simp [forService, hstack, hservice]

end

/-- No other label is a system label. -/
theorem lookup_forService_of_ne {stackName serviceName k : String} (h1 : k ≠ forServiceName)
    (h2 : k ≠ forStackName) (h3 : k ≠ forServiceID) :
    (forService stackName serviceName).lookup k = none := by
  unfold forService
  by_cases hstack : stackName = "" <;> by_cases hservice : serviceName = "" <;>
    simp [hstack, hservice, Finmap.lookup_insert_of_ne _ h1, Finmap.lookup_insert_of_ne _ h2,
      Finmap.lookup_insert_of_ne _ h3]

end Labels

/-! ## Keys -/

/-- `stackresources.ObjKey`. -/
def objKey (namespace_ name : String) : String :=
  if namespace_ = "" then name else namespace_ ++ "/" ++ name

/-- Within a namespace the key determines the name. -/
theorem objKey_injective {namespace_ name name' : String}
    (h : objKey namespace_ name = objKey namespace_ name') : name = name' := by
  unfold objKey at h
  split at h
  · exact h
  · exact (String.append_right_inj (namespace_ ++ "/")).mp h

@[simp] theorem objKey_inj {namespace_ name name' : String} :
    objKey namespace_ name = objKey namespace_ name' ↔ name = name' :=
  ⟨objKey_injective, fun h => by rw [h]⟩

/-- Without the separator of keys. -/
def SlashFree (s : String) : Prop := '/' ∉ s.toList

instance : DecidablePred SlashFree := fun s => inferInstanceAs (Decidable ('/' ∉ s.toList))

/-- **A key determines the namespace and the name** when they do not contain the separator. -/
theorem objKey_inj_of_slashFree {namespace_ name namespace' name' : String}
    (hns : SlashFree namespace_) (hname : SlashFree name) (hname' : SlashFree name')
    (h : objKey namespace_ name = objKey namespace' name') :
    namespace_ = namespace' ∧ name = name' := by
  -- a key with a namespace has a slash
  have hslash : ∀ a b : String, ¬SlashFree (a ++ "/" ++ b) := by
    intro a b hfree
    simp [SlashFree, String.toList_append] at hfree
  unfold objKey at h
  split at h
  case isTrue hempty =>
    split at h
    case isTrue hempty' => exact ⟨hempty.trans hempty'.symm, h⟩
    case isFalse => exact absurd (h ▸ hname) (hslash _ _)
  case isFalse =>
    split at h
    case isTrue => exact absurd (h ▸ hname') (hslash _ _)
    case isFalse =>
      -- the first slash separates the two parts
      have hlist := congrArg String.toList h
      simp only [String.toList_append, List.append_assoc] at hlist
      obtain ⟨hleft, -, hright⟩ := (List.append_cons_inj_of_notMem hns hname).mp hlist
      exact ⟨String.ext hleft, String.ext hright⟩

/-! ## Metadata of the generated objects -/

/-- `mergeLabels`: later maps overwrite earlier ones. -/
def mergeLabels (ord : ServiceOrder) (labelmaps : List (MapRef String)) : Map String :=
  labelmaps.zipIdx.foldl
    (fun m l => (ord.range (.labels l.2) l.1.entries).foldl (fun m e => m.insert e.1 e.2) m) ∅

/-- **User labels win.** In every iteration order a label of the second map
shadows the same label of the first. -/
theorem mergeLabels_lookup (ord : ServiceOrder) (labels labels' : MapRef String) (k : String) :
    (mergeLabels ord [labels, labels']).lookup k = (labels'.get? k).or (labels.get? k) := by
  simp [mergeLabels, RangeOrder.lookup_foldl_insert]

/-- `objectMeta`. -/
def objectMeta (ord : ServiceOrder) (srv : Latest.ServiceConfig) (labels : Map String)
    (namespace_ : String) : ObjectMeta :=
  { (default : ObjectMeta) with
    name := srv.name
    labels := some (mergeLabels ord [some labels, srv.deploy.labels])
    namespace_ := namespace_ }

section

variable (ord : ServiceOrder) (srv : Latest.ServiceConfig) (labels : Map String)
  (namespace_ : String)

@[simp] theorem objectMeta_name : (objectMeta ord srv labels namespace_).name = srv.name := rfl

@[simp] theorem objectMeta_namespace :
    (objectMeta ord srv labels namespace_).namespace_ = namespace_ := rfl

@[simp] theorem objectMeta_resourceVersion :
    (objectMeta ord srv labels namespace_).resourceVersion = "" := rfl

/-- A label that the service asks for overrides that of the stack. -/
theorem objectMeta_labels_get? (k : String) :
    (objectMeta ord srv labels namespace_).labels.get? k =
      (srv.deploy.labels.get? k).or (labels.lookup k) := by
  simp [objectMeta, mergeLabels_lookup]

/-- The metadata does not depend on the order in which the label maps are visited. -/
theorem objectMeta_order (ord' : ServiceOrder) :
    objectMeta ord srv labels namespace_ = objectMeta ord' srv labels namespace_ := by
  have h : mergeLabels ord [some labels, srv.deploy.labels] =
      mergeLabels ord' [some labels, srv.deploy.labels] := by
    refine Finmap.ext_lookup fun k => ?_
    rw [mergeLabels_lookup, mergeLabels_lookup]
  unfold objectMeta
  rw [h]

end

end ComposeKube

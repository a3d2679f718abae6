import ComposeKube.Registry.Strategy

/-!
# Updates through subresources

`composefile.go` and `scale.go`: an update of a subresource transforms a copy
of the stored stack, status included, and passes it on to the strategy of the
first API version (compose file) or of the later ones (scale).

* `scaleTransform_same` — a scale that is semantically no change is none at all.
-/

namespace ComposeKube

open Go

/-- A new generation, when the spec has changed semantically. -/
def bumpGeneration (oldObj newObj : Internal.Stack) : Internal.Stack :=
  if semanticDeepEqual Semantic.internalStackSpec oldObj.spec newObj.spec = false then
    { newObj with
      objectMeta := { newObj.objectMeta with generation := oldObj.objectMeta.generation + 1 } }
  else newObj

/-- The transformation of `stackComposeFileRest.Update`. -/
def composeFileTransform (newCompose : String) (oldObj : Internal.Stack) : Internal.Stack :=
  bumpGeneration oldObj
    { oldObj with spec := { oldObj.spec with composeFile := newCompose, stack := none } }

/-- The inner loop of `stackScaleRest.Update`: the first service with the name is
scaled, if there is one. -/
def scaleService (target : String) (r : UInt64) :
    List Latest.ServiceConfig → Option (List Latest.ServiceConfig)
  | [] => none
  | srv :: services =>
    if srv.name = target then
      some ({ srv with deploy := { srv.deploy with replicas := some r } } :: services)
    else (scaleService target r services).map (srv :: ·)

/-- The outer loop, over the entries of the new scale in the order of the loop. -/
def scaleServices : List (String × Int64) → List Latest.ServiceConfig →
    Except String (List Latest.ServiceConfig)
  | [], services => .ok services
  | (target, count) :: newScale, services =>
    match scaleService target count.toUInt64 services with
    | some services => scaleServices newScale services
    | none => .error ("service " ++ quote target ++ " not found in stack")

/-- The transformation of `stackScaleRest.Update`. A stack without a spec makes
the server panic. -/
def scaleTransform (newScale : List (String × Int64)) (oldObj : Internal.Stack) :
    Except String Internal.Stack :=
  match oldObj.spec.stack with
  | none => .error "runtime error: invalid memory address or nil pointer dereference"
  | some spec => do
    let services ← scaleServices newScale spec.services.elems
    let newObj := { oldObj with spec := { oldObj.spec with
      stack := some { spec with services := spec.services.map fun _ => services } } }
    pure (bumpGeneration oldObj newObj)

/-! ## Updates

A client of the second version sends what converts to an object of the third. -/

/-- A client's update of a stored stack. -/
inductive Update where
  | v1beta1 (sent : V1beta1.Stack)
  | v1alpha3 (sent : Latest.Stack)
  | composeFile (newCompose : String)
  | scale (newScale : List (String × Int64))

namespace Update

/-- The strategy that an update goes through. -/
def version : Update → APIVersion
  | v1beta1 _ => .v1beta1
  | v1alpha3 _ => .v1beta2
  | composeFile _ => .v1beta1
  | scale _ => .v1beta2

/-- The object that the strategy is given. -/
def object (stored : Internal.Stack) : Update → Except String Internal.Stack
  | v1beta1 sent => .ok (stackToInternalV1beta1 sent default)
  | v1alpha3 sent => .ok (stackToInternalV1alpha3 sent default)
  | composeFile newCompose => .ok (composeFileTransform newCompose stored)
  | scale newScale => scaleTransform newScale stored

end Update

theorem bumpGeneration_spec (oldObj newObj : Internal.Stack) :
    (bumpGeneration oldObj newObj).spec = newObj.spec := by
  unfold bumpGeneration
  split <;> rfl

theorem bumpGeneration_status (oldObj newObj : Internal.Stack) :
    (bumpGeneration oldObj newObj).status = newObj.status := by
  unfold bumpGeneration
  split <;> rfl

/-! ## What scaling changes -/

/-- The services are the same but for the number of replicas. -/
def SameButReplicas (s t : Latest.ServiceConfig) : Prop :=
  t = { s with deploy := { s.deploy with replicas := t.deploy.replicas } }

theorem SameButReplicas.refl (s : Latest.ServiceConfig) : SameButReplicas s s := rfl

theorem SameButReplicas.trans {s t u : Latest.ServiceConfig} (h : SameButReplicas s t)
    (h' : SameButReplicas t u) : SameButReplicas s u := by
  unfold SameButReplicas at *
  rw [h'.trans (by rw [h])]

/-- Semantic equality sees every change of a number of replicas. -/
theorem SameButReplicas.eq_of_semantic {s t : Latest.ServiceConfig} (h : SameButReplicas s t)
    (hsem : Semantic.serviceConfig s = Semantic.serviceConfig t) : s = t := by
  have hreplicas : (Semantic.serviceConfig s).deploy.replicas =
      (Semantic.serviceConfig t).deploy.replicas := by rw [hsem]
  replace hreplicas : s.deploy.replicas = t.deploy.replicas := hreplicas
  rw [h, ← hreplicas]

theorem scaleService_same {target : String} {r : UInt64} :
    ∀ {l l' : List Latest.ServiceConfig}, scaleService target r l = some l' →
      List.Forall₂ SameButReplicas l l'
  | [], _, h => nomatch h
  | srv :: services, l', h => by
    unfold scaleService at h
    split at h
    · cases h
      exact .cons rfl (List.forall₂_same.mpr fun s _ => .refl s)
    · obtain ⟨services', hservices, rfl⟩ := Option.map_eq_some_iff.mp h
      exact .cons (.refl srv) (scaleService_same hservices)

/-- To scale changes replicas only. -/
theorem scaleServices_same :
    ∀ {newScale : List (String × Int64)} {l l' : List Latest.ServiceConfig},
      scaleServices newScale l = .ok l' → List.Forall₂ SameButReplicas l l'
  | [], l, _, h => by
    cases h
    exact List.forall₂_same.mpr fun s _ => .refl s
  | (target, count) :: newScale, l, l', h => by
    unfold scaleServices at h
    split at h
    · next services hservice =>
      exact forall₂_trans (scaleService_same hservice) (scaleServices_same h)
        fun _ _ _ => SameButReplicas.trans
    · cases h

/-- Services that differ in their replicas only, and not semantically, are the same. -/
theorem eq_of_forall₂_semantic {l l' : List Latest.ServiceConfig}
    (h : List.Forall₂ SameButReplicas l l')
    (hsem : l.map Semantic.serviceConfig = l'.map Semantic.serviceConfig) : l = l' := by
  induction h with
  | nil => rfl
  | cons hst _ ih =>
    obtain ⟨hhead, htail⟩ := List.cons.inj hsem
    rw [hst.eq_of_semantic hhead, ih htail]

/-- A scaled stack has the stored status, and a spec. -/
theorem scaleTransform_status {newScale : List (String × Int64)} {oldObj newObj : Internal.Stack}
    (h : scaleTransform newScale oldObj = .ok newObj) :
    newObj.status = oldObj.status ∧ newObj.spec.stack ≠ none := by
  unfold scaleTransform at h
  split at h
  · cases h
  · obtain ⟨services, -, hret⟩ := bind_eq_ok.mp h
    obtain rfl := pure_eq_ok.mp hret
    rw [bumpGeneration_status, bumpGeneration_spec]
    exact ⟨rfl, by simp⟩

/-- **A scale that is semantically no change is none at all.** -/
theorem scaleTransform_same {newScale : List (String × Int64)} {oldObj newObj : Internal.Stack}
    (h : scaleTransform newScale oldObj = .ok newObj)
    (hsem : newObj.spec.stack.map Semantic.stackSpec = oldObj.spec.stack.map Semantic.stackSpec) :
    newObj.spec.stack = oldObj.spec.stack := by
  unfold scaleTransform at h
  cases hstack : oldObj.spec.stack with
  | none =>
    rw [hstack] at h
    cases h
  | some spec =>
    rw [hstack] at h hsem
    obtain ⟨services, hservices, hret⟩ := bind_eq_ok.mp h
    obtain rfl := pure_eq_ok.mp hret
    rw [bumpGeneration_spec] at hsem ⊢
    cases hslice : spec.services with
    | none => rw [Option.map_none, ← hslice]
    | some l =>
      rw [hslice] at hservices hsem
      -- compare the elements of the two service slices
      have hcanon : (Slice.canon Semantic.serviceConfig (some services)).elems =
          (Slice.canon Semantic.serviceConfig (some l)).elems := by
        have hspecs := congrArg Latest.StackSpec.services (Option.some.inj hsem)
        rw [Semantic.stackSpec, Semantic.stackSpec, hslice] at hspecs
        exact congrArg Slice.elems hspecs
      simp only [Slice.canon, Slice.elems_ofAppends, Slice.elems_some] at hcanon
      have hsame := eq_of_forall₂_semantic (scaleServices_same hservices) hcanon.symm
      replace hsame : services = l := hsame.symm
      rw [hsame, Option.map_some, ← hslice]

end ComposeKube

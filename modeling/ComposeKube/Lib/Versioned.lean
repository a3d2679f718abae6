import Mathlib.Logic.Function.Basic

/-!
# Stores of versions

A store keeps an object under a key and gives every object that it writes a
version of its own. Readers hold objects that were stored at some time; a
writer that names the version it has read, and is only let through when that
version is still the stored one, has read the stored object itself.

* `WellVersioned.eq_of_version` — the object that was read is the stored one.
* `WellVersioned.put`, `WellVersioned.drop` — what the writes keep.
-/

namespace Versioned

/-- The stored objects, and all versions that have been stored. -/
structure Objects (K α : Type) where
  stored : K → Option α
  versions : List α

namespace Objects

variable {K α V : Type} [DecidableEq K]

/-- Nothing has been stored. -/
def empty : Objects K α := { stored := fun _ => none, versions := [] }

/-- An object is stored under a key. -/
def put (s : Objects K α) (k : K) (x : α) : Objects K α where
  stored := Function.update s.stored k (some x)
  versions := x :: s.versions

/-- What is under a key is removed; its versions have been stored all the same. -/
def drop (s : Objects K α) (k : K) : Objects K α :=
  { s with stored := Function.update s.stored k none }

/-- What was put is stored. -/
@[simp] theorem stored_put_self (s : Objects K α) (k : K) (x : α) :
    (s.put k x).stored k = some x := Function.update_self ..

/-- A put changes nothing else. -/
theorem stored_put_of_ne (s : Objects K α) {k k' : K} (h : k' ≠ k) (x : α) :
    (s.put k x).stored k' = s.stored k' := Function.update_of_ne h ..

@[simp] theorem stored_drop_self (s : Objects K α) (k : K) : (s.drop k).stored k = none :=
  Function.update_self ..

theorem stored_drop_of_ne (s : Objects K α) {k k' : K} (h : k' ≠ k) :
    (s.drop k).stored k' = s.stored k' := Function.update_of_ne h ..

/-- No object has had the version yet. -/
def Fresh (version : α → V) (s : Objects K α) (v : V) : Prop := ∀ x ∈ s.versions, version x ≠ v

omit [DecidableEq K] in
/-- Every version is fresh at the start. -/
theorem fresh_empty (version : α → V) (v : V) : (empty : Objects K α).Fresh version v :=
  fun _ h => absurd h List.not_mem_nil

/-- What is stored is among the versions, and the versions tell objects apart. -/
structure WellVersioned (version : α → V) (s : Objects K α) : Prop where
  mem_versions : ∀ k x, s.stored k = some x → x ∈ s.versions
  unique : ∀ x ∈ s.versions, ∀ y ∈ s.versions, version x = version y → x = y

omit [DecidableEq K] in
/-- At the start nothing is stored. -/
theorem wellVersioned_empty (version : α → V) : (empty : Objects K α).WellVersioned version where
  mem_versions _ _ h := nomatch h
  unique _ h := nomatch h

variable {version : α → V} {s : Objects K α}

omit [DecidableEq K] in
/-- **The object that was read is the stored one** when the versions agree. -/
theorem WellVersioned.eq_of_version (h : s.WellVersioned version) {read x : α} {k : K}
    (hread : read ∈ s.versions) (hx : s.stored k = some x) (hversion : version read = version x) :
    read = x :=
  h.unique read hread x (h.mem_versions k x hx) hversion

/-- **A fresh version keeps versions unique.** -/
theorem WellVersioned.put (h : s.WellVersioned version) (k : K) {x : α}
    (hfresh : s.Fresh version (version x)) : (s.put k x).WellVersioned version where
  mem_versions k' y hy := by
    by_cases hk : k' = k
    · rw [hk, stored_put_self] at hy
      rw [← Option.some.inj hy]
      exact List.mem_cons_self
    · rw [stored_put_of_ne s hk] at hy
      exact List.mem_cons_of_mem _ (h.mem_versions k' y hy)
  unique y hy z hz hversion := by
    -- the new object meets no other with its version
    rcases List.mem_cons.mp hy with rfl | hy'
    · rcases List.mem_cons.mp hz with rfl | hz'
      · rfl
      · exact absurd hversion.symm (hfresh z hz')
    · rcases List.mem_cons.mp hz with rfl | hz'
      · exact absurd hversion (hfresh y hy')
      · exact h.unique y hy' z hz' hversion

/-- So does a removal, whose object is still in the history. -/
theorem WellVersioned.drop (h : s.WellVersioned version) (k : K) :
    (s.drop k).WellVersioned version where
  mem_versions k' y hy := by
    by_cases hk : k' = k
    · rw [hk, stored_drop_self] at hy
      cases hy
    · rw [stored_drop_of_ne s hk] at hy
      exact h.mem_versions k' y hy
  unique := h.unique

end Objects

end Versioned

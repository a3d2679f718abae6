import Mathlib.Data.List.Nodup

/-!
# Collections

A collection holds items, no two of them under the same key. The order of the items is
the one in which they are listed.

* `find_eq_some_iff` — the item under a key is the only one.
* `find_insert`, `find_modify`, `find_removeWhere` — what is there after a change.
-/

structure Collection {α κ : Type} (key : α → κ) where
  items : List α
  nodup : (items.map key).Nodup

namespace Collection

variable {α κ : Type} [DecidableEq κ] {key : α → κ} {c : Collection key} {k : κ} {x : α}

def find (c : Collection key) (k : κ) : Option α := c.items.find? fun x => key x = k

/-- What is found has the key. -/
theorem find_key (h : c.find k = some x) : key x = k := by
  simpa using List.find?_some h

/-- **A key finds its only object.** -/
theorem find_eq_some_iff : c.find k = some x ↔ x ∈ c.items ∧ key x = k := by
  constructor
  · exact fun h => ⟨List.mem_of_find?_eq_some h, find_key h⟩
  · rintro ⟨hmem, rfl⟩
    obtain ⟨before, after, hitems⟩ := List.append_of_mem hmem
    have hnodup := c.nodup
    rw [hitems, List.map_append, List.nodup_append] at hnodup
    unfold find
    rw [hitems, List.find?_append, List.find?_cons_of_pos (by simp)]
    -- no item before it has its key
    have hnone : before.find? (fun y => key y = key x) = none := by
      rw [List.find?_eq_none]
      intro y hy hkey
      refine hnodup.2.2 (key y) (List.mem_map_of_mem hy) (key x) ?_ (by simpa using hkey)
      exact List.mem_map_of_mem (List.mem_cons_self ..)
    rw [hnone]
    rfl

/-- A key finds nothing when no object has it. -/
theorem find_eq_none_iff : c.find k = none ↔ ∀ x ∈ c.items, key x ≠ k := by
  unfold find
  rw [List.find?_eq_none]
  simp

/-- A new item. -/
def insert (c : Collection key) (x : α) (h : c.find (key x) = none) : Collection key where
  items := c.items ++ [x]
  nodup := by
    rw [List.map_append, List.nodup_append]
    refine ⟨c.nodup, List.nodup_singleton _, ?_⟩
    intro k hk k' hk' heq
    obtain ⟨y, hy, rfl⟩ := List.mem_map.mp hk
    rw [List.map_singleton, List.mem_singleton] at hk'
    exact find_eq_none_iff.mp h y hy (heq.trans hk')

/-- Items are changed, and stay under their keys. -/
def modify (c : Collection key) (f : α → α) (hf : ∀ x, key (f x) = key x) : Collection key where
  items := c.items.map f
  nodup := by
    have hkeys : (c.items.map f).map key = c.items.map key := by
      rw [List.map_map]
      exact List.map_congr_left fun x _ => hf x
    rw [hkeys]
    exact c.nodup

/-- Items are taken away. -/
def removeWhere (c : Collection key) (gone : α → Bool) : Collection key where
  items := c.items.filter fun x => !gone x
  nodup := (List.filter_sublist.map key).nodup c.nodup

/-- What an insertion changes. -/
theorem find_insert (h : c.find (key x) = none) :
    (c.insert x h).find k = if key x = k then some x else c.find k := by
  show (c.items ++ [x]).find? _ = _
  rw [List.find?_append]
  by_cases hkey : key x = k
  · subst hkey
    rw [if_pos rfl, show c.items.find? _ = none from h]
    simp
  · -- the object is appended, so that it is found under its own key only
    rw [if_neg hkey]
    simp [find, hkey]

/-- A change that keeps the keys is made to what is found. -/
theorem find_modify {f : α → α} (hf : ∀ x, key (f x) = key x) :
    (c.modify f hf).find k = (c.find k).map f := by
  show (c.items.map f).find? _ = _
  rw [List.find?_map]
  have hcongr : (fun x => decide (key x = k)) ∘ f = fun x => decide (key x = k) := by
    funext x
    show decide (key (f x) = k) = decide (key x = k)
    rw [hf]
  rw [hcongr]
  rfl

/-- What is found after a removal was there before and stayed. -/
theorem find_removeWhere {gone : α → Bool} :
    (c.removeWhere gone).find k = (c.find k).filter fun x => !gone x := by
  cases hfind : (c.removeWhere gone).find k with
  | some x =>
    obtain ⟨hmem, hkey⟩ := find_eq_some_iff.mp hfind
    obtain ⟨hmem, hgone⟩ := List.mem_filter.mp hmem
    rw [find_eq_some_iff.mpr ⟨hmem, hkey⟩, Option.filter_some, if_pos hgone]
  | none =>
    -- nothing is left under the key: an object there would have stayed
    have hnone := find_eq_none_iff.mp hfind
    symm
    rw [Option.filter_eq_none_iff]
    intro x hx hgone
    obtain ⟨hmem, hkey⟩ := find_eq_some_iff.mp hx
    exact hnone x (List.mem_filter.mpr ⟨hmem, hgone⟩) hkey

end Collection

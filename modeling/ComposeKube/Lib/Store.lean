import ComposeKube.Lib.Keyed

/-!
# A store of objects, and bulk writes to it

A store holds objects under keys and can refuse a write. `Rules` says what it
refuses and what it keeps of an object that is written; `create`, `update` and
`delete` are its operations, and `deleteAll`, `createAll`, `updateAll` are the
loops of a client that stops at the first refused write.

* `createAll_eq_ok`, `updateAll_eq_ok` — when a loop goes through, and what it
  leaves behind.
* `lookup_putAll`, `lookup_eraseAll` — what a key holds afterwards.
-/

namespace Go

/-- The rules of a store of objects `α` with errors `ε`. -/
structure Rules (α ε : Type) where
  /-- why an object cannot be created, whatever the store holds -/
  refuseCreate : α → Option ε
  /-- why a stored object cannot be replaced by another -/
  refuseUpdate : α → α → Option ε
  alreadyExists : ε
  notFound : ε
  /-- what is stored of an object that is written -/
  write : α → α

namespace Rules

variable {α ε ε' : Type} (R : Rules α ε)

/-! ## Single operations -/

def create (k : String) (x : α) (m : Map α) : Except ε (Map α) :=
  match R.refuseCreate x with
  | some e => .error e
  | none =>
    match m.lookup k with
    | some _ => .error R.alreadyExists
    | none => .ok (m.insert k (R.write x))

def update (k : String) (x : α) (m : Map α) : Except ε (Map α) :=
  match m.lookup k with
  | none => .error R.notFound
  | some c =>
    match R.refuseUpdate c x with
    | some e => .error e
    | none => .ok (m.insert k (R.write x))

def delete (k : String) (m : Map α) : Except ε (Map α) :=
  match m.lookup k with
  | none => .error R.notFound
  | some _ => .ok (m.erase k)

/-- When a creation succeeds, and what is stored then. -/
theorem create_eq_ok {k : String} {x : α} {m m' : Map α} :
    R.create k x m = .ok m' ↔
      R.refuseCreate x = none ∧ m.lookup k = none ∧ m' = m.insert k (R.write x) := by
  unfold create
  cases hr : R.refuseCreate x with
  | some e => simp
  | none =>
    cases hm : m.lookup k with
    | some c => simp
    | none => simp [eq_comm]

/-- When an update does. -/
theorem update_eq_ok {k : String} {x : α} {m m' : Map α} :
    R.update k x m = .ok m' ↔
      ∃ c, m.lookup k = some c ∧ R.refuseUpdate c x = none ∧ m' = m.insert k (R.write x) := by
  unfold update
  cases hm : m.lookup k with
  | none => simp
  | some c =>
    cases hr : R.refuseUpdate c x with
    | some e => simp [hr]
    | none => simp [hr, eq_comm]

/-! ## Loops -/

section Loops

variable (key : α → String) (wrap : α → ε → ε')

/-- Create every object of a list; `wrap` adds to an error which object it was. -/
def createAll (l : List α) (m : Map α) : Except ε' (Map α) :=
  l.foldlM (fun m x => (R.create (key x) x m).mapError (wrap x)) m

/-- Update every object of a list. -/
def updateAll (l : List α) (m : Map α) : Except ε' (Map α) :=
  l.foldlM (fun m x => (R.update (key x) x m).mapError (wrap x)) m

/-- Delete an object; errors that are ignored leave the store as it was. -/
def deleteIgnoring (ignored : ε → Bool) (m : Map α) (x : α) : Except ε' (Map α) :=
  match R.delete (key x) m with
  | .ok m' => .ok m'
  | .error e => if ignored e then .ok m else .error (wrap x e)

/-- Delete every object of a list. -/
def deleteAll (ignored : ε → Bool) (l : List α) (m : Map α) : Except ε' (Map α) :=
  l.foldlM (R.deleteIgnoring key wrap ignored) m

/-- The store after every object of a list has been written. -/
def putAll (l : List α) (m : Map α) : Map α :=
  l.foldl (fun m x => m.insert (key x) (R.write x)) m

/-- The store after every object of a list has been removed. -/
def eraseAll (l : List α) (m : Map α) : Map α := l.foldl (fun m x => m.erase (key x)) m

end Loops

variable {key : α → String} {wrap : α → ε → ε'}

/-- The last write under a key is the one that is stored. -/
theorem lookup_putAll (l : List α) (m : Map α) (k : String) :
    (R.putAll key l m).lookup k = ((lastWith key l k).map R.write).or (m.lookup k) := by
  unfold putAll
  induction l generalizing m with
  | nil => rfl
  | cons x rest ih =>
    rw [List.foldl_cons, ih, lastWith_cons]
    by_cases hk : key x = k
    · subst hk
      cases lastWith key rest (key x) <;> simp
    · have hne : k ≠ key x := fun h => hk h.symm
      rw [Finmap.lookup_insert_of_ne _ hne]
      cases lastWith key rest k <;> simp [hk]

/-- What was erased is not found, and the rest is as before. -/
theorem lookup_eraseAll (l : List α) (m : Map α) (k : String) :
    (eraseAll key l m).lookup k = if k ∈ l.map key then none else m.lookup k := by
  unfold eraseAll
  induction l generalizing m with
  | nil => simp
  | cons x rest ih =>
    rw [List.foldl_cons, ih, List.map_cons]
    by_cases hk : k = key x
    · subst hk
      simp [Finmap.lookup_erase]
    · -- another key, which this deletion does not touch
      rw [Finmap.lookup_erase_ne hk]
      simp [hk]

/-- Deleting what is not there is the one error that can happen, and it does
not matter to a client that ignores it. -/
theorem deleteIgnoring_eq {ignored : ε → Bool} (hignored : ignored R.notFound = true)
    (m : Map α) (x : α) : R.deleteIgnoring key wrap ignored m x = .ok (m.erase (key x)) := by
  unfold deleteIgnoring delete
  cases hm : m.lookup (key x) with
  | none =>
    -- to erase what is not there changes nothing
    have herase : m.erase (key x) = m := by
      refine Finmap.ext_lookup fun k => ?_
      by_cases hk : k = key x
      · rw [hk, Finmap.lookup_erase, hm]
      · rw [Finmap.lookup_erase_ne hk]
    simp only [hignored, if_true, herase]
  | some c => rfl

/-- Deletions that ignore a missing object succeed. -/
theorem deleteAll_eq {ignored : ε → Bool} (hignored : ignored R.notFound = true) (l : List α)
    (m : Map α) : R.deleteAll key wrap ignored l m = .ok (eraseAll key l m) := by
  unfold deleteAll eraseAll
  induction l generalizing m with
  | nil => rfl
  | cons x rest ih =>
    rw [List.foldlM_cons, R.deleteIgnoring_eq hignored, ok_bind, ih, List.foldl_cons]

/-- A loop of creations goes through when no object is refused, none exists and
no two have one key. -/
theorem createAll_eq_ok {l : List α} {m m' : Map α} :
    R.createAll key wrap l m = .ok m' ↔
      (l.map key).Nodup ∧ (∀ x ∈ l, R.refuseCreate x = none ∧ m.lookup (key x) = none) ∧
        m' = R.putAll key l m := by
  unfold createAll putAll
  induction l generalizing m with
  | nil => simp [pure, Except.pure, eq_comm]
  | cons x rest ih =>
    rw [List.foldlM_cons, bind_eq_ok, List.foldl_cons, List.map_cons, List.nodup_cons,
      List.forall_mem_cons]
    constructor
    · rintro ⟨m₁, hm₁, hrest⟩
      obtain ⟨haccept, habsent, rfl⟩ := R.create_eq_ok.mp (mapError_eq_ok.mp hm₁)
      obtain ⟨hnodup, hall, rfl⟩ := ih.mp hrest
      -- the head is in the store now, so no later object has its key
      have hnotin : key x ∉ rest.map key := by
        intro hmem
        obtain ⟨y, hy, hkey⟩ := List.mem_map.mp hmem
        have := (hall y hy).2
        rw [hkey, Finmap.lookup_insert] at this
        cases this
      refine ⟨⟨hnotin, hnodup⟩, ⟨⟨haccept, habsent⟩, fun y hy => ⟨(hall y hy).1, ?_⟩⟩, rfl⟩
      have hne : key y ≠ key x := fun h => hnotin (h ▸ List.mem_map_of_mem hy)
      rw [← Finmap.lookup_insert_of_ne m hne]
      exact (hall y hy).2
    · rintro ⟨⟨hnotin, hnodup⟩, ⟨⟨haccept, habsent⟩, hall⟩, rfl⟩
      refine ⟨m.insert (key x) (R.write x),
        mapError_eq_ok.mpr (R.create_eq_ok.mpr ⟨haccept, habsent, rfl⟩),
        ih.mpr ⟨hnodup, fun y hy => ⟨(hall y hy).1, ?_⟩, rfl⟩⟩
      have hne : key y ≠ key x := fun h => hnotin (h ▸ List.mem_map_of_mem hy)
      rw [Finmap.lookup_insert_of_ne m hne]
      exact (hall y hy).2

/-- A loop of updates with distinct keys goes through when every object is
there and may be replaced. -/
theorem updateAll_eq_ok {l : List α} {m m' : Map α} (hkeys : (l.map key).Nodup) :
    R.updateAll key wrap l m = .ok m' ↔
      (∀ x ∈ l, ∃ c, m.lookup (key x) = some c ∧ R.refuseUpdate c x = none) ∧
        m' = R.putAll key l m := by
  unfold updateAll putAll
  induction l generalizing m with
  | nil => simp [pure, Except.pure, eq_comm]
  | cons x rest ih =>
    rw [List.map_cons, List.nodup_cons] at hkeys
    obtain ⟨hnotin, hnodup⟩ := hkeys
    -- one write leaves the other keys as they are, so that all could be checked before the
    -- first
    have hother : ∀ y ∈ rest, (m.insert (key x) (R.write x)).lookup (key y) = m.lookup (key y) := by
      intro y hy
      have hne : key y ≠ key x := fun h => hnotin (h ▸ List.mem_map_of_mem hy)
      exact Finmap.lookup_insert_of_ne m hne
    rw [List.foldlM_cons, bind_eq_ok, List.foldl_cons, List.forall_mem_cons]
    constructor
    · rintro ⟨m₁, hm₁, hrest⟩
      obtain ⟨c, hc, haccept, rfl⟩ := R.update_eq_ok.mp (mapError_eq_ok.mp hm₁)
      obtain ⟨hall, rfl⟩ := (ih hnodup).mp hrest
      refine ⟨⟨⟨c, hc, haccept⟩, fun y hy => ?_⟩, rfl⟩
      rw [← hother y hy]
      exact hall y hy
    · rintro ⟨⟨⟨c, hc, haccept⟩, hall⟩, rfl⟩
      refine ⟨m.insert (key x) (R.write x),
        mapError_eq_ok.mpr (R.update_eq_ok.mpr ⟨c, hc, haccept, rfl⟩),
        (ih hnodup).mpr ⟨fun y hy => ?_, rfl⟩⟩
      rw [hother y hy]
      exact hall y hy

end Rules

end Go

import ComposeKube.Lib.Store

/-!
# Reconciling a store with a desired state

A client compares the current objects `C` of a store with the desired objects
`D`, key by key, and turns the differences into deletions, creations and
updates. `settle` says what each key should hold afterwards:

* nothing, when nothing is desired there;
* the current object, when it is the `same` as the desired one;
* the desired object as the store keeps it, in every other case; a different
  object is updated, or deleted and created again (`recreate`).

`apply_isDiff` is the bulk write of such a difference: it goes through unless
the store refuses to create an added object, and leaves exactly `settle`.
`IsDiff.isEmpty_iff` says when there is no difference left.
-/

namespace Go

/-- A set of changes to a store. -/
structure Changes (α : Type) where
  toAdd : List α
  toDelete : List α
  toUpdate : List α

/-- How a client compares a current object with a desired one. -/
structure Comparison (α : Type) where
  /-- there is nothing to do -/
  same : α → α → Bool
  /-- the object cannot be changed in place -/
  recreate : α → α → Bool
  /-- what an update sends, given the current and the desired object -/
  adopt : α → α → α

section

variable {α ε ε' : Type} (cmp : Comparison α) (key : α → String)

/-- The changes are the differences between `C` and `D`. -/
structure IsDiff (C D : Map α) (ch : Changes α) : Prop where
  mem_toAdd : ∀ x, x ∈ ch.toAdd ↔ ∃ k, D.lookup k = some x ∧
    (C.lookup k = none ∨
      ∃ c, C.lookup k = some c ∧ cmp.same c x = false ∧ cmp.recreate c x = true)
  mem_toUpdate : ∀ x, x ∈ ch.toUpdate ↔ ∃ k c d, D.lookup k = some d ∧ C.lookup k = some c ∧
    cmp.same c d = false ∧ cmp.recreate c d = false ∧ x = cmp.adopt c d
  mem_toDelete : ∀ x, x ∈ ch.toDelete ↔ ∃ k, C.lookup k = some x ∧
    (D.lookup k = none ∨
      ∃ d, D.lookup k = some d ∧ cmp.same x d = false ∧ cmp.recreate x d = true)
  nodup_toAdd : (ch.toAdd.map key).Nodup
  nodup_toUpdate : (ch.toUpdate.map key).Nodup

/-- What a key holds after the differences have been written. -/
def settle (write : α → α) (C D : Map α) (k : String) : Option α :=
  match D.lookup k with
  | none => none
  | some d =>
    match C.lookup k with
    | none => some (write d)
    | some c =>
      if cmp.same c d then some c
      else if cmp.recreate c d then some (write d)
      else some (write (cmp.adopt c d))

/-- Every object is under its own key. -/
def FiledBy (m : Map α) : Prop := ∀ k x, m.lookup k = some x → key x = k

variable {cmp key}

section Parts

variable {C D : Map α} {ch : Changes α} (h : IsDiff cmp key C D ch)

include h

/-- What is added under a key: the wanted one, where there is none or another has to make place
for it. -/
theorem IsDiff.lastWith_toAdd (hD : FiledBy key D) (k : String) (x : α) :
    lastWith key ch.toAdd k = some x ↔ D.lookup k = some x ∧
      (C.lookup k = none ∨
        ∃ c, C.lookup k = some c ∧ cmp.same c x = false ∧ cmp.recreate c x = true) := by
  rw [lastWith_eq_some_iff h.nodup_toAdd, h.mem_toAdd]
  constructor
  · rintro ⟨⟨k', hD', hC'⟩, hk⟩
    obtain rfl : k' = k := (hD k' x hD').symm.trans hk
    exact ⟨hD', hC'⟩
  · rintro ⟨hD', hC'⟩
    exact ⟨⟨k, hD', hC'⟩, hD k x hD'⟩

/-- What is updated under a key. -/
theorem IsDiff.lastWith_toUpdate (hD : FiledBy key D)
    (hadopt : ∀ c d, key (cmp.adopt c d) = key d) (k : String) (x : α) :
    lastWith key ch.toUpdate k = some x ↔ ∃ c d, D.lookup k = some d ∧ C.lookup k = some c ∧
      cmp.same c d = false ∧ cmp.recreate c d = false ∧ x = cmp.adopt c d := by
  rw [lastWith_eq_some_iff h.nodup_toUpdate, h.mem_toUpdate]
  constructor
  · rintro ⟨⟨k', c, d, hD', hC', hsame, hre, rfl⟩, hk⟩
    obtain rfl : k' = k := (hD k' d hD').symm.trans ((hadopt c d).symm.trans hk)
    exact ⟨c, d, hD', hC', hsame, hre, rfl⟩
  · rintro ⟨c, d, hD', hC', hsame, hre, rfl⟩
    exact ⟨⟨k, c, d, hD', hC', hsame, hre, rfl⟩, (hadopt c d).trans (hD k d hD')⟩

/-! The keys of the differences. -/

/-- The keys that are added. -/
theorem IsDiff.mem_toAdd_keys (hD : FiledBy key D) (k : String) :
    k ∈ ch.toAdd.map key ↔ ∃ d, D.lookup k = some d ∧
      (C.lookup k = none ∨
        ∃ c, C.lookup k = some c ∧ cmp.same c d = false ∧ cmp.recreate c d = true) := by
  rw [List.mem_map]
  constructor
  · rintro ⟨d, hd, rfl⟩
    obtain ⟨k', hD', hC'⟩ := (h.mem_toAdd d).mp hd
    rw [hD k' d hD']
    exact ⟨d, hD', hC'⟩
  · rintro ⟨d, hD', hC'⟩
    exact ⟨d, (h.mem_toAdd d).mpr ⟨k, hD', hC'⟩, hD k d hD'⟩

/-- The keys that are deleted. -/
theorem IsDiff.mem_toDelete_keys (hC : FiledBy key C) (k : String) :
    k ∈ ch.toDelete.map key ↔ ∃ c, C.lookup k = some c ∧
      (D.lookup k = none ∨
        ∃ d, D.lookup k = some d ∧ cmp.same c d = false ∧ cmp.recreate c d = true) := by
  rw [List.mem_map]
  constructor
  · rintro ⟨c, hc, rfl⟩
    obtain ⟨k', hC', hD'⟩ := (h.mem_toDelete c).mp hc
    rw [hC k' c hC']
    exact ⟨c, hC', hD'⟩
  · rintro ⟨c, hC', hD'⟩
    exact ⟨c, (h.mem_toDelete c).mpr ⟨k, hC', hD'⟩, hC k c hC'⟩

/-- The keys that are updated. -/
theorem IsDiff.mem_toUpdate_keys (hD : FiledBy key D)
    (hadopt : ∀ c d, key (cmp.adopt c d) = key d) (k : String) :
    k ∈ ch.toUpdate.map key ↔ ∃ c d, D.lookup k = some d ∧ C.lookup k = some c ∧
      cmp.same c d = false ∧ cmp.recreate c d = false := by
  rw [List.mem_map]
  constructor
  · rintro ⟨x, hx, rfl⟩
    obtain ⟨k', c, d, hD', hC', hsame, hre, rfl⟩ := (h.mem_toUpdate x).mp hx
    rw [hadopt, hD k' d hD']
    exact ⟨c, d, hD', hC', hsame, hre⟩
  · rintro ⟨c, d, hD', hC', hsame, hre⟩
    exact ⟨_, (h.mem_toUpdate _).mpr ⟨k, c, d, hD', hC', hsame, hre, rfl⟩,
      (hadopt c d).trans (hD k d hD')⟩

/-- No key is both created and updated. -/
theorem IsDiff.key_ne_of_toAdd_of_toUpdate (hD : FiledBy key D)
    (hadopt : ∀ c d, key (cmp.adopt c d) = key d) {x y : α} (hx : x ∈ ch.toAdd)
    (hy : y ∈ ch.toUpdate) : key x ≠ key y := by
  intro hkey
  have hadd := (h.mem_toAdd_keys hD (key x)).mp (List.mem_map_of_mem hx)
  rw [hkey] at hadd
  obtain ⟨c, d, hDy, hCy, -, hre⟩ :=
    (h.mem_toUpdate_keys hD hadopt (key y)).mp (List.mem_map_of_mem hy)
  simp [hDy, hCy, hre] at hadd

end Parts

/-! ## Computing the differences

The client visits the desired entries, then the current ones, in any order. -/

section Compute

variable (cmp) (C D : Map α)

/-- What the first loop does at a desired entry. -/
def diffStep (result : Changes α) (e : String × α) : Changes α :=
  match C.lookup e.1 with
  | some c =>
    if !cmp.same c e.2 then
      if cmp.recreate c e.2 then
        { result with toDelete := result.toDelete ++ [c], toAdd := result.toAdd ++ [e.2] }
      else { result with toUpdate := result.toUpdate ++ [cmp.adopt c e.2] }
    else result
  | none => { result with toAdd := result.toAdd ++ [e.2] }

/-- What the second loop does at a current entry. -/
def deletionStep (result : Changes α) (e : String × α) : Changes α :=
  match D.lookup e.1 with
  | some _ => result
  | none => { result with toDelete := result.toDelete ++ [e.2] }

/-- Both loops, over the visited entries of `D` and of `C`. -/
def diffLoops (desired current : List (String × α)) : Changes α :=
  current.foldl (deletionStep D)
    (desired.foldl (diffStep cmp C) { toAdd := [], toDelete := [], toUpdate := [] })

/-- The object to add at a desired entry. -/
def addedAt (e : String × α) : Option α :=
  match C.lookup e.1 with
  | none => some e.2
  | some c => if cmp.same c e.2 = false ∧ cmp.recreate c e.2 = true then some e.2 else none

/-- The object to send as an update at a desired entry. -/
def updatedAt (e : String × α) : Option α :=
  match C.lookup e.1 with
  | none => none
  | some c =>
    if cmp.same c e.2 = false ∧ cmp.recreate c e.2 = false then some (cmp.adopt c e.2) else none

/-- The current object to delete at a desired entry. -/
def recreatedAt (e : String × α) : Option α :=
  match C.lookup e.1 with
  | none => none
  | some c => if cmp.same c e.2 = false ∧ cmp.recreate c e.2 = true then some c else none

/-- The current object to delete at a current entry. -/
def deletedAt (e : String × α) : Option α :=
  match D.lookup e.1 with
  | some _ => none
  | none => some e.2

/-- **The first loop**, list by list. -/
theorem foldl_diffStep (l : List (String × α)) (r : Changes α) :
    l.foldl (diffStep cmp C) r =
      { toAdd := r.toAdd ++ l.filterMap (addedAt cmp C)
        toDelete := r.toDelete ++ l.filterMap (recreatedAt cmp C)
        toUpdate := r.toUpdate ++ l.filterMap (updatedAt cmp C) } := by
  induction l generalizing r with
  | nil => simp
  | cons e rest ih =>
    rw [List.foldl_cons, ih]
    -- one case for each branch of the loop's body
    cases hC : C.lookup e.1 with
    | none => simp [diffStep, addedAt, updatedAt, recreatedAt, hC]
    | some c =>
      cases hsame : cmp.same c e.2 with
      | true => simp [diffStep, addedAt, updatedAt, recreatedAt, hC, hsame]
      | false =>
        cases hre : cmp.recreate c e.2 <;>
          simp [diffStep, addedAt, updatedAt, recreatedAt, hC, hsame, hre]

/-- The second loop. -/
theorem foldl_deletionStep (l : List (String × α)) (r : Changes α) :
    l.foldl (deletionStep D) r =
      { r with toDelete := r.toDelete ++ l.filterMap (deletedAt D) } := by
  induction l generalizing r with
  | nil => simp
  | cons e rest ih =>
    rw [List.foldl_cons, ih]
    cases hD : D.lookup e.1 <;> simp [deletionStep, deletedAt, hD]

/-- Both loops together. -/
theorem diffLoops_eq (desired current : List (String × α)) :
    diffLoops cmp C D desired current =
      { toAdd := desired.filterMap (addedAt cmp C)
        toDelete := desired.filterMap (recreatedAt cmp C) ++ current.filterMap (deletedAt D)
        toUpdate := desired.filterMap (updatedAt cmp C) } := by
  rw [diffLoops, foldl_diffStep, foldl_deletionStep]
  simp

variable {cmp C D}

/-- When an entry is added. -/
theorem addedAt_eq_some {e : String × α} {x : α} :
    addedAt cmp C e = some x ↔ e.2 = x ∧ (C.lookup e.1 = none ∨
      ∃ c, C.lookup e.1 = some c ∧ cmp.same c x = false ∧ cmp.recreate c x = true) := by
  unfold addedAt
  cases hC : C.lookup e.1 with
  | none => simp
  | some c =>
    dsimp only
    rw [Option.ite_none_right_eq_some]
    constructor
    · rintro ⟨hcmp, hx⟩
      obtain rfl := Option.some.inj hx
      exact ⟨rfl, Or.inr ⟨c, rfl, hcmp⟩⟩
    · rintro ⟨rfl, h | ⟨c', hc', hcmp⟩⟩
      · cases h
      · obtain rfl := Option.some.inj hc'
        exact ⟨hcmp, rfl⟩

/-- When it is updated. -/
theorem updatedAt_eq_some {e : String × α} {x : α} :
    updatedAt cmp C e = some x ↔ ∃ c, C.lookup e.1 = some c ∧ cmp.same c e.2 = false ∧
      cmp.recreate c e.2 = false ∧ x = cmp.adopt c e.2 := by
  unfold updatedAt
  cases hC : C.lookup e.1 with
  | none => simp
  | some c =>
    dsimp only
    rw [Option.ite_none_right_eq_some]
    constructor
    · rintro ⟨⟨hsame, hrecreate⟩, hx⟩
      exact ⟨c, rfl, hsame, hrecreate, (Option.some.inj hx).symm⟩
    · rintro ⟨c', hc', hsame, hrecreate, rfl⟩
      obtain rfl := Option.some.inj hc'
      exact ⟨⟨hsame, hrecreate⟩, rfl⟩

/-- When the one that is there is deleted to be created again. -/
theorem recreatedAt_eq_some {e : String × α} {x : α} :
    recreatedAt cmp C e = some x ↔ C.lookup e.1 = some x ∧ cmp.same x e.2 = false ∧
      cmp.recreate x e.2 = true := by
  unfold recreatedAt
  cases hC : C.lookup e.1 with
  | none => simp
  | some c =>
    dsimp only
    rw [Option.ite_none_right_eq_some]
    constructor
    · rintro ⟨hcmp, hx⟩
      obtain rfl := Option.some.inj hx
      exact ⟨rfl, hcmp⟩
    · rintro ⟨hc', hcmp⟩
      obtain rfl := Option.some.inj hc'
      exact ⟨hcmp, rfl⟩

/-- When nothing is wanted in its place. -/
theorem deletedAt_eq_some {e : String × α} {x : α} :
    deletedAt D e = some x ↔ D.lookup e.1 = none ∧ e.2 = x := by
  unfold deletedAt
  cases hD : D.lookup e.1 <;> simp

/-- **The two loops compute the differences**, in every order in which they
visit the maps. -/
theorem diffLoops_isDiff {Loop : Type} (o : RangeOrder Loop) (l l' : Loop) (hD : FiledBy key D)
    (hadopt : ∀ c d, key (cmp.adopt c d) = key d) :
    IsDiff cmp key C D (diffLoops cmp C D (o.range l D) (o.range l' C)) := by
  rw [diffLoops_eq]
  constructor
  case mem_toAdd =>
    intro x
    simp only [List.mem_filterMap, addedAt_eq_some]
    constructor
    · rintro ⟨⟨k, d⟩, hmem, rfl, hC⟩
      exact ⟨k, (o.mem_range l D k d).mp hmem, hC⟩
    · rintro ⟨k, hDk, hC⟩
      exact ⟨(k, x), (o.mem_range l D k x).mpr hDk, rfl, hC⟩
  case mem_toUpdate =>
    intro x
    simp only [List.mem_filterMap, updatedAt_eq_some]
    constructor
    · rintro ⟨⟨k, d⟩, hmem, c, hC, hcmp⟩
      exact ⟨k, c, d, (o.mem_range l D k d).mp hmem, hC, hcmp⟩
    · rintro ⟨k, c, d, hDk, hC, hcmp⟩
      exact ⟨(k, d), (o.mem_range l D k d).mpr hDk, c, hC, hcmp⟩
  -- the deletions are those of both loops
  case mem_toDelete =>
    intro x
    simp only [List.mem_append, List.mem_filterMap, recreatedAt_eq_some, deletedAt_eq_some]
    constructor
    · rintro (⟨⟨k, d⟩, hmem, hC, hcmp⟩ | ⟨⟨k, c⟩, hmem, hDk, rfl⟩)
      · exact ⟨k, hC, Or.inr ⟨d, (o.mem_range l D k d).mp hmem, hcmp⟩⟩
      · exact ⟨k, (o.mem_range l' C k c).mp hmem, Or.inl hDk⟩
    · rintro ⟨k, hC, hDk | ⟨d, hDk, hcmp⟩⟩
      · exact Or.inr ⟨(k, x), (o.mem_range l' C k x).mpr hC, hDk, rfl⟩
      · exact Or.inl ⟨(k, d), (o.mem_range l D k d).mpr hDk, hC, hcmp⟩
  -- one addition at most for each entry that is ranged over
  case nodup_toAdd =>
    refine nodup_map_filterMap (fun e he x hx => ?_) (o.nodup_range l D)
    obtain ⟨rfl, -⟩ := addedAt_eq_some.mp hx
    exact hD e.1 e.2 ((o.mem_range l D e.1 e.2).mp he)
  case nodup_toUpdate =>
    refine nodup_map_filterMap (fun e he x hx => ?_) (o.nodup_range l D)
    obtain ⟨c, -, -, -, rfl⟩ := updatedAt_eq_some.mp hx
    rw [hadopt]
    exact hD e.1 e.2 ((o.mem_range l D e.1 e.2).mp he)

end Compute

/-! ## Writing the differences -/

/-- Deletions, then creations, then updates. -/
def Rules.apply (R : Rules α ε) (key : α → String) (ignored : ε → Bool)
    (wrapDelete wrapCreate wrapUpdate : α → ε → ε') (ch : Changes α) (m : Map α) :
    Except ε' (Map α) := do
  let m ← R.deleteAll key wrapDelete ignored ch.toDelete m
  let m ← R.createAll key wrapCreate ch.toAdd m
  R.updateAll key wrapUpdate ch.toUpdate m

section Apply

variable (R : Rules α ε) {C D : Map α} {ch : Changes α} (h : IsDiff cmp key C D ch)
  (hC : FiledBy key C) (hD : FiledBy key D) (hadopt : ∀ c d, key (cmp.adopt c d) = key d)

include h hC hD

/-- After the deletions no added object is in the way. -/
theorem IsDiff.lookup_eraseAll_of_toAdd {x : α} (hx : x ∈ ch.toAdd) :
    (Rules.eraseAll key ch.toDelete C).lookup (key x) = none := by
  obtain ⟨k, hDk, hCk⟩ := (h.mem_toAdd x).mp hx
  obtain rfl := hD k x hDk
  rw [Rules.lookup_eraseAll]
  rcases hCk with hnone | ⟨c, hc, hsame, hre⟩
  · rw [hnone, ite_self]
  · rw [if_pos ((h.mem_toDelete_keys hC _).mpr ⟨c, hc, Or.inr ⟨x, hDk, hsame, hre⟩⟩)]

include hadopt

/-- An updated object is still the current one when its turn comes. -/
theorem IsDiff.lookup_of_toUpdate {k : String} {c d : α} (hDk : D.lookup k = some d)
    (hCk : C.lookup k = some c) (hre : cmp.recreate c d = false) :
    (R.putAll key ch.toAdd (Rules.eraseAll key ch.toDelete C)).lookup
      (key (cmp.adopt c d)) = some c := by
  have hkey : key (cmp.adopt c d) = k := (hadopt c d).trans (hD k d hDk)
  rw [hkey, R.lookup_putAll, Rules.lookup_eraseAll]
  -- what is updated is neither added nor deleted before
  have hadd : lastWith key ch.toAdd k = none := by
    rw [lastWith_eq_none_iff_notMem, h.mem_toAdd_keys hD]
    simp [hDk, hCk, hre]
  have hdelete : k ∉ ch.toDelete.map key := by
    rw [h.mem_toDelete_keys hC]
    simp [hCk, hDk, hre]
  rw [hadd, if_neg hdelete, hCk]
  rfl

/-- What the three loops leave under a key. -/
theorem IsDiff.lookup_written (k : String) :
    (R.putAll key ch.toUpdate (R.putAll key ch.toAdd
      (Rules.eraseAll key ch.toDelete C))).lookup k = settle cmp R.write C D k := by
  rw [R.lookup_putAll, R.lookup_putAll, Rules.lookup_eraseAll]
  have hadd := h.mem_toAdd_keys hD k
  have hupdate := h.mem_toUpdate_keys hD hadopt k
  have hdelete := h.mem_toDelete_keys hC k
  -- one case for each way a key may stand on both sides
  unfold settle
  cases hDk : D.lookup k with
  | none =>
    have hnoUpdate : k ∉ ch.toUpdate.map key := by simp [hupdate, hDk]
    have hnoAdd : k ∉ ch.toAdd.map key := by simp [hadd, hDk]
    rw [lastWith_eq_none_iff_notMem.mpr hnoUpdate, lastWith_eq_none_iff_notMem.mpr hnoAdd]
    cases hCk : C.lookup k with
    | none => simp
    | some c =>
      rw [if_pos (hdelete.mpr ⟨c, hCk, Or.inl hDk⟩)]
      rfl
  | some d =>
    cases hCk : C.lookup k with
    | none =>
      have hnoUpdate : k ∉ ch.toUpdate.map key := by simp [hupdate, hCk]
      rw [lastWith_eq_none_iff_notMem.mpr hnoUpdate,
        (h.lastWith_toAdd hD k d).mpr ⟨hDk, Or.inl hCk⟩]
      rfl
    | some c =>
      show _ = (if cmp.same c d then some c else
        if cmp.recreate c d then some (R.write d) else some (R.write (cmp.adopt c d)))
      cases hsame : cmp.same c d with
      -- the two are the same: no list has the key
      | true =>
        have hnoUpdate : k ∉ ch.toUpdate.map key := by simp [hupdate, hDk, hCk, hsame]
        have hnoAdd : k ∉ ch.toAdd.map key := by simp [hadd, hDk, hCk, hsame]
        have hkeep : k ∉ ch.toDelete.map key := by simp [hdelete, hDk, hCk, hsame]
        rw [lastWith_eq_none_iff_notMem.mpr hnoUpdate, lastWith_eq_none_iff_notMem.mpr hnoAdd,
          if_neg hkeep]
        rfl
      | false =>
        cases hre : cmp.recreate c d with
        -- the key is deleted and then added again
        | true =>
          have hnoUpdate : k ∉ ch.toUpdate.map key := by simp [hupdate, hDk, hCk, hre]
          rw [lastWith_eq_none_iff_notMem.mpr hnoUpdate,
            (h.lastWith_toAdd hD k d).mpr ⟨hDk, Or.inr ⟨c, hCk, hsame, hre⟩⟩]
          rfl
        | false =>
          rw [(h.lastWith_toUpdate hD hadopt k _).mpr ⟨c, d, hDk, hCk, hsame, hre, rfl⟩]
          rfl

/-- There is a map with what each key should come to. -/
theorem IsDiff.exists_settled : ∃ m : Map α, ∀ k, m.lookup k = settle cmp R.write C D k :=
  ⟨_, h.lookup_written R hC hD hadopt⟩

/-- **Writing the differences settles the store.** If an updated object is one
the store lets replace the current one, the bulk write goes through exactly
when no added object is refused, and leaves what `settle` says. -/
theorem Rules.apply_isDiff {ignored : ε → Bool} (hignored : ignored R.notFound = true)
    (hupdate : ∀ c d, R.refuseUpdate c (cmp.adopt c d) = none)
    {wrapDelete wrapCreate wrapUpdate : α → ε → ε'} {m : Map α} :
    R.apply key ignored wrapDelete wrapCreate wrapUpdate ch C = .ok m ↔
      (∀ x ∈ ch.toAdd, R.refuseCreate x = none) ∧
        ∀ k, m.lookup k = settle cmp R.write C D k := by
  -- the outcome is fixed key by key, and so are maps
  have hsettled : ∀ m : Map α, m = R.putAll key ch.toUpdate (R.putAll key ch.toAdd
      (Rules.eraseAll key ch.toDelete C)) ↔ ∀ k, m.lookup k = settle cmp R.write C D k := by
    intro m
    constructor
    · rintro rfl k
      exact h.lookup_written R hC hD hadopt k
    · intro hm
      exact Finmap.ext_lookup fun k => (hm k).trans (h.lookup_written R hC hD hadopt k).symm
  -- what is updated is still there after the deletions
  have hpresent : ∀ x ∈ ch.toUpdate, ∃ c,
      (R.putAll key ch.toAdd (Rules.eraseAll key ch.toDelete C)).lookup (key x) = some c ∧
        R.refuseUpdate c x = none := by
    intro x hx
    obtain ⟨k, c, d, hDk, hCk, -, hre, rfl⟩ := (h.mem_toUpdate x).mp hx
    exact ⟨c, h.lookup_of_toUpdate R hC hD hadopt hDk hCk hre, hupdate c d⟩
  unfold Rules.apply
  rw [R.deleteAll_eq hignored, ok_bind, bind_eq_ok]
  constructor
  · rintro ⟨m₁, hm₁, hm⟩
    obtain ⟨-, haccept, rfl⟩ := R.createAll_eq_ok.mp hm₁
    obtain ⟨-, hm⟩ := (R.updateAll_eq_ok h.nodup_toUpdate).mp hm
    exact ⟨fun x hx => (haccept x hx).1, (hsettled m).mp hm⟩
  · rintro ⟨haccept, hm⟩
    exact ⟨_, R.createAll_eq_ok.mpr ⟨h.nodup_toAdd, fun x hx =>
        ⟨haccept x hx, h.lookup_eraseAll_of_toAdd hC hD hx⟩, rfl⟩,
      (R.updateAll_eq_ok h.nodup_toUpdate).mpr ⟨hpresent, (hsettled m).mpr hm⟩⟩

end Apply

/-! ## What is written and what is not -/

/-- Something is settled under a key exactly when something is desired there. -/
theorem settle_isSome {C D : Map α} (write : α → α) (k : String) :
    (∃ x, settle cmp write C D k = some x) ↔ ∃ d, D.lookup k = some d := by
  unfold settle
  cases D.lookup k with
  | none => simp
  | some d =>
    cases C.lookup k with
    | none => simp
    | some c =>
      simp only [Option.some.injEq, exists_eq', iff_true]
      by_cases hsame : cmp.same c d = true
      · exact ⟨c, if_pos hsame⟩
      · by_cases hre : cmp.recreate c d = true
        · exact ⟨_, by rw [if_neg hsame, if_pos hre]⟩
        · exact ⟨_, by rw [if_neg hsame, if_neg hre]⟩

/-- The operations leave a key alone exactly when both sides hold the same there. -/
theorem IsDiff.untouched_iff {C D : Map α} {ch : Changes α} (h : IsDiff cmp key C D ch)
    (hC : FiledBy key C) (hD : FiledBy key D)
    (hadopt : ∀ c d, key (cmp.adopt c d) = key d) {k : String}
    (hk : k ∈ C ∨ k ∈ D) :
    (∀ x ∈ ch.toAdd ++ ch.toDelete ++ ch.toUpdate, key x ≠ k) ↔
      ∃ c d, C.lookup k = some c ∧ D.lookup k = some d ∧ cmp.same c d = true := by
  have hkeys : (∀ x ∈ ch.toAdd ++ ch.toDelete ++ ch.toUpdate, key x ≠ k) ↔
      k ∉ ch.toAdd.map key ∧ k ∉ ch.toDelete.map key ∧ k ∉ ch.toUpdate.map key := by
    simp only [List.mem_append, List.mem_map, or_imp, forall_and, not_exists, not_and, and_assoc,
      ne_eq]
  rw [hkeys, h.mem_toAdd_keys hD, h.mem_toDelete_keys hC, h.mem_toUpdate_keys hD hadopt]
  cases hCk : C.lookup k with
  | none =>
    obtain ⟨d, hDk⟩ := Finmap.mem_iff.mp (hk.resolve_left (Finmap.lookup_eq_none.mp hCk))
    simp [hDk]
  | some c =>
    cases hDk : D.lookup k with
    | none => simp
    | some d =>
      -- objects that do not compare equal are created again or updated
      cases hsame : cmp.same c d <;> cases hre : cmp.recreate c d <;> simp [hsame, hre]

/-! ## No difference -/

/-- Nothing is left to change. -/
def Changes.isEmpty (ch : Changes α) : Prop := ch.toAdd = [] ∧ ch.toDelete = [] ∧ ch.toUpdate = []

/-- There is nothing to change exactly when both sides have the same keys and
hold the same objects under them. -/
theorem IsDiff.isEmpty_iff {C D : Map α} {ch : Changes α} (h : IsDiff cmp key C D ch) :
    ch.isEmpty ↔ ∀ k, Option.Rel (fun c d => cmp.same c d = true) (C.lookup k) (D.lookup k) := by
  constructor
  · rintro ⟨hadd, hdelete, hupdate⟩ k
    cases hCk : C.lookup k with
    | none =>
      cases hDk : D.lookup k with
      | none => exact .none
      -- wanted and not there: it would be added
      | some d =>
        have : d ∈ ch.toAdd := (h.mem_toAdd d).mpr ⟨k, hDk, Or.inl hCk⟩
        rw [hadd] at this
        cases this
    | some c =>
      cases hDk : D.lookup k with
      | none =>
        have : c ∈ ch.toDelete := (h.mem_toDelete c).mpr ⟨k, hCk, Or.inl hDk⟩
        rw [hdelete] at this
        cases this
      | some d =>
        refine .some ?_
        -- two that differ would be recreated or updated
        by_contra hsame
        rw [Bool.not_eq_true] at hsame
        cases hre : cmp.recreate c d with
        | true =>
          have : d ∈ ch.toAdd := (h.mem_toAdd d).mpr ⟨k, hDk, Or.inr ⟨c, hCk, hsame, hre⟩⟩
          rw [hadd] at this
          cases this
        | false =>
          have : cmp.adopt c d ∈ ch.toUpdate :=
            (h.mem_toUpdate _).mpr ⟨k, c, d, hDk, hCk, hsame, hre, rfl⟩
          rw [hupdate] at this
          cases this
  · intro hrel
    have hsame : ∀ k c d, C.lookup k = some c → D.lookup k = some d → cmp.same c d = true := by
      intro k c d hc hd
      have := hrel k
      rw [hc, hd] at this
      cases this with
      | some h => exact h
    -- each of the three lists needs a key where the two sides differ
    refine ⟨?_, ?_, ?_⟩
    · rw [List.eq_nil_iff_forall_not_mem]
      intro x hx
      obtain ⟨k, hDk, hnone | ⟨c, hCk, hfalse, -⟩⟩ := (h.mem_toAdd x).mp hx
      · have := hrel k
        rw [hDk, hnone] at this
        cases this
      · rw [hsame k c x hCk hDk] at hfalse
        cases hfalse
    · rw [List.eq_nil_iff_forall_not_mem]
      intro x hx
      obtain ⟨k, hCk, hnone | ⟨d, hDk, hfalse, -⟩⟩ := (h.mem_toDelete x).mp hx
      · have := hrel k
        rw [hCk, hnone] at this
        cases this
      · rw [hsame k x d hCk hDk] at hfalse
        cases hfalse
    · rw [List.eq_nil_iff_forall_not_mem]
      intro x hx
      obtain ⟨k, c, d, hDk, hCk, hfalse, -, -⟩ := (h.mem_toUpdate x).mp hx
      rw [hsame k c d hCk hDk] at hfalse
      cases hfalse

/-- The two loops find nothing to change between a map and itself. -/
theorem diffLoops_self {Loop : Type} (o : RangeOrder Loop) (l l' : Loop) {C : Map α}
    (hC : FiledBy key C) (hadopt : ∀ c d, key (cmp.adopt c d) = key d)
    (hsame : ∀ x, cmp.same x x = true) :
    (diffLoops cmp C C (o.range l C) (o.range l' C)).isEmpty := by
  refine (diffLoops_isDiff o l l' hC hadopt).isEmpty_iff.mpr fun k => ?_
  cases C.lookup k with
  | none => exact .none
  | some x => exact .some (hsame x)

end

end Go

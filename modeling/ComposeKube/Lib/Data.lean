import Mathlib.Data.Finmap
import Mathlib.Data.List.Sort
import Mathlib.Data.String.Basic

/-!
# Go data — slices, maps and the order of `range`

The three built-in containers a Go program shares with its callers, as values:

* `Slice α` — `none` is the nil slice. Reflection tells a nil slice from an
  empty one, so the two stay apart here; `elems` forgets the difference.
* `Map V` — a map with string keys is Mathlib's `Finmap`, whose equality is
  equality of lookups. `MapRef V` adds the nil map.
* `RangeOrder` — Go does not specify the order in which `range` visits a map.
  An order is any choice, for each loop and each map, of a list that holds
  every entry of the map once.

Results used by the programs verified over this library:

* `RangeOrder.range_perm` — two orders visit permutations of one list.
* `RangeOrder.lookup_foldl_insert` — copying a map entry by entry overwrites
  exactly its keys, in every order.
* `sortBy_eq_of_perm` — sorting by a key forgets the order.
* `RangeOrder.ascending` — an order exists (and is computable).
-/

namespace Go

/-! ## Slices -/

/-- A Go slice; `none` is nil. -/
abbrev Slice (α : Type) := Option (List α)

namespace Slice

variable {α : Type}

/-- The elements a `range` over the slice sees. -/
def elems (s : Slice α) : List α := s.getD []

/-- `var s []T` followed by one `append` per element: nil if there is none. -/
def ofAppends : List α → Slice α
  | [] => none
  | x :: xs => some (x :: xs)

/-- `append(s, x)`. -/
def push (s : Slice α) (x : α) : Slice α := some (s.elems ++ [x])

/-- A nil slice has no elements. -/
@[simp] theorem elems_none : elems (none : Slice α) = [] := rfl

@[simp] theorem elems_some (l : List α) : elems (some l : Slice α) = l := rfl

/-- What was appended, in this order. -/
@[simp] theorem elems_ofAppends (l : List α) : elems (ofAppends l) = l := by
  cases l <;> rfl

/-- The slice says what was appended to it. -/
theorem ofAppends_inj {l l' : List α} : ofAppends l = ofAppends l' ↔ l = l' := by
  constructor
  · intro h
    simpa using congrArg elems h
  · rintro rfl
    rfl

@[simp] theorem elems_push (s : Slice α) (x : α) : elems (push s x) = s.elems ++ [x] := rfl

/-- The representative of a slice under an equality that takes nil and empty
slices for the same and compares elements by their representatives. -/
def canon (f : α → α) (s : Slice α) : Slice α := ofAppends (s.elems.map f)

end Slice

/-- The contents of a `[]byte`. -/
abbrev Bytes := List UInt8

/-! ## Maps -/

/-- A non-nil Go map with string keys. -/
abbrev Map (V : Type) := Finmap fun _ : String => V

/-- A Go map value; `none` is the nil map, which reads as an empty one. -/
abbrev MapRef (V : Type) := Option (Map V)

namespace Map

variable {V W : Type}

/-- Apply `f` to every value. -/
def mapValues (f : V → W) (m : Map V) : Map W where
  entries := m.entries.map fun e => ⟨e.1, f e.2⟩
  nodupKeys := by
    have h : (m.entries.map fun e => (⟨e.1, f e.2⟩ : Σ _ : String, W)).keys = m.entries.keys := by
      simp [Multiset.keys, Multiset.map_map]
    rw [← Multiset.nodup_keys, h]
    exact Multiset.nodup_keys.mpr m.nodupKeys

/-- A map of values is looked up before it is mapped. -/
@[simp] theorem lookup_mapValues (f : V → W) (m : Map V) (k : String) :
    (m.mapValues f).lookup k = (m.lookup k).map f := by
  induction m using Finmap.induction_on with
  | H a =>
    have h : (a.entries.map (Sigma.map id fun _ => f) : List (Σ _ : String, W)).dlookup k =
        (a.entries.dlookup k).map f := List.dlookup_map₂ k
    exact h

end Map

namespace MapRef

variable {V : Type}

/-- `m[k]`, with `none` where Go answers the zero value and `false`. -/
def get? (m : MapRef V) (k : String) : Option V := m.bind fun m => m.lookup k

/-- The entries a `range` over the map sees. -/
def entries (m : MapRef V) : Map V := m.getD ∅

@[simp] theorem get?_none (k : String) : get? (none : MapRef V) k = none := rfl

@[simp] theorem get?_some (m : Map V) (k : String) : get? (some m : MapRef V) k = m.lookup k := rfl

@[simp] theorem entries_some (m : Map V) : entries (some m : MapRef V) = m := rfl

/-- A nil map is looked up as the empty one. -/
@[simp] theorem lookup_entries (m : MapRef V) (k : String) : m.entries.lookup k = m.get? k := by
  cases m <;> simp [entries]

/-- The representative of a map under an equality that takes nil and empty
maps for the same and compares values by their representatives. -/
def canon (f : V → V) (m : MapRef V) : MapRef V :=
  if m.entries.entries.card = 0 then none else some (m.entries.mapValues f)

/-- The canonical form of a map has the same entries, in canonical form. -/
theorem get?_canon (f : V → V) (m : MapRef V) (k : String) :
    (m.canon f).get? k = (m.get? k).map f := by
  unfold canon
  split
  case isTrue hempty =>
    -- an empty map is stored as nil
    have hentries : m.entries = ∅ := Finmap.ext (Multiset.card_eq_zero.mp hempty)
    rw [← lookup_entries m, hentries, Finmap.lookup_empty]
    rfl
  case isFalse =>
    rw [get?_some, Map.lookup_mapValues, lookup_entries]

end MapRef

/-! ## Iteration orders -/

/-- An iteration order of `range` over maps. `Loop` names the loops of a
program, which may all visit a map differently. -/
structure RangeOrder (Loop : Type) where
  /-- The entries of a map, in the order in which the loop visits them. -/
  range : Loop → {V : Type} → Map V → List (String × V)
  mem_range : ∀ (l : Loop) {V : Type} (m : Map V) (k : String) (v : V),
    (k, v) ∈ range l m ↔ m.lookup k = some v
  nodup_range : ∀ (l : Loop) {V : Type} (m : Map V), ((range l m).map Prod.fst).Nodup

namespace RangeOrder

variable {Loop : Type} {V : Type}

/-- No entry comes up twice. -/
theorem nodup (o : RangeOrder Loop) (l : Loop) (m : Map V) : (o.range l m).Nodup :=
  (o.nodup_range l m).of_map

/-- Two orders visit permutations of one list. -/
theorem range_perm (o o' : RangeOrder Loop) (l l' : Loop) (m : Map V) :
    (o.range l m).Perm (o'.range l' m) := by
  rw [List.perm_ext_iff_of_nodup (o.nodup l m) (o'.nodup l' m)]
  rintro ⟨k, v⟩
  rw [o.mem_range, o'.mem_range]

/-- Every order visits the entries of the map, as a multiset. -/
theorem coe_range (o : RangeOrder Loop) (l : Loop) (m : Map V) :
    (o.range l m : Multiset (String × V)) = m.entries.map fun e => (e.1, e.2) := by
  have hinj : Function.Injective fun e : (Σ _ : String, V) => (e.1, e.2) :=
    (Equiv.sigmaEquivProd String V).injective
  -- neither side has duplicates, so that it is enough to compare the members
  have hnodup : (m.entries.map fun e => (e.1, e.2)).Nodup := m.nodup_entries.map hinj
  rw [Multiset.Nodup.ext (Multiset.coe_nodup.mpr (o.nodup l m)) hnodup]
  rintro ⟨k, v⟩
  rw [Multiset.mem_coe, o.mem_range, Finmap.lookup_eq_some_iff, Multiset.mem_map]
  constructor
  · intro hmem
    exact ⟨⟨k, v⟩, hmem, rfl⟩
  · rintro ⟨⟨k', v'⟩, hmem, heq⟩
    cases heq
    exact hmem

@[simp] theorem range_empty (o : RangeOrder Loop) (l : Loop) :
    o.range l (∅ : Map V) = [] := by
  rw [List.eq_nil_iff_forall_not_mem]
  rintro ⟨k, v⟩ hmem
  simp [o.mem_range] at hmem

/-- A fold of insertions with distinct keys: the listed keys hold their listed
values, every other key what it held before. -/
theorem lookup_foldl_insert_of_nodup {l : List (String × V)} (hl : (l.map Prod.fst).Nodup)
    (m : Map V) (k : String) :
    (l.foldl (fun m e => m.insert e.1 e.2) m).lookup k =
      ((l.find? fun e => e.1 = k).map Prod.snd).or (m.lookup k) := by
  induction l generalizing m with
  | nil => simp
  | cons e rest ih =>
    rw [List.map_cons, List.nodup_cons] at hl
    rw [List.foldl_cons, ih hl.2, List.find?_cons]
    by_cases hk : e.1 = k
    · -- the head's key cannot occur again, so its insertion is the last one
      have hnone : rest.find? (fun e => decide (e.1 = k)) = none := by
        rw [List.find?_eq_none]
        intro e' he' hk'
        rw [decide_eq_true_eq] at hk'
        exact hl.1 (List.mem_map.mpr ⟨e', he', hk'.trans hk.symm⟩)
      rw [hnone]
      subst hk
      simp
    · have hk' : k ≠ e.1 := fun h => hk h.symm
      simp [hk, Finmap.lookup_insert_of_ne _ hk']

/-- In a list with distinct keys the first entry with a key is the only one. -/
theorem find?_of_mem {l : List (String × V)} (hl : (l.map Prod.fst).Nodup) {k : String} {v : V}
    (h : (k, v) ∈ l) : l.find? (fun e => e.1 = k) = some (k, v) := by
  induction l with
  | nil => simp at h
  | cons e rest ih =>
    rw [List.map_cons, List.nodup_cons] at hl
    rw [List.find?_cons]
    rcases List.mem_cons.mp h with rfl | hr
    · simp
    · -- the head has another key
      have hne : e.1 ≠ k := fun he => hl.1 (List.mem_map.mpr ⟨(k, v), hr, he.symm⟩)
      simp [hne, ih hl.2 hr]

/-- Copying a map into another, entry by entry: in every order the copied
map's keys are overwritten and no other key changes. -/
theorem lookup_foldl_insert (o : RangeOrder Loop) (l : Loop) (m m' : Map V) (k : String) :
    ((o.range l m).foldl (fun m e => m.insert e.1 e.2) m').lookup k =
      (m.lookup k).or (m'.lookup k) := by
  rw [lookup_foldl_insert_of_nodup (o.nodup_range l m)]
  cases hv : m.lookup k with
  | some v => rw [find?_of_mem (o.nodup_range l m) ((o.mem_range l m k v).mpr hv)]; rfl
  | none =>
    -- an entry under the key would be in the map
    have hnone : (o.range l m).find? (fun e => e.1 = k) = none := by
      rw [List.find?_eq_none]
      rintro ⟨k', v⟩ hmem hk
      rw [decide_eq_true_eq] at hk
      subst hk
      rw [(o.mem_range l m k' v).mp hmem] at hv
      cases hv
    rw [hnone]
    rfl

end RangeOrder

/-! ## Sorting by a key -/

section Sorting

variable {α : Type} (key : α → String)

/-- `sort.Slice` by a string key. -/
def sortBy (l : List α) : List α := l.insertionSort fun a b => key a ≤ key b

/-- `sort.Strings`. -/
def sortStrings (l : List String) : List String := sortBy id l

/-- Sorting keeps the elements. -/
theorem sortBy_perm (l : List α) : (sortBy key l).Perm l := List.perm_insertionSort _ l

/-- Sorting puts the keys in order. -/
theorem sortBy_pairwise (l : List α) : (sortBy key l).Pairwise fun a b => key a ≤ key b := by
  have : Std.Total (fun a b : α => key a ≤ key b) := ⟨fun a b => le_total (key a) (key b)⟩
  have : IsTrans α fun a b => key a ≤ key b := ⟨fun _ _ _ => le_trans⟩
  exact List.pairwise_insertionSort _ l

/-- Distinct keys are strictly increasing after the sort. -/
theorem sortBy_strict {l : List α} (hkeys : (l.map key).Nodup) :
    (sortBy key l).Pairwise fun a b => key a < key b := by
  have hkeys' : ((sortBy key l).map key).Nodup := ((sortBy_perm key l).map key).nodup_iff.mpr hkeys
  refine ((sortBy_pairwise key l).and (List.pairwise_map.mp hkeys')).imp ?_
  rintro a b ⟨hle, hne⟩
  exact lt_of_le_of_ne hle hne

/-- Two sorted permutations of one list with distinct keys are the same. -/
theorem eq_of_perm_of_sorted {l l' : List α} (hperm : l.Perm l') (hkeys : (l.map key).Nodup)
    (hl : l.Pairwise fun a b => key a ≤ key b) (hl' : l'.Pairwise fun a b => key a ≤ key b) :
    l = l' := by
  refine List.Perm.eq_of_pairwise ?_ hl hl' hperm
  intro a b ha hb hab hba
  exact List.inj_on_of_nodup_map hkeys ha (hperm.mem_iff.mpr hb) (le_antisymm hab hba)

/-- Sorting by a key that tells the elements apart forgets their order. -/
theorem sortBy_eq_of_perm {l l' : List α} (hperm : l.Perm l') (hkeys : (l.map key).Nodup) :
    sortBy key l = sortBy key l' := by
  have hperm' : (sortBy key l).Perm (sortBy key l') :=
    (sortBy_perm key l).trans (hperm.trans (sortBy_perm key l').symm)
  have hkeys' : ((sortBy key l).map key).Nodup := ((sortBy_perm key l).map key).nodup_iff.mpr hkeys
  exact eq_of_perm_of_sorted key hperm' hkeys' (sortBy_pairwise key l) (sortBy_pairwise key l')

end Sorting

/-! ## Grouping -/

section Grouping

/-- The idiom `for k, v := range m { g[v] = append(g[v], k) }`, over the
visited entries. -/
def groupByValue (l : List (String × String)) : Map (List String) :=
  l.foldl (fun g e => g.insert e.2 ((g.lookup e.2).getD [] ++ [e.1])) ∅

/-- The keys that `l` lists with the value `v`. -/
def keysWith (l : List (String × String)) (v : String) : List String :=
  (l.filter fun e => e.2 = v).map Prod.fst

/-- **What a group holds after the loop**: what it held before, then the keys in the order of the
list. -/
theorem lookup_foldl_group (l : List (String × String)) (g : Map (List String)) (v : String) :
    (l.foldl (fun g e => g.insert e.2 ((g.lookup e.2).getD [] ++ [e.1])) g).lookup v =
      if keysWith l v = [] then g.lookup v else some ((g.lookup v).getD [] ++ keysWith l v) := by
  induction l generalizing g with
  | nil => simp [keysWith]
  | cons e rest ih =>
    rw [List.foldl_cons, ih]
    by_cases hv : e.2 = v
    · -- the head opens the group or extends it
      subst hv
      have hkeys : keysWith (e :: rest) e.2 = e.1 :: keysWith rest e.2 := by simp [keysWith]
      rw [hkeys, Finmap.lookup_insert, if_neg (List.cons_ne_nil _ _)]
      split
      · next h => rw [h]
      · simp
    · have hkeys : keysWith (e :: rest) v = keysWith rest v := by simp [keysWith, hv]
      have hne : v ≠ e.2 := fun h => hv h.symm
      rw [hkeys, Finmap.lookup_insert_of_ne _ hne]

/-- A group is there when some entry has its value, and lists their keys. -/
theorem lookup_groupByValue (l : List (String × String)) (v : String) :
    (groupByValue l).lookup v = if keysWith l v = [] then none else some (keysWith l v) := by
  rw [groupByValue, lookup_foldl_group]
  simp

/-- The keys under a value. -/
theorem mem_keysWith {l : List (String × String)} {k v : String} :
    k ∈ keysWith l v ↔ (k, v) ∈ l := by
  simp [keysWith]

/-- Their order is that of the list. -/
theorem keysWith_perm {l l' : List (String × String)} (h : l.Perm l') (v : String) :
    (keysWith l v).Perm (keysWith l' v) :=
  (h.filter _).map _

/-- None comes up twice. -/
theorem keysWith_nodup {l : List (String × String)} (h : (l.map Prod.fst).Nodup) (v : String) :
    (keysWith l v).Nodup :=
  h.sublist (List.filter_sublist.map _)

end Grouping

/-! ## An order exists -/

namespace Map

variable {V : Type}

/-- The keys of a map in ascending order. -/
def sortedKeys (m : Map V) : List String :=
  m.liftOn (fun a => sortBy id a.keys) fun a b h =>
    sortBy_eq_of_perm id (h.map _) (by simpa using a.keys_nodup)

/-- No key comes up twice. -/
theorem nodup_sortedKeys (m : Map V) : m.sortedKeys.Nodup := by
  induction m using Finmap.induction_on with
  | H a =>
    rw [sortedKeys, Finmap.liftOn_toFinmap]
    exact (sortBy_perm id a.keys).nodup_iff.mpr a.keys_nodup

/-- All keys are there. -/
theorem mem_sortedKeys {m : Map V} {k : String} : k ∈ m.sortedKeys ↔ k ∈ m := by
  induction m using Finmap.induction_on with
  | H a =>
    rw [sortedKeys, Finmap.liftOn_toFinmap, (sortBy_perm id a.keys).mem_iff]
    rfl

/-- The entries of a map in ascending order of their keys. -/
def ascending (m : Map V) : List (String × V) :=
  m.sortedKeys.filterMap fun k => (m.lookup k).map fun v => (k, v)

/-- The entries in ascending order are the entries. -/
theorem mem_ascending {m : Map V} {k : String} {v : V} :
    (k, v) ∈ m.ascending ↔ m.lookup k = some v := by
  simp only [ascending, List.mem_filterMap, Option.map_eq_some_iff, Prod.mk.injEq]
  constructor
  · rintro ⟨k', _, v', hv', rfl, rfl⟩
    exact hv'
  · intro hv
    exact ⟨k, mem_sortedKeys.mpr (Finmap.mem_of_lookup_eq_some hv), v, hv, rfl, rfl⟩

/-- Their keys are the sorted ones. -/
theorem map_fst_ascending (m : Map V) : m.ascending.map Prod.fst = m.sortedKeys := by
  -- over every list of keys of the map, so that the induction can go through
  have hsub : ∀ l : List String, (∀ k ∈ l, k ∈ m) →
      (l.filterMap fun k => (m.lookup k).map fun v => (k, v)).map Prod.fst = l := by
    intro l hl
    induction l with
    | nil => rfl
    | cons k rest ih =>
      obtain ⟨v, hv⟩ := Finmap.mem_iff.mp (hl k (List.mem_cons_self ..))
      simp [hv, ih fun k' hk' => hl k' (List.mem_cons_of_mem _ hk')]
  exact hsub _ fun k hk => mem_sortedKeys.mp hk

end Map

/-- The order that visits the keys upwards. -/
def RangeOrder.ascending (Loop : Type) : RangeOrder Loop where
  range _ _ m := m.ascending
  mem_range _ _ _ _ _ := Map.mem_ascending
  nodup_range _ _ m := by
    rw [Map.map_fst_ascending]
    exact m.nodup_sortedKeys

/-- The order that visits the keys downwards. -/
def RangeOrder.descending (Loop : Type) : RangeOrder Loop where
  range _ _ m := m.ascending.reverse
  mem_range _ _ _ _ _ := by rw [List.mem_reverse, Map.mem_ascending]
  nodup_range _ _ m := by
    rw [List.map_reverse, List.nodup_reverse, Map.map_fst_ascending]
    exact m.nodup_sortedKeys

/-! ## Maps with at most one entry -/

/-- A map with at most one entry. -/
def Map.AtMostOne {V : Type} (m : Map V) : Prop := ∀ k k', k ∈ m → k' ∈ m → k = k'

/-- A map with at most one entry is visited in one order only. -/
theorem RangeOrder.range_eq_of_atMostOne {Loop V : Type} (o o' : RangeOrder Loop) (l : Loop)
    {m : Map V} (h : m.AtMostOne) : o.range l m = o'.range l m := by
  have hperm := o.range_perm o' l l m
  have hnodup := o.nodup_range l m
  have hmem : ∀ e ∈ o.range l m, e.1 ∈ m :=
    fun e he => Finmap.mem_of_lookup_eq_some ((o.mem_range l m e.1 e.2).mp he)
  generalize o.range l m = r at hperm hnodup hmem
  match r with
  | [] => exact hperm.nil_eq
  | [e] => exact (List.perm_singleton.mp hperm.symm).symm
  | e :: e' :: rest =>
    -- two entries would have different keys
    have heq : e.1 = e'.1 := h _ _ (hmem e (by simp)) (hmem e' (by simp))
    simp [heq] at hnodup

/-- A list without repetitions that reads the same backwards has at most one element. -/
theorem eq_of_nodup_of_eq_reverse {α : Type} {l : List α} (hnodup : l.Nodup) (h : l = l.reverse)
    {a b : α} (ha : a ∈ l) (hb : b ∈ l) : a = b := by
  match l with
  | [] => cases ha
  | [x] => rw [List.mem_singleton.mp ha, List.mem_singleton.mp hb]
  | x :: y :: rest =>
    -- the first element would also be the last, and so occur in the rest
    have hlast : (x :: y :: rest).getLast? = some x := by
      rw [h, List.getLast?_reverse]
      rfl
    have hmem : x ∈ y :: rest := List.mem_of_getLast? (by rwa [List.getLast?_cons_cons] at hlast)
    exact absurd hmem (List.nodup_cons.mp hnodup).1

/-- Only maps with at most one entry are visited alike upwards and downwards. -/
theorem Map.atMostOne_of_ascending {V : Type} {m : Map V}
    (h : m.ascending.map Prod.fst = m.ascending.reverse.map Prod.fst) : m.AtMostOne := by
  rw [List.map_reverse, Map.map_fst_ascending] at h
  intro k k' hk hk'
  exact eq_of_nodup_of_eq_reverse m.nodup_sortedKeys h (Map.mem_sortedKeys.mpr hk)
    (Map.mem_sortedKeys.mpr hk')

end Go

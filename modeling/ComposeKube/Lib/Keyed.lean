import ComposeKube.Lib.Data
import ComposeKube.Lib.Fallible

/-!
# Filing objects under keys

A program that files a list of objects in a map keeps, under each key, the last
object with that key. `lastWith` names it, `lookup_fileBy` says so, and
`lookup_fileBy_mapM` says it for objects that a fallible loop has produced: what
a key holds is decided by the last input with that key.
-/

namespace Go

variable {α ε : Type} {β γ : Type*}

/-- The last element of a list with a key. -/
def lastWith (key : β → String) (l : List β) (k : String) : Option β :=
  l.reverse.find? fun x => key x = k

/-- The head counts when nothing after it has the key. -/
theorem lastWith_cons (key : β → String) (x : β) (rest : List β) (k : String) :
    lastWith key (x :: rest) k =
      (lastWith key rest k).or (if key x = k then some x else none) := by
  unfold lastWith
  rw [List.reverse_cons, List.find?_append]
  by_cases hk : key x = k <;> simp [hk]

/-- What is found is in the list and has the key. -/
theorem lastWith_eq_some {key : β → String} {l : List β} {k : String} {x : β}
    (h : lastWith key l k = some x) : x ∈ l ∧ key x = k := by
  refine ⟨List.mem_reverse.mp (List.mem_of_find?_eq_some h), ?_⟩
  simpa using List.find?_some h

/-- Nothing is found under a key that no element has. -/
theorem lastWith_eq_none {key : β → String} {l : List β} {k : String} :
    lastWith key l k = none ↔ ∀ x ∈ l, key x ≠ k := by
  simp [lastWith, List.find?_eq_none]

theorem lastWith_eq_none_iff_notMem {key : β → String} {l : List β} {k : String} :
    lastWith key l k = none ↔ k ∉ l.map key := by
  rw [lastWith_eq_none, List.mem_map, not_exists]
  exact forall_congr' fun x => not_and.symm

/-- Under the key of an element something is found. -/
theorem exists_lastWith_of_mem (key : β → String) {l : List β} {x : β} (hx : x ∈ l) :
    ∃ y, lastWith key l (key x) = some y := by
  cases h : lastWith key l (key x) with
  | none => exact absurd rfl (lastWith_eq_none.mp h x hx)
  | some y => exact ⟨y, rfl⟩

/-- Among elements with distinct keys each is the last of its key. -/
theorem lastWith_of_mem {key : β → String} {l : List β} (hkeys : (l.map key).Nodup) {x : β}
    (hx : x ∈ l) : lastWith key l (key x) = some x := by
  obtain ⟨y, hy⟩ := exists_lastWith_of_mem key hx
  obtain ⟨hmem, hkey⟩ := lastWith_eq_some hy
  rw [hy, List.inj_on_of_nodup_map hkeys hmem hx hkey]

/-- Where keys are unique, the last one with a key is the only one. -/
theorem lastWith_eq_some_iff {key : β → String} {l : List β} (hkeys : (l.map key).Nodup)
    {k : String} {x : β} : lastWith key l k = some x ↔ x ∈ l ∧ key x = k := by
  constructor
  · exact lastWith_eq_some
  · rintro ⟨hx, rfl⟩
    exact lastWith_of_mem hkeys hx

/-- The last element is found among the images when they keep the keys. -/
theorem lastWith_map {key : β → String} {key' : γ → String} {f : β → γ} {l : List β}
    (hkey : ∀ x ∈ l, key' (f x) = key x) (k : String) :
    lastWith key' (l.map f) k = (lastWith key l k).map f := by
  induction l with
  | nil => rfl
  | cons x rest ih =>
    have ih' := ih fun y hy => hkey y (List.mem_cons_of_mem _ hy)
    rw [List.map_cons, lastWith_cons, lastWith_cons, ih', hkey x (List.mem_cons_self ..)]
    by_cases hk : key x = k <;> cases lastWith key rest k <;> simp [hk]

/-- Selecting elements of a list with distinct keys keeps the keys distinct. -/
theorem nodup_map_filterMap {key : γ → String} {key' : β → String} {f : β → Option γ}
    {l : List β} (hf : ∀ b ∈ l, ∀ x, f b = some x → key x = key' b) (h : (l.map key').Nodup) :
    ((l.filterMap f).map key).Nodup := by
  induction l with
  | nil => exact List.nodup_nil
  | cons b rest ih =>
    rw [List.map_cons, List.nodup_cons] at h
    have hrest := ih (fun b' hb' => hf b' (List.mem_cons_of_mem _ hb')) h.2
    cases hb : f b with
    | none =>
      rw [List.filterMap_cons_none hb]
      exact hrest
    | some x =>
      rw [List.filterMap_cons_some hb, List.map_cons, List.nodup_cons]
      -- an element with the same key would come from one with the same key before
      refine ⟨fun hmem => h.1 ?_, hrest⟩
      obtain ⟨y, hy, hkey⟩ := List.mem_map.mp hmem
      obtain ⟨b', hb', hfb'⟩ := List.mem_filterMap.mp hy
      rw [← hf b (List.mem_cons_self ..) x hb, ← hkey,
        hf b' (List.mem_cons_of_mem _ hb') y hfb']
      exact List.mem_map_of_mem hb'

/-! ## Maps -/

/-- Each object of a list under its key, later objects replacing earlier ones. -/
def fileBy (key : α → String) (l : List α) : Map α := l.foldl (fun m x => m.insert (key x) x) ∅

/-- To file a list is to let the last one under each key win. -/
theorem lookup_foldl_fileBy (key : α → String) (l : List α) (m : Map α) (k : String) :
    (l.foldl (fun m x => m.insert (key x) x) m).lookup k = (lastWith key l k).or (m.lookup k) := by
  induction l generalizing m with
  | nil => rfl
  | cons x rest ih =>
    rw [List.foldl_cons, ih, lastWith_cons, Option.or_assoc]
    by_cases hk : key x = k
    · subst hk
      simp
    · have hne : k ≠ key x := fun h => hk h.symm
      rw [Finmap.lookup_insert_of_ne _ hne, if_neg hk, Option.none_or]

/-- Likewise from an empty map. -/
theorem lookup_fileBy (key : α → String) (l : List α) (k : String) :
    (fileBy key l).lookup k = lastWith key l k := by
  rw [fileBy, lookup_foldl_fileBy]
  simp

/-- Lists that are related element by element, with related keys, have related
last elements. -/
theorem lastWith_forall₂ {R : β → γ → Prop} {key' : β → String} {key : γ → String} {l : List β}
    {l' : List γ} (h : List.Forall₂ R l l') (hkey : ∀ b ∈ l, ∀ x, R b x → key x = key' b)
    (k : String) : Option.Rel R (lastWith key' l k) (lastWith key l' k) := by
  induction h with
  | nil => exact .none
  | @cons b x bs xs hb hbs ih =>
    have ih' := ih fun b' hb' => hkey b' (List.mem_cons_of_mem _ hb')
    rw [lastWith_cons, lastWith_cons, hkey b (List.mem_cons_self ..) x hb]
    -- the rest has one with the key on both sides, or on neither
    generalize lastWith key' bs k = last, lastWith key xs k = last' at ih' ⊢
    cases ih' with
    | some hlast => exact .some hlast
    | none =>
      by_cases hk : key' b = k
      · rw [if_pos hk, if_pos hk]
        exact .some hb
      · rw [if_neg hk, if_neg hk]
        exact .none

/-- Objects produced by a loop that can fail: under each key there is what the
last input with that key became. -/
theorem lookup_fileBy_mapM {key : α → String} {key' : β → String} {f : β → Except ε α}
    {l : List β} {xs : List α} (h : l.mapM f = .ok xs)
    (hkey : ∀ b ∈ l, ∀ x, f b = .ok x → key x = key' b) (k : String) (x : α) :
    (fileBy key xs).lookup k = some x ↔ ∃ b, lastWith key' l k = some b ∧ f b = .ok x := by
  rw [lookup_fileBy]
  have hrel := lastWith_forall₂ (mapM_eq_ok_iff.mp h) hkey k
  generalize lastWith key' l k = last, lastWith key xs k = last' at hrel ⊢
  cases hrel with
  | none => simp
  | @some b y hb =>
    constructor
    · intro hx
      obtain rfl := Option.some.inj hx
      exact ⟨b, rfl, hb⟩
    · rintro ⟨b', hb', hx⟩
      obtain rfl := Option.some.inj hb'
      rw [hb] at hx
      cases hx
      rfl

/-- A transitive relation is transitive on lists, element by element. -/
theorem forall₂_trans {α : Type} {R : α → α → Prop} {l m n : List α} (h : List.Forall₂ R l m)
    (h' : List.Forall₂ R m n) (hR : ∀ a b c, R a b → R b c → R a c) : List.Forall₂ R l n := by
  induction h generalizing n with
  | nil => exact h'
  | cons hab _ ih =>
    obtain _ | ⟨hbc, htail⟩ := h'
    exact .cons (hR _ _ _ hab hbc) (ih htail)

/-! ## Conditions on the entries of a map

A condition on a map that looks at its keys one at a time is one condition for each
key. Two of these agree on all maps only if they agree on each key, provided that one
of them can be met at all. -/

section Entries

variable {V : Type}

/-- The map with an entry, or without one, under the key. -/
def Map.set (m : Map V) (k : String) : Option V → Map V
  | some v => m.insert k v
  | none => m.erase k

theorem Map.lookup_set_self (m : Map V) (k : String) (v : Option V) :
    (m.set k v).lookup k = v := by
  cases v with
  | none => exact Finmap.lookup_erase k m
  | some v => exact Finmap.lookup_insert m

theorem Map.lookup_set_of_ne (m : Map V) {k k' : String} (h : k' ≠ k) (v : Option V) :
    (m.set k v).lookup k' = m.lookup k' := by
  cases v with
  | none => exact Finmap.lookup_erase_ne h
  | some v => exact Finmap.lookup_insert_of_ne m h

/-- Conditions that can be met one by one can be met together, if all but finitely many
are met without an entry. -/
theorem exists_map_of_forall {R : String → Option V → Prop} (hsat : ∀ k, ∃ v, R k v)
    (ks : List String) (hnone : ∀ k ∉ ks, R k none) : ∃ m : Map V, ∀ k, R k (m.lookup k) := by
  -- the map is built key by key; the keys outside the list have no entry
  have hkeys : ∀ ks : List String, ∃ m : Map V,
      (∀ k ∈ ks, R k (m.lookup k)) ∧ ∀ k ∉ ks, m.lookup k = none := by
    intro ks
    induction ks with
    | nil => exact ⟨∅, by simp⟩
    | cons k ks ih =>
      obtain ⟨m, hmet, hother⟩ := ih
      obtain ⟨v, hv⟩ := hsat k
      refine ⟨m.set k v, fun k' hk' => ?_, fun k' hk' => ?_⟩
      · by_cases hk : k' = k
        · rw [hk, Map.lookup_set_self]
          exact hv
        · rw [Map.lookup_set_of_ne m hk]
          exact hmet k' ((List.mem_cons.mp hk').resolve_left hk)
      · rw [List.mem_cons, not_or] at hk'
        rw [Map.lookup_set_of_ne m hk'.1]
        exact hother k' hk'.2
  obtain ⟨m, hmet, hother⟩ := hkeys ks
  refine ⟨m, fun k => ?_⟩
  by_cases hk : k ∈ ks
  · exact hmet k hk
  · rw [hother k hk]
    exact hnone k hk

/-- **Conditions that agree on all maps agree on each key**: vary one entry of a map
that meets the conditions. -/
theorem forall_lookup_congr_iff {R S : String → Option V → Prop} {m₀ : Map V}
    (h₀ : ∀ k, R k (m₀.lookup k)) :
    (∀ m : Map V, (∀ k, R k (m.lookup k)) ↔ ∀ k, S k (m.lookup k)) ↔ ∀ k v, R k v ↔ S k v := by
  constructor
  · intro h k v
    have hS₀ := (h m₀).mp h₀
    -- one key of a map that has the property is changed, and this key alone decides
    have hset : ∀ T : String → Option V → Prop, (∀ k, T k (m₀.lookup k)) →
        ((∀ k', T k' ((m₀.set k v).lookup k')) ↔ T k v) := by
      intro T hT
      constructor
      · intro hall
        have hself := hall k
        rwa [Map.lookup_set_self] at hself
      · intro hself k'
        by_cases hk : k' = k
        · rw [hk, Map.lookup_set_self]
          exact hself
        · rw [Map.lookup_set_of_ne m₀ hk]
          exact hT k'
    rw [← hset R h₀, ← hset S hS₀]
    exact h (m₀.set k v)
  · intro h m
    exact forall_congr' fun k => h k _

end Entries

end Go

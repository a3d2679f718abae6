import Mathlib.Data.List.Forall2
import ComposeKube.Lib.Data

/-!
# Related data

Two programs' versions of one value, compared part by part. Pointers are compared with
`Option.Rel`: nil with nil, and the values behind two pointers with the relation of
their type. Slices and maps follow the same rule, element by element and key by key.

A copy is a `map`. Each of the lemmas says when a value is related to its copy: when
every element is related to its own copy.
-/

namespace Go

variable {α β : Type}

/-- Slices with related elements in the same places; nil is related to nil only. -/
def Slice.Related (R : α → β → Prop) : Slice α → Slice β → Prop := Option.Rel (List.Forall₂ R)

/-- Maps with the same keys and related values. -/
def Map.Related (R : α → β → Prop) (m : Map α) (m' : Map β) : Prop :=
  ∀ k, Option.Rel R (m.lookup k) (m'.lookup k)

/-- Maps that may be nil; nil is related to nil only. -/
def MapRef.Related (R : α → β → Prop) : MapRef α → MapRef β → Prop := Option.Rel (Map.Related R)

/-- A pointer is related to its image when what it points to is. -/
theorem pointer_related_map_iff {R : α → β → Prop} {f : α → β} {x : Option α} :
    Option.Rel R x (x.map f) ↔ ∀ a, x = some a → R a (f a) := by
  cases x with
  | none => simp
  | some a =>
    constructor
    · rintro (h | _) a' ha'
      obtain rfl := Option.some.inj ha'
      exact h
    · intro h
      exact .some (h a rfl)

/-- A list is, when every element is. -/
theorem list_related_map_iff {R : α → β → Prop} {f : α → β} {l : List α} :
    List.Forall₂ R l (l.map f) ↔ ∀ a ∈ l, R a (f a) := by
  rw [List.forall₂_map_right_iff, List.forall₂_same]

/-- A slice is, when every element is. -/
theorem Slice.related_map_iff {R : α → β → Prop} {f : α → β} {s : Slice α} :
    Slice.Related R s (s.map (List.map f)) ↔ ∀ a ∈ s.elems, R a (f a) := by
  rw [Slice.Related, pointer_related_map_iff]
  simp only [list_related_map_iff]
  cases s <;> simp

/-- A map is, when every value is. -/
theorem MapRef.related_mapValues_iff {R : α → β → Prop} {f : α → β} {m : MapRef α} :
    MapRef.Related R m (m.map (Map.mapValues f)) ↔ ∀ k v, m.get? k = some v → R v (f v) := by
  rw [MapRef.Related, pointer_related_map_iff]
  simp only [Map.Related, Map.lookup_mapValues, pointer_related_map_iff]
  cases m <;> simp

end Go

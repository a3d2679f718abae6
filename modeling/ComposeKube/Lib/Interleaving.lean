import Mathlib.Data.List.Basic

/-!
# Interleavings

Several producers put elements into one sequence. The sequence is an
interleaving of the producers' lists when every element can be attributed to a
producer such that each list comes out complete and in order.

* `contributed` — what a producer has put into a sequence so far.
* `Interleaves.filter` — leaving elements out of an interleaving.
* `getElem?_append_cons_of_ne` — one producer moves, the others do not.
-/

namespace Interleaving

variable {α : Type}

/-- The elements of one producer, in order. -/
def contributed (i : Nat) (tagged : List (Nat × α)) : List α :=
  (tagged.filter fun e => e.1 = i).map Prod.snd

/-- What one stream contributed, part by part. -/
@[simp] theorem contributed_append (i : Nat) (l l' : List (Nat × α)) :
    contributed i (l ++ l') = contributed i l ++ contributed i l' := by
  simp [contributed]

/-- What a producer adds is attributed to it. -/
@[simp] theorem contributed_map_self (i : Nat) (l : List α) :
    contributed i (l.map (Prod.mk i)) = l := by
  simp [contributed, List.filter_map, Function.comp_def]

/-- For the others nothing changes. -/
theorem contributed_map_of_ne {i j : Nat} (h : j ≠ i) (l : List α) :
    contributed i (l.map (Prod.mk j)) = [] := by
  simp [contributed, List.filter_map, Function.comp_def, h]

/-- Nothing comes from a producer that no element is attributed to. -/
theorem contributed_eq_nil {i : Nat} {tagged : List (Nat × α)} (h : ∀ e ∈ tagged, e.1 ≠ i) :
    contributed i tagged = [] := by
  rw [contributed, List.filter_eq_nil_iff.mpr fun e he => by simpa using h e he, List.map_nil]

theorem contributed_filter (i : Nat) (p : α → Bool) (tagged : List (Nat × α)) :
    contributed i (tagged.filter fun e => p e.2) = (contributed i tagged).filter p := by
  rw [contributed, contributed, List.filter_filter, List.filter_map, List.filter_filter]
  refine congrArg _ (List.filter_congr fun e _ => ?_)
  simp [Bool.and_comm]

/-- The sequence is an interleaving of the lists. -/
def Interleaves (streams : List (List α)) (out : List α) : Prop :=
  ∃ tagged : List (Nat × α), tagged.map Prod.snd = out ∧ (∀ e ∈ tagged, e.1 < streams.length) ∧
    ∀ i l, streams[i]? = some l → contributed i tagged = l

/-- **Leaving elements out** of an interleaving leaves them out of the lists. -/
theorem Interleaves.filter {streams : List (List α)} {out : List α} (h : Interleaves streams out)
    (p : α → Bool) : Interleaves (streams.map (List.filter p)) (out.filter p) := by
  obtain ⟨tagged, rfl, hlt, hstreams⟩ := h
  refine ⟨tagged.filter fun e => p e.2, ?_, fun e he => ?_, fun i l hl => ?_⟩
  · rw [List.filter_map]
    rfl
  · rw [List.length_map]
    exact hlt e (List.mem_of_mem_filter he)
  · -- each stream loses the same elements as the output
    rw [List.getElem?_map] at hl
    obtain ⟨l', hl', rfl⟩ := Option.map_eq_some_iff.mp hl
    rw [contributed_filter, hstreams i l' hl']

/-- Every element comes from one of the lists. -/
theorem Interleaves.exists_mem {streams : List (List α)} {out : List α}
    (h : Interleaves streams out) {x : α} (hx : x ∈ out) : ∃ l ∈ streams, x ∈ l := by
  obtain ⟨tagged, rfl, hlt, hstreams⟩ := h
  obtain ⟨⟨i, y⟩, he, rfl⟩ := List.mem_map.mp hx
  have hi := hlt (i, y) he
  refine ⟨streams[i], List.getElem_mem hi, ?_⟩
  rw [← hstreams i streams[i] (List.getElem?_eq_getElem hi)]
  exact List.mem_map.mpr ⟨(i, y), List.mem_filter.mpr ⟨he, by simp⟩, rfl⟩

/-! ## Replacing one of many -/

theorem getElem?_append_cons_self (before after : List α) (x : α) :
    (before ++ x :: after)[before.length]? = some x := by
  simp

theorem getElem?_append_cons_of_ne (before after : List α) (x y : α) {i : Nat}
    (h : i ≠ before.length) : (before ++ x :: after)[i]? = (before ++ y :: after)[i]? := by
  rcases Nat.lt_or_gt_of_ne h with hlt | hgt
  · rw [List.getElem?_append_left hlt, List.getElem?_append_left hlt]
  · obtain ⟨k, hk⟩ : ∃ k, i - before.length = k + 1 := ⟨i - before.length - 1, by omega⟩
    rw [List.getElem?_append_right (by omega), List.getElem?_append_right (by omega), hk,
      List.getElem?_cons_succ, List.getElem?_cons_succ]

end Interleaving

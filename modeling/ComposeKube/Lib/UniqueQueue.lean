import Mathlib.Data.Finset.Basic
import Mathlib.Data.Finset.Lattice.Lemmas

/-!
# Queues of distinct elements

A queue that takes an element only if it does not hold it already. That its
elements are distinct is a field.

* `toFinset_offer` — what is offered is there.
* `toFinset_poll` — what is polled is gone.
-/

/-- A first-in first-out queue that holds nothing twice. -/
structure UniqueQueue (α : Type) where
  items : List α
  nodup : items.Nodup

namespace UniqueQueue

variable {α : Type}

def empty : UniqueQueue α := ⟨[], List.nodup_nil⟩

/-- Removes the first element, if there is one. -/
def poll (q : UniqueQueue α) : UniqueQueue α := ⟨q.items.tail, q.nodup.tail⟩

/-- The first one is taken. -/
theorem items_poll {q : UniqueQueue α} {v : α} {rest : List α} (h : q.items = v :: rest) :
    q.poll.items = rest := by
  show q.items.tail = rest
  rw [h, List.tail_cons]

variable [DecidableEq α]

/-- Adds an element at the end, unless it is there. -/
def offer (q : UniqueQueue α) (v : α) : UniqueQueue α :=
  if h : v ∈ q.items then q
  else ⟨q.items ++ [v], List.nodup_append.mpr ⟨q.nodup, List.nodup_singleton v, by
    rintro a ha b hb rfl
    exact h (List.mem_singleton.mp hb ▸ ha)⟩⟩

/-- What waits already is not queued again. -/
theorem offer_of_mem {q : UniqueQueue α} {v : α} (h : v ∈ q.items) : q.offer v = q := dif_pos h

/-- What does not is put at the end. -/
theorem items_offer_of_notMem {q : UniqueQueue α} {v : α} (h : v ∉ q.items) :
    (q.offer v).items = q.items ++ [v] := by
  rw [offer, dif_neg h]

/-- As a set, the queue gains the one that is offered. -/
theorem toFinset_offer {q : UniqueQueue α} {v : α} (h : v ∉ q.items) :
    (q.offer v).items.toFinset = insert v q.items.toFinset := by
  rw [items_offer_of_notMem h, List.toFinset_append, List.toFinset_cons, List.toFinset_nil,
    Finset.union_comm]
  rfl

/-- As a set, the queue loses the one that is taken. -/
theorem toFinset_poll {q : UniqueQueue α} {v : α} {rest : List α} (h : q.items = v :: rest) :
    q.poll.items.toFinset = q.items.toFinset.erase v := by
  have hnodup := q.nodup
  rw [h] at hnodup
  rw [items_poll h, h, List.toFinset_cons, Finset.erase_insert]
  rw [List.mem_toFinset]
  exact (List.nodup_cons.mp hnodup).1

end UniqueQueue

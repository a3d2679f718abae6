import Mathlib.Data.List.Induction

/-!
# Histories

What the past of a run says, read off the list of its events: an event of one
kind has happened, and since then none of another kind; or an event has happened
after a past of some kind.

* `since_snoc`, `happened_snoc` — what one more event does.
* `since_unique` — the last event of a kind is unique.
-/

namespace History

variable {α : Type}

/-- An event with `p` has happened, and no event with `stop` after it. -/
def Since (p stop : α → Prop) (events : List α) : Prop :=
  ∃ before event after, events = before ++ event :: after ∧ p event ∧ ∀ e ∈ after, ¬stop e

/-- Nothing has happened yet. -/
theorem not_since_nil (p stop : α → Prop) : ¬Since p stop [] := by
  rintro ⟨before, event, after, h, -, -⟩
  cases before <;> cases h

/-- The last event is the one, or it does not put an end to it. -/
theorem since_snoc {p stop : α → Prop} {events : List α} {event : α} :
    Since p stop (events ++ [event]) ↔ p event ∨ ¬stop event ∧ Since p stop events := by
  constructor
  · rintro ⟨before, e, after, h, he, hafter⟩
    -- the event in question is the last one, or lies before it
    rcases List.eq_nil_or_concat after with rfl | ⟨after, last, rfl⟩
    · obtain ⟨-, hlast⟩ := List.append_inj' h rfl
      cases hlast
      exact Or.inl he
    · rw [List.concat_eq_append] at h hafter
      have hsplit : events ++ [event] = (before ++ e :: after) ++ [last] := by
        rw [h, List.append_assoc, List.cons_append]
      obtain ⟨hevents, hlast⟩ := List.append_inj' hsplit rfl
      cases hlast
      refine Or.inr ⟨hafter event (by simp), before, e, after, hevents, he, ?_⟩
      intro e' he'
      exact hafter e' (List.mem_append_left _ he')
  · rintro (h | ⟨hstop, before, e, after, rfl, he, hafter⟩)
    · exact ⟨events, event, [], rfl, h, nofun⟩
    · refine ⟨before, e, after ++ [event], by simp, he, ?_⟩
      intro e' he'
      rcases List.mem_append.mp he' with he' | he'
      · exact hafter e' he'
      · rwa [List.mem_singleton.mp he']

/-- When either event puts an end to the other, they are the same. -/
theorem since_unique {p q stop : α → Prop} (hp : ∀ e, p e → stop e) (hq : ∀ e, q e → stop e)
    {events : List α} (h : Since p stop events) (h' : Since q stop events) :
    ∃ event, p event ∧ q event := by
  induction events using List.reverseRecOn with
  | nil => exact absurd h (not_since_nil _ _)
  | append_singleton events event ih =>
    -- the last event that stops anything is the one for both
    rcases since_snoc.mp h with h | ⟨hstop, h⟩
    · rcases since_snoc.mp h' with h' | ⟨hstop, -⟩
      · exact ⟨event, h, h'⟩
      · exact absurd (hp event h) hstop
    · rcases since_snoc.mp h' with h' | ⟨-, h'⟩
      · exact absurd (hq event h') hstop
      · exact ih h h'

/-- An event has happened, with a condition on it and on what was before it. -/
def Happened (p : List α → α → Prop) (events : List α) : Prop :=
  ∃ before event after, events = before ++ event :: after ∧ p before event

/-- It has happened before the last event, or it is the last event. -/
theorem happened_snoc {p : List α → α → Prop} {events : List α} {event : α} :
    Happened p (events ++ [event]) ↔ Happened p events ∨ p events event := by
  constructor
  · rintro ⟨before, e, after, h, he⟩
    rcases List.eq_nil_or_concat after with rfl | ⟨after, last, rfl⟩
    · obtain ⟨rfl, hlast⟩ := List.append_inj' h rfl
      cases hlast
      exact Or.inr he
    · rw [List.concat_eq_append] at h
      have hsplit : events ++ [event] = (before ++ e :: after) ++ [last] := by
        rw [h, List.append_assoc, List.cons_append]
      obtain ⟨hevents, -⟩ := List.append_inj' hsplit rfl
      exact Or.inl ⟨before, e, after, hevents, he⟩
  · rintro (⟨before, e, after, rfl, he⟩ | he)
    · exact ⟨before, e, after ++ [event], by simp, he⟩
    · exact ⟨events, event, [], rfl, he⟩

end History

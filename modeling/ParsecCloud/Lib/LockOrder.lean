import Mathlib.Order.Basic

/- Tasks that wait for what other tasks hold. When each task waits above all it holds, the chain of
   the waits ends. -/
namespace LockOrder
variable {ι τ : Type} {rank : τ → Nat} {bound : Nat} {holds wants : ι → τ → Prop}
  {blocked : ι → Prop}

/-- A task that holds something of a high rank leads to one that is not blocked. -/
theorem exists_unblocked_of_holds (bounded : ∀ t, rank t ≤ bound)
    (ordered : ∀ i x y, holds i x → wants i y → rank x < rank y)
    (conflict : ∀ i, blocked i → ∃ j t, wants i t ∧ holds j t) :
    ∀ room i x, holds i x → bound < rank x + room → ∃ j, ¬ blocked j ∧ ∃ t, holds j t := by
  intro room
  induction room with
  | zero =>
    intro i x isHeld high
    have low := bounded x
    omega
  | succ room ih =>
    intro i x isHeld high
    by_cases isBlocked : blocked i
    · obtain ⟨j, t, isWanted, isTaken⟩ := conflict i isBlocked
      have above := ordered i x t isHeld isWanted
      exact ih j t isTaken (by omega)
    · exact ⟨i, isBlocked, x, isHeld⟩

/-- From any task, the chain ends at one that is not blocked. -/
theorem exists_unblocked (bounded : ∀ t, rank t ≤ bound)
    (ordered : ∀ i x y, holds i x → wants i y → rank x < rank y)
    (conflict : ∀ i, blocked i → ∃ j t, wants i t ∧ holds j t) (i : ι) :
    ∃ j, ¬ blocked j ∧ (j = i ∨ ∃ t, holds j t) := by
  by_cases isBlocked : blocked i
  · obtain ⟨j, t, -, isTaken⟩ := conflict i isBlocked
    obtain ⟨k, free, holder⟩ :=
      exists_unblocked_of_holds bounded ordered conflict (bound + 1) j t isTaken (by omega)
    exact ⟨k, free, Or.inr holder⟩
  · exact ⟨i, isBlocked, Or.inl rfl⟩

end LockOrder

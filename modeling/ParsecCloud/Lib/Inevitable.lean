import Mathlib.Init

/- What a system comes to in every run, in whatever order its steps are taken. -/
namespace Inevitable
variable {σ : Type} {step : σ → σ → Prop} {goal goal' : σ → Prop} {s : σ}

/-- No run from the state is stuck, and none goes on for ever, before the goal. -/
inductive Inevitably (step : σ → σ → Prop) (goal : σ → Prop) : σ → Prop where
  | here {s : σ} : goal s → Inevitably step goal s
  | later {s : σ} : (∃ s', step s s') → (∀ s', step s s' → Inevitably step goal s') →
      Inevitably step goal s

theorem Inevitably.mono (weaker : ∀ s, goal s → goal' s) (inevitable : Inevitably step goal s) :
    Inevitably step goal' s := by
  induction inevitable with
  | here met => exact .here (weaker _ met)
  | later some _ ih => exact .later some ih

theorem Inevitably.both (inevitable : Inevitably step goal s) (other : Inevitably step goal' s)
    (lasts : ∀ s s', goal s → step s s' → goal s')
    (lasts' : ∀ s s', goal' s → step s s' → goal' s') : ∃ s, goal s ∧ goal' s := by
  induction inevitable with
  | here met =>
    induction other with
    | here met' => exact ⟨_, met, met'⟩
    | later some _ ih =>
      obtain ⟨s', taken⟩ := some
      exact ih s' taken (lasts _ s' met taken)
  | later some _ ih =>
    obtain ⟨s', taken⟩ := some
    cases other with
    | here met' => exact ih s' taken (.here (lasts' _ s' met' taken))
    | later _ every => exact ih s' taken (every s' taken)

/-- An invariant under which the runs go on until the goal, each step lowering a measure. -/
theorem inevitably_of_measure {inv : σ → Prop} (measure : σ → Nat)
    (progress : ∀ s, inv s → goal s ∨ ∃ s', step s s')
    (keeps : ∀ s s', inv s → step s s' → inv s' ∧ measure s' < measure s)
    (first : inv s) : Inevitably step (fun s => inv s ∧ goal s) s := by
  induction bound : measure s using Nat.strongRecOn generalizing s with
  | ind n ih =>
    rcases progress s first with met | some
    · exact .here ⟨first, met⟩
    · apply Inevitably.later some
      intro s' taken
      obtain ⟨kept, lower⟩ := keeps s s' first taken
      exact ih (measure s') (bound ▸ lower) kept rfl

end Inevitable

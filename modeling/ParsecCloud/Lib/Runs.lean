import Mathlib.Data.List.Basic

/- Runs of a system whose steps are taken by actors. A run may be restricted to the steps that
   meet a condition on the state they start from. -/
namespace Runs
variable {σ τ : Type}

inductive Run (step : σ → τ → σ → Prop) (admits : σ → τ → Prop) (start : σ) : σ → Prop where
  | start : Run step admits start start
  | step {s s' : σ} {t : τ} : Run step admits start s → admits s t → step s t s' →
      Run step admits start s'

variable {step : σ → τ → σ → Prop} {admits admits' : σ → τ → Prop} {start s : σ}

/-- What holds at the start and is kept by every step taken holds in every state reached. -/
theorem Run.keeps {inv : σ → Prop} (first : inv start)
    (kept : ∀ s t s', inv s → admits s t → step s t s' → inv s')
    (run : Run step admits start s) : inv s := by
  induction run with
  | start => exact first
  | step _ met taken ih => exact kept _ _ _ ih met taken

theorem Run.append {s' : σ} (first : Run step admits start s) (rest : Run step admits s s') :
    Run step admits start s' := by
  induction rest with
  | start => exact first
  | step _ met taken ih => exact .step ih met taken

theorem Run.weaken (weaker : ∀ s t, admits s t → admits' s t) (run : Run step admits start s) :
    Run step admits' start s := by
  induction run with
  | start => exact .start
  | step _ met taken ih => exact .step ih (weaker _ _ met) taken

/-- The steps of a system with the list of those taken so far. -/
def Recorded (step : σ → τ → σ → Prop) (before : σ × List τ) (t : τ) (after : σ × List τ) : Prop :=
  step before.1 t after.1 ∧ after.2 = before.2 ++ [t]

theorem Run.record {admits : σ × List τ → τ → Prop} {start : σ × List τ} {s s' : σ}
    {taken : List τ} {t : τ} (run : Run (Recorded step) admits start (s, taken))
    (met : admits (s, taken) t) (next : step s t s') :
    Run (Recorded step) admits start (s', taken ++ [t]) :=
  run.step met ⟨next, rfl⟩

end Runs

import Mathlib.Logic.Relation

/- A group of concurrent tasks that share variables. The tasks complete in any order. A task may
   start others or cancel the group; the tasks of a cancelled group that are pending may still
   complete or not. -/
namespace TaskGroup
open Relation
variable {σ τ : Type}

/-- What a task does when it completes. -/
structure Completion (σ τ : Type) where
  shared : σ
  started : List τ
  cancels : Bool

structure Group (σ τ : Type) where
  shared : σ
  pending : List τ
  cancelled : Bool

inductive Step (complete : τ → σ → Completion σ τ) : Group σ τ → Group σ τ → Prop where
  | complete {shared : σ} {before after : List τ} {task : τ} {cancelled : Bool} :
      Step complete ⟨shared, before ++ task :: after, cancelled⟩
        ⟨(complete task shared).shared, before ++ after ++ (complete task shared).started,
          cancelled || (complete task shared).cancels⟩

def Group.Finished (group : Group σ τ) : Prop := group.pending = [] ∨ group.cancelled = true

/-- The tasks of a group end with these shared variables. -/
def Ends (complete : τ → σ → Completion σ τ) (tasks : List τ) (shared final : σ) : Prop :=
  ∃ group : Group σ τ, ReflTransGen (Step complete) ⟨shared, tasks, false⟩ group ∧
    group.Finished ∧ group.shared = final

variable {complete : τ → σ → Completion σ τ} {tasks : List τ} {shared final : σ}

/-- What holds when the group starts and is kept by each completion holds at the end. -/
theorem Ends.keeps (ends : Ends complete tasks shared final) (inv : Group σ τ → Prop)
    (first : inv ⟨shared, tasks, false⟩)
    (kept : ∀ shared before task after cancelled,
      inv ⟨shared, before ++ task :: after, cancelled⟩ →
        inv ⟨(complete task shared).shared, before ++ after ++ (complete task shared).started,
          cancelled || (complete task shared).cancels⟩) :
    ∃ group, inv group ∧ group.Finished ∧ group.shared = final := by
  obtain ⟨group, run, finished, isFinal⟩ := ends
  refine ⟨group, ?_, finished, isFinal⟩
  clear finished isFinal
  induction run with
  | refl => exact first
  | tail _ step ih =>
    cases step with
    | complete => exact kept _ _ _ _ _ ih

theorem ends_of_measure (complete : τ → σ → Completion σ τ) (measure : σ → List τ → Nat)
    (lowers : ∀ shared before task after, measure (complete task shared).shared
        (before ++ after ++ (complete task shared).started) <
      measure shared (before ++ task :: after)) (tasks : List τ) (shared : σ) :
    ∃ final, Ends complete tasks shared final := by
  have ends : ∀ n (group : Group σ τ), measure group.shared group.pending = n →
      ∃ last, ReflTransGen (Step complete) group last ∧ last.Finished := by
    intro n
    induction n using Nat.strongRecOn with
    | ind n ih =>
      rintro ⟨shared, pending, cancelled⟩ isMeasure
      cases pending with
      | nil => exact ⟨_, .refl, Or.inl rfl⟩
      | cons task rest =>
        have lower : _ < n := isMeasure ▸ lowers shared [] task rest
        obtain ⟨last, run, finished⟩ := ih _ lower ⟨_, _, cancelled || (complete task shared).cancels⟩
          rfl
        exact ⟨last, .head (@Step.complete _ _ complete shared [] rest task cancelled) run, finished⟩
  obtain ⟨last, run, finished⟩ := ends _ ⟨shared, tasks, false⟩ rfl
  exact ⟨last.shared, last, run, finished, rfl⟩

end TaskGroup

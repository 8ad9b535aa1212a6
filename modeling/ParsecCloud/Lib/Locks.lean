import Mathlib.Init

/- A table of locks, and who has the guard of which: a lock that is taken has one holder, and a
   holder has the guard of one lock at most. -/
namespace Locks
variable {κ χ : Type}

def Assigned (table : κ → Option χ) (guard : χ → Option κ) : Prop :=
  ∀ k x, table k = some x ↔ guard x = some k

variable {table table' : κ → Option χ} {guard guard' : χ → Option κ} {k : κ} {x y : χ}

theorem Assigned.unique (assigned : Assigned table guard) (first : guard x = some k)
    (second : guard y = some k) : x = y := by
  have here := (assigned k x).mpr first
  rw [(assigned k y).mpr second] at here
  exact (Option.some.inj here).symm

theorem Assigned.congr (assigned : Assigned table guard) (same : ∀ k, table' k = table k)
    (guards : ∀ x, guard' x = guard x) : Assigned table' guard' := by
  intro k x
  rw [same, guards]
  exact assigned k x

variable [DecidableEq κ] [DecidableEq χ]

theorem Assigned.take (assigned : Assigned table guard) (free : table k = none)
    (idle : guard x = none) (taken : ∀ k', table' k' = if k' = k then some x else table k')
    (guards : ∀ y, guard' y = if y = x then some k else guard y) : Assigned table' guard' := by
  intro k' y
  have empty : guard y ≠ some k := by
    rw [Ne, ← assigned, free]
    simp
  rw [taken, guards]
  by_cases key : k' = k <;> by_cases holder : y = x
  · simp [key, holder]
  · simp only [key, if_true, holder, if_false]
    simp [empty, Ne.symm holder]
  · simp only [key, if_false, holder, if_true, assigned k' x, idle]
    simp [Ne.symm key]
  · simp only [key, holder, if_false]
    exact assigned k' y

theorem Assigned.release (assigned : Assigned table guard) (held : guard x = some k)
    (released : ∀ k', table' k' = if k' = k then none else table k')
    (guards : ∀ y, guard' y = if y = x then none else guard y) : Assigned table' guard' := by
  intro k' y
  rw [released, guards]
  by_cases key : k' = k <;> by_cases holder : y = x
  · simp [key, holder]
  · simp only [key, if_true, holder, if_false]
    have other : guard y ≠ some k := fun held' => holder (assigned.unique held' held)
    simp [other]
  · simp only [key, if_false, holder, if_true, assigned k' x, held]
    simp [Ne.symm key]
  · simp only [key, holder, if_false]
    exact assigned k' y

theorem Assigned.handOver (assigned : Assigned table guard) (held : guard x = some k)
    (idle : guard y = none) (moved : ∀ k', table' k' = if k' = k then some y else table k')
    (guards : ∀ z, guard' z = if z = y then some k else if z = x then none else guard z) :
    Assigned table' guard' := by
  have released : Assigned (fun k' => if k' = k then none else table k')
      (fun z => if z = x then none else guard z) :=
    assigned.release held (fun _ => rfl) (fun _ => rfl)
  refine released.take (k := k) (x := y) (by simp) ?_ ?_ ?_
  · simp [idle]
  · intro k'
    rw [moved]
    split <;> rfl
  · exact guards

end Locks

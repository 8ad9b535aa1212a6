import Mathlib.Init

/- Calls that change a state in place and may stop with an error. There is no transaction: what was
   changed before the error stays changed. -/

def Call (σ ε α : Type) : Type := σ → Except ε α × σ

namespace Call
variable {σ ε α β : Type}

def andThen (call : Call σ ε α) (next : α → Call σ ε β) : Call σ ε β := fun s =>
  match call s with
  | (.error error, s') => (.error error, s')
  | (.ok a, s') => next a s'

instance : Monad (Call σ ε) where
  pure a := fun s => (.ok a, s)
  bind := andThen

def get : Call σ ε σ := fun s => (.ok s, s)

def modify (change : σ → σ) : Call σ ε Unit := fun s => (.ok (), change s)

/-- What is decided without a change. -/
def check (outcome : Except ε α) : Call σ ε α := fun s => (outcome, s)

@[simp] theorem pure_apply (a : α) (s : σ) : (pure a : Call σ ε α) s = (.ok a, s) := rfl

@[simp] theorem get_apply (s : σ) : (get : Call σ ε σ) s = (.ok s, s) := rfl

@[simp] theorem modify_apply (change : σ → σ) (s : σ) :
    (modify change : Call σ ε Unit) s = (.ok (), change s) := rfl

@[simp] theorem check_apply (outcome : Except ε α) (s : σ) :
    (check outcome : Call σ ε α) s = (outcome, s) := rfl

theorem bind_of_error {call : Call σ ε α} {next : α → Call σ ε β} {s s' : σ} {error : ε}
    (stopped : call s = (.error error, s')) : (call >>= next) s = (.error error, s') := by
  change andThen call next s = _
  rw [andThen, stopped]

theorem bind_of_ok {call : Call σ ε α} {next : α → Call σ ε β} {s s' : σ} {a : α}
    (done : call s = (.ok a, s')) : (call >>= next) s = next a s' := by
  change andThen call next s = _
  rw [andThen, done]

section Rules
variable (same : σ → σ → Prop) (refusal : ε → Prop)

/-- A call that is refused leaves the state as it was. -/
def Keeps (call : Call σ ε α) : Prop :=
  ∀ s error, (call s).1 = .error error → refusal error → same s (call s).2

/-- A call that never changes anything. -/
def Reads (call : Call σ ε α) : Prop := ∀ s, same s (call s).2

/-- A call that is never refused. -/
def Stores (call : Call σ ε α) : Prop := ∀ s error, (call s).1 = .error error → ¬ refusal error

variable {same refusal}

theorem Reads.get (refl : ∀ s, same s s) : Reads same (get : Call σ ε σ) := fun s => refl s

theorem Reads.check (refl : ∀ s, same s s) (outcome : Except ε α) :
    Reads same (check outcome : Call σ ε α) := fun s => refl s

theorem Stores.modify (change : σ → σ) : Stores refusal (modify change : Call σ ε Unit) := by
  intro s error stopped
  cases stopped

theorem Stores.pure (a : α) : Stores refusal (pure a : Call σ ε α) := by
  intro s error stopped
  cases stopped

theorem Stores.bind {call : Call σ ε α} {next : α → Call σ ε β} (first : Stores refusal call)
    (rest : ∀ a, Stores refusal (next a)) : Stores refusal (call >>= next) := by
  intro s error stopped
  cases done : call s with
  | mk outcome s' =>
    cases outcome with
    | error error' =>
      rw [bind_of_error done] at stopped
      cases stopped
      exact first s error (by rw [done])
    | ok a =>
      rw [bind_of_ok done] at stopped
      exact rest a s' error stopped

theorem Stores.keeps {call : Call σ ε α} (stores : Stores refusal call) :
    Keeps same refusal call := by
  intro s error stopped isRefusal
  exact absurd isRefusal (stores s error stopped)

/-- The checks come first, and what follows them keeps the state when it is refused. -/
theorem Keeps.bind (trans : ∀ s s' s'', same s s' → same s' s'' → same s s'')
    {call : Call σ ε α} {next : α → Call σ ε β} (first : Reads same call)
    (rest : ∀ a, Keeps same refusal (next a)) : Keeps same refusal (call >>= next) := by
  intro s error stopped isRefusal
  have read := first s
  cases done : call s with
  | mk outcome s' =>
    rw [done] at read
    cases outcome with
    | error error' =>
      rw [bind_of_error done]
      exact read
    | ok a =>
      rw [bind_of_ok done] at stopped ⊢
      exact trans _ _ _ read (rest a s' error stopped isRefusal)

end Rules

end Call

import Mathlib.Data.List.Basic

/- The part of the Rust language and standard library that the modelled code relies on.
   Integers are Nat with the bounds of u64 checked on every operation: an operation that
   leaves the range is a panic, as in a build with overflow checks. -/
namespace Rust

inductive Panic where
  | expect (message : String)
  | assert (message : String)
  | overflow
  | outOfRange
  deriving DecidableEq, Repr

/-- The result of code that may panic. -/
abbrev Checked := Except Panic

def u64Limit : Nat := 18446744073709551616
def i64Limit : Nat := 9223372036854775808

/-- No slice is longer than isize::MAX bytes. -/
def isizeMax : Nat := 9223372036854775807

def add (a b : Nat) : Checked Nat := if a + b < u64Limit then .ok (a + b) else .error .overflow
def sub (a b : Nat) : Checked Nat := if b ≤ a then .ok (a - b) else .error .overflow
def mul (a b : Nat) : Checked Nat := if a * b < u64Limit then .ok (a * b) else .error .overflow

/-- u64::div_ceil -/
def divCeil (a b : Nat) : Nat := if a % b = 0 then a / b else a / b + 1

/-- The cast of a u64 to i64. -/
def asI64 (n : Nat) : Int := if n < i64Limit then (n : Int) else (n : Int) - (u64Limit : Int)

/-- Option::expect -/
def expectSome (message : String) : Option β → Checked β
  | some value => .ok value
  | none => .error (.expect message)

/-- u64::checked_sub followed by expect -/
def checkedSub (message : String) (a b : Nat) : Checked Nat :=
  if b ≤ a then .ok (a - b) else .error (.expect message)

/-- NonZeroU64::new followed by expect -/
def nonZero (message : String) (n : Nat) : Checked Nat :=
  if n = 0 then .error (.expect message) else .ok n

def assert (condition : Bool) (message : String) : Checked Unit :=
  if condition then .ok () else .error (.assert message)

/-- The slice expression data[from..to] -/
def slice (data : List β) (first last : Nat) : Checked (List β) :=
  if first ≤ last ∧ last ≤ data.length then .ok ((data.take last).drop first)
  else .error .outOfRange

/-- slice::get with a range, followed by unwrap_or_default -/
def getRange (data : List β) (first last : Nat) : List β :=
  if first ≤ last ∧ last ≤ data.length then (data.take last).drop first else []

/-- slice::binary_search_by_key on a slice sorted by a key without repetition: the index of
    the element with that key, or else the index where it can be inserted. -/
def binarySearchByKey (data : List β) (key : β → Nat) (target : Nat) : Except Nat Nat :=
  let index := (data.takeWhile (fun v => decide (key v < target))).length
  if (data[index]?).map key = some target then .ok index else .error index

@[simp] theorem ok_bind {ε : Type} (a : β) (f : β → Except ε γ) : (Except.ok a >>= f) = f a :=
  rfl

@[simp] theorem pure_eq_ok (a : β) : (pure a : Checked β) = .ok a := rfl

theorem bind_eq_ok {ε : Type} {x : Except ε β} {f : β → Except ε γ} {c : γ} :
    (x >>= f) = .ok c ↔ ∃ a, x = .ok a ∧ f a = .ok c := by
  cases x with
  | error e =>
    constructor
    · intro h
      cases h
    · rintro ⟨a, h, _⟩
      cases h
  | ok a =>
    constructor
    · intro h
      exact ⟨a, rfl, h⟩
    · rintro ⟨b, h, hc⟩
      cases h
      exact hc

theorem add_eq_ok {a b c : Nat} : add a b = .ok c ↔ a + b < u64Limit ∧ c = a + b := by
  unfold add
  split
  · simp_all [eq_comm]
  · simp
    omega

theorem mul_eq_ok {a b c : Nat} : mul a b = .ok c ↔ a * b < u64Limit ∧ c = a * b := by
  unfold mul
  split
  · simp_all [eq_comm]
  · simp
    omega

theorem assert_eq_ok {condition : Bool} {message : String} :
    assert condition message = .ok () ↔ condition = true := by
  unfold assert
  split <;> simp_all

theorem add_ok {a b : Nat} (fits : a + b < u64Limit) : add a b = .ok (a + b) := by
  simp [add, fits]

theorem sub_ok {a b : Nat} (le : b ≤ a) : sub a b = .ok (a - b) := by
  simp [sub, le]

theorem mul_ok {a b : Nat} (fits : a * b < u64Limit) : mul a b = .ok (a * b) := by
  simp [mul, fits]

theorem checkedSub_ok {a b : Nat} {message : String} (le : b ≤ a) :
    checkedSub message a b = .ok (a - b) := by
  simp [checkedSub, le]

theorem nonZero_ok {n : Nat} {message : String} (positive : 0 < n) :
    nonZero message n = .ok n := by
  have : n ≠ 0 := by omega
  simp [nonZero, this]

theorem slice_ok {data : List β} {first last : Nat} (le : first ≤ last) (inside : last ≤ data.length) :
    slice data first last = .ok ((data.take last).drop first) := by
  simp [slice, le, inside]

theorem asI64_small {n : Nat} (small : n < i64Limit) : asI64 n = (n : Int) := by
  simp [asI64, small]

theorem mapM_ok {ε : Type} {f : β → Except ε γ} {g : β → γ} {l : List β}
    (all : ∀ x ∈ l, f x = .ok (g x)) : l.mapM f = .ok (l.map g) := by
  induction l with
  | nil => rfl
  | cons x rest ih =>
    rw [List.mapM_cons, all x (by simp), ok_bind, ih (fun y my => all y (by simp [my]))]
    rfl

theorem mapM_length {ε : Type} {f : β → Except ε γ} {l : List β} {r : List γ}
    (run : l.mapM f = .ok r) : r.length = l.length := by
  induction l generalizing r with
  | nil =>
    cases run
    rfl
  | cons x rest ih =>
    rw [List.mapM_cons] at run
    obtain ⟨y, _, run⟩ := bind_eq_ok.mp run
    obtain ⟨ys, others, run⟩ := bind_eq_ok.mp run
    cases run
    rw [List.length_cons, List.length_cons, ih others]

theorem mem_mapM {f : β → Checked γ} {l : List β} {r : List γ} (run : l.mapM f = .ok r) {y : γ}
    (member : y ∈ r) : ∃ x ∈ l, f x = .ok y := by
  induction l generalizing r with
  | nil =>
    cases run
    cases member
  | cons x rest ih =>
    rw [List.mapM_cons] at run
    obtain ⟨z, first, run⟩ := bind_eq_ok.mp run
    obtain ⟨zs, others, run⟩ := bind_eq_ok.mp run
    cases run
    rcases List.mem_cons.mp member with rfl | member
    · exact ⟨x, by simp, first⟩
    · obtain ⟨w, mw, found⟩ := ih others member
      exact ⟨w, by simp [mw], found⟩

/-- What every turn of a loop keeps holds at the end of it, if it ends. -/
theorem foldlM_keeps {α σ : Type} {f : σ → α → Checked σ} {P : σ → Prop} {l : List α} {s s' : σ}
    (step : ∀ s x s', f s x = .ok s' → P s → P s') (run : l.foldlM f s = .ok s') (first : P s) :
    P s' := by
  induction l generalizing s with
  | nil =>
    cases run
    exact first
  | cons x rest ih =>
    rw [List.foldlM_cons] at run
    obtain ⟨next, one, run⟩ := bind_eq_ok.mp run
    exact ih run (step s x next one first)

/-- The rule for a loop over the numbers a, ..., a + n - 1: what holds before number k and is
    carried by the body to k + 1 holds at the end, and the loop does not panic. -/
theorem foldlM_range {σ : Type} {f : σ → Nat → Checked σ} {P : Nat → σ → Prop} {a n : Nat}
    {s : σ} (first : P a s)
    (step : ∀ k s, a ≤ k → k < a + n → P k s → ∃ s', f s k = .ok s' ∧ P (k + 1) s') :
    ∃ s', (List.range' a n).foldlM f s = .ok s' ∧ P (a + n) s' := by
  induction n generalizing a s with
  | zero => exact ⟨s, rfl, first⟩
  | succ n ih =>
    obtain ⟨s', run, next⟩ := step a s (Nat.le_refl a) (by omega) first
    obtain ⟨last, rest, final⟩ := ih next
      (fun k s low high => step k s (by omega) (by omega))
    refine ⟨last, ?_, by rwa [Nat.add_right_comm, Nat.add_assoc] at final⟩
    rw [List.range'_succ, List.foldlM_cons, run]
    exact rest

/-- The same rule for a loop over a list: P speaks of the elements done so far. -/
theorem foldlM_list {α σ : Type} {f : σ → α → Checked σ} {P : List α → σ → Prop} {l : List α} {s : σ}
    (first : P [] s)
    (step : ∀ done x rest s, l = done ++ x :: rest → P done s →
      ∃ s', f s x = .ok s' ∧ P (done ++ [x]) s') :
    ∃ s', l.foldlM f s = .ok s' ∧ P l s' := by
  suffices general : ∀ rest done s, l = done ++ rest → P done s →
      ∃ s', rest.foldlM f s = .ok s' ∧ P l s' from general l [] s rfl first
  intro rest
  induction rest with
  | nil =>
    intro done s split reached
    rw [List.append_nil] at split
    exact ⟨s, rfl, split ▸ reached⟩
  | cons x rest ih =>
    intro done s split reached
    obtain ⟨s', run, next⟩ := step done x rest s split reached
    obtain ⟨last, others, final⟩ := ih (done ++ [x]) s' (by simp [split]) next
    refine ⟨last, ?_, final⟩
    rw [List.foldlM_cons, run]
    exact others

theorem foldl_list {α σ : Type} {f : σ → α → σ} {P : List α → σ → Prop} {l : List α} {s : σ}
    (first : P [] s)
    (step : ∀ done x rest s, l = done ++ x :: rest → P done s → P (done ++ [x]) (f s x)) :
    P l (l.foldl f s) := by
  suffices general : ∀ rest done s, l = done ++ rest → P done s → P l (rest.foldl f s) from
    general l [] s rfl first
  intro rest
  induction rest with
  | nil =>
    intro done s split reached
    rw [List.append_nil] at split
    exact split ▸ reached
  | cons x rest ih =>
    intro done s split reached
    exact ih (done ++ [x]) (f s x) (by simp [split]) (step done x rest s split reached)

theorem getRange_prefix {data : List β} {last : Nat} (inside : last ≤ data.length) :
    getRange data 0 last = data.take last := by
  simp [getRange, inside]

theorem getRange_suffix {data : List β} {first : Nat} (inside : first ≤ data.length) :
    getRange data first data.length = data.drop first := by
  simp [getRange, inside]

/-- The blocks of b bytes that divCeil counts are those that begin before a. -/
theorem lt_divCeil {a b k : Nat} (positive : 0 < b) : k < divCeil a b ↔ k * b < a := by
  have split := Nat.div_add_mod a b
  have small := Nat.mod_lt a positive
  unfold divCeil
  constructor
  · intro h
    split at h
    · have := (Nat.le_div_iff_mul_le positive).mp (show k + 1 ≤ a / b by omega)
      rw [Nat.add_mul] at this
      omega
    · have := Nat.mul_le_mul_right b (show k ≤ a / b by omega)
      rw [Nat.mul_comm (a / b) b] at this
      omega
  · intro h
    split
    · rename_i exactly
      by_contra le
      have := Nat.mul_le_mul_right b (show a / b ≤ k by omega)
      rw [Nat.mul_comm (a / b) b] at this
      omega
    · have := Nat.div_le_div_right (c := b) (show k * b ≤ a by omega)
      rw [Nat.mul_div_cancel k positive] at this
      omega

end Rust

import Mathlib.Data.List.Basic

/- Half-open segments [start, stop) kept in one list, in order and without overlap.
   The segment type is arbitrary: start and stop are read through two functions. -/
namespace OrderedSegments
variable {α : Type} (start stop : α → Nat)

/-- The segments of the list follow each other inside [lo, hi]. Gaps are allowed. -/
def Ordered : Nat → Nat → List α → Prop
  | lo, hi, [] => lo ≤ hi
  | lo, hi, v :: rest => lo ≤ start v ∧ start v ≤ stop v ∧ Ordered (stop v) hi rest

def Covers (v : α) (p : Nat) : Prop := start v ≤ p ∧ p < stop v

instance (v : α) (p : Nat) : Decidable (Covers start stop v p) :=
  inferInstanceAs (Decidable (_ ∧ _))

def segmentAt (segments : List α) (p : Nat) : Option α :=
  segments.find? (fun v => decide (Covers start stop v p))

/-- Number of leading segments that begin before x. -/
def lowerBound (x : Nat) (segments : List α) : Nat :=
  (segments.takeWhile (fun v => decide (start v < x))).length

variable {start stop} {lo hi x p : Nat} {l r : List α}

theorem ordered_bounds (ordered : Ordered start stop lo hi l) : lo ≤ hi := by
  induction l generalizing lo with
  | nil => exact ordered
  | cons v rest ih =>
    obtain ⟨first, valid, tail⟩ := ordered
    have := ih tail
    omega

theorem ordered_widen {lo' hi' : Nat} (ordered : Ordered start stop lo hi l)
    (lower : lo' ≤ lo) (upper : hi ≤ hi') : Ordered start stop lo' hi' l := by
  induction l generalizing lo lo' with
  | nil =>
    simp only [Ordered] at ordered ⊢
    omega
  | cons v rest ih =>
    obtain ⟨first, valid, tail⟩ := ordered
    exact ⟨by omega, valid, ih tail (Nat.le_refl _)⟩

theorem ordered_narrow_right {hi' : Nat} (ordered : Ordered start stop lo hi l) (bound : lo ≤ hi')
    (ends : ∀ v ∈ l, stop v ≤ hi') : Ordered start stop lo hi' l := by
  induction l generalizing lo with
  | nil => exact bound
  | cons v rest ih =>
    obtain ⟨first, valid, tail⟩ := ordered
    exact ⟨first, valid, ih tail (ends v (by simp)) (fun w mw => ends w (by simp [mw]))⟩

theorem ordered_narrow_left {lo' : Nat} (ordered : Ordered start stop lo hi l) (bound : lo' ≤ hi)
    (begins : ∀ v ∈ l, lo' ≤ start v) : Ordered start stop lo' hi l := by
  cases l with
  | nil => exact bound
  | cons v rest => exact ⟨begins v (by simp), ordered.2⟩

theorem ordered_append :
    Ordered start stop lo hi (l ++ r) ↔
      ∃ mid, Ordered start stop lo mid l ∧ Ordered start stop mid hi r := by
  induction l generalizing lo with
  | nil =>
    constructor
    · intro ordered
      exact ⟨lo, Nat.le_refl lo, ordered⟩
    · rintro ⟨mid, low, ordered⟩
      exact ordered_widen ordered low (Nat.le_refl hi)
  | cons v rest ih =>
    simp only [List.cons_append, Ordered, ih]
    constructor
    · rintro ⟨first, valid, mid, left, right⟩
      exact ⟨mid, ⟨first, valid, left⟩, right⟩
    · rintro ⟨mid, ⟨first, valid, left⟩, right⟩
      exact ⟨first, valid, mid, left, right⟩

/-- Lists that each stand between two consecutive bounds, put end to end. -/
theorem ordered_flatten_range {f : Nat → List α} (bound : Nat → Nat) {a n : Nat}
    (each : ∀ k, a ≤ k → k < a + n → Ordered start stop (bound k) (bound (k + 1)) (f k)) :
    Ordered start stop (bound a) (bound (a + n)) ((List.range' a n).map f).flatten := by
  induction n generalizing a with
  | zero => exact Nat.le_refl _
  | succ n ih =>
    rw [List.range'_succ, List.map_cons, List.flatten_cons]
    have tail := ih (a := a + 1) fun k low high => each k (by omega) (by omega)
    rw [show a + 1 + n = a + (n + 1) by omega] at tail
    exact ordered_append.mpr ⟨_, each a (Nat.le_refl a) (by omega), tail⟩

theorem ordered_member {v : α} (ordered : Ordered start stop lo hi l) (member : v ∈ l) :
    lo ≤ start v ∧ start v ≤ stop v ∧ stop v ≤ hi := by
  induction l generalizing lo with
  | nil => simp at member
  | cons w rest ih =>
    obtain ⟨first, valid, tail⟩ := ordered
    rcases List.mem_cons.mp member with same | member
    · subst w
      exact ⟨first, valid, ordered_bounds tail⟩
    · obtain ⟨low, inside, high⟩ := ih tail member
      exact ⟨by omega, inside, high⟩

/-- Whatever stands before a segment in the list ends before it begins. -/
theorem ordered_before {q : α} (ordered : Ordered start stop lo hi (l ++ q :: r)) {v : α}
    (member : v ∈ l) : stop v ≤ start q := by
  obtain ⟨mid, left, right⟩ := ordered_append.mp ordered
  have ends := (ordered_member left member).2.2
  have begins := right.1
  omega

theorem cover_unique {v w : α} (ordered : Ordered start stop lo hi l) (mv : v ∈ l) (mw : w ∈ l)
    (hv : Covers start stop v p) (hw : Covers start stop w p) : v = w := by
  induction l generalizing lo with
  | nil => simp at mv
  | cons u rest ih =>
    obtain ⟨first, valid, tail⟩ := ordered
    rcases List.mem_cons.mp mv with ev | mv <;> rcases List.mem_cons.mp mw with ew | mw
    · exact ev.trans ew.symm
    · subst v
      have after := (ordered_member tail mw).1
      have := hv.2; have := hw.1
      omega
    · subst w
      have after := (ordered_member tail mv).1
      have := hv.1; have := hw.2
      omega
    · exact ih tail mv mw

theorem segmentAt_eq_some {v : α} (ordered : Ordered start stop lo hi l) :
    segmentAt start stop l p = some v ↔ v ∈ l ∧ Covers start stop v p := by
  constructor
  · intro found
    exact ⟨List.mem_of_find?_eq_some found, by simpa using List.find?_some found⟩
  · rintro ⟨member, covers⟩
    cases found : segmentAt start stop l p with
    | none =>
      have miss := List.find?_eq_none.mp found v member
      simp [covers] at miss
    | some w =>
      have coversW : Covers start stop w p := by simpa using List.find?_some found
      rw [cover_unique ordered (List.mem_of_find?_eq_some found) member coversW covers]

theorem segmentAt_eq_none :
    segmentAt start stop l p = none ↔ ∀ v ∈ l, ¬ Covers start stop v p := by
  simp [segmentAt]

theorem ordered_shrink {f : α → α} (ordered : Ordered start stop lo hi l)
    (inside : ∀ v ∈ l, start v ≤ start (f v) ∧ start (f v) ≤ stop (f v) ∧ stop (f v) ≤ stop v) :
    Ordered start stop lo hi (l.map f) := by
  induction l generalizing lo with
  | nil => exact ordered
  | cons v rest ih =>
    obtain ⟨first, valid, tail⟩ := ordered
    obtain ⟨left, middle, right⟩ := inside v (by simp)
    have shrunk := ih tail (fun w mw => inside w (by simp [mw]))
    exact ⟨by omega, middle, ordered_widen shrunk right (Nat.le_refl hi)⟩

theorem ordered_filter (keep : α → Bool) (ordered : Ordered start stop lo hi l) :
    Ordered start stop lo hi (l.filter keep) := by
  induction l generalizing lo with
  | nil => exact ordered
  | cons v rest ih =>
    obtain ⟨first, valid, tail⟩ := ordered
    have kept := ih tail
    by_cases hv : keep v
    · rw [List.filter_cons_of_pos hv]
      exact ⟨first, valid, kept⟩
    · rw [List.filter_cons_of_neg hv]
      exact ordered_widen kept (by omega) (Nat.le_refl hi)

/-- In an ordered list the segments that begin before x are exactly a first part of it. -/
theorem filter_eq_takeWhile (ordered : Ordered start stop lo hi l) :
    l.takeWhile (fun v => decide (start v < x)) = l.filter (fun v => decide (start v < x)) := by
  induction l generalizing lo with
  | nil => rfl
  | cons v rest ih =>
    obtain ⟨first, valid, tail⟩ := ordered
    by_cases early : start v < x
    · simp [early, ih tail]
    · have late : ∀ w ∈ rest, x ≤ start w := by
        intro w mw
        have := (ordered_member tail mw).1
        omega
      simpa [early] using late

theorem take_lowerBound (ordered : Ordered start stop lo hi l) :
    l.take (lowerBound start x l) = l.filter (fun v => decide (start v < x)) := by
  rw [← filter_eq_takeWhile ordered, lowerBound]
  exact (List.prefix_iff_eq_take.mp (List.takeWhile_prefix _)).symm

theorem drop_lowerBound (ordered : Ordered start stop lo hi l) :
    l.drop (lowerBound start x l) = l.filter (fun v => decide (x ≤ start v)) := by
  induction l generalizing lo with
  | nil => rfl
  | cons v rest ih =>
    obtain ⟨first, valid, tail⟩ := ordered
    by_cases early : start v < x
    · have later : ¬ x ≤ start v := by omega
      simpa [lowerBound, early, later] using ih tail
    · have all : ∀ w ∈ v :: rest, x ≤ start w := by
        intro w mw
        rcases List.mem_cons.mp mw with same | mw
        · subst w; omega
        · have := (ordered_member tail mw).1
          omega
      rw [List.filter_eq_self.mpr (by simpa using all)]
      simp [lowerBound, early]

theorem lowerBound_le_length : lowerBound start x l ≤ l.length :=
  (List.takeWhile_sublist _).length_le

theorem lowerBound_monotone {y : Nat} (le : x ≤ y) :
    lowerBound start x l ≤ lowerBound start y l := by
  induction l with
  | nil => simp [lowerBound]
  | cons v rest ih =>
    by_cases early : start v < x
    · have later : start v < y := by omega
      simpa [lowerBound, early, later] using ih
    · simp [lowerBound, early]

theorem lowerBound_getElem {v : α} (ordered : Ordered start stop lo hi l)
    (found : l[lowerBound start x l]? = some v) : x ≤ start v := by
  have member : v ∈ l.drop (lowerBound start x l) := by
    rw [← Nat.add_zero (lowerBound start x l), ← List.getElem?_drop] at found
    exact List.mem_of_getElem? found
  rw [drop_lowerBound ordered] at member
  simpa using (List.mem_filter.mp member).2

end OrderedSegments

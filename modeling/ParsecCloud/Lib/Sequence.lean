import Mathlib.Data.List.Sort

/- Rows numbered in the order they were added, and the parts of them that are cut at a number. -/
namespace Sequence
variable {ρ : Type} {number : ρ → Nat}

def maxNumber (number : ρ → Nat) : List ρ → Nat
  | [] => 0
  | row :: rest => max (number row) (maxNumber number rest)

/-- The numbers are positive and increase. -/
structure Increasing (number : ρ → Nat) (rows : List ρ) : Prop where
  sorted : rows.Pairwise fun row next => number row < number next
  positive : ∀ row ∈ rows, 0 < number row

theorem Increasing.sublist {rows rows' : List ρ} (increasing : Increasing number rows)
    (sub : List.Sublist rows' rows) : Increasing number rows' :=
  ⟨increasing.sorted.sublist sub, fun row member => increasing.positive row (sub.subset member)⟩

theorem Increasing.nodup {rows : List ρ} (increasing : Increasing number rows) :
    (rows.map number).Nodup :=
  List.pairwise_map.mpr (increasing.sorted.imp Nat.ne_of_lt)

theorem number_le_maxNumber {rows : List ρ} {row : ρ} (member : row ∈ rows) :
    number row ≤ maxNumber number rows := by
  induction rows with
  | nil => cases member
  | cons first rest ih =>
    rw [maxNumber]
    rcases List.mem_cons.mp member with rfl | member
    · omega
    · have isBelow := ih member
      omega

theorem maxNumber_lt {rows : List ρ} {bound : Nat} (positive : 0 < bound)
    (below : ∀ row ∈ rows, number row < bound) : maxNumber number rows < bound := by
  induction rows with
  | nil => exact positive
  | cons first rest ih =>
    rw [maxNumber]
    have isFirst := below first List.mem_cons_self
    have isRest := ih fun row member => below row (List.mem_cons_of_mem _ member)
    omega

theorem maxNumber_append_last {front : List ρ} {last : ρ}
    (increasing : Increasing number (front ++ [last])) :
    maxNumber number (front ++ [last]) = number last := by
  induction front with
  | nil =>
    rw [List.nil_append, maxNumber, maxNumber]
    omega
  | cons first rest ih =>
    have increasing' : Increasing number (rest ++ [last]) :=
      increasing.sublist (List.sublist_cons_self _ _)
    rw [List.cons_append, maxNumber, ih increasing']
    have below := (List.pairwise_cons.mp increasing.sorted).1 last
      (List.mem_append_right _ (List.mem_singleton_self last))
    omega

theorem number_le_last {rows : List ρ} {last row : ρ} (increasing : Increasing number rows)
    (isLast : rows.getLast? = some last) (member : row ∈ rows) : number row ≤ number last := by
  obtain ⟨front, rfl⟩ := List.getLast?_eq_some_iff.mp isLast
  rw [← maxNumber_append_last increasing]
  exact number_le_maxNumber member

section Cut
variable {front back : List ρ}

theorem maxNumber_lt_of_back (increasing : Increasing number (front ++ back)) {row : ρ}
    (member : row ∈ back) : maxNumber number front < number row := by
  apply maxNumber_lt
  · exact increasing.positive row (List.mem_append_right _ member)
  · intro earlier isEarlier
    exact (List.pairwise_append.mp increasing.sorted).2.2 earlier isEarlier row member

theorem filter_above (increasing : Increasing number (front ++ back)) :
    (front ++ back).filter (fun row => maxNumber number front < number row) = back := by
  rw [List.filter_append]
  have noFront : front.filter (fun row => maxNumber number front < number row) = [] := by
    rw [List.filter_eq_nil_iff]
    intro row member
    have isBelow : number row ≤ maxNumber number front := number_le_maxNumber member
    simpa using isBelow
  have allBack : back.filter (fun row => maxNumber number front < number row) = back := by
    rw [List.filter_eq_self]
    intro row member
    simpa using maxNumber_lt_of_back increasing member
  rw [noFront, allBack, List.nil_append]

end Cut

theorem filter_prefix_of_before {rows : List ρ} {keep : ρ → Bool}
    (sorted : rows.Pairwise fun row next => number row < number next)
    (before : ∀ row ∈ rows, ∀ other ∈ rows, keep row = true → keep other = false →
      number row < number other) : rows.filter keep <+: rows := by
  induction rows with
  | nil => exact List.prefix_rfl
  | cons first rest ih =>
    obtain ⟨isFirst, sorted⟩ := List.pairwise_cons.mp sorted
    cases kept : keep first with
    | true =>
      rw [List.filter_cons_of_pos kept, List.prefix_cons_inj]
      apply ih sorted
      intro row member other isOther
      exact before row (List.mem_cons_of_mem _ member) other (List.mem_cons_of_mem _ isOther)
    | false =>
      have none : rest.filter keep = [] := by
        rw [List.filter_eq_nil_iff]
        intro row member isKept
        have isBefore := before row (List.mem_cons_of_mem _ member) first List.mem_cons_self isKept
          kept
        have isAfter := isFirst row member
        omega
      rw [List.filter_cons_of_neg (by simp [kept]), none]
      exact List.nil_prefix

section Enumerate
variable {α : Type} {start : Nat} {rows : List α}

section Kept
variable {keep : α → Bool}
  (sorted : rows.Pairwise fun row next => keep next = true → keep row = true)
include sorted

end Kept

end Enumerate

section Stable
variable {α κ : Type} [LinearOrder κ] (key : α → κ) {keep : α → Bool}

end Stable

end Sequence

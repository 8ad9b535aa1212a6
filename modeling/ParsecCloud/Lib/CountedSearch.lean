import ParsecCloud.Lib.Rust
import Mathlib.Data.Finset.Card
import Mathlib.Order.Interval.Finset.Nat

/- The search for the first candidate that is not reserved, with a counter that can overflow. What the
   candidates are is a parameter. -/
namespace CountedSearch
open Rust

variable {α : Type} (candidate : Nat → Checked α)

/-- Different counts give different candidates. -/
def Distinct : Prop :=
  ∀ a b found, candidate a = .ok found → candidate b = .ok found → a = b

section Tried
variable (reserved : Finset α) (start : Nat)

/-- The candidate of the count is made, and is reserved. -/
def Taken (count : Nat) : Prop := ∃ found, candidate count = .ok found ∧ found ∈ reserved

/-- Each count before this one is taken. -/
def Tried (count : Nat) : Prop :=
  start ≤ count ∧ ∀ earlier, start ≤ earlier → earlier < count → Taken candidate reserved earlier

/-- The candidate of the first count that is not taken. -/
def FirstFree (found : α) : Prop :=
  ∃ count, Tried candidate reserved start count ∧ candidate count = .ok found ∧ found ∉ reserved

end Tried

section Counts
variable {candidate} {reserved : Finset α} {count start size : Nat} {found : α}

theorem Tried.next (tried : Tried candidate reserved start count)
    (taken : Taken candidate reserved count) : Tried candidate reserved start (count + 1) := by
  refine ⟨Nat.le_succ_of_le tried.1, ?_⟩
  intro earlier first last
  rcases Nat.lt_succ_iff_lt_or_eq.mp last with before | rfl
  · exact tried.2 earlier first before
  · exact taken

theorem tried_start : Tried candidate reserved start start :=
  ⟨Nat.le_refl start, fun _ first last => absurd last (Nat.not_lt.mpr first)⟩

theorem tried_of_next (taken : Taken candidate reserved start)
    (tried : Tried candidate reserved (start + 1) count) : Tried candidate reserved start count := by
  refine ⟨Nat.le_of_succ_le tried.1, ?_⟩
  intro earlier first last
  rcases Nat.eq_or_lt_of_le first with rfl | later
  · exact taken
  · exact tried.2 earlier later last

theorem FirstFree.unique {other : α} (first : FirstFree candidate reserved start found)
    (second : FirstFree candidate reserved start other) : found = other := by
  obtain ⟨n, tried, isFound, free⟩ := first
  obtain ⟨m, triedOther, isOther, freeOther⟩ := second
  rcases Nat.lt_trichotomy n m with before | rfl | after
  · obtain ⟨used, isUsed, taken⟩ := triedOther.2 n tried.1 before
    rw [isFound] at isUsed
    cases isUsed
    exact absurd taken free
  · rw [isFound] at isOther
    exact Except.ok.inj isOther
  · obtain ⟨used, isUsed, taken⟩ := tried.2 m triedOther.1 after
    rw [isOther] at isUsed
    cases isUsed
    exact absurd taken freeOther

/-- More candidates than there are reserved ones are not all reserved. -/
theorem not_all_reserved (distinct : Distinct candidate) (fits : reserved.card ≤ size) :
    ¬ ∀ m, m ≤ size → ∃ found, candidate (start + m) = .ok found ∧ found ∈ reserved := by
  intro all
  let made : α ↪ Checked α := ⟨Except.ok, fun _ _ same => Except.ok.inj same⟩
  have count : (Finset.range (size + 1)).card ≤ (reserved.map made).card := by
    apply Finset.card_le_card_of_injOn fun m => candidate (start + m)
    · intro m member
      obtain ⟨found, isFound, used⟩ := all m (by simpa [Nat.lt_succ_iff] using member)
      exact Finset.mem_coe.mpr (Finset.mem_map.mpr ⟨found, used, isFound.symm⟩)
    · intro a inA b inB same
      obtain ⟨found, isFound, -⟩ := all a (by simpa [Nat.lt_succ_iff] using inA)
      have sums := distinct _ _ _ isFound (same.symm.trans isFound)
      omega
  rw [Finset.card_range, Finset.card_map] at count
  omega

end Counts

variable [DecidableEq α]

/-- The counter can be increased as many times as are left. -/
def search (reserved : Finset α) : Nat → Nat → Checked α
  | left, count => do
    let found ← candidate count
    if found ∈ reserved then
      match left with
      | 0 => .error .overflow
      | left + 1 => search reserved left (count + 1)
    else return found

variable {candidate} {reserved : Finset α} {left count start size : Nat} {found : α}

theorem search_first (isFirst : candidate count = .ok found) (free : found ∉ reserved) :
    search candidate reserved left count = .ok found := by
  unfold search
  rw [isFirst, ok_bind, if_neg free]
  rfl

/-- The search that ends has tried each count up to one that is free. -/
theorem search_spec (done : search candidate reserved left count = .ok found) :
    ∃ n, n ≤ count + left ∧ Tried candidate reserved count n ∧ candidate n = .ok found ∧
      found ∉ reserved := by
  induction left generalizing count with
  | zero =>
    obtain ⟨first, isFirst, done⟩ := bind_eq_ok.mp done
    split at done
    · cases done
    · rename_i free
      cases done
      exact ⟨count, Nat.le_refl _, tried_start, isFirst, free⟩
  | succ left later =>
    obtain ⟨first, isFirst, done⟩ := bind_eq_ok.mp done
    split at done
    · rename_i used
      obtain ⟨n, le, tried, isFound, free⟩ := later done
      exact ⟨n, by omega, tried_of_next ⟨first, isFirst, used⟩ tried, isFound, free⟩
    · rename_i free
      cases done
      exact ⟨count, Nat.le_add_right _ _, tried_start, isFirst, free⟩

theorem search_unreserved (done : search candidate reserved left count = .ok found) :
    found ∉ reserved := by
  obtain ⟨n, -, -, -, free⟩ := search_spec done
  exact free

theorem search_firstFree (done : search candidate reserved left count = .ok found) :
    FirstFree candidate reserved count found := by
  obtain ⟨n, -, tried, isFound, free⟩ := search_spec done
  exact ⟨n, tried, isFound, free⟩

/-- The search ends exactly when each count that is tried is in range and its candidate is made. -/
theorem search_ends_iff : (∃ found, search candidate reserved left count = .ok found) ↔
    ∀ n, Tried candidate reserved count n → n ≤ count + left ∧ ∃ found, candidate n = .ok found := by
  constructor
  · intro ends n tried
    obtain ⟨found, done⟩ := ends
    obtain ⟨last, le, triedLast, isFound, free⟩ := search_spec done
    rcases Nat.lt_trichotomy n last with before | rfl | after
    · obtain ⟨other, isOther, -⟩ := triedLast.2 n tried.1 before
      exact ⟨by omega, other, isOther⟩
    · exact ⟨le, found, isFound⟩
    · obtain ⟨other, isOther, used⟩ := tried.2 last triedLast.1 after
      rw [isFound] at isOther
      cases isOther
      exact absurd used free
  · intro all
    induction left generalizing count with
    | zero =>
      obtain ⟨-, first, isFirst⟩ := all count tried_start
      by_cases used : first ∈ reserved
      · have next := all (count + 1) (tried_start.next ⟨first, isFirst, used⟩)
        omega
      · exact ⟨first, search_first isFirst used⟩
    | succ left later =>
      obtain ⟨-, first, isFirst⟩ := all count tried_start
      by_cases used : first ∈ reserved
      · unfold search
        rw [isFirst, ok_bind, if_pos used]
        apply later
        intro n tried
        obtain ⟨le, made⟩ := all n (tried_of_next ⟨first, isFirst, used⟩ tried)
        exact ⟨by omega, made⟩
      · exact ⟨first, search_first isFirst used⟩

/-- The candidates of the first counts. -/
theorem exists_candidates {n : Nat} (made : ∀ m, m < n → ∃ found, candidate (start + m) = .ok found) :
    ∃ all : Finset α, all.card ≤ n ∧
      ∀ m, m < n → ∃ found, candidate (start + m) = .ok found ∧ found ∈ all := by
  induction n with
  | zero => exact ⟨∅, by simp, fun m less => absurd less (Nat.not_lt_zero m)⟩
  | succ n previous =>
    obtain ⟨all, card, inside⟩ := previous fun m less => made m (by omega)
    obtain ⟨last, isLast⟩ := made n (by omega)
    refine ⟨insert last all, (Finset.card_insert_le last all).trans (by omega), ?_⟩
    intro m less
    by_cases atLast : m = n
    · rw [atLast]
      exact ⟨last, isLast, Finset.mem_insert_self last all⟩
    · obtain ⟨found, isFound, member⟩ := inside m (by omega)
      exact ⟨found, isFound, Finset.mem_insert_of_mem member⟩

/-- The search ends for all small sets exactly when their number of candidates can be made before the
    counter overflows. -/
theorem search_all_iff (distinct : Distinct candidate) (start size left : Nat) :
    (∀ reserved : Finset α, reserved.card ≤ size →
      ∃ found, search candidate reserved left start = .ok found ∧ found ∉ reserved) ↔
    size ≤ left ∧ ∀ m, m ≤ size → ∃ found, candidate (start + m) = .ok found := by
  constructor
  · intro ends
    have made : ∀ m, m ≤ size →
        start + m ≤ start + left ∧ ∃ found, candidate (start + m) = .ok found := by
      intro m
      induction m using Nat.strongRecOn with
      | ind m earlier =>
        intro small
        obtain ⟨all, card, inside⟩ := @exists_candidates _ candidate _ start m
          fun k less => (earlier k less (by omega)).2
        obtain ⟨found, done, -⟩ := ends all (by omega)
        apply search_ends_iff.mp ⟨found, done⟩
        refine ⟨Nat.le_add_right _ _, fun k first last => ?_⟩
        obtain ⟨n, rfl⟩ := Nat.exists_eq_add_of_le first
        exact inside n (by omega)
    have enough := (made size (Nat.le_refl size)).1
    exact ⟨by omega, fun m small => (made m small).2⟩
  · rintro ⟨enough, made⟩ reserved fits
    have ends : ∃ found, search candidate reserved left start = .ok found := by
      rw [search_ends_iff]
      intro n tried
      obtain ⟨m, rfl⟩ := Nat.exists_eq_add_of_le tried.1
      have small : m ≤ size := by
        by_contra beyond
        apply not_all_reserved distinct fits
        exact fun k le => tried.2 (start + k) (Nat.le_add_right _ _) (by omega)
      exact ⟨by omega, made m small⟩
    obtain ⟨found, done⟩ := ends
    exact ⟨found, done, search_unreserved done⟩

end CountedSearch

import ParsecCloud.Lib.ChangeFeed
import ParsecCloud.Lib.DatedLog

/- The versions of a value, each with its date, and the version that is current at a date. -/
namespace DatedVersions
open ChangeFeed DatedLog
variable {α τ : Type} [LinearOrder τ]

def After (strict : Bool) (previous next : τ) : Prop :=
  if strict then previous < next else previous ≤ next

theorem After.le {strict : Bool} {a b : τ} (after : After strict a b) : a ≤ b := by
  cases strict with
  | true =>
    have less : a < b := after
    exact less.le
  | false => exact after

theorem After.trans {strict : Bool} {a b c : τ} (first : After strict a b)
    (second : After strict b c) : After strict a c := by
  cases strict with
  | true => exact lt_trans (b := b) first second
  | false => exact le_trans (b := b) first second

section Current
variable (version : α → Nat) (date : α → τ)

/-- The atoms of a value in the order of their versions, which is also that of their dates. -/
structure Dated (strict : Bool) (atoms : List α) : Prop where
  numbered : Consecutive (atoms.map version)
  dated : atoms.Pairwise fun a b => After strict (date a) (date b)

/-- The greatest version dated at or before a date. -/
structure IsCurrent (atoms : List α) (at_ : τ) (a : α) : Prop where
  member : a ∈ atoms
  dated : date a ≤ at_
  greatest : ∀ b ∈ atoms, date b ≤ at_ → version b ≤ version a

variable {version date} {strict : Bool} {atoms : List α} {at_ : τ} {a b last : α}

theorem increasing (numbered : Consecutive (atoms.map version)) :
    atoms.Pairwise fun a b => version a < version b := by
  rw [← List.pairwise_map (f := version) (R := (· < ·)), numbered]
  exact List.pairwise_lt_range' 1

theorem eq_of_version (numbered : Consecutive (atoms.map version)) (isA : a ∈ atoms)
    (isB : b ∈ atoms) (same : version a = version b) : a = b := by
  apply List.inj_on_of_nodup_map (f := version) _ isA isB same
  rw [numbered]
  exact List.nodup_range' 1

theorem Dated.after (history : Dated version date strict atoms) (isA : a ∈ atoms)
    (isB : b ∈ atoms) (less : version a < version b) : After strict (date a) (date b) := by
  have both := (increasing history.numbered).and history.dated
  obtain ⟨i, inA, rfl⟩ := List.getElem_of_mem isA
  obtain ⟨j, inB, rfl⟩ := List.getElem_of_mem isB
  rw [List.pairwise_iff_getElem] at both
  rcases Nat.lt_trichotomy i j with before | same | after
  · exact (both i j inA inB before).2
  · subst same
    exact absurd less (Nat.lt_irrefl _)
  · have greater := (both j i inB inA after).1
    omega

theorem Dated.concat (history : Dated version date strict atoms)
    (next : version a = atoms.length + 1)
    (later : ∀ last, atoms.getLast? = some last → After strict (date last) (date a)) :
    Dated version date strict (atoms ++ [a]) := by
  constructor
  · have concat := history.numbered.concat
    rw [List.length_map] at concat
    rw [List.map_append, List.map_singleton, next]
    exact concat
  · rw [List.pairwise_append]
    refine ⟨history.dated, List.pairwise_singleton _ _, ?_⟩
    intro old isOld new isNew
    rw [List.mem_singleton.mp isNew]
    obtain ⟨last, isLast⟩ : ∃ last, atoms.getLast? = some last :=
      ⟨_, List.getLast?_eq_some_getLast (List.ne_nil_of_mem isOld)⟩
    obtain ⟨front, rfl⟩ := List.getLast?_eq_some_iff.mp isLast
    rcases List.mem_append.mp isOld with isFront | isEnd
    · have before := (List.pairwise_append.mp history.dated).2.2 old isFront last
        (List.mem_singleton_self _)
      exact before.trans (later last isLast)
    · rw [List.mem_singleton.mp isEnd]
      exact later last isLast

theorem IsCurrent.mono {at' : τ} (current : IsCurrent version date atoms at_ a)
    (current' : IsCurrent version date atoms at' b) (before : at_ ≤ at') :
    version a ≤ version b :=
  current'.greatest a current.member (current.dated.trans before)

theorem IsCurrent.after (current : IsCurrent version date atoms at_ a) (isB : b ∈ atoms)
    (greater : version a < version b) : at_ < date b := by
  by_contra notLater
  have atMost := current.greatest b isB (not_lt.mp notLater)
  omega

theorem IsCurrent.eq (current : IsCurrent version date atoms at_ a)
    (current' : IsCurrent version date atoms at_ b) (numbered : Consecutive (atoms.map version)) :
    a = b :=
  eq_of_version numbered current.member current'.member
    (le_antisymm (current.mono current' le_rfl) (current'.mono current le_rfl))

theorem isCurrent_last (numbered : Consecutive (atoms.map version))
    (isLast : atoms.getLast? = some last) (dated : date last ≤ at_) :
    IsCurrent version date atoms at_ last := by
  refine ⟨List.mem_of_getLast? isLast, dated, ?_⟩
  intro b member _
  obtain ⟨front, rfl⟩ := List.getLast?_eq_some_iff.mp isLast
  rcases List.mem_append.mp member with isFront | isEnd
  · exact ((List.pairwise_append.mp (increasing numbered)).2.2 b isFront last
      (List.mem_singleton_self _)).le
  · rw [List.mem_singleton.mp isEnd]

theorem isCurrent_find (numbered : Consecutive (atoms.map version))
    (found : (atoms.reverse.find? fun atom => decide (date atom ≤ at_)) = some a) :
    IsCurrent version date atoms at_ a := by
  have dated : date a ≤ at_ := by simpa using List.find?_some found
  refine ⟨List.mem_reverse.mp (List.mem_of_find?_eq_some found), dated, ?_⟩
  intro b member before
  obtain ⟨back, front, split, none⟩ := (List.find?_eq_some_iff_append.mp found).2
  have isAtoms : atoms = front.reverse ++ a :: back.reverse := by
    rw [← List.reverse_reverse atoms, split]
    simp
  rw [isAtoms, List.mem_append, List.mem_cons] at member
  have ordered := increasing numbered
  rw [isAtoms, List.pairwise_append, List.pairwise_cons] at ordered
  rcases member with isFront | isA | isBack
  · exact (ordered.2.2 b isFront a List.mem_cons_self).le
  · rw [isA]
  · have later := none b (List.mem_reverse.mp isBack)
    simp [before] at later

theorem isCurrent_sorted
    (found : (sortBy version (atoms.filter fun atom => decide (date atom ≤ at_))).getLast? =
      some a) : IsCurrent version date atoms at_ a := by
  have isMember := mem_sortBy.mp (List.mem_of_getLast? found)
  obtain ⟨member, dated⟩ := List.mem_filter.mp isMember
  refine ⟨member, of_decide_eq_true dated, ?_⟩
  intro b isB before
  have isLast : lastDate version
      (sortBy version (atoms.filter fun atom => decide (date atom ≤ at_))) = some (version a) := by
    rw [lastDate, found]
    rfl
  apply Chronological.le_last (sortBy_ordered _) isLast
  · exact mem_sortBy.mpr (List.mem_filter.mpr ⟨isB, decide_eq_true before⟩)

end Current

section Map
variable {β : Type} {version : α → Nat} {date : α → τ} {version' : β → Nat} {date' : β → τ}
  {strict : Bool} {atoms : List α} {f : α → β}

theorem Dated.map (history : Dated version date strict atoms)
    (sameVersion : ∀ a, version' (f a) = version a) (sameDate : ∀ a, date' (f a) = date a) :
    Dated version' date' strict (atoms.map f) := by
  constructor
  · have same : (atoms.map f).map version' = atoms.map version := by
      rw [List.map_map]
      exact List.map_congr_left fun a _ => sameVersion a
    rw [same]
    exact history.numbered
  · rw [List.pairwise_map]
    apply history.dated.imp
    intro a b after
    rw [sameDate, sameDate]
    exact after

theorem IsCurrent.map {at_ : τ} {a : α} (current : IsCurrent version date atoms at_ a)
    (sameVersion : ∀ a, version' (f a) = version a) (sameDate : ∀ a, date' (f a) = date a) :
    IsCurrent version' date' (atoms.map f) at_ (f a) := by
  refine ⟨List.mem_map_of_mem current.member, ?_, ?_⟩
  · rw [sameDate]
    exact current.dated
  · intro b member before
    obtain ⟨b, isB, rfl⟩ := List.mem_map.mp member
    rw [sameDate] at before
    rw [sameVersion, sameVersion]
    exact current.greatest b isB before

end Map

end DatedVersions

import Mathlib.Order.Basic
import Mathlib.Order.Lattice
import Mathlib.Data.List.Nodup

/- Logs of dated entries that are read from time to time, each time from the date of the last entry
   that was read, and lists that are sorted by a key when they are read. -/
namespace DatedLog
variable {ε τ κ : Type} [LinearOrder τ] [LinearOrder κ]

section Reading
variable (date : ε → τ)

/-- The log goes on with later entries. -/
def Extends (old new : List ε) : Prop :=
  ∃ rest, new = old ++ rest ∧ ∀ x ∈ old, ∀ y ∈ rest, date x < date y

def Chronological (log : List ε) : Prop := log.Pairwise fun a b => date a ≤ date b

/-- The entries after a date, or all of them. -/
def since (after : Option τ) (log : List ε) : List ε :=
  log.filter fun entry => after.all fun last => decide (last < date entry)

def lastDate (log : List ε) : Option τ := log.getLast?.map date

variable {date}

theorem Extends.refl (log : List ε) : Extends date log log :=
  ⟨[], (List.append_nil log).symm, by simp⟩

theorem Extends.nil (log : List ε) : Extends date [] log := ⟨log, rfl, by simp⟩

theorem Extends.trans {a b c : List ε} (first : Extends date a b) (second : Extends date b c) :
    Extends date a c := by
  obtain ⟨rest, rfl, later⟩ := first
  obtain ⟨rest', rfl, later'⟩ := second
  refine ⟨rest ++ rest', List.append_assoc _ _ _, ?_⟩
  intro x isOld y isNew
  rcases List.mem_append.mp isNew with isRest | isRest'
  · exact later x isOld y isRest
  · exact later' x (List.mem_append_left _ isOld) y isRest'

theorem since_none (log : List ε) : since date none log = log := by
  simp [since]

theorem Chronological.le_last {log : List ε} (ordered : Chronological date log) {last : τ}
    (isLast : lastDate date log = some last) : ∀ x ∈ log, date x ≤ last := by
  obtain ⟨entry, isEntry, rfl⟩ := Option.map_eq_some_iff.mp isLast
  obtain ⟨front, rfl⟩ := List.getLast?_eq_some_iff.mp isEntry
  intro x member
  rcases List.mem_append.mp member with isFront | isEntry
  · exact (List.pairwise_append.mp ordered).2.2 x isFront entry (List.mem_singleton_self _)
  · rw [List.mem_singleton.mp isEntry]

theorem Extends.append_since {read log : List ε} (extends_ : Extends date read log)
    (ordered : Chronological date read) : read ++ since date (lastDate date read) log = log := by
  obtain ⟨rest, rfl, later⟩ := extends_
  cases isLast : lastDate date read with
  | none =>
    have nothing : read = [] := by
      rw [lastDate, Option.map_eq_none_iff, List.getLast?_eq_none_iff] at isLast
      exact isLast
    rw [nothing, since_none]
    rfl
  | some last =>
    have latest := ordered.le_last isLast
    have isDate : ∃ entry ∈ read, date entry = last := by
      obtain ⟨entry, isEntry, same⟩ := Option.map_eq_some_iff.mp isLast
      exact ⟨entry, List.mem_of_getLast? isEntry, same⟩
    obtain ⟨entry, isEntry, rfl⟩ := isDate
    rw [since, List.filter_append, List.filter_eq_nil_iff.mpr, List.filter_eq_self.mpr,
      List.nil_append]
    · intro y member
      exact decide_eq_true (later entry isEntry y member)
    · intro x member isLater
      exact absurd (of_decide_eq_true isLater) (not_lt.mpr (latest x member))

/-- A part of a log up to a limit is the beginning of a larger part. -/
theorem filter_split {log : List ε} {p p' : ε → Bool}
    (ordered : log.Pairwise fun a b => date a < date b)
    (closed : ∀ a b, date a ≤ date b → p b = true → p a = true)
    (larger : ∀ x ∈ log, p x = true → p' x = true) :
    log.filter p' = log.filter p ++ log.filter fun x => p' x && !p x := by
  induction log with
  | nil => rfl
  | cons a rest ih =>
    obtain ⟨before, restOrdered⟩ := List.pairwise_cons.mp ordered
    have tail := ih restOrdered fun x member => larger x (List.mem_cons_of_mem _ member)
    cases isIn : p a with
    | true =>
      have isIn' := larger a List.mem_cons_self isIn
      simp [isIn, isIn', tail]
    | false =>
      have out : ∀ b ∈ rest, p b = false := by
        intro b member
        rw [Bool.eq_false_iff]
        intro isLater
        rw [closed a b (before b member).le isLater] at isIn
        cases isIn
      have nothing : rest.filter p = [] := by
        rw [List.filter_eq_nil_iff]
        intro b member
        simp [out b member]
      rw [nothing, List.nil_append] at tail
      have none : (a :: rest).filter p = [] := by simp [isIn, nothing]
      rw [none, List.nil_append]
      cases isIn' : p' a with
      | true => simp [isIn, isIn', tail]
      | false => simp [isIn', tail]

theorem Extends.filter {log log' : List ε} {p p' : ε → Bool} (extends_ : Extends date log log')
    (ordered : log.Pairwise fun a b => date a < date b)
    (closed : ∀ a b, date a ≤ date b → p b = true → p a = true)
    (larger : ∀ x ∈ log, p x = true → p' x = true) :
    Extends date (log.filter p) (log'.filter p') := by
  obtain ⟨rest, rfl, later⟩ := extends_
  refine ⟨(log.filter fun x => p' x && !p x) ++ rest.filter p', ?_, ?_⟩
  · rw [List.filter_append, filter_split ordered closed larger, List.append_assoc]
  · intro x isIn y isOut
    obtain ⟨isEntry, inside⟩ := List.mem_filter.mp isIn
    rcases List.mem_append.mp isOut with isOld | isNew
    · obtain ⟨-, outside⟩ := List.mem_filter.mp isOld
      by_contra notLater
      have isInside := closed y x (not_lt.mp notLater) inside
      simp [isInside] at outside
    · exact later x isEntry y (List.mem_filter.mp isNew).1

end Reading

section Sorting
variable (key : ε → κ)

def sortBy (entries : List ε) : List ε := entries.mergeSort fun a b => decide (key a ≤ key b)

variable {key}

theorem sortBy_perm (entries : List ε) : (sortBy key entries).Perm entries := by
  exact List.mergeSort_perm entries _

theorem mem_sortBy {entries : List ε} {x : ε} : x ∈ sortBy key entries ↔ x ∈ entries :=
  (sortBy_perm entries).mem_iff

theorem sortBy_ordered (entries : List ε) :
    (sortBy key entries).Pairwise fun a b => key a ≤ key b := by
  have sorted : (sortBy key entries).Pairwise fun a b => decide (key a ≤ key b) = true := by
    apply List.pairwise_mergeSort
    · intro a b c first second
      exact decide_eq_true ((of_decide_eq_true first).trans (of_decide_eq_true second))
    · intro a b
      rw [Bool.or_eq_true, decide_eq_true_eq, decide_eq_true_eq]
      exact le_total _ _
  exact sorted.imp fun ordered => of_decide_eq_true ordered

theorem sortBy_strict {entries : List ε} (distinct : entries.Pairwise fun a b => key a ≠ key b) :
    (sortBy key entries).Pairwise fun a b => key a < key b := by
  have different : (sortBy key entries).Pairwise fun a b => key a ≠ key b :=
    distinct.perm (sortBy_perm entries).symm fun apart => apart.symm
  exact ((sortBy_ordered entries).and different).imp fun both => lt_of_le_of_ne both.1 both.2

theorem sortBy_eq {entries sorted : List ε} (perm : entries.Perm sorted)
    (ordered : sorted.Pairwise fun a b => key a < key b) : sortBy key entries = sorted := by
  have distinct : entries.Pairwise fun a b => key a ≠ key b :=
    (ordered.imp fun less => less.ne).perm perm.symm fun apart => apart.symm
  refine List.Perm.eq_of_pairwise ?_ (sortBy_strict distinct) ordered
    ((sortBy_perm entries).trans perm)
  intro a b _ _ less greater
  exact absurd less greater.asymm

theorem sortBy_append {entries entries' new : List ε} (perm : entries'.Perm (entries ++ new))
    (distinct : entries.Pairwise fun a b => key a ≠ key b)
    (ordered : new.Pairwise fun a b => key a < key b)
    (greater : ∀ x ∈ entries, ∀ y ∈ new, key x < key y) :
    sortBy key entries' = sortBy key entries ++ new := by
  apply sortBy_eq
  · exact perm.trans ((sortBy_perm entries).symm.append_right new)
  · rw [List.pairwise_append]
    refine ⟨sortBy_strict distinct, ordered, ?_⟩
    intro x isOld y isNew
    exact greater x (mem_sortBy.mp isOld) y isNew

theorem sortBy_filter {entries : List ε} {p : ε → Bool}
    (distinct : entries.Pairwise fun a b => key a ≠ key b) :
    sortBy key (entries.filter p) = (sortBy key entries).filter p := by
  apply sortBy_eq
  · exact ((sortBy_perm entries).filter p).symm
  · exact (sortBy_strict distinct).filter p

end Sorting

end DatedLog

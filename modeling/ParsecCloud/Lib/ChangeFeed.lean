import ParsecCloud.Lib.Dict
import Mathlib.Data.List.Infix
import Mathlib.Logic.Function.Basic

/- Logs of the changes of keyed values, the versions of each key being numbered from one, and the
   followers that ask for the changes after a checkpoint. -/
namespace ChangeFeed
variable {κ : Type} [DecidableEq κ]

section Numbering
variable {numbers more : List Nat} {n : Nat}

/-- One, two and so on, without a gap. -/
def Consecutive (numbers : List Nat) : Prop := numbers = List.range' 1 numbers.length

/-- The first number, or the one after a number in use. -/
def Follows (numbers : List Nat) (n : Nat) : Prop := n = 1 ∨ ∃ m ∈ numbers, n = m + 1

theorem Follows.append (follows : Follows numbers n) : Follows (numbers ++ more) n := by
  rcases follows with isFirst | ⟨m, member, isNext⟩
  · exact .inl isFirst
  · exact .inr ⟨m, List.mem_append_left more member, isNext⟩

theorem Consecutive.mem_iff (consecutive : Consecutive numbers) :
    n ∈ numbers ↔ 1 ≤ n ∧ n ≤ numbers.length := by
  have range : n ∈ numbers ↔ n ∈ List.range' 1 numbers.length := by rw [← consecutive]
  rw [range, List.mem_range'_1]
  omega

theorem Consecutive.concat (consecutive : Consecutive numbers) :
    Consecutive (numbers ++ [numbers.length + 1]) := by
  unfold Consecutive at consecutive ⊢
  rw [List.length_append, List.length_singleton, List.range'_concat, ← consecutive, Nat.one_mul,
    Nat.add_comm 1]

theorem Consecutive.next (consecutive : Consecutive numbers) (follows : Follows numbers n)
    (free : n ∉ numbers) : n = numbers.length + 1 := by
  rw [consecutive.mem_iff] at free
  rcases follows with isFirst | ⟨m, member, isNext⟩
  · omega
  · have bounds := consecutive.mem_iff.mp member
    omega

theorem Consecutive.take (consecutive : Consecutive (numbers ++ more)) : Consecutive numbers := by
  unfold Consecutive at consecutive ⊢
  rw [List.length_append, ← List.range'_append_1] at consecutive
  exact (List.append_inj consecutive (by rw [List.length_range'])).1

theorem Consecutive.get {i : Nat} (consecutive : Consecutive numbers)
    (found : numbers[i]? = some n) : n = i + 1 := by
  obtain ⟨bound, isNumber⟩ := List.getElem?_eq_some_iff.mp found
  have all : numbers[i]? = (List.range' 1 numbers.length)[i]? := by rw [← consecutive]
  rw [found, List.getElem?_range' bound, Option.some.injEq] at all
  omega

theorem Consecutive.last (consecutive : Consecutive numbers) :
    numbers.getLast?.getD 0 = numbers.length := by
  cases found : numbers.getLast? with
  | none =>
    rw [List.getLast?_eq_none_iff.mp found]
    rfl
  | some last =>
    have member := consecutive.mem_iff.mp (List.mem_of_getLast? found)
    rw [List.getLast?_eq_getElem?] at found
    have isNumber := consecutive.get found
    rw [Option.getD_some]
    omega

end Numbering

section Log
variable {log front back : List (κ × Nat)} {key : κ} {version checkpoint : Nat}

def versions (log : List (κ × Nat)) (key : κ) : List Nat :=
  (log.filter fun change => change.1 = key).map Prod.snd

def WellNumbered (log : List (κ × Nat)) : Prop := ∀ key, Consecutive (versions log key)

/-- The version of the last change of the key, zero when it has none. -/
def latest (log : List (κ × Nat)) (key : κ) : Nat := (versions log key).getLast?.getD 0

def IsChanged (log : List (κ × Nat)) (key : κ) : Prop := ∃ version, (key, version) ∈ log

theorem versions_append : versions (front ++ back) key = versions front key ++ versions back key := by
  rw [versions, List.filter_append, List.map_append]
  rfl

theorem versions_concat : versions (log ++ [(key, version)]) key = versions log key ++ [version] := by
  rw [versions_append]
  simp [versions]

theorem versions_concat_of_ne {other : κ} (different : other ≠ key) :
    versions (log ++ [(key, version)]) other = versions log other := by
  rw [versions_append]
  simp [versions, Ne.symm different]

theorem mem_versions : version ∈ versions log key ↔ (key, version) ∈ log := by
  simp [versions]

theorem isChanged_iff : IsChanged log key ↔ versions log key ≠ [] := by
  rw [ne_eq, List.eq_nil_iff_forall_not_mem, not_forall_not]
  simp only [IsChanged, mem_versions]

theorem WellNumbered.nil : WellNumbered ([] : List (κ × Nat)) := by
  intro key
  rfl

theorem WellNumbered.concat (numbered : WellNumbered log)
    (next : version = (versions log key).length + 1) : WellNumbered (log ++ [(key, version)]) := by
  intro other
  by_cases same : other = key
  · subst same
    rw [versions_concat, next]
    exact (numbered other).concat
  · rw [versions_concat_of_ne same]
    exact numbered other

theorem WellNumbered.of_append (numbered : WellNumbered (front ++ back)) : WellNumbered front := by
  intro key
  have all := numbered key
  rw [versions_append] at all
  exact all.take

theorem WellNumbered.latest (numbered : WellNumbered log) :
    latest log key = (versions log key).length := (numbered key).last

end Log

section Answer
variable {log more : List (κ × Nat)} {checkpoint : Nat} {answer : Nat × List (κ × Nat)} {key : κ}

/-- Each key changed after the checkpoint, once and with its latest version. -/
structure ExactChanges (log : List (κ × Nat)) (checkpoint : Nat) (changes : List (κ × Nat)) :
    Prop where
  once : (changes.map Prod.fst).Nodup
  changed : ∀ key version, (key, version) ∈ changes ↔
    IsChanged (log.drop checkpoint) key ∧ version = latest log key

/-- The last change of each key. -/
def collect (log : List (κ × Nat)) : Dict κ Nat :=
  log.foldl (fun items change => items.set change.1 change.2) .empty

theorem collect_concat {change : κ × Nat} :
    collect (log ++ [change]) = (collect log).set change.1 change.2 := by
  rw [collect, List.foldl_append]
  rfl

theorem collect_get? : (collect log).get? key = (versions log key).getLast? := by
  induction log using List.reverseRecOn with
  | nil => rfl
  | append_singleton rest change ih =>
    obtain ⟨other, version⟩ := change
    rw [collect_concat, Dict.get?_set]
    by_cases same : key = other
    · subst same
      rw [if_pos rfl, versions_concat, List.getLast?_concat]
    · rw [if_neg same, ih, versions_concat_of_ne same]

/-- The last changes after the checkpoint are the exact ones. -/
theorem exactChanges_collect :
    ExactChanges log checkpoint (collect (log.drop checkpoint)).items := by
  refine ⟨(collect (log.drop checkpoint)).unique, ?_⟩
  intro key version
  have split : versions log key =
      versions (log.take checkpoint) key ++ versions (log.drop checkpoint) key := by
    rw [← versions_append, List.take_append_drop]
  rw [← Dict.get?_eq_some_iff, collect_get?, isChanged_iff]
  have isLast : ∀ last, (versions (log.drop checkpoint) key).getLast? = some last →
      last = latest log key := by
    intro last found
    rw [latest, split, List.getLast?_append, found]
    rfl
  constructor
  · intro found
    exact ⟨List.ne_nil_of_mem (List.mem_of_getLast? found), isLast version found⟩
  · intro changed
    obtain ⟨some, isLatest⟩ := changed
    rw [List.getLast?_eq_some_getLast some, isLatest,
      ← isLast _ (List.getLast?_eq_some_getLast some)]

end Answer

/-- A client that keeps the greatest version received of each key. -/
structure Follower (κ : Type) where
  checkpoint : Nat
  known : κ → Nat

namespace Follower
variable {log more : List (κ × Nat)} {follower : Follower κ} {answer : Nat × List (κ × Nat)}
  {changes : List (κ × Nat)} {key : κ}

omit [DecidableEq κ] in
def fresh : Follower κ := ⟨0, fun _ => 0⟩

def learn (known : κ → Nat) (change : κ × Nat) : κ → Nat :=
  Function.update known change.1 (max (known change.1) change.2)

def receive (follower : Follower κ) (answer : Nat × List (κ × Nat)) : Follower κ :=
  ⟨answer.1, answer.2.foldl learn follower.known⟩

/-- The follower knows the log up to its checkpoint. -/
structure UpToDate (log : List (κ × Nat)) (follower : Follower κ) : Prop where
  inside : follower.checkpoint ≤ log.length
  known : ∀ key, follower.known key = latest (log.take follower.checkpoint) key

theorem upToDate_fresh : UpToDate log (fresh : Follower κ) :=
  ⟨Nat.zero_le _, fun _ => rfl⟩

theorem UpToDate.append (upToDate : UpToDate log follower) : UpToDate (log ++ more) follower := by
  constructor
  · rw [List.length_append]
    exact Nat.le_add_right_of_le upToDate.inside
  · rw [List.take_append_of_le_length upToDate.inside]
    exact upToDate.known

theorem foldl_learn_absent {known : κ → Nat} (absent : key ∉ changes.map Prod.fst) :
    changes.foldl learn known key = known key := by
  induction changes generalizing known with
  | nil => rfl
  | cons change rest ih =>
    rw [List.map_cons, List.mem_cons, not_or] at absent
    rw [List.foldl_cons, ih absent.2, learn, Function.update_of_ne absent.1]

theorem foldl_learn_present {known : κ → Nat} {version : Nat}
    (once : (changes.map Prod.fst).Nodup) (member : (key, version) ∈ changes) :
    changes.foldl learn known key = max (known key) version := by
  induction changes generalizing known with
  | nil => cases member
  | cons change rest ih =>
    rw [List.map_cons, List.nodup_cons] at once
    rw [List.foldl_cons]
    rcases List.mem_cons.mp member with isChange | isRest
    · subst isChange
      rw [foldl_learn_absent once.1, learn, Function.update_self]
    · have different : key ≠ change.1 := by
        intro same
        rw [← same] at once
        exact once.1 (List.mem_map_of_mem isRest)
      rw [ih once.2 isRest, learn, Function.update_of_ne different]

/-- One exact answer brings the follower up to the end of the log. -/
theorem UpToDate.receive_known (upToDate : UpToDate log follower) (numbered : WellNumbered log)
    (exact : ExactChanges log follower.checkpoint answer.2) (key : κ) :
    (follower.receive answer).known key = latest log key := by
  have split : log = log.take follower.checkpoint ++ log.drop follower.checkpoint := by
    rw [List.take_append_drop]
  have front : WellNumbered (log.take follower.checkpoint) := by
    apply @WellNumbered.of_append _ _ _ (log.drop follower.checkpoint)
    rw [← split]
    exact numbered
  have length : (versions log key).length = (versions (log.take follower.checkpoint) key).length +
      (versions (log.drop follower.checkpoint) key).length := by
    rw [← List.length_append, ← versions_append, ← split]
  change answer.2.foldl learn follower.known key = _
  by_cases changed : IsChanged (log.drop follower.checkpoint) key
  · rw [foldl_learn_present exact.once ((exact.changed key _).mpr ⟨changed, rfl⟩),
      upToDate.known key, numbered.latest, front.latest]
    omega
  · have absent : key ∉ answer.2.map Prod.fst := by
      intro member
      obtain ⟨⟨_, version⟩, isChange, rfl⟩ := List.mem_map.mp member
      exact changed ((exact.changed _ version).mp isChange).1
    rw [isChanged_iff, not_not] at changed
    rw [foldl_learn_absent absent, upToDate.known key, numbered.latest, front.latest, length,
      changed]
    rfl

theorem UpToDate.receive (upToDate : UpToDate log follower) (numbered : WellNumbered log)
    (exact : ExactChanges log follower.checkpoint answer.2) (isEnd : answer.1 = log.length) :
    UpToDate log (follower.receive answer) := by
  have atEnd : (follower.receive answer).checkpoint = log.length := isEnd
  constructor
  · exact Nat.le_of_eq atEnd
  · intro key
    rw [atEnd, List.take_length]
    exact upToDate.receive_known numbered exact key

end Follower

end ChangeFeed

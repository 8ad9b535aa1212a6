import ParsecCloud.Lib.Rust
import Mathlib.Data.List.Nodup

/- A vector of pairs that is searched by key, as long as a key has one pair: an entry is pushed at
   the end, changed where it is, and removed by a swap with the last one. -/
namespace KeyedVec
open Rust

/-- Vec::swap_remove -/
def swapRemove (items : List α) (index : Nat) : Checked (List α) :=
  match items.getLast? with
  | none => .error .outOfRange
  | some last =>
    if index < items.length then .ok (items.set index last).dropLast else .error .outOfRange

theorem swapRemove_middle (front back : List α) (item : α) :
    ∃ kept, swapRemove (front ++ item :: back) front.length = .ok kept ∧
      kept.Perm (front ++ back) := by
  rcases List.eq_nil_or_concat back with rfl | ⟨middle, last, rfl⟩
  · exact ⟨front, by simp [swapRemove], by simp⟩
  · refine ⟨front ++ last :: middle, ?_, ?_⟩
    · have whole : front ++ item :: middle.concat last = (front ++ item :: middle) ++ [last] := by
        simp
      have moved : (front ++ item :: middle.concat last).set front.length last =
          (front ++ last :: middle) ++ [last] := by simp
      have within : front.length < (front ++ item :: middle.concat last).length := by simp
      have atEnd : (front ++ item :: middle.concat last).getLast? = some last := by
        rw [whole, List.getLast?_concat]
      simp only [swapRemove, atEnd, within, if_true, moved, List.dropLast_concat]
    · apply List.Perm.append_left
      rw [List.concat_eq_append]
      exact (List.perm_append_singleton last middle).symm

variable {κ ν : Type} [DecidableEq κ]

def find (entries : List (κ × ν)) (key : κ) : Option ν :=
  (entries.find? (·.1 = key)).map Prod.snd

/-- The first entry of the key, with its index. -/
def position : List (κ × ν) → κ → Option (Nat × ν)
  | [], _ => none
  | (k, v) :: rest, key =>
    if k = key then some (0, v)
    else (position rest key).map fun (index, v) => (index + 1, v)

def replace : List (κ × ν) → κ → ν → List (κ × ν)
  | [], _, _ => []
  | (k, v) :: rest, key, value =>
    if k = key then (k, value) :: rest else (k, v) :: replace rest key value

def keys (entries : List (κ × ν)) : List κ := entries.map Prod.fst

variable {entries : List (κ × ν)} {key : κ} {value : ν}

theorem find_cons (k : κ) (v : ν) (rest : List (κ × ν)) (key : κ) :
    find ((k, v) :: rest) key = if k = key then some v else find rest key := by
  by_cases same : k = key
  · simp [find, same]
  · simp [find, same]

theorem find_eq_none_iff : find entries key = none ↔ key ∉ keys entries := by
  induction entries with
  | nil => simp [find, keys]
  | cons entry rest ih =>
    obtain ⟨k, v⟩ := entry
    rw [find_cons]
    by_cases same : k = key
    · simp [same, keys]
    · simpa [same, keys, Ne.symm same] using ih

theorem find_isSome_iff : (find entries key).isSome = true ↔ key ∈ keys entries := by
  rw [← not_iff_not, ← find_eq_none_iff]
  simp

theorem find_eq_some_iff (nodup : (keys entries).Nodup) :
    find entries key = some value ↔ (key, value) ∈ entries := by
  induction entries with
  | nil => simp [find]
  | cons entry rest ih =>
    obtain ⟨k, v⟩ := entry
    simp only [keys, List.map_cons, List.nodup_cons] at nodup
    rw [find_cons]
    by_cases same : k = key
    · subst same
      have absent : (k, value) ∉ rest := fun isIn => nodup.1 (List.mem_map_of_mem isIn)
      simp [absent, eq_comm]
    · simpa [same, Ne.symm same] using ih nodup.2

theorem find_push (absent : key ∉ keys entries) (other : κ) :
    find (entries ++ [(key, value)]) other = if other = key then some value else find entries other := by
  induction entries with
  | nil => simp [find, eq_comm]
  | cons entry rest ih =>
    obtain ⟨k, v⟩ := entry
    simp only [keys, List.map_cons, List.mem_cons, not_or] at absent
    rw [List.cons_append, find_cons, find_cons, ih absent.2]
    by_cases same : k = other
    · have differs : other ≠ key := fun isKey => absent.1 (isKey ▸ same.symm)
      simp [same, differs]
    · simp [same]

omit [DecidableEq κ] in
theorem keys_push : keys (entries ++ [(key, value)]) = keys entries ++ [key] := by
  simp [keys]

theorem keys_replace : keys (replace entries key value) = keys entries := by
  induction entries with
  | nil => rfl
  | cons entry rest ih =>
    obtain ⟨k, v⟩ := entry
    simp only [replace]
    split
    · rfl
    · simpa [keys] using ih

theorem find_replace (present : key ∈ keys entries) (other : κ) :
    find (replace entries key value) other =
      if other = key then some value else find entries other := by
  induction entries with
  | nil => simp [keys] at present
  | cons entry rest ih =>
    obtain ⟨k, v⟩ := entry
    by_cases same : k = key
    · subst same
      simp only [replace, if_true, find_cons]
      by_cases isOther : k = other
      · simp [isOther]
      · simp [isOther, Ne.symm isOther]
    · have later : key ∈ keys rest := by simpa [keys, Ne.symm same] using present
      simp only [replace, same, if_false, find_cons, ih later]
      by_cases isOther : k = other
      · have differs : other ≠ key := fun isKey => same (isOther.trans isKey)
        simp [isOther, differs]
      · simp [isOther]

theorem position_of_find (found : find entries key = some value) :
    ∃ front back, entries = front ++ (key, value) :: back ∧
      position entries key = some (front.length, value) := by
  induction entries with
  | nil => cases found
  | cons entry rest ih =>
    obtain ⟨k, v⟩ := entry
    rw [find_cons] at found
    by_cases same : k = key
    · simp only [same, if_true, Option.some.injEq] at found
      exact ⟨[], rest, by simp [same, found], by simp [position, same, found]⟩
    · simp only [same, if_false] at found
      obtain ⟨front, back, split, isAt⟩ := ih found
      exact ⟨(k, v) :: front, back, by simp [split], by simp [position, same, isAt]⟩

/-- Once its pair is swapped out a key is not found any more, and the others are as they were. -/
theorem remove_spec (nodup : (keys entries).Nodup) (found : find entries key = some value) :
    ∃ index kept, position entries key = some (index, value) ∧
      swapRemove entries index = .ok kept ∧ (keys kept).Nodup ∧
      ∀ other, find kept other = if other = key then none else find entries other := by
  obtain ⟨front, back, split, isAt⟩ := position_of_find found
  obtain ⟨kept, removed, perm⟩ := swapRemove_middle front back (key, value)
  rw [← split] at removed
  have whole : (keys (front ++ (key, value) :: back)).Nodup := split ▸ nodup
  simp only [keys, List.map_append, List.map_cons, List.nodup_middle, List.nodup_cons,
    List.mem_append] at whole
  have nodupKept : (keys kept).Nodup := by
    rw [keys, (perm.map Prod.fst).nodup_iff, List.map_append]
    exact whole.2
  refine ⟨front.length, kept, isAt, removed, nodupKept, ?_⟩
  intro other
  have within : ∀ v, (other, v) ∈ kept ↔ other ≠ key ∧ (other, v) ∈ entries := by
    intro v
    rw [perm.mem_iff, split, List.mem_append, List.mem_append, List.mem_cons]
    constructor
    · intro isIn
      have differs : other ≠ key := by
        rintro rfl
        apply whole.1
        exact isIn.imp List.mem_map_of_mem List.mem_map_of_mem
      exact ⟨differs, isIn.imp_right .inr⟩
    · rintro ⟨differs, isFront | isEntry | isBack⟩
      · exact .inl isFront
      · exact absurd (congrArg Prod.fst isEntry) differs
      · exact .inr isBack
  apply Option.ext
  intro v
  rw [find_eq_some_iff nodupKept, within]
  by_cases same : other = key
  · simp [same]
  · simp [same, find_eq_some_iff nodup]

end KeyedVec

import ParsecCloud.Lib.SortedDict
import ParsecCloud.Lib.DatedLog
import Mathlib.Order.WithBot

/- A cache whose entries carry the date of their last access, under a log of the accesses. When the
   first entries in the order of these dates are removed, they were accessed before all the others. -/
namespace LeastRecent
open DatedLog
variable {κ ν τ : Type} [DecidableEq κ]

def lastAccess (accesses : List (κ × τ)) (key : κ) : Option τ :=
  lastDate Prod.snd (accesses.filter fun access => access.1 = key)

theorem mem_of_lastAccess {accesses : List (κ × τ)} {key : κ} {time : τ}
    (last : lastAccess accesses key = some time) : (key, time) ∈ accesses := by
  obtain ⟨access, isLast, isTime⟩ := Option.map_eq_some_iff.mp last
  obtain ⟨member, isKey⟩ := List.mem_filter.mp (List.mem_of_getLast? isLast)
  rw [← of_decide_eq_true isKey, ← isTime]
  exact member

theorem lastAccess_append (accesses : List (κ × τ)) (key other : κ) (time : τ) :
    lastAccess (accesses ++ [(key, time)]) other =
      if other = key then some time else lastAccess accesses other := by
  unfold lastAccess lastDate
  rw [List.filter_append]
  by_cases same : other = key
  · simp [same]
  · simp [same, Ne.symm same]

variable [LinearOrder τ]

def accessOrder (date : ν → Option τ) (item : κ × ν) : WithBot τ := date item.2

/-- Every entry has the date of its last access. The accesses follow each other. -/
structure Recorded (date : ν → Option τ) (d : Dict κ ν) (accesses : List (κ × τ)) : Prop where
  follow : accesses.Pairwise fun a b => a.2 < b.2
  last : ∀ key v, d.get? key = some v →
    ∃ time, date v = some time ∧ lastAccess accesses key = some time

section Recorded
variable {date : ν → Option τ} {d d' : Dict κ ν} {accesses : List (κ × τ)}

theorem Recorded.empty (date : ν → Option τ) : Recorded date (.empty : Dict κ ν) [] := by
  constructor
  · exact List.Pairwise.nil
  · intro key v found
    cases found

theorem Recorded.kept (recorded : Recorded date d accesses)
    (kept : ∀ key v, d'.get? key = some v → d.get? key = some v) : Recorded date d' accesses := by
  constructor
  · exact recorded.follow
  · intro key v found
    exact recorded.last key v (kept key v found)

theorem Recorded.access (recorded : Recorded date d accesses) {key : κ} {v : ν} {time : τ}
    (later : ∀ access ∈ accesses, access.2 < time) (isTime : date v = some time) :
    Recorded date (d.set key v) (accesses ++ [(key, time)]) := by
  constructor
  · rw [List.pairwise_append]
    refine ⟨recorded.follow, List.pairwise_singleton _ _, ?_⟩
    intro access member new isNew
    rw [List.mem_singleton.mp isNew]
    exact later access member
  · intro other v' found
    rw [Dict.get?_set] at found
    rw [lastAccess_append]
    by_cases same : other = key
    · rw [if_pos same] at found ⊢
      cases found
      exact ⟨time, isTime, rfl⟩
    · rw [if_neg same] at found ⊢
      exact recorded.last other v' found

theorem Recorded.sameAccess (recorded : Recorded date d accesses) {a b : κ × τ}
    (isA : a ∈ accesses) (isB : b ∈ accesses) (same : a.2 = b.2) : a = b := by
  apply List.inj_on_of_nodup_map _ isA isB same
  rw [List.nodup_iff_pairwise_ne, List.pairwise_map]
  exact recorded.follow.imp ne_of_lt

theorem Recorded.lastOf (recorded : Recorded date d accesses) {item : κ × ν}
    (member : item ∈ d.items) :
    ∃ time : τ, accessOrder date item = (time : WithBot τ) ∧
      lastAccess accesses item.1 = some time :=
  recorded.last item.1 item.2 (Dict.get?_eq_some_iff.mpr member)

theorem Recorded.distinct (recorded : Recorded date d accesses) :
    d.Distinct (accessOrder date) := by
  intro a isA b isB same
  obtain ⟨time, isTime, last⟩ := recorded.lastOf isA
  obtain ⟨time', isTime', last'⟩ := recorded.lastOf isB
  rw [isTime, isTime'] at same
  have sameAccess := recorded.sameAccess (mem_of_lastAccess last) (mem_of_lastAccess last')
    (WithBot.coe_inj.mp same)
  exact Dict.eq_of_fst_eq isA isB (Prod.mk.inj sameAccess).1

end Recorded

section Removal
variable (date : ν → Option τ) (d : Dict κ ν) (n : Nat)

/-- The entries that were accessed first are removed. -/
def removeFirst : Dict κ ν :=
  (((d.sortedBy (accessOrder date)).take n).map Prod.fst).foldl Dict.erase d

variable {date d n} {accesses : List (κ × τ)}

theorem mem_removeFirst {item : κ × ν} : item ∈ (removeFirst date d n).items ↔
    item ∈ (d.sortedBy (accessOrder date)).drop n := Dict.mem_items_eraseFirst

theorem get?_of_removeFirst {key : κ} {v : ν} (found : (removeFirst date d n).get? key = some v) :
    d.get? key = some v := by
  rw [Dict.get?_eq_some_iff] at found ⊢
  exact (Dict.mem_items_eraseAll.mp found).1

theorem length_removeFirst :
    (removeFirst date d n).items.length = d.items.length - n := by
  have nodup := (d.sortedBy_perm (accessOrder date)).nodup_iff.mpr d.nodup_items
  have perm : (removeFirst date d n).items.Perm ((d.sortedBy (accessOrder date)).drop n) := by
    rw [List.perm_ext_iff_of_nodup (Dict.nodup_items _) (List.Pairwise.drop nodup)]
    intro item
    exact mem_removeFirst
  rw [perm.length_eq, List.length_drop, (d.sortedBy_perm (accessOrder date)).length_eq]

theorem removed_lt_kept (recorded : Recorded date d accesses) {removed kept : κ × ν}
    (isRemoved : removed ∈ d.items) (gone : removed ∉ (removeFirst date d n).items)
    (isKept : kept ∈ (removeFirst date d n).items) :
    accessOrder date removed < accessOrder date kept := by
  have perm := d.sortedBy_perm (accessOrder date)
  have sorted := d.sortedBy_pairwise (accessOrder date)
  rw [mem_removeFirst] at gone isKept
  have isFirst := perm.mem_iff.mpr isRemoved
  rw [← List.take_append_drop n (d.sortedBy (accessOrder date))] at isFirst sorted
  have member : removed ∈ (d.sortedBy (accessOrder date)).take n :=
    (List.mem_append.mp isFirst).resolve_right gone
  have below := (List.pairwise_append.mp sorted).2.2 removed member kept isKept
  apply lt_of_le_of_ne below
  intro same
  have isItem := perm.mem_iff.mp (List.mem_of_mem_drop isKept)
  rw [recorded.distinct removed isRemoved kept isItem same] at gone
  exact gone isKept

/-- What is removed was last accessed before all that is kept. -/
theorem removed_before_kept (recorded : Recorded date d accesses) {removed kept : κ}
    (isRemoved : removed ∈ d.keys) (gone : removed ∉ (removeFirst date d n).keys)
    (isKept : kept ∈ (removeFirst date d n).keys) :
    ∃ time time', lastAccess accesses removed = some time ∧
      lastAccess accesses kept = some time' ∧ time < time' := by
  obtain ⟨first, isFirst, rfl⟩ := List.mem_map.mp isRemoved
  obtain ⟨second, isSecond, rfl⟩ := List.mem_map.mp isKept
  have isItem : second ∈ d.items := (Dict.mem_items_eraseAll.mp isSecond).1
  obtain ⟨time, isTime, last⟩ := recorded.lastOf isFirst
  obtain ⟨time', isTime', last'⟩ := recorded.lastOf isItem
  refine ⟨time, time', last, last', ?_⟩
  have less := removed_lt_kept recorded isFirst
    (fun member => gone (List.mem_map_of_mem member)) isSecond
  rw [isTime, isTime', WithBot.coe_lt_coe] at less
  exact less

/-- The last access is to an entry that is kept, if one is. -/
theorem latest_kept (recorded : Recorded date d accesses) {key : κ} {v : ν} {time : τ}
    (found : d.get? key = some v) (isTime : date v = some time)
    (latest : ∀ access ∈ accesses, access.2 ≤ time) (less : n < d.items.length) :
    (removeFirst date d n).get? key = some v := by
  rw [Dict.get?_eq_some_iff] at found ⊢
  by_contra gone
  have some_ : 0 < (removeFirst date d n).items.length := by
    rw [length_removeFirst]
    omega
  obtain ⟨kept, isKept⟩ := List.exists_mem_of_length_pos some_
  have below := removed_lt_kept recorded found gone isKept
  obtain ⟨time', isTime', last⟩ := recorded.lastOf (Dict.mem_items_eraseAll.mp isKept).1
  have isFirst : accessOrder date (key, v) = (time : WithBot τ) := isTime
  rw [isFirst, isTime', WithBot.coe_lt_coe] at below
  exact not_lt_of_ge (latest _ (mem_of_lastAccess last)) below

end Removal

end LeastRecent

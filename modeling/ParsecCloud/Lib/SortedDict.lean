import ParsecCloud.Lib.Dict
import Mathlib.Data.List.Sort

/- The items of a dictionary in an order of their own, and the first ones removed, at once or one
   after the other. -/
namespace Dict
variable {κ ν ν' β : Type} [DecidableEq κ] [LinearOrder β] {key : κ × ν → β} {d : Dict κ ν}

def sortedBy (d : Dict κ ν) (key : κ × ν → β) : List (κ × ν) :=
  d.items.insertionSort fun a b => key a ≤ key b

omit [DecidableEq κ] in
theorem sortedBy_perm (d : Dict κ ν) (key : κ × ν → β) : (d.sortedBy key).Perm d.items :=
  List.perm_insertionSort _ _

omit [DecidableEq κ] in
theorem sortedBy_pairwise (d : Dict κ ν) (key : κ × ν → β) :
    (d.sortedBy key).Pairwise fun a b => key a ≤ key b :=
  List.pairwise_insertionSort _ _

/-- The items are told apart by what they are sorted by. -/
def Distinct (d : Dict κ ν) (key : κ × ν → β) : Prop :=
  ∀ a ∈ d.items, ∀ b ∈ d.items, key a = key b → a = b

omit [DecidableEq κ] in
theorem eq_sortedBy {l : List (κ × ν)} (distinct : d.Distinct key) (perm : l.Perm d.items)
    (sorted : l.Pairwise fun a b => key a ≤ key b) : l = d.sortedBy key := by
  apply (perm.trans (d.sortedBy_perm key).symm).eq_of_pairwise _ sorted (d.sortedBy_pairwise key)
  intro a b isA isB below above
  apply distinct a (perm.mem_iff.mp isA) b ((d.sortedBy_perm key).mem_iff.mp isB)
  exact le_antisymm below above

omit [DecidableEq κ] in
theorem nodup_items (d : Dict κ ν) : d.items.Nodup := d.unique.of_map

theorem mem_items_erase {k : κ} {item : κ × ν} :
    item ∈ (d.erase k).items ↔ item ∈ d.items ∧ item.1 ≠ k := by
  rw [erase, List.mem_filter, decide_eq_true_iff]

theorem eq_of_fst_eq {a b : κ × ν} (isA : a ∈ d.items) (isB : b ∈ d.items) (same : a.1 = b.1) :
    a = b := by
  have found := get?_eq_some_iff.mpr isA
  have found' := get?_eq_some_iff.mpr isB
  rw [same, found'] at found
  exact Prod.ext same (Option.some.inj found).symm

theorem sortedBy_erase {item : κ × ν} {rest : List (κ × ν)} (distinct : d.Distinct key)
    (split : d.sortedBy key = item :: rest) :
    (d.erase item.1).Distinct key ∧ (d.erase item.1).sortedBy key = rest := by
  have perm := d.sortedBy_perm key
  rw [split] at perm
  have isItem : item ∈ d.items := perm.mem_iff.mp List.mem_cons_self
  have nodup := perm.nodup_iff.mpr d.nodup_items
  have distinctRest : (d.erase item.1).Distinct key := by
    intro a isA b isB same
    exact distinct a (mem_items_erase.mp isA).1 b (mem_items_erase.mp isB).1 same
  refine ⟨distinctRest, (eq_sortedBy distinctRest ?_ ?_).symm⟩
  · rw [List.perm_ext_iff_of_nodup (List.nodup_cons.mp nodup).2 (nodup_items _)]
    intro other
    rw [mem_items_erase, ← perm.mem_iff, List.mem_cons]
    constructor
    · intro isRest
      refine ⟨.inr isRest, ?_⟩
      intro same
      have isOther := perm.mem_iff.mp (List.mem_cons_of_mem _ isRest)
      rw [eq_of_fst_eq isOther isItem same] at isRest
      exact (List.nodup_cons.mp nodup).1 isRest
    · intro isOther
      rcases isOther.1 with same | isRest
      · exact absurd (congrArg Prod.fst same) isOther.2
      · exact isRest
  · have sorted := d.sortedBy_pairwise key
    rw [split] at sorted
    exact (List.pairwise_cons.mp sorted).2

theorem mem_items_eraseAll {ks : List κ} {item : κ × ν} :
    item ∈ (ks.foldl erase d).items ↔ item ∈ d.items ∧ item.1 ∉ ks := by
  induction ks generalizing d with
  | nil => simp
  | cons k rest ih =>
    rw [List.foldl_cons, ih, mem_items_erase, List.mem_cons, not_or, and_assoc]

/-- The first items removed at once leave those that come after them. -/
theorem mem_items_eraseFirst {n : Nat} {item : κ × ν} :
    item ∈ ((((d.sortedBy key).take n).map Prod.fst).foldl erase d).items ↔
      item ∈ (d.sortedBy key).drop n := by
  have perm := d.sortedBy_perm key
  have nodup := perm.nodup_iff.mpr d.nodup_items
  rw [← List.take_append_drop n (d.sortedBy key), List.nodup_append] at nodup
  rw [mem_items_eraseAll, ← perm.mem_iff]
  constructor
  · intro isLeft
    have member := isLeft.1
    rw [← List.take_append_drop n (d.sortedBy key), List.mem_append] at member
    rcases member with isFirst | isLater
    · exact absurd (List.mem_map_of_mem isFirst) isLeft.2
    · exact isLater
  · intro isLater
    refine ⟨List.mem_of_mem_drop isLater, ?_⟩
    intro isFirst
    obtain ⟨other, member, same⟩ := List.mem_map.mp isFirst
    have isItem := perm.mem_iff.mp (List.mem_of_mem_drop isLater)
    have isOther := perm.mem_iff.mp (List.mem_of_mem_take member)
    exact nodup.2.2 other member item isLater (eq_of_fst_eq isOther isItem same)

theorem items_perm_of_get? {d' : Dict κ ν'} {f : ν → ν'}
    (same : ∀ k, d'.get? k = (d.get? k).map f) :
    d'.items.Perm (d.items.map fun item => (item.1, f item.2)) := by
  have nodup : (d.items.map fun item => (item.1, f item.2)).Nodup := by
    apply List.Nodup.of_map Prod.fst
    rw [List.map_map]
    exact d.unique
  rw [List.perm_ext_iff_of_nodup d'.nodup_items nodup]
  intro item
  rw [← get?_eq_some_iff, same, Option.map_eq_some_iff, List.mem_map]
  constructor
  · intro isItem
    obtain ⟨value, found, isValue⟩ := isItem
    exact ⟨(item.1, value), get?_eq_some_iff.mp found, Prod.ext rfl isValue⟩
  · intro isItem
    obtain ⟨origin, isOrigin, isItem⟩ := isItem
    rw [← isItem]
    exact ⟨origin.2, get?_eq_some_iff.mpr isOrigin, rfl⟩

end Dict

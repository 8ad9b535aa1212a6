import Mathlib.Data.List.Nodup

/- Dictionaries that keep the order in which their keys were first set. -/

structure Dict (κ ν : Type) where
  items : List (κ × ν)
  unique : (items.map Prod.fst).Nodup

namespace Dict
variable {κ ν : Type} [DecidableEq κ]

def empty : Dict κ ν := ⟨[], List.nodup_nil⟩

def get? (d : Dict κ ν) (k : κ) : Option ν := (d.items.find? fun item => item.1 = k).map Prod.snd

omit [DecidableEq κ] in
def keys (d : Dict κ ν) : List κ := d.items.map Prod.fst

omit [DecidableEq κ] in
def values (d : Dict κ ν) : List ν := d.items.map Prod.snd

def replace (k : κ) (v : ν) (item : κ × ν) : κ × ν := if item.1 = k then (k, v) else item

theorem replace_fst (k : κ) (v : ν) (item : κ × ν) : (replace k v item).1 = item.1 := by
  unfold replace
  split
  · rename_i same
    exact same.symm
  · rfl

/-- A key that is there keeps its place, a new one comes last. -/
def set (d : Dict κ ν) (k : κ) (v : ν) : Dict κ ν :=
  if present : k ∈ d.keys then
    ⟨d.items.map (replace k v), by
      rw [List.map_map, show Prod.fst ∘ replace k v = Prod.fst from funext (replace_fst k v)]
      exact d.unique⟩
  else
    ⟨d.items ++ [(k, v)], by
      rw [List.map_append, List.map_singleton, List.nodup_append]
      refine ⟨d.unique, by simp, ?_⟩
      intro key isKey other isOther
      rw [List.mem_singleton.mp isOther]
      rintro rfl
      exact present isKey⟩

@[simp] theorem get?_empty (k : κ) : (empty : Dict κ ν).get? k = none := rfl

theorem get?_eq_some_iff {d : Dict κ ν} {k : κ} {v : ν} :
    d.get? k = some v ↔ (k, v) ∈ d.items := by
  constructor
  · intro found
    obtain ⟨item, isItem, rfl⟩ := Option.map_eq_some_iff.mp found
    have same : item.1 = k := by simpa using List.find?_some isItem
    rw [← same]
    exact List.mem_of_find?_eq_some isItem
  · intro member
    cases search : d.items.find? fun item => item.1 = k with
    | none =>
      rw [List.find?_eq_none] at search
      simpa using search _ member
    | some item =>
      have same : item.1 = k := by simpa using List.find?_some search
      have isItem : item = (k, v) :=
        List.inj_on_of_nodup_map d.unique (List.mem_of_find?_eq_some search) member same
      rw [get?, search, isItem]
      rfl

theorem get?_eq_none_iff {d : Dict κ ν} {k : κ} : d.get? k = none ↔ k ∉ d.keys := by
  rw [Option.eq_none_iff_forall_ne_some]
  constructor
  · intro absent member
    obtain ⟨⟨key, v⟩, isItem, rfl⟩ := List.mem_map.mp member
    exact absent v (get?_eq_some_iff.mpr isItem)
  · intro absent v found
    exact absent (List.mem_map.mpr ⟨_, get?_eq_some_iff.mp found, rfl⟩)

omit [DecidableEq κ] in
theorem mem_keys_of_mem {d : Dict κ ν} {k : κ} {v : ν} (member : (k, v) ∈ d.items) : k ∈ d.keys :=
  List.mem_map.mpr ⟨_, member, rfl⟩

theorem mem_items_set {d : Dict κ ν} {k k' : κ} {v v' : ν} :
    (k', v') ∈ (d.set k v).items ↔ k' = k ∧ v' = v ∨ k' ≠ k ∧ (k', v') ∈ d.items := by
  unfold set
  split
  · rename_i present
    rw [List.mem_map]
    constructor
    · rintro ⟨⟨key, value⟩, isItem, replaced⟩
      by_cases same : key = k
      · rw [replace, if_pos same] at replaced
        cases replaced
        exact Or.inl ⟨rfl, rfl⟩
      · rw [replace, if_neg same] at replaced
        cases replaced
        exact Or.inr ⟨same, isItem⟩
    · rintro (⟨rfl, rfl⟩ | ⟨other, isItem⟩)
      · obtain ⟨⟨key, value⟩, isItem, rfl⟩ := List.mem_map.mp present
        exact ⟨_, isItem, if_pos rfl⟩
      · exact ⟨_, isItem, if_neg other⟩
  · rename_i absent
    rw [List.mem_append, List.mem_singleton, Prod.mk.injEq]
    constructor
    · rintro (isItem | isNew)
      · refine Or.inr ⟨?_, isItem⟩
        rintro rfl
        exact absent (mem_keys_of_mem isItem)
      · exact Or.inl isNew
    · rintro (isNew | ⟨-, isItem⟩)
      · exact Or.inr isNew
      · exact Or.inl isItem

theorem get?_set (d : Dict κ ν) (k k' : κ) (v : ν) :
    (d.set k v).get? k' = if k' = k then some v else d.get? k' := by
  split
  · rename_i same
    exact get?_eq_some_iff.mpr (mem_items_set.mpr (Or.inl ⟨same, rfl⟩))
  · rename_i other
    ext v'
    rw [get?_eq_some_iff, mem_items_set, get?_eq_some_iff]
    simp [other]

@[simp] theorem get?_set_self (d : Dict κ ν) (k : κ) (v : ν) : (d.set k v).get? k = some v := by
  rw [get?_set, if_pos rfl]

theorem get?_set_of_ne {d : Dict κ ν} {k k' : κ} {v : ν} (other : k' ≠ k) :
    (d.set k v).get? k' = d.get? k' := by
  rw [get?_set, if_neg other]

theorem found_set {d d' : Dict κ ν} {k k' : κ} {v v' : ν} (updated : d' = d.set k v)
    (found : d'.get? k' = some v') : k' = k ∧ v' = v ∨ k' ≠ k ∧ d.get? k' = some v' := by
  rw [updated, get?_set] at found
  split at found
  · rename_i same
    cases found
    exact Or.inl ⟨same, rfl⟩
  · rename_i other
    exact Or.inr ⟨other, found⟩

theorem kept_set {d : Dict κ ν} {k k' : κ} {v v' : ν} (absent : d.get? k = none)
    (found : d.get? k' = some v') : (d.set k v).get? k' = some v' := by
  have other : k' ≠ k := by
    rintro rfl
    rw [absent] at found
    cases found
  rw [get?_set_of_ne other, found]

theorem items_set_of_absent {d : Dict κ ν} {k : κ} {v : ν} (absent : d.get? k = none) :
    (d.set k v).items = d.items ++ [(k, v)] := by
  rw [set, dif_neg (get?_eq_none_iff.mp absent)]

theorem items_set_of_split {d : Dict κ ν} {k : κ} {v old : ν} {front back : List (κ × ν)}
    (split : d.items = front ++ (k, old) :: back) :
    (d.set k v).items = front ++ (k, v) :: back := by
  have unique := d.unique
  rw [split, List.map_append, List.map_cons, List.nodup_append, List.nodup_cons] at unique
  obtain ⟨-, ⟨notBack, -⟩, apart⟩ := unique
  have kept : ∀ (part : List (κ × ν)), k ∉ part.map Prod.fst → part.map (replace k v) = part := by
    intro part absent
    rw [List.map_congr_left, List.map_id']
    intro item member
    apply if_neg
    rintro rfl
    exact absent (List.mem_map_of_mem member)
  have present : k ∈ d.keys := by
    rw [keys, split]
    simp
  have notFront : k ∉ front.map Prod.fst :=
    fun member => apart k member k List.mem_cons_self rfl
  rw [set, dif_pos present]
  change d.items.map (replace k v) = _
  rw [split, List.map_append, List.map_cons, kept front notFront, kept back notBack]
  rw [replace, if_pos rfl]

theorem items_set_of_found {d : Dict κ ν} {k : κ} {v old : ν} (found : d.get? k = some old) :
    (d.set k v).items = d.items.map (replace k v) := by
  have present : k ∈ d.keys := mem_keys_of_mem (get?_eq_some_iff.mp found)
  rw [set, dif_pos present]

theorem keys_set_of_found {d : Dict κ ν} {k : κ} {v old : ν} (found : d.get? k = some old) :
    (d.set k v).keys = d.keys := by
  have sameKeys : Prod.fst ∘ replace k v = Prod.fst := funext (replace_fst k v)
  rw [keys, items_set_of_found found, keys, List.map_map, sameKeys]

theorem values_set_of_absent {d : Dict κ ν} {k : κ} {v : ν} (absent : d.get? k = none) :
    (d.set k v).values = d.values ++ [v] := by
  rw [values, items_set_of_absent absent, List.map_append]
  rfl

theorem values_set_of_found {d : Dict κ ν} {k : κ} {v old : ν} (found : d.get? k = some old) :
    ∃ front back, d.values = front ++ old :: back ∧ (d.set k v).values = front ++ v :: back := by
  obtain ⟨front, back, split⟩ := List.append_of_mem (get?_eq_some_iff.mp found)
  refine ⟨front.map Prod.snd, back.map Prod.snd, ?_, ?_⟩
  · rw [values, split, List.map_append]
    rfl
  · rw [values, items_set_of_split split, List.map_append]
    rfl

omit [DecidableEq κ] in
def mapValues (d : Dict κ ν) (f : ν → ν) : Dict κ ν :=
  ⟨d.items.map fun item => (item.1, f item.2), by
    rw [List.map_map]
    exact d.unique⟩

omit [DecidableEq κ] in
@[simp] theorem keys_mapValues (d : Dict κ ν) (f : ν → ν) : (d.mapValues f).keys = d.keys := by
  rw [keys, mapValues, List.map_map]
  rfl

theorem get?_mapValues (d : Dict κ ν) (f : ν → ν) (k : κ) :
    (d.mapValues f).get? k = (d.get? k).map f := by
  rw [get?, get?, mapValues, List.find?_map]
  cases search : d.items.find? fun item => item.1 = k with
  | none =>
    rw [show (d.items.find? ((fun item => decide (item.1 = k)) ∘ fun item => (item.1, f item.2))) =
      none from search]
    rfl
  | some item =>
    rw [show (d.items.find? ((fun item => decide (item.1 = k)) ∘ fun item => (item.1, f item.2))) =
      some item from search]
    rfl

def erase (d : Dict κ ν) (k : κ) : Dict κ ν :=
  ⟨d.items.filter fun item => item.1 ≠ k, d.unique.sublist (List.filter_sublist.map Prod.fst)⟩

theorem get?_erase (d : Dict κ ν) (k k' : κ) :
    (d.erase k).get? k' = if k' = k then none else d.get? k' := by
  ext v
  rw [get?_eq_some_iff, erase, List.mem_filter]
  split
  · rename_i same
    simp [same]
  · rename_i other
    rw [get?_eq_some_iff]
    simp [other]

theorem mem_values_of_get? {d : Dict κ ν} {k : κ} {v : ν} (found : d.get? k = some v) :
    v ∈ d.values :=
  List.mem_map.mpr ⟨_, get?_eq_some_iff.mp found, rfl⟩

theorem get?_of_mem_values {d : Dict κ ν} {v : ν} (member : v ∈ d.values) :
    ∃ k, d.get? k = some v := by
  obtain ⟨⟨k, value⟩, isItem, rfl⟩ := List.mem_map.mp member
  exact ⟨k, get?_eq_some_iff.mpr isItem⟩

end Dict

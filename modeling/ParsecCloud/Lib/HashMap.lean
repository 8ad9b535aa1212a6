import Mathlib.Data.Finmap

/- Hash maps and the order in which hash collections are walked through. A map is a finite map
   up to equality of its entries; the order of a walk is arbitrary, and is given apart. -/

abbrev HashMap (κ ν : Type) := Finmap (fun _ : κ => ν)

/-- An order in which the elements of each finite set come, one after the other. -/
structure HashOrder (α : Type) where
  list : Finset α → List α
  nodup : ∀ s, (list s).Nodup
  mem_iff : ∀ s x, x ∈ list s ↔ x ∈ s

section Walk
variable {α : Type} (order : HashOrder α) {s : Finset α} {done rest : List α} {x : α}

theorem HashOrder.mem_of_split (split : order.list s = done ++ x :: rest) : x ∈ s := by
  rw [← order.mem_iff, split]
  simp

theorem HashOrder.notMem_done (split : order.list s = done ++ x :: rest) : x ∉ done := by
  have nodup := order.nodup s
  rw [split, List.nodup_append] at nodup
  exact fun again => nodup.2.2 x again x (by simp) rfl

@[simp] theorem HashOrder.list_empty : order.list ∅ = [] := by
  rw [List.eq_nil_iff_forall_not_mem]
  intro x member
  simpa using (order.mem_iff ∅ x).mp member

end Walk

open Classical in
noncomputable def HashOrder.first {α : Type} (x : α) : HashOrder α where
  list s := if x ∈ s then x :: (s.erase x).toList else s.toList
  nodup s := by
    split
    · simp [Finset.nodup_toList]
    · exact Finset.nodup_toList s
  mem_iff s y := by
    split
    · rename_i member
      by_cases same : y = x
      · simp [same, member]
      · simp [same]
    · simp

noncomputable def HashOrder.last {α : Type} (x : α) : HashOrder α where
  list s := ((HashOrder.first x).list s).reverse
  nodup s := List.nodup_reverse.mpr ((HashOrder.first x).nodup s)
  mem_iff s y := List.mem_reverse.trans ((HashOrder.first x).mem_iff s y)

theorem HashOrder.last_split {α : Type} {x : α} {s : Finset α} (member : x ∈ s) :
    ∃ before, (HashOrder.last x).list s = before ++ [x] := by
  simp only [HashOrder.last, HashOrder.first, if_pos member, List.reverse_cons]
  exact ⟨_, rfl⟩

open Classical in
noncomputable def HashOrder.ending {α : Type} (last : Finset α) : HashOrder α where
  list s := (s \ last).toList ++ (s ∩ last).toList
  nodup s := by
    rw [List.nodup_append]
    refine ⟨Finset.nodup_toList _, Finset.nodup_toList _, ?_⟩
    intro x isFirst y isLast same
    simp only [Finset.mem_toList, Finset.mem_sdiff, Finset.mem_inter] at isFirst isLast
    exact isFirst.2 (same ▸ isLast.2)
  mem_iff s x := by
    simp only [List.mem_append, Finset.mem_toList, Finset.mem_sdiff, Finset.mem_inter]
    tauto

noncomputable def HashOrder.any (α : Type) : HashOrder α :=
  ⟨Finset.toList, Finset.nodup_toList, fun _ _ => Finset.mem_toList⟩

namespace HashMap
variable {α κ ν : Type} [DecidableEq κ]

theorem lookup_insert_ite (m : HashMap κ ν) (k k' : κ) (v : ν) :
    (m.insert k v).lookup k' = if k' = k then some v else m.lookup k' := by
  split
  · rename_i same
    rw [same, Finmap.lookup_insert]
  · rename_i other
    exact Finmap.lookup_insert_of_ne m other

theorem mem_keys_iff {m : HashMap κ ν} {k : κ} : k ∈ m.keys ↔ ∃ v, m.lookup k = some v := by
  rw [Finmap.mem_keys, ← Finmap.lookup_isSome, Option.isSome_iff_exists]

theorem lookup_eq_none_iff {m : HashMap κ ν} {k : κ} : m.lookup k = none ↔ k ∉ m.keys := by
  rw [Finmap.lookup_eq_none, Finmap.mem_keys]

theorem keys_insert (m : HashMap κ ν) (k : κ) (v : ν) : (m.insert k v).keys = insert k m.keys := by
  ext k'
  simp [Finmap.mem_keys]

theorem lookup_singleton_ite (k k' : κ) (v : ν) :
    (Finmap.singleton k v : HashMap κ ν).lookup k' = if k' = k then some v else none :=
  lookup_insert_ite ∅ k k' v

theorem lookup_erase_ite (m : HashMap κ ν) (k k' : κ) :
    (m.erase k).lookup k' = if k' = k then none else m.lookup k' := by
  split
  · rename_i same
    rw [same, Finmap.lookup_erase]
  · rename_i other
    exact Finmap.lookup_erase_ne other

/-- Some key has this value. -/
def Holds (m : HashMap κ ν) (v : ν) : Prop := ∃ k, m.lookup k = some v

instance [DecidableEq ν] (m : HashMap κ ν) (v : ν) : Decidable (Holds m v) :=
  decidable_of_iff (∃ k ∈ m.keys, m.lookup k = some v)
    ⟨fun ⟨k, _, found⟩ => ⟨k, found⟩,
      fun ⟨k, found⟩ => ⟨k, Finmap.mem_keys.mpr (Finmap.mem_of_lookup_eq_some found), found⟩⟩

def Injective (m : HashMap κ ν) : Prop :=
  ∀ k k' v, m.lookup k = some v → m.lookup k' = some v → k = k'

theorem injective_empty : Injective (∅ : HashMap κ ν) := by
  intro k k' v found
  cases found

theorem injective_singleton {k : κ} {v : ν} : Injective (Finmap.singleton k v : HashMap κ ν) := by
  intro a b w first second
  rw [lookup_singleton_ite] at first second
  split at first
  · split at second
    · rename_i left right
      rw [left, right]
    · cases second
  · cases first

omit [DecidableEq κ] in
theorem nodupKeys_filter (keep : (Σ _ : κ, ν) → Prop) [DecidablePred keep] (m : HashMap κ ν) :
    (m.entries.filter keep).NodupKeys := by
  rw [← Multiset.nodup_keys]
  exact Multiset.nodup_of_le (Multiset.map_le_map (Multiset.filter_le _ _))
    (Multiset.nodup_keys.mpr m.nodupKeys)

/-- HashMap::retain -/
def retain (keep : κ → ν → Bool) (m : HashMap κ ν) : HashMap κ ν :=
  ⟨m.entries.filter fun entry => keep entry.1 entry.2, nodupKeys_filter _ m⟩

theorem lookup_retain {keep : κ → ν → Bool} {m : HashMap κ ν} {k : κ} {v : ν} :
    (retain keep m).lookup k = some v ↔ m.lookup k = some v ∧ keep k v = true := by
  simp [Finmap.lookup_eq_some_iff, retain]

theorem injective_retain {keep : κ → ν → Bool} {m : HashMap κ ν} (injective : Injective m) :
    Injective (retain keep m) :=
  fun k k' v first second =>
    injective k k' v (lookup_retain.mp first).1 (lookup_retain.mp second).1

def values [DecidableEq ν] (m : HashMap κ ν) : Finset ν := (m.entries.map Sigma.snd).toFinset

@[simp] theorem mem_values [DecidableEq ν] {m : HashMap κ ν} {v : ν} : v ∈ values m ↔ Holds m v := by
  simp [Finmap.lookup_eq_some_iff, values, Holds]

def valuesAt [DecidableEq ν] (keep : κ → Bool) (m : HashMap κ ν) : Finset ν :=
  values (retain (fun k _ => keep k) m)

@[simp] theorem mem_valuesAt [DecidableEq ν] {keep : κ → Bool} {m : HashMap κ ν} {v : ν} :
    v ∈ valuesAt keep m ↔ ∃ k, m.lookup k = some v ∧ keep k = true := by
  simp [valuesAt, Holds, lookup_retain]

def placeOne (f : α → Option (κ × ν)) (m : HashMap κ ν) (a : α) : HashMap κ ν :=
  match f a with
  | some (k, v) => m.insert k v
  | none => m

/-- Entries inserted one by one; an entry under the same key replaces the one before. -/
def placeAll (f : α → Option (κ × ν)) (l : List α) (m : HashMap κ ν) : HashMap κ ν :=
  l.foldl (placeOne f) m

variable {f : α → Option (κ × ν)} {l : List α} {m : HashMap κ ν} {k : κ}

theorem placeOne_same {a : α} {v : ν} (placed : f a = some (k, v)) :
    (placeOne f m a).lookup k = some v := by
  simp [placeOne, placed]

theorem placeOne_other {a : α} (other : ∀ v, f a ≠ some (k, v)) :
    (placeOne f m a).lookup k = m.lookup k := by
  unfold placeOne
  cases placed : f a with
  | none => rfl
  | some entry =>
    obtain ⟨k', v'⟩ := entry
    have differ : k ≠ k' := fun same => other v' (by rw [placed, same])
    exact Finmap.lookup_insert_of_ne m differ

theorem placeAll_mem {v : ν} (found : (placeAll f l m).lookup k = some v) :
    (∃ a ∈ l, f a = some (k, v)) ∨ m.lookup k = some v := by
  induction l generalizing m with
  | nil => exact Or.inr found
  | cons a rest ih =>
    rcases ih found with ⟨b, mb, fb⟩ | old
    · exact Or.inl ⟨b, by simp [mb], fb⟩
    · by_cases placed : ∃ w, f a = some (k, w)
      · obtain ⟨w, placed⟩ := placed
        rw [placeOne_same placed] at old
        cases old
        exact Or.inl ⟨a, by simp, placed⟩
      · rw [placeOne_other fun w same => placed ⟨w, same⟩] at old
        exact Or.inr old

theorem placeAll_claimed {a : α} {v : ν} (member : a ∈ l) (claimed : f a = some (k, v)) :
    ∃ w, (placeAll f l m).lookup k = some w := by
  have kept : ∀ (rest : List α) (m : HashMap κ ν), (∃ w, m.lookup k = some w) →
      ∃ w, (placeAll f rest m).lookup k = some w := by
    intro rest
    induction rest with
    | nil => exact fun _ there => there
    | cons b rest later =>
      intro m there
      apply later (placeOne f m b)
      by_cases placed : ∃ w, f b = some (k, w)
      · obtain ⟨w, placed⟩ := placed
        exact ⟨w, placeOne_same placed⟩
      · rw [placeOne_other fun w same => placed ⟨w, same⟩]
        exact there
  induction l generalizing m with
  | nil => cases member
  | cons b rest later =>
    rcases List.mem_cons.mp member with rfl | member
    · exact kept rest _ ⟨v, placeOne_same claimed⟩
    · exact later member

/-- When no two elements claim one key for different values, every element gets its key. -/
theorem placeAll_lookup
    (unique : ∀ a ∈ l, ∀ b ∈ l, ∀ v w, f a = some (k, v) → f b = some (k, w) → v = w) (v : ν) :
    (placeAll f l m).lookup k = some v ↔
      (∃ a ∈ l, f a = some (k, v)) ∨ ((∀ a ∈ l, ∀ w, f a ≠ some (k, w)) ∧ m.lookup k = some v) := by
  induction l generalizing m with
  | nil => simp [placeAll]
  | cons a rest ih =>
    have tail := ih (m := placeOne f m a) fun b mb c mc => unique b (by simp [mb]) c (by simp [mc])
    change (placeAll f rest (placeOne f m a)).lookup k = some v ↔ _
    rw [tail]
    by_cases placed : ∃ w, f a = some (k, w)
    · obtain ⟨w, placed⟩ := placed
      rw [placeOne_same placed]
      constructor
      · rintro (⟨b, mb, fb⟩ | ⟨-, same⟩)
        · exact Or.inl ⟨b, by simp [mb], fb⟩
        · cases same
          exact Or.inl ⟨a, by simp, placed⟩
      · rintro (⟨b, mb, fb⟩ | ⟨never, -⟩)
        · have same := unique a (by simp) b mb w v placed fb
          subst same
          by_cases again : ∃ c ∈ rest, ∃ u, f c = some (k, u)
          · obtain ⟨c, mc, u, fc⟩ := again
            have equal := unique a (by simp) c (by simp [mc]) w u placed fc
            exact Or.inl ⟨c, mc, by rw [fc, equal]⟩
          · exact Or.inr ⟨fun c mc u fc => again ⟨c, mc, u, fc⟩, rfl⟩
        · exact absurd placed (never a (by simp) w)
    · have never : ∀ w, f a ≠ some (k, w) := fun w found => placed ⟨w, found⟩
      rw [placeOne_other never]
      simp [never]

/-- The map from values to keys, as collect builds it. -/
def reversed [DecidableEq ν] (order : HashOrder κ) (m : HashMap κ ν) : HashMap ν κ :=
  placeAll (fun k => (m.lookup k).map (·, k)) (order.list m.keys) ∅

theorem reversed_entry {a w : κ} {v : ν} :
    (m.lookup a).map (·, a) = some (v, w) ↔ a = w ∧ m.lookup a = some v := by
  cases m.lookup a <;> simp [and_comm]

theorem lookup_of_reversed [DecidableEq ν] {order : HashOrder κ} {v : ν}
    (found : (reversed order m).lookup v = some k) : m.lookup k = some v := by
  rcases placeAll_mem found with ⟨a, -, entry⟩ | none
  · obtain ⟨rfl, there⟩ := reversed_entry.mp entry
    exact there
  · cases none

theorem mem_keys_reversed [DecidableEq ν] (order : HashOrder κ) (v : ν) :
    v ∈ (reversed order m).keys ↔ Holds m v := by
  rw [mem_keys_iff]
  constructor
  · intro found
    obtain ⟨k, found⟩ := found
    exact ⟨k, lookup_of_reversed found⟩
  · intro held
    obtain ⟨k, there⟩ := held
    exact placeAll_claimed ((order.mem_iff _ _).mpr (mem_keys_iff.mpr ⟨v, there⟩))
      (reversed_entry.mpr ⟨rfl, there⟩)

theorem lookup_reversed [DecidableEq ν] (order : HashOrder κ) (injective : Injective m) (k : κ) (v : ν) :
    (reversed order m).lookup v = some k ↔ m.lookup k = some v := by
  constructor
  · exact lookup_of_reversed
  · intro there
    obtain ⟨other, found⟩ := mem_keys_iff.mp ((mem_keys_reversed order v).mpr ⟨k, there⟩)
    rw [found, injective k other v there (lookup_of_reversed found)]

theorem reversed_eq_none [DecidableEq ν] (order : HashOrder κ) (v : ν) :
    (reversed order m).lookup v = none ↔ ¬ Holds m v := by
  rw [lookup_eq_none_iff, mem_keys_reversed]

theorem reversed_last [DecidableEq ν] {v : ν} (there : m.lookup k = some v) :
    (reversed (HashOrder.last k) m).lookup v = some k := by
  obtain ⟨before, split⟩ := HashOrder.last_split (mem_keys_iff.mpr ⟨v, there⟩)
  rw [reversed, split, placeAll, List.foldl_append]
  exact placeOne_same (reversed_entry.mpr ⟨rfl, there⟩)

/-- The entries of a map that are those of its reverse. -/
def oneKeyEach [DecidableEq ν] (order : HashOrder κ) (m : HashMap κ ν) : HashMap κ ν :=
  retain (fun k v => (reversed order m).lookup v == some k) m

theorem lookup_oneKeyEach [DecidableEq ν] {order : HashOrder κ} {v : ν} :
    (oneKeyEach order m).lookup k = some v ↔ (reversed order m).lookup v = some k := by
  rw [oneKeyEach, lookup_retain, beq_iff_eq]
  exact ⟨And.right, fun found => ⟨lookup_of_reversed found, found⟩⟩

theorem injective_oneKeyEach [DecidableEq ν] (order : HashOrder κ) (m : HashMap κ ν) :
    Injective (oneKeyEach order m) := by
  intro k k' v first second
  rw [lookup_oneKeyEach] at first second
  exact Option.some.inj (first.symm.trans second)

theorem holds_oneKeyEach [DecidableEq ν] {order : HashOrder κ} {v : ν} :
    Holds (oneKeyEach order m) v ↔ Holds m v := by
  rw [← mem_keys_reversed (m := m) order, mem_keys_iff]
  exact exists_congr fun k => lookup_oneKeyEach

/-- A map and the entries of its reverse have the same reverse. -/
theorem reversed_oneKeyEach [DecidableEq ν] (order : HashOrder κ) (m : HashMap κ ν) :
    reversed order (oneKeyEach order m) = reversed order m := by
  apply Finmap.ext_lookup
  intro v
  apply Option.ext
  intro k
  rw [lookup_reversed order (injective_oneKeyEach order m),
    lookup_oneKeyEach]

/-- One key for each value that is listed. -/
structure OneOfEach (lists : κ → ν → Prop) (part : HashMap κ ν) : Prop where
  injective : Injective part
  listed : ∀ k v, part.lookup k = some v → lists k v
  each : ∀ k v, lists k v → Holds part v

theorem oneOfEach_oneKeyEach [DecidableEq ν] (order : HashOrder κ) (m : HashMap κ ν) :
    OneOfEach (fun k v => m.lookup k = some v) (oneKeyEach order m) :=
  ⟨injective_oneKeyEach order m, fun _ _ found => lookup_of_reversed (lookup_oneKeyEach.mp found),
    fun k _ found => holds_oneKeyEach.mpr ⟨k, found⟩⟩

/-- Any key of each value is the one that is kept, in some order. -/
theorem OneOfEach.exists_order [DecidableEq ν] {part : HashMap κ ν}
    (one : OneOfEach (fun k v => m.lookup k = some v) part) : ∃ order, oneKeyEach order m = part := by
  have kept : ∀ k v, part.lookup k = some v →
      (reversed (HashOrder.ending part.keys) m).lookup v = some k := by
    intro k v found
    rw [reversed, HashOrder.ending, placeAll, List.foldl_append]
    refine (placeAll_lookup ?_ k).mpr (Or.inl ⟨k, ?_, reversed_entry.mpr ⟨rfl, one.listed k v found⟩⟩)
    · intro a isA b isB w w' first second
      obtain ⟨rfl, isValue⟩ := reversed_entry.mp first
      obtain ⟨rfl, isValue'⟩ := reversed_entry.mp second
      simp only [Finset.mem_toList, Finset.mem_inter] at isA isB
      obtain ⟨u, heldA⟩ := mem_keys_iff.mp isA.2
      obtain ⟨u', heldB⟩ := mem_keys_iff.mp isB.2
      have sameA := (one.listed _ _ heldA).symm.trans isValue
      have sameB := (one.listed _ _ heldB).symm.trans isValue'
      cases sameA
      cases sameB
      exact one.injective _ _ _ heldA heldB
    · simp only [Finset.mem_toList, Finset.mem_inter]
      exact ⟨mem_keys_iff.mpr ⟨v, one.listed k v found⟩, mem_keys_iff.mpr ⟨v, found⟩⟩
  refine ⟨HashOrder.ending part.keys, Finmap.ext_lookup fun k => Option.ext fun v => ?_⟩
  rw [lookup_oneKeyEach]
  constructor
  · intro found
    obtain ⟨other, held⟩ := one.each k v (lookup_of_reversed found)
    rw [kept other v held] at found
    cases found
    exact held
  · exact kept k v

theorem oneKeyEach_eq [DecidableEq ν] {order : HashOrder κ} (injective : Injective m) :
    oneKeyEach order m = m := by
  apply Finmap.ext_lookup
  intro k
  apply Option.ext
  intro v
  exact lookup_oneKeyEach.trans (lookup_reversed order injective k v)

theorem holds_insert_fresh {v w : ν} (fresh : k ∉ m.keys) :
    Holds (m.insert k v) w ↔ Holds m w ∨ w = v := by
  have unused : m.lookup k = none := Finmap.lookup_eq_none.mpr (mt Finmap.mem_keys.mpr fresh)
  simp only [Holds, lookup_insert_ite]
  constructor
  · rintro ⟨k', found⟩
    split at found
    · exact Or.inr (Option.some.inj found).symm
    · exact Or.inl ⟨k', found⟩
  · rintro (⟨k', found⟩ | rfl)
    · refine ⟨k', ?_⟩
      rw [if_neg, found]
      rintro rfl
      rw [unused] at found
      cases found
    · exact ⟨k, by simp⟩

theorem injective_insert {v : ν} (injective : Injective m) (absent : ¬ Holds m v) :
    Injective (m.insert k v) := by
  intro a b w first second
  simp only [lookup_insert_ite] at first second
  split at first
  · cases first
    split at second
    · rename_i left right
      rw [left, right]
    · exact absurd ⟨b, second⟩ absent
  · split at second
    · cases second
      exact absurd ⟨a, first⟩ absent
    · exact injective a b w first second

end HashMap

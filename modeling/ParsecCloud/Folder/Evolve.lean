import ParsecCloud.Types.LocalFolder

/- What a change of the children does to a folder manifest. -/
namespace ParsecCloud
open Rust HashMap LocalFolderManifest

/-- Only existing names are removed, and no id is added that stays elsewhere. -/
structure ChangesFit (data : ChildrenChanges) (children : Children) : Prop where
  removesExisting : ∀ name, data.lookup name = some none → name ∈ children.keys
  addsUnkept : ∀ name other id, data.lookup name = some (some id) →
    children.lookup other = some id → other ∈ data.keys

structure Evolved (data : ChildrenChanges) (pattern : PreventSyncPattern)
    (m evolved : LocalFolderManifest) : Prop where
  base : evolved.base = m.base
  parent : evolved.parent = m.parent
  remotePoints : evolved.remoteConfinementPoints = m.remoteConfinementPoints
  children : ∀ name,
    evolved.children.lookup name = (data.lookup name).getD (m.children.lookup name)
  localPoints : ∀ id, id ∈ evolved.localConfinementPoints ↔
    (id ∈ m.localConfinementPoints ∧ ¬ ∃ name ∈ data.keys, m.children.lookup name = some id) ∨
    ∃ name, data.lookup name = some (some id) ∧ pattern.isMatch name = true
  unflagged : evolved.needSync = false ↔ m.needSync = false ∧
    (∀ name ∈ data.keys, ∀ id, m.children.lookup name = some id → id ∈ m.localConfinementPoints) ∧
    ∀ name id, data.lookup name = some (some id) → pattern.isMatch name = true

structure Removed (m : LocalFolderManifest) (names : List EntryName) (s : Evolving) : Prop where
  children : ∀ name, s.children.lookup name = if name ∈ names then none else m.children.lookup name
  points : ∀ id, id ∈ s.localConfinementPoints ↔
    id ∈ m.localConfinementPoints ∧ ¬ ∃ name ∈ names, m.children.lookup name = some id
  updated : s.actuallyUpdated = false ↔
    ∀ name ∈ names, ∀ id, m.children.lookup name = some id → id ∈ m.localConfinementPoints

theorem removeOld_spec {m : LocalFolderManifest} {data : ChildrenChanges} {s : Evolving}
    {done : List EntryName} {name : EntryName} (injective : Injective m.children)
    (existing : data.lookup name = some none → name ∈ m.children.keys)
    (known : name ∈ data.keys) (new : name ∉ done) (removed : Removed m done s) :
    ∃ s', removeOld data s name = .ok s' ∧ Removed m (done ++ [name]) s' := by
  have same : s.children.lookup name = m.children.lookup name := by
    rw [removed.children, if_neg new]
  unfold removeOld
  rw [same]
  cases found : m.children.lookup name with
  | none =>
    obtain ⟨entry, changed⟩ := mem_keys_iff.mp known
    have added : (data.lookup name).join.isSome = true := by
      cases entry with
      | none =>
        obtain ⟨id, there⟩ := mem_keys_iff.mp (existing changed)
        rw [found] at there
        cases there
      | some id => simp [changed]
    refine ⟨s, by simp [assert, added], ?_, ?_, ?_⟩
    · intro other
      rw [removed.children]
      by_cases this : other = name
      · subst this
        simp [found]
      · simp [this]
    · intro id
      rw [removed.points]
      simp [found, or_and_right, exists_or]
    · rw [removed.updated]
      simp [found, or_imp, forall_and]
  | some old =>
    -- the id has this name only, so it is confined as long as it was at first
    have confined : old ∈ s.localConfinementPoints ↔ old ∈ m.localConfinementPoints := by
      rw [removed.points, and_iff_left]
      rintro ⟨other, member, there⟩
      exact new (injective name other old found there ▸ member)
    refine ⟨_, rfl, ?_, ?_, ?_⟩
    · intro other
      simp only [lookup_erase_ite, removed.children, List.mem_append, List.mem_singleton]
      by_cases this : other = name <;> simp [this]
    · intro id
      simp only [Finset.mem_erase, removed.points, List.mem_append, List.mem_singleton,
        or_and_right, exists_or, exists_eq_left, found, Option.some.injEq, not_or]
      constructor
      · rintro ⟨other, confined, kept⟩
        exact ⟨confined, kept, other.symm⟩
      · rintro ⟨confined, kept, other⟩
        exact ⟨Ne.symm other, confined, kept⟩
    · simp only [Bool.or_eq_false_iff, removed.updated, decide_eq_false_iff_not, not_not, confined,
        List.mem_append, List.mem_singleton, or_imp, forall_and, forall_eq, found,
        Option.some.injEq, forall_eq']

structure Added (pattern : PreventSyncPattern) (data : ChildrenChanges) (first : Evolving)
    (names : List EntryName) (s : Evolving) : Prop where
  children : ∀ name, s.children.lookup name =
    if name ∈ names then (data.lookup name).join else first.children.lookup name
  points : ∀ id, id ∈ s.localConfinementPoints ↔ id ∈ first.localConfinementPoints ∨
    ∃ name ∈ names, data.lookup name = some (some id) ∧ pattern.isMatch name = true
  updated : s.actuallyUpdated = false ↔ first.actuallyUpdated = false ∧
    ∀ name ∈ names, ∀ id, data.lookup name = some (some id) → pattern.isMatch name = true

theorem addNew_other {pattern : PreventSyncPattern} {data : ChildrenChanges} {s : Evolving}
    {name : EntryName} (nothing : ∀ id, data.lookup name ≠ some (some id)) :
    addNew pattern data s name = s := by
  unfold addNew
  split
  · rename_i id change
    exact absurd change (nothing id)
  · rfl

theorem addNew_spec {pattern : PreventSyncPattern} {data : ChildrenChanges} {first s : Evolving}
    {done : List EntryName} {name : EntryName} (gone : first.children.lookup name = none)
    (new : name ∉ done) (added : Added pattern data first done s) :
    Added pattern data first (done ++ [name]) (addNew pattern data s name) := by
  by_cases change : ∃ id, data.lookup name = some (some id)
  · obtain ⟨id, change⟩ := change
    have inserted : ∀ other, (s.children.insert name id).lookup other =
        if other ∈ done ++ [name] then (data.lookup other).join
        else first.children.lookup other := by
      intro other
      by_cases this : other = name
      · subst this
        simp [change]
      · simp [added.children, this]
    simp only [addNew, change]
    split
    · rename_i confined
      refine ⟨inserted, ?_, ?_⟩
      · intro other
        simp only [Finset.mem_insert, added.points, List.mem_append, List.mem_singleton,
          or_and_right, exists_or, exists_eq_left, change, Option.some.injEq, confined, and_true]
        rw [or_left_comm, or_comm (a := other = id), @eq_comm _ other]
      · simp only [added.updated, List.mem_append, List.mem_singleton, or_imp, forall_and,
          forall_eq, confined, implies_true, and_true]
    · rename_i unconfined
      refine ⟨inserted, ?_, ?_⟩
      · intro other
        simp only [added.points, List.mem_append, List.mem_singleton, or_and_right, exists_or,
          exists_eq_left, unconfined, Bool.false_eq_true, and_false, or_false]
      · simp only [Bool.true_eq_false, false_iff, not_and, List.mem_append, List.mem_singleton]
        intro _ all
        exact unconfined (all name (Or.inr rfl) id change)
  · have nothing : ∀ id, data.lookup name ≠ some (some id) := fun id found => change ⟨id, found⟩
    rw [addNew_other nothing]
    refine ⟨?_, ?_, ?_⟩
    · intro other
      by_cases this : other = name
      · subst this
        have none : (data.lookup other).join = none :=
          Option.eq_none_iff_forall_ne_some.mpr fun id found =>
            nothing id (Option.join_eq_some_iff.mp found)
        simp [added.children, new, gone, none]
      · simp [added.children, this]
    · intro other
      simp only [added.points, List.mem_append, List.mem_singleton, or_and_right, exists_or,
        exists_eq_left, nothing, false_and, or_false]
    · simp only [added.updated, List.mem_append, List.mem_singleton, or_imp, forall_and, forall_eq,
        nothing, false_imp_iff, implies_true, and_true]

variable (orders : FolderOrders) {data : ChildrenChanges} {m : LocalFolderManifest}

theorem removals_spec (injective : Injective m.children) (fits : ChangesFit data m.children) :
    ∃ removed, (orders.removals.list data.keys).foldlM (removeOld data)
        ⟨m.children, m.localConfinementPoints, false⟩ = .ok removed ∧
      Removed m (orders.removals.list data.keys) removed := by
  apply foldlM_list
  · exact ⟨by simp, by simp, by simp⟩
  · intro done name rest s split removed
    exact removeOld_spec injective (fits.removesExisting name)
      (orders.removals.mem_of_split split) (orders.removals.notMem_done split) removed

theorem additions_spec (pattern : PreventSyncPattern) {removed : Evolving}
    (gone : ∀ name ∈ data.keys, removed.children.lookup name = none) :
    Added pattern data removed (orders.additions.list data.keys)
      ((orders.additions.list data.keys).foldl (addNew pattern data) removed) := by
  apply foldl_list
  · exact ⟨by simp, by simp, by simp⟩
  · intro done name rest s split added
    exact addNew_spec (gone name (orders.additions.mem_of_split split))
      (orders.additions.notMem_done split) added

theorem no_duplicate_of_fits {removed : Evolving} (fits : ChangesFit data m.children)
    (gone : Removed m (orders.removals.list data.keys) removed) :
    (Finset.eraseNone data.values ∩ removed.children.values).card = 0 := by
  rw [Finset.card_eq_zero, Finset.eq_empty_iff_forall_notMem]
  intro id both
  obtain ⟨⟨name, added⟩, other, kept⟩ := by simpa using both
  rw [gone.children] at kept
  split at kept
  · cases kept
  · rename_i stays
    exact stays ((orders.removals.mem_iff _ _).mpr (fits.addsUnkept name other id added kept))

section Loops
variable {orders} {pattern : PreventSyncPattern} {removed final : Evolving}
variable (gone : Removed m (orders.removals.list data.keys) removed)
variable (added : Added pattern data removed (orders.additions.list data.keys) final)
include gone added

theorem loops_children (name : EntryName) :
    final.children.lookup name = (data.lookup name).getD (m.children.lookup name) := by
  rw [added.children, gone.children]
  simp only [orders.additions.mem_iff, orders.removals.mem_iff]
  by_cases member : name ∈ data.keys
  · obtain ⟨entry, found⟩ := mem_keys_iff.mp member
    simp [found, member]
  · have unchanged : data.lookup name = none := lookup_eq_none_iff.mpr member
    simp [unchanged, member]

theorem loops_points (id : VlobID) :
    id ∈ final.localConfinementPoints ↔
      (id ∈ m.localConfinementPoints ∧ ¬ ∃ name ∈ data.keys, m.children.lookup name = some id) ∨
      ∃ name, data.lookup name = some (some id) ∧ pattern.isMatch name = true := by
  simp only [added.points, gone.points, orders.additions.mem_iff, orders.removals.mem_iff]
  apply or_congr Iff.rfl
  exact exists_congr fun name => and_iff_right_of_imp fun change => mem_keys_iff.mpr ⟨_, change.1⟩

theorem loops_unflagged :
    final.actuallyUpdated = false ↔
      (∀ name ∈ data.keys, ∀ id, m.children.lookup name = some id → id ∈ m.localConfinementPoints) ∧
      ∀ name id, data.lookup name = some (some id) → pattern.isMatch name = true := by
  simp only [added.updated, gone.updated, orders.additions.mem_iff, orders.removals.mem_iff]
  apply and_congr Iff.rfl
  constructor
  · intro all name id change
    exact all name (mem_keys_iff.mpr ⟨_, change⟩) id change
  · intro all name _ id change
    exact all name id change

end Loops

theorem evolve_spec (pattern : PreventSyncPattern) (timestamp : DateTime)
    (injective : Injective m.children) (fits : ChangesFit data m.children) :
    ∃ evolved, m.evolveChildrenAndMarkUpdated orders data pattern timestamp = .ok evolved ∧
      Evolved data pattern m evolved := by
  obtain ⟨removed, run, gone⟩ := removals_spec orders injective fits
  have added := additions_spec orders pattern fun name member => by
    rw [gone.children, if_pos ((orders.removals.mem_iff _ _).mpr member)]
  have fresh := no_duplicate_of_fits orders fits gone
  have children := loops_children gone added
  have points := loops_points gone added
  have unflagged := loops_unflagged gone added
  simp only [evolveChildrenAndMarkUpdated, run, ok_bind, assert, fresh]
  generalize (orders.additions.list data.keys).foldl (addNew pattern data) removed = final at *
  cases flag : final.actuallyUpdated with
  | true =>
    have changed := mt unflagged.mpr (by simp [flag])
    refine ⟨_, rfl, rfl, rfl, rfl, children, points, ?_⟩
    simp only [Bool.true_eq_false, false_iff, not_and]
    exact fun _ => not_and.mp changed
  | false =>
    refine ⟨_, rfl, rfl, rfl, rfl, children, points, ?_⟩
    exact ⟨fun unsynced => ⟨unsynced, unflagged.mp flag⟩, And.left⟩

theorem evolve_nothing (pattern : PreventSyncPattern) (timestamp : DateTime) :
    m.evolveChildrenAndMarkUpdated orders ∅ pattern timestamp = .ok m := by
  have fresh : Finset.eraseNone (∅ : ChildrenChanges).values ∩ m.children.values = ∅ := by
    rw [Finset.eq_empty_iff_forall_notMem]
    intro id member
    simp [Holds] at member
  simp [evolveChildrenAndMarkUpdated, assert, fresh]

end ParsecCloud

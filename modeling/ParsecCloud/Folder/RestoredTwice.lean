import ParsecCloud.Folder.Restore

/- When applying a pattern to children that may list one id under several names panics. -/
namespace ParsecCloud
open Rust HashMap LocalFolderManifest UnconfinedLocalFolderManifest

section Evolve
variable (orders : FolderOrders) {data : ChildrenChanges} {m : LocalFolderManifest}

theorem removeOld_children {s : Evolving} {done : List EntryName} {name : EntryName}
    (existing : data.lookup name = some none → name ∈ m.children.keys)
    (known : name ∈ data.keys) (new : name ∉ done)
    (removed : ∀ other,
      s.children.lookup other = if other ∈ done then none else m.children.lookup other) :
    ∃ s', removeOld data s name = .ok s' ∧ ∀ other,
      s'.children.lookup other = if other ∈ done ++ [name] then none else m.children.lookup other := by
  have same : s.children.lookup name = m.children.lookup name := by
    rw [removed, if_neg new]
  unfold removeOld
  rw [same]
  cases found : m.children.lookup name with
  | none =>
    obtain ⟨entry, changed⟩ := mem_keys_iff.mp known
    have added : (data.lookup name).join.isSome = true := by
      cases entry with
      | none => exact absurd (existing changed) (lookup_eq_none_iff.mp found)
      | some id => simp [changed]
    refine ⟨s, by simp [assert, added], fun other => ?_⟩
    rw [removed]
    by_cases this : other = name
    · subst this
      simp [found]
    · simp [this]
  | some old =>
    refine ⟨_, rfl, fun other => ?_⟩
    simp only [lookup_erase_ite, removed, List.mem_append, List.mem_singleton]
    by_cases this : other = name <;> simp [this]

/-- Changes that remove existing names only are made unless an id is added that stays elsewhere. -/
theorem evolve_ok_iff (pattern : PreventSyncPattern) (timestamp : DateTime)
    (removes : ∀ name, data.lookup name = some none → name ∈ m.children.keys) :
    (∃ r, m.evolveChildrenAndMarkUpdated orders data pattern timestamp = .ok r) ↔
      ∀ name other id, data.lookup name = some (some id) → m.children.lookup other = some id →
        other ∈ data.keys := by
  obtain ⟨removed, run, children⟩ : ∃ removed, (orders.removals.list data.keys).foldlM (removeOld data)
      ⟨m.children, m.localConfinementPoints, false⟩ = .ok removed ∧ ∀ other,
        removed.children.lookup other =
          if other ∈ orders.removals.list data.keys then none else m.children.lookup other := by
    apply foldlM_list (P := fun done (s : Evolving) => ∀ other,
      s.children.lookup other = if other ∈ done then none else m.children.lookup other)
    · simp
    · intro done name rest s split removed
      exact removeOld_children (removes name) (orders.removals.mem_of_split split)
        (orders.removals.notMem_done split) removed
  simp only [orders.removals.mem_iff] at children
  have apart : (Finset.eraseNone data.values ∩ removed.children.values).card = 0 ↔
      ∀ name other id, data.lookup name = some (some id) → m.children.lookup other = some id →
        other ∈ data.keys := by
    rw [Finset.card_eq_zero, Finset.eq_empty_iff_forall_notMem]
    constructor
    · intro none name other id added found
      by_contra stays
      apply none id
      simp only [Finset.mem_inter, Finset.mem_eraseNone, mem_values]
      exact ⟨⟨name, added⟩, other, by rw [children, if_neg stays, found]⟩
    · intro all id both
      simp only [Finset.mem_inter, Finset.mem_eraseNone, mem_values] at both
      obtain ⟨⟨name, added⟩, other, kept⟩ := both
      rw [children] at kept
      split at kept
      · cases kept
      · rename_i stays
        exact stays (all name other id added kept)
  unfold evolveChildrenAndMarkUpdated
  rw [run, ok_bind, ← apart]
  by_cases none : (Finset.eraseNone data.values ∩ removed.children.values).card = 0
  · refine ⟨fun _ => none, fun _ => ?_⟩
    simp only [assert, none, beq_self_eq_true, if_true, ok_bind]
    split
    · exact ⟨_, rfl⟩
    · exact ⟨_, rfl⟩
  · refine ⟨fun returns => ?_, fun zero => absurd zero none⟩
    obtain ⟨r, returned⟩ := returns
    obtain ⟨_, checked, -⟩ := bind_eq_ok.mp returned
    simp [assert, none] at checked

end Evolve

section Apply
variable (pattern : PreventSyncPattern) (base children : Children) (existing : LocalFolderManifest)

/-- An entry of the children that is not hidden with the same entry of the base. -/
def Shown (name : EntryName) (id : VlobID) : Prop :=
  children.lookup name = some id ∧ ¬ (pattern.isMatch name = true ∧ base.lookup name = some id)

/-- The existing manifest gives this name to an entry that comes back under it. -/
def NameRestored (name : EntryName) : Prop :=
  ∃ id, existing.children.lookup name = some id ∧
    (id ∈ existing.localConfinementPoints ∨
      ((¬ ∃ other, Shown pattern base children other id) ∧ pattern.isMatch name = true ∧
        ∃ other, base.lookup other = some id ∧ pattern.isMatch other = true))

/-- A confined id that is shown under two names other than its own does not keep one of them: they
    are given to other entries. -/
def RestoresOnce : Prop :=
  ∀ own id first second, existing.children.lookup own = some id →
    id ∈ existing.localConfinementPoints → Shown pattern base children first id →
    Shown pattern base children second id → first ≠ second → first ≠ own → second ≠ own →
    NameRestored pattern base children existing second

variable {pattern base children existing}

theorem restoresOnce_of_injective (injective : Injective children) :
    RestoresOnce pattern base children existing := by
  intro own id first second _ _ shown again differ
  exact absurd (injective first second id shown.1 again.1) differ

end Apply

section Thin
variable {pattern : PreventSyncPattern} {orders : FolderOrders}
  {existing new : LocalFolderManifest}

/-- The new manifest, less all names but one of each id. -/
def thin (order : HashOrder EntryName) (new : LocalFolderManifest) : LocalFolderManifest :=
  { new with children := oneKeyEach order new.children }

/-- The walk that restores entries sees one name of each id only. -/
theorem restoreExisting_thin :
    restoreExisting orders pattern existing (thin orders.reverse new) =
      restoreExisting orders pattern existing new := by
  unfold restoreExisting thin
  rw [reversed_oneKeyEach]

theorem thin_restoration (existingInjective : Injective existing.children) :
    Restoration pattern existing (thin orders.reverse new)
      (restoreExisting orders pattern existing new).changes := by
  rw [← restoreExisting_thin]
  exact restoreExisting_restoration pattern orders existingInjective (injective_oneKeyEach _ _)

theorem lookup_of_thin {order : HashOrder EntryName} {name : EntryName} {id : VlobID}
    (found : (thin order new).children.lookup name = some id) :
    new.children.lookup name = some id :=
  lookup_of_reversed (lookup_oneKeyEach.mp found)

theorem removes_existing (existingInjective : Injective existing.children) (name : EntryName)
    (gone : (restoreExisting orders pattern existing new).changes.lookup name = some none) :
    name ∈ new.children.keys := by
  obtain ⟨other, id, renames⟩ := (thin_restoration existingInjective).removed name gone
  exact mem_keys_iff.mpr ⟨id, lookup_of_thin renames.2.2.1⟩

theorem added_now {s : Restoring} {done rest : List EntryName} {own : EntryName} {id : VlobID}
    (split : orders.existing.list existing.children.keys = done ++ own :: rest)
    (existingInjective : Injective existing.children)
    (walked : Walked pattern existing new done s)
    (restores : Restores pattern existing new own id) :
    (restoreOne pattern existing new.remoteConfinementPoints s own).changes.lookup own =
      some (some id) := by
  obtain ⟨never, next⟩ | ⟨other, previous, restored, -, next⟩ | ⟨other, restored, -, next⟩ :=
    restoreOne_cases pattern (unseen_id split existingInjective walked)
  · exact absurd restores (never id)
  · rw [next, Option.some.inj (restores.1.symm.trans restored.1)]
    exact Finmap.lookup_insert _
  · rw [next, Option.some.inj (restores.1.symm.trans restored.1)]
    exact Finmap.lookup_insert _

theorem restored_last {own : EntryName} {id : VlobID} (existingInjective : Injective existing.children)
    (newInjective : Injective new.children) (last : orders.existing = HashOrder.last own)
    (restores : Restores pattern existing new own id) :
    (restoreExisting orders pattern existing new).changes.lookup own = some (some id) := by
  have member : own ∈ existing.children.keys := mem_keys_iff.mpr ⟨id, restores.1⟩
  have ended : ∃ before, orders.existing.list existing.children.keys = before ++ [own] := by
    rw [last]
    exact HashOrder.last_split member
  obtain ⟨before, isLast⟩ := ended
  have inv : Walked pattern existing new (orders.existing.list existing.children.keys)
        (restoreExisting orders pattern existing new) ∧
      (own ∈ orders.existing.list existing.children.keys →
        (restoreExisting orders pattern existing new).changes.lookup own = some (some id)) := by
    apply foldl_list (P := fun done (s : Restoring) => Walked pattern existing new done s ∧
      (own ∈ done → s.changes.lookup own = some (some id)))
    · exact ⟨walked_first pattern orders newInjective, by simp⟩
    · intro done name rest s split both
      refine ⟨walked_next split existingInjective both.1 newInjective, fun reached => ?_⟩
      by_cases now : name = own
      · subst now
        exact added_now split existingInjective both.1 restores
      · -- no turn comes after its own
        have later : own ∈ name :: rest := by
          have ends := congrArg List.getLast? (isLast.symm.trans split)
          rw [List.getLast?_concat, List.getLast?_append_cons] at ends
          exact List.mem_of_getLast? ends.symm
        have nodup := orders.existing.nodup existing.children.keys
        rw [split, List.nodup_append] at nodup
        have earlier : own ∈ done := by simpa [Ne.symm now] using reached
        exact absurd rfl (nodup.2.2 own earlier own later)
  exact inv.2 ((orders.existing.mem_iff _ _).mpr member)

end Thin

section Returns
variable {orders : FolderOrders} {pattern : PreventSyncPattern} {m : UnconfinedLocalFolderManifest}
  {existing : LocalFolderManifest}

theorem lookup_newManifest {name : EntryName} {id : VlobID} :
    (newManifest orders m pattern).children.lookup name = some id ↔
      Shown pattern m.base.children m.children name id :=
  lookup_hideBaseEntries

theorem holds_thin {id : VlobID} :
    Holds (thin orders.reverse (newManifest orders m pattern)).children id ↔
      ∃ name, Shown pattern m.base.children m.children name id := by
  rw [thin, holds_oneKeyEach]
  exact exists_congr fun name => lookup_newManifest

theorem mem_changes_of_nameRestored (existingInjective : Injective existing.children) {name : EntryName}
    {id : VlobID} (back : NameRestored pattern m.base.children m.children existing name)
    (shown : Shown pattern m.base.children m.children name id)
    (other : existing.children.lookup name ≠ some id) :
    name ∈ (restoreExisting orders pattern existing (newManifest orders m pattern)).changes.keys := by
  obtain ⟨own, there, why⟩ := back
  apply (thin_restoration existingInjective).restored name own
  refine ⟨there, ?_⟩
  by_cases confined : own ∈ existing.localConfinementPoints
  · refine Or.inl ⟨confined, fun found => other ?_⟩
    have again := lookup_newManifest.mp (lookup_of_thin found)
    rw [there, Option.some.inj (again.1.symm.trans shown.1)]
  · obtain ⟨absent, matching, point⟩ := why.resolve_left confined
    exact Or.inr ⟨confined, mt holds_thin.mp absent, mem_valuesAt.mpr point, matching⟩

theorem adds_unkept (existingInjective : Injective existing.children)
    (once : RestoresOnce pattern m.base.children m.children existing) {name other : EntryName}
    {id : VlobID}
    (added : (restoreExisting orders pattern existing (newManifest orders m pattern)).changes.lookup
      name = some (some id))
    (found : (newManifest orders m pattern).children.lookup other = some id) :
    other ∈ (restoreExisting orders pattern existing (newManifest orders m pattern)).changes.keys := by
  have restoration : Restoration pattern existing (thin orders.reverse (newManifest orders m pattern))
      (restoreExisting orders pattern existing (newManifest orders m pattern)).changes :=
    thin_restoration existingInjective
  have shown := lookup_newManifest.mp found
  have restores := restoration.added name id added
  obtain ⟨there, ⟨confined, moved⟩ | ⟨-, absent, -⟩⟩ := restores
  · -- one of its names is removed, and the others are given to other entries
    obtain ⟨previous, chosen⟩ := holds_thin.mpr ⟨other, shown⟩
    have apart : previous ≠ name := fun same => moved (same ▸ chosen)
    have removed := restoration.renamed name id previous ⟨there, confined, chosen, apart⟩
    by_cases isOwn : other = name
    · rw [isOwn]
      exact mem_keys_iff.mpr ⟨_, added⟩
    · by_cases isPrevious : previous = other
      · rw [← isPrevious]
        exact removed
      · apply mem_changes_of_nameRestored existingInjective _ shown
        · exact fun same => isOwn (existingInjective other name id same there)
        · exact once name id previous other there confined
            (lookup_newManifest.mp (lookup_of_thin chosen)) shown isPrevious apart isOwn
  · exact absurd (holds_thin.mpr ⟨other, shown⟩) absent

/-- A name left to no other entry is not among the changes when the other name is removed. -/
theorem nameRestored_of_mem_changes (existingInjective : Injective existing.children)
    {first second : EntryName} {id : VlobID} (differ : first ≠ second)
    (shown : Shown pattern m.base.children m.children first id)
    (again : Shown pattern m.base.children m.children second id)
    (last : orders.reverse = HashOrder.last first)
    (changed : second ∈
      (restoreExisting orders pattern existing (newManifest orders m pattern)).changes.keys) :
    NameRestored pattern m.base.children m.children existing second := by
  have restoration : Restoration pattern existing (thin orders.reverse (newManifest orders m pattern))
      (restoreExisting orders pattern existing (newManifest orders m pattern)).changes :=
    thin_restoration existingInjective
  obtain ⟨entry, found⟩ := mem_keys_iff.mp changed
  cases entry with
  | none =>
    obtain ⟨moved, other, -, -, previous, -⟩ := restoration.removed second found
    have same : other = id :=
      Option.some.inj ((lookup_newManifest.mp (lookup_of_thin previous)).1.symm.trans again.1)
    have kept : (reversed orders.reverse (newManifest orders m pattern).children).lookup id =
        some first := by
      rw [last]
      exact reversed_last (lookup_newManifest.mpr shown)
    rw [same] at previous
    have chosen := lookup_oneKeyEach.mp previous
    rw [kept] at chosen
    exact absurd (Option.some.inj chosen) differ
  | some other =>
    obtain ⟨there, ⟨confined, -⟩ | ⟨-, absent, point, matching⟩⟩ := restoration.added second other found
    · exact ⟨other, there, Or.inl confined⟩
    · exact ⟨other, there, Or.inr ⟨mt holds_thin.mpr absent, matching, mem_valuesAt.mp point⟩⟩

/-- Applying a pattern never panics exactly when no confined id is shown under two names. -/
theorem applyConfinement_ok_iff (timestamp : DateTime)
    (existingInjective : Injective existing.children) :
    (∀ orders, ∃ r, m.applyConfinement orders existing pattern timestamp = .ok r) ↔
      RestoresOnce pattern m.base.children m.children existing := by
  have evolves : ∀ orders,
      (∃ r, (newManifest orders m pattern).evolveChildrenAndMarkUpdated orders
        (restoreExisting orders pattern existing (newManifest orders m pattern)).changes pattern
        timestamp = .ok r) ↔
      ∀ name other id,
        (restoreExisting orders pattern existing (newManifest orders m pattern)).changes.lookup name =
          some (some id) →
        (newManifest orders m pattern).children.lookup other = some id →
        other ∈
          (restoreExisting orders pattern existing (newManifest orders m pattern)).changes.keys :=
    fun orders => evolve_ok_iff orders pattern timestamp (removes_existing existingInjective)
  constructor
  · intro returns own id first second there confined shown again differ notOwn apart
    let orders : FolderOrders :=
      ⟨.any _, HashOrder.last own, HashOrder.last first, .any _, .any _⟩
    obtain ⟨r, run⟩ := returns orders
    have some_confined : existing.localConfinementPoints ≠ ∅ :=
      Finset.nonempty_iff_ne_empty.mp ⟨id, confined⟩
    unfold applyConfinement at run
    simp only at run
    rw [if_pos (Or.inl some_confined)] at run
    have chosen : (reversed orders.reverse (newManifest orders m pattern).children).lookup id =
        some first := reversed_last (lookup_newManifest.mpr shown)
    have restores : Restores pattern existing (thin orders.reverse (newManifest orders m pattern))
        own id := by
      refine ⟨there, Or.inl ⟨confined, fun found => notOwn ?_⟩⟩
      have found := lookup_oneKeyEach.mp found
      rw [chosen] at found
      exact Option.some.inj found
    have added : (restoreExisting orders pattern existing
        (newManifest orders m pattern)).changes.lookup own = some (some id) := by
      rw [← restoreExisting_thin]
      exact restored_last existingInjective (injective_oneKeyEach _ _) rfl restores
    exact nameRestored_of_mem_changes existingInjective differ shown again rfl
      ((evolves orders).mp ⟨r, run⟩ own second id added (lookup_newManifest.mpr again))
  · intro once orders
    unfold applyConfinement
    simp only
    split
    · exact (evolves orders).mpr fun name other id added found =>
        adds_unkept existingInjective once added found
    · exact ⟨_, rfl⟩

end Returns

end ParsecCloud

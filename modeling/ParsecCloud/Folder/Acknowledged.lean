import ParsecCloud.Folder.PatternChange

/- What the acknowledgment of an upload leaves of a folder: the remote manifest is what to_remote has
   made of the local one, and the entries confined locally are restored over it. -/
namespace ParsecCloud
open Rust HashMap LocalFolderManifest UnconfinedLocalFolderManifest

/-- Each entry of the base that is hidden has its name to itself, or gives way to a confined entry:
    it stays hidden, or it is confined here under some name. -/
def HiddenStays (pattern : PreventSyncPattern) (m : LocalFolderManifest) : Prop :=
  ∀ name id, Hidden m name id →
    match m.children.lookup name with
    | none => pattern.isMatch name = true ∨ Holds m.children id
    | some other => other ∈ m.localConfinementPoints ∧
        (pattern.isMatch name = true ∨ other = id ∨ ¬ Holds m.children id)

theorem hiddenStays_of_wellConfined {pattern : PreventSyncPattern} {m : LocalFolderManifest}
    (confined : WellConfined pattern m) : HiddenStays pattern m := by
  intro name id hidden
  have matching := ((hidden_iff confined).mp hidden).2.1
  split
  · exact Or.inl matching
  · rename_i other there
    exact ⟨(mem_localPoints confined there).mpr matching, Or.inl matching⟩

section Acknowledged
variable {orders uploadOrders : FolderOrders} {pattern : PreventSyncPattern} {timestamp : DateTime}
variable {m r : LocalFolderManifest} {remote : FolderManifest} {data : ChildrenChanges}

abbrev acknowledged (orders : FolderOrders) (pattern : PreventSyncPattern) (remote : FolderManifest) :
    LocalFolderManifest :=
  newManifest orders (UnconfinedLocalFolderManifest.fromRemote remote) pattern

variable (uploaded : remote.children = (removeConfinement uploadOrders m).children)
include uploaded

theorem acknowledged_lookup {name : EntryName} {id : VlobID} :
    (acknowledged orders pattern remote).children.lookup name = some id ↔
      (Hidden m name id ∨ (¬ (∃ other, Hidden m name other) ∧ Unconfined m name id)) ∧
        pattern.isMatch name = false := by
  rw [newManifest_lookup rfl, ← lookup_removeConfinement uploadOrders, ← uploaded]
  rfl

theorem acknowledged_of_hidden {name : EntryName} {id : VlobID} (hidden : Hidden m name id)
    (unmatched : pattern.isMatch name = false) :
    (acknowledged orders pattern remote).children.lookup name = some id :=
  (acknowledged_lookup uploaded).mpr ⟨Or.inl hidden, unmatched⟩

theorem name_of_unconfined (children : Injective m.children) {name other : EntryName} {id : VlobID}
    (seen : Unconfined m name id) (found : remote.children.lookup other = some id) :
    other = name ∧ ¬ ∃ hidden, Hidden m name hidden := by
  rw [uploaded, lookup_removeConfinement] at found
  rcases found with hidden | ⟨free, seen'⟩
  · exact absurd ⟨name, seen⟩ hidden.2.2
  · have same := children other name id seen'.1 seen.1
    exact ⟨same, same ▸ free⟩

theorem injective_acknowledged (children : Injective m.children) (base : Injective m.base.children) :
    Injective (acknowledged orders pattern remote).children := by
  apply injective_hideBaseEntries
  change Injective remote.children
  rw [uploaded]
  exact injective_removeConfinement uploadOrders children base

section Result
variable (restoration : Restoration pattern m (acknowledged orders pattern remote) data)
variable (change : Evolved data pattern (acknowledged orders pattern remote) r)
include restoration change

theorem shown_of_hiddenStays (stays : HiddenStays pattern m) {name : EntryName} {id : VlobID}
    (found : r.children.lookup name = some id) : m.children.lookup name = some id := by
  rw [change.children] at found
  cases given : data.lookup name with
  | some entry =>
    rw [given] at found
    cases found
    exact (restoration.added name id given).1
  | none =>
    have unchanged : name ∉ data.keys := lookup_eq_none_iff.mp given
    rw [given] at found
    have before : (acknowledged orders pattern remote).children.lookup name = some id := found
    obtain ⟨hidden | ⟨-, seen⟩, unmatched⟩ := (acknowledged_lookup uploaded).mp before
    · have kept := stays name id hidden
      cases here : m.children.lookup name with
      | none =>
        rw [here] at kept
        rcases kept with matching | ⟨other, there⟩
        · rw [unmatched] at matching
          cases matching
        · -- the entry is confined under another name, so it leaves this one
          have point : id ∈ m.localConfinementPoints := by
            by_contra free
            exact hidden.2.2 ⟨other, there, free⟩
          have moved : name ≠ other := by
            rintro rfl
            rw [here] at there
            cases there
          exact absurd (restoration.renamed other id name ⟨there, point, before, moved⟩) unchanged
      | some other =>
        rw [here] at kept
        by_cases same : other = id
        · rw [same]
        · have restores : Restores pattern m (acknowledged orders pattern remote) name other := by
            refine ⟨here, Or.inl ⟨kept.1, ?_⟩⟩
            rw [before]
            exact fun again => same (Option.some.inj again).symm
          exact absurd (restoration.restored name other restores) unchanged
    · exact seen.1

theorem kept_of_hiddenStays (stays : HiddenStays pattern m) (children : Injective m.children)
    {name : EntryName} {id : VlobID} (there : m.children.lookup name = some id) :
    r.children.lookup name = some id := by
  rw [change.children]
  cases given : data.lookup name with
  | some entry =>
    cases entry with
    | some other =>
      have again := (restoration.added name other given).1
      rw [there] at again
      exact again.symm
    | none =>
      exfalso
      obtain ⟨other, moved, elsewhere, point, before, different⟩ := restoration.removed name given
      obtain ⟨hidden | ⟨-, seen⟩, unmatched⟩ := (acknowledged_lookup uploaded).mp before
      · have kept := stays name moved hidden
        rw [there] at kept
        rcases kept.2 with matching | same | absent
        · rw [unmatched] at matching
          cases matching
        · exact different (children name other moved (same ▸ there) elsewhere)
        · exact absent ⟨other, elsewhere⟩
      · exact seen.2 point
  | none =>
    have unrestored : ¬ Restores pattern m (acknowledged orders pattern remote) name id :=
      fun restores => lookup_eq_none_iff.mp given (restoration.restored name id restores)
    by_contra missing
    have absent : (acknowledged orders pattern remote).children.lookup name ≠ some id := missing
    have free : id ∉ m.localConfinementPoints :=
      fun point => unrestored ⟨there, Or.inl ⟨point, absent⟩⟩
    have alone : ¬ ∃ hidden, Hidden m name hidden := by
      rintro ⟨hidden, isHidden⟩
      have kept := stays name hidden isHidden
      rw [there] at kept
      exact free kept.1
    have based : remote.children.lookup name = some id := by
      rw [uploaded, lookup_removeConfinement]
      exact Or.inr ⟨alone, there, free⟩
    have matching : pattern.isMatch name = true := by
      rw [← Bool.not_eq_false]
      exact fun unmatched => absent
        ((acknowledged_lookup uploaded).mpr ⟨Or.inr ⟨alone, there, free⟩, unmatched⟩)
    refine unrestored ⟨there, Or.inr ⟨free, ?_, mem_valuesAt.mpr ⟨name, based, matching⟩, matching⟩⟩
    rintro ⟨other, found⟩
    obtain ⟨based', unmatched⟩ := (newManifest_lookup rfl).mp found
    rw [(name_of_unconfined uploaded children ⟨there, free⟩ based').1, matching] at unmatched
    cases unmatched

theorem children_of_hiddenStays (stays : HiddenStays pattern m) (children : Injective m.children) :
    r.children = m.children := by
  apply Finmap.ext_lookup
  intro name
  apply Option.ext
  intro id
  exact ⟨shown_of_hiddenStays uploaded restoration change stays,
    kept_of_hiddenStays uploaded restoration change stays children⟩

end Result

theorem acknowledge_spec (children : Injective m.children) (base : Injective m.base.children)
    (orders : FolderOrders) (pattern : PreventSyncPattern) (timestamp : DateTime) :
    ∃ r data, fromRemoteWithRestoredLocalConfinementPoints orders remote pattern m timestamp = .ok r ∧
      Restoration pattern m (acknowledged orders pattern remote) data ∧
      Evolved data pattern (acknowledged orders pattern remote) r := by
  apply applyConfinement_spec orders pattern timestamp _ children
  change Injective remote.children
  rw [uploaded]
  exact injective_removeConfinement uploadOrders children base

/-- A hidden entry whose name is free comes back under it, when the name does not match. -/
theorem shown_again {name : EntryName} {id : VlobID} (hidden : Hidden m name id)
    (free : m.children.lookup name = none) (unmatched : pattern.isMatch name = false)
    (absent : ¬ Holds m.children id)
    (restoration : Restoration pattern m (acknowledged orders pattern remote) data)
    (change : Evolved data pattern (acknowledged orders pattern remote) r) :
    r.children.lookup name = some id := by
  have new : (acknowledged orders pattern remote).children.lookup name = some id :=
    acknowledged_of_hidden uploaded hidden unmatched
  rw [change.children]
  cases given : data.lookup name with
  | none => exact new
  | some entry =>
    exfalso
    cases entry with
    | some other =>
      have there := (restoration.added name other given).1
      rw [free] at there
      cases there
    | none =>
      obtain ⟨other, moved, elsewhere, -, before, -⟩ := restoration.removed name given
      rw [new] at before
      cases before
      exact absent ⟨other, elsewhere⟩

/-- A hidden entry takes the name of an entry that is not confined. -/
theorem unconfined_lost {name : EntryName} {id other : VlobID} (hidden : Hidden m name id)
    (children : Injective m.children) (seen : Unconfined m name other)
    (restoration : Restoration pattern m (acknowledged orders pattern remote) data)
    (change : Evolved data pattern (acknowledged orders pattern remote) r) :
    r.children.lookup name ≠ some other := by
  intro found
  rw [change.children] at found
  cases given : data.lookup name with
  | some entry =>
    rw [given] at found
    cases found
    obtain ⟨-, ⟨point, -⟩ | ⟨-, -, matched, -⟩⟩ := restoration.added name other given
    · exact seen.2 point
    · obtain ⟨again, based, -⟩ := mem_valuesAt.mp matched
      exact (name_of_unconfined uploaded children seen based).2 ⟨id, hidden⟩
  | none =>
    rw [given] at found
    obtain ⟨here | ⟨alone, -⟩, -⟩ := (acknowledged_lookup uploaded).mp found
    · exact here.2.2 ⟨name, seen⟩
    · exact alone ⟨id, hidden⟩

/-- When a confined entry is to leave a name that is walked through first, whoever comes back under
    the name is removed again. -/
theorem removed_again {name moved : EntryName} {id other : VlobID} (hidden : Hidden m name id)
    (children : Injective m.children) (base : Injective m.base.children)
    (there : m.children.lookup name = some other) (different : other ≠ id)
    (elsewhere : m.children.lookup moved = some id) (unmatched : pattern.isMatch name = false)
    (run : fromRemoteWithRestoredLocalConfinementPoints (walkingFirst name) remote pattern m
      timestamp = .ok r) : r.children.lookup name = none := by
  have injective : Injective (acknowledged (walkingFirst name) pattern remote).children :=
    injective_acknowledged uploaded children base
  have point : id ∈ m.localConfinementPoints := by
    by_contra free
    exact hidden.2.2 ⟨moved, elsewhere, free⟩
  have apart : name ≠ moved := by
    rintro rfl
    rw [there] at elsewhere
    exact different (Option.some.inj elsewhere)
  have renames : Renames m (acknowledged (walkingFirst name) pattern remote) moved id name :=
    ⟨elsewhere, point, acknowledged_of_hidden uploaded hidden unmatched, apart⟩
  have walk : ∃ names, (walkingFirst name).existing.list m.children.keys = name :: names :=
    ⟨_, if_pos (mem_keys_iff.mpr ⟨other, there⟩)⟩
  obtain ⟨names, walk⟩ := walk
  have removed := restoreExisting_removed pattern children injective walk renames
  have restoration := restoreExisting_restoration pattern (walkingFirst name) children injective
  obtain ⟨r', evolved, change⟩ :=
    evolve_spec (walkingFirst name) pattern timestamp injective restoration.fits
  have same : r = r' := by
    unfold fromRemoteWithRestoredLocalConfinementPoints applyConfinement at run
    simp only at run
    rw [if_pos (Or.inl (Finset.ne_empty_of_mem point)), evolved] at run
    exact (Except.ok.inj run).symm
  rw [same, change.children, removed]
  rfl

/-- Whatever the order of the walks, the children stay exactly when the hidden entries do. -/
theorem acknowledged_children_iff (children : Injective m.children)
    (base : Injective m.base.children) (pattern : PreventSyncPattern) (timestamp : DateTime) :
    (∀ orders, ∃ r, fromRemoteWithRestoredLocalConfinementPoints orders remote pattern m timestamp =
        .ok r ∧ r.children = m.children) ↔ HiddenStays pattern m := by
  have spec := fun orders =>
    acknowledge_spec uploaded children base orders pattern timestamp
  constructor
  · intro all name id hidden
    obtain ⟨r, run, same⟩ := all someFolderOrders
    obtain ⟨r', data, run', restoration, change⟩ := spec someFolderOrders
    obtain rfl : r = r' := Except.ok.inj (run.symm.trans run')
    split
    · rename_i free
      by_contra shown
      obtain ⟨unmatched, absent⟩ := not_or.mp shown
      rw [Bool.not_eq_true] at unmatched
      have back := shown_again uploaded hidden free unmatched absent restoration change
      rw [same, free] at back
      cases back
    · rename_i other there
      constructor
      · by_contra free
        apply unconfined_lost uploaded hidden children ⟨there, free⟩ restoration change
        rw [same]
        exact there
      · by_contra lost
        simp only [not_or, not_not, Bool.not_eq_true] at lost
        obtain ⟨unmatched, different, moved, elsewhere⟩ := lost
        obtain ⟨r, run, same⟩ := all (walkingFirst name)
        have gone := removed_again uploaded hidden children base there different elsewhere
          unmatched run
        rw [same, there] at gone
        cases gone
  · intro stays orders
    obtain ⟨r, data, run, restoration, change⟩ := spec orders
    exact ⟨r, run, children_of_hiddenStays uploaded restoration change stays children⟩

end Acknowledged

/-- One entry is hidden by the pattern, and another one is new. -/
theorem acknowledged_children_iff_confinedFolder :
    ∃ r, fromRemoteWithRestoredLocalConfinementPoints someFolderOrders
      ((confinedFolder patternB (Finmap.singleton entryB ⟨1⟩) (Finmap.singleton entryA ⟨2⟩)).toRemote
        someFolderOrders ⟨0⟩ 5) patternB
      (confinedFolder patternB (Finmap.singleton entryB ⟨1⟩) (Finmap.singleton entryA ⟨2⟩)) 5 =
        .ok r ∧ r.children = Finmap.singleton entryA ⟨2⟩ :=
  (acknowledged_children_iff rfl injective_singleton injective_singleton patternB 5).mpr
    (hiddenStays_of_wellConfined ⟨injective_singleton, injective_singleton, rfl, rfl⟩) _

end ParsecCloud

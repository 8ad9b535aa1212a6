import ParsecCloud.Folder.Restore

/- A folder that is not flagged for synchronization has nothing to upload. -/
namespace ParsecCloud
open Rust HashMap LocalFolderManifest UnconfinedLocalFolderManifest

def NeedSyncSound (m : LocalFolderManifest) : Prop :=
  m.needSync = false →
    (∀ orders author timestamp, (m.toRemote orders author timestamp).children = m.base.children) ∧
      m.parent = m.base.parent

theorem evolved_sound {data : ChildrenChanges} {pattern : PreventSyncPattern}
    {m evolved : LocalFolderManifest} (injective : Injective m.children)
    (fits : ChangesFit data m.children) (change : Evolved data pattern m evolved)
    (sound : NeedSyncSound m) : NeedSyncSound evolved := by
  intro unflagged
  obtain ⟨uploaded, parent⟩ := sound (change.unflagged.mp unflagged).1
  constructor
  · intro orders author timestamp
    have same : (removeConfinement orders evolved).children = (removeConfinement orders m).children :=
      removeConfinement_congr change.base change.remotePoints
        (unconfined_of_unflagged injective fits change unflagged)
    rw [change.base, ← uploaded orders author timestamp]
    exact same
  · rw [change.parent, change.base, parent]

section NewManifest
variable {orders : FolderOrders} {m : UnconfinedLocalFolderManifest} {pattern : PreventSyncPattern}
variable (same : m.children = m.base.children)
include same

theorem newManifest_lookup {name : EntryName} {id : VlobID} :
    (newManifest orders m pattern).children.lookup name = some id ↔
      m.base.children.lookup name = some id ∧ pattern.isMatch name = false := by
  change (hideBaseEntries orders pattern m.base.children m.children).lookup name = some id ↔ _
  rw [lookup_hideBaseEntries, same]
  apply and_congr_right
  intro based
  simp [based]

theorem newManifest_unconfined {name : EntryName} {id : VlobID} :
    Unconfined (newManifest orders m pattern) name id ↔
      m.base.children.lookup name = some id ∧ pattern.isMatch name = false := by
  have none : id ∉ (newManifest orders m pattern).localConfinementPoints := by
    change id ∉ (newManifest orders m pattern).children.valuesAt pattern.isMatch
    rw [mem_valuesAt]
    rintro ⟨other, found, matching⟩
    rw [((newManifest_lookup same).mp found).2] at matching
    cases matching
  rw [Unconfined, newManifest_lookup same]
  exact and_iff_left none

theorem newManifest_hidden (injective : Injective m.base.children) {name : EntryName} {id : VlobID} :
    Hidden (newManifest orders m pattern) name id ↔
      m.base.children.lookup name = some id ∧ pattern.isMatch name = true := by
  simp only [Hidden, newManifest_unconfined same]
  change m.base.children.lookup name = some id ∧
    id ∈ m.base.children.valuesAt pattern.isMatch ∧ _ ↔ _
  rw [mem_valuesAt]
  constructor
  · rintro ⟨based, ⟨other, found, matching⟩, -⟩
    rw [injective name other id based found]
    exact ⟨found, matching⟩
  · rintro ⟨based, matching⟩
    refine ⟨based, ⟨name, based, matching⟩, ?_⟩
    rintro ⟨other, found, unmatched⟩
    rw [injective other name id found based, matching] at unmatched
    cases unmatched

end NewManifest

/-- The new manifest hides exactly the entries of the base that match the pattern. -/
theorem newManifest_sound (orders : FolderOrders) {m : UnconfinedLocalFolderManifest}
    (pattern : PreventSyncPattern) (injective : Injective m.base.children)
    (sound : m.needSync = false → m.children = m.base.children ∧ m.parent = m.base.parent) :
    NeedSyncSound (newManifest orders m pattern) := by
  intro unflagged
  obtain ⟨same, parent⟩ := sound unflagged
  refine ⟨?_, parent⟩
  intro orders' author timestamp
  apply Finmap.ext_lookup
  intro name
  apply Option.ext
  intro id
  change (removeConfinement orders' (newManifest orders m pattern)).children.lookup name = some id ↔
    m.base.children.lookup name = some id
  rw [lookup_removeConfinement]
  simp only [newManifest_hidden same injective, newManifest_unconfined same]
  cases pattern.isMatch name <;> simp

theorem applyConfinement_sound (orders : FolderOrders) {m : UnconfinedLocalFolderManifest}
    {existing : LocalFolderManifest} (pattern : PreventSyncPattern) (timestamp : DateTime)
    (children : Injective m.children) (base : Injective m.base.children)
    (existingInjective : Injective existing.children)
    (sound : m.needSync = false → m.children = m.base.children ∧ m.parent = m.base.parent) :
    ∃ r, m.applyConfinement orders existing pattern timestamp = .ok r ∧ NeedSyncSound r := by
  have newInjective : Injective (newManifest orders m pattern).children :=
    injective_hideBaseEntries children
  obtain ⟨r, data, run, restoration, change⟩ :=
    applyConfinement_spec orders pattern timestamp children existingInjective
  exact ⟨r, run, evolved_sound newInjective restoration.fits change
    (newManifest_sound orders pattern base sound)⟩

/-- Without anything to restore, both ways to take in a remote manifest are the same. -/
theorem newManifest_fromRemote (orders : FolderOrders) (remote : FolderManifest)
    (pattern : PreventSyncPattern) :
    newManifest orders (UnconfinedLocalFolderManifest.fromRemote remote) pattern =
      LocalFolderManifest.fromRemote remote pattern := by
  have children : hideBaseEntries orders pattern remote.children remote.children =
      remote.children.retain fun name _ => !pattern.isMatch name := by
    apply Finmap.ext_lookup
    intro name
    apply Option.ext
    intro id
    rw [lookup_hideBaseEntries, lookup_retain]
    apply and_congr_right
    intro found
    simp [found]
  have points : (remote.children.retain fun name _ => !pattern.isMatch name).valuesAt
      pattern.isMatch = ∅ := by
    rw [Finset.eq_empty_iff_forall_notMem]
    intro id member
    obtain ⟨name, found, matching⟩ := mem_valuesAt.mp member
    simp [lookup_retain, matching] at found
  simp only [newManifest, UnconfinedLocalFolderManifest.fromRemote, LocalFolderManifest.fromRemote,
    applyConfinementFromRemote, children, points]

theorem fromRemote_wellConfined {remote : FolderManifest} (pattern : PreventSyncPattern)
    (injective : Injective remote.children) :
    WellConfined pattern (LocalFolderManifest.fromRemote remote pattern) := by
  refine ⟨injective_retain injective, injective, ?_, rfl⟩
  rw [← newManifest_fromRemote someFolderOrders]
  rfl

end ParsecCloud

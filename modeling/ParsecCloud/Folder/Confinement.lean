import ParsecCloud.Folder.Evolve

/- The two views of a folder: what is seen locally, and what would be uploaded. -/
namespace ParsecCloud
open Rust HashMap LocalFolderManifest UnconfinedLocalFolderManifest

/-- An entry of the children that is not locally confined. -/
def Unconfined (m : LocalFolderManifest) (name : EntryName) (id : VlobID) : Prop :=
  m.children.lookup name = some id ∧ id ∉ m.localConfinementPoints

/-- An entry of the base that is hidden locally. -/
def Hidden (m : LocalFolderManifest) (name : EntryName) (id : VlobID) : Prop :=
  m.base.children.lookup name = some id ∧ id ∈ m.remoteConfinementPoints ∧
    ¬ ∃ other, Unconfined m other id

theorem lookup_withoutConfinedEntries {m : LocalFolderManifest} {name : EntryName} {id : VlobID} :
    (withoutConfinedEntries m).lookup name = some id ↔ Unconfined m name id := by
  unfold withoutConfinedEntries
  split
  · simp [lookup_retain, Unconfined]
  · rename_i empty
    simp [Unconfined, not_not.mp empty]

theorem hiddenEntry_eq {m : LocalFolderManifest} {a name : EntryName} {id : VlobID} :
    hiddenEntry m (withoutConfinedEntries m).values a = some (name, id) ↔
      a = name ∧ Hidden m name id := by
  have existing : ∀ id, id ∈ (withoutConfinedEntries m).values ↔ ∃ other, Unconfined m other id := by
    intro id
    simp only [mem_values, Holds, lookup_withoutConfinedEntries]
  unfold hiddenEntry
  constructor
  · intro found
    split at found
    · cases found
    · rename_i entryId based
      split at found
      · rename_i hidden
        cases found
        exact ⟨rfl, based, hidden.1, mt (existing _).mpr hidden.2⟩
      · cases found
  · rintro ⟨rfl, based, point, absent⟩
    simp only [based]
    rw [if_pos ⟨point, mt (existing _).mp absent⟩]

theorem lookup_removeConfinement (orders : FolderOrders) {m : LocalFolderManifest}
    {name : EntryName} {id : VlobID} :
    (removeConfinement orders m).children.lookup name = some id ↔
      Hidden m name id ∨ (¬ (∃ other, Hidden m name other) ∧ Unconfined m name id) := by
  unfold removeConfinement
  split
  · change (placeAll _ _ _).lookup name = some id ↔ _
    rw [placeAll_lookup]
    · have member : ∀ other, Hidden m name other → name ∈ m.base.children.keys :=
        fun other hidden => mem_keys_iff.mpr ⟨other, hidden.1⟩
      simp only [ne_eq, hiddenEntry_eq, lookup_withoutConfinedEntries, orders.base.mem_iff]
      constructor
      · rintro (⟨a, -, -, hidden⟩ | ⟨never, seen⟩)
        · exact Or.inl hidden
        · exact Or.inr ⟨fun ⟨w, hidden⟩ => never name (member w hidden) w ⟨rfl, hidden⟩, seen⟩
      · rintro (hidden | ⟨never, seen⟩)
        · exact Or.inl ⟨name, member id hidden, rfl, hidden⟩
        · exact Or.inr ⟨fun a _ w ⟨_, hidden⟩ => never ⟨w, hidden⟩, seen⟩
    · intro a _ b _ v w first second
      obtain ⟨rfl, first⟩ := hiddenEntry_eq.mp first
      obtain ⟨rfl, second⟩ := hiddenEntry_eq.mp second
      exact Option.some.inj (first.1.symm.trans second.1)
  · rename_i empty
    have visible : ∀ other, ¬ Hidden m name other := by
      rintro other ⟨-, point, -⟩
      simp [not_not.mp empty] at point
    simp [visible, lookup_withoutConfinedEntries]

theorem injective_removeConfinement (orders : FolderOrders) {m : LocalFolderManifest}
    (children : Injective m.children) (base : Injective m.base.children) :
    Injective (removeConfinement orders m).children := by
  intro name name' id first second
  rw [lookup_removeConfinement] at first second
  rcases first with hidden | ⟨-, seen⟩
  · rcases second with hidden' | ⟨-, seen⟩
    · exact base name name' id hidden.1 hidden'.1
    · exact absurd ⟨name', seen⟩ hidden.2.2
  · rcases second with hidden | ⟨-, seen'⟩
    · exact absurd ⟨name, seen⟩ hidden.2.2
    · exact children name name' id seen.1 seen'.1

theorem removeConfinement_congr {orders orders' : FolderOrders} {m m' : LocalFolderManifest}
    (base : m.base = m'.base) (points : m.remoteConfinementPoints = m'.remoteConfinementPoints)
    (unconfined : ∀ name id, Unconfined m name id ↔ Unconfined m' name id) :
    (removeConfinement orders m).children = (removeConfinement orders' m').children := by
  have hidden : ∀ name id, Hidden m name id ↔ Hidden m' name id := by
    intro name id
    simp only [Hidden, base, points, unconfined]
  apply Finmap.ext_lookup
  intro name
  apply Option.ext
  intro id
  simp only [lookup_removeConfinement, hidden, unconfined]

theorem unconfined_of_unflagged {data : ChildrenChanges} {pattern : PreventSyncPattern}
    {m evolved : LocalFolderManifest} (injective : Injective m.children)
    (fits : ChangesFit data m.children) (change : Evolved data pattern m evolved)
    (unflagged : evolved.needSync = false) (name : EntryName) (id : VlobID) :
    Unconfined evolved name id ↔ Unconfined m name id := by
  obtain ⟨-, removals, additions⟩ := change.unflagged.mp unflagged
  unfold Unconfined
  rw [change.children, change.localPoints]
  cases entry : data.lookup name with
  | some entry =>
    -- what this name had was confined, and what it gets is confined
    have member : name ∈ data.keys := mem_keys_iff.mpr ⟨_, entry⟩
    constructor
    · rintro ⟨found, unconfined⟩
      cases found
      exact absurd (Or.inr ⟨name, entry, additions name id entry⟩) unconfined
    · rintro ⟨found, unconfined⟩
      exact absurd (removals name member id found) unconfined
  | none =>
    have outside : name ∉ data.keys := lookup_eq_none_iff.mp entry
    apply and_congr_right
    intro found
    apply not_congr
    constructor
    · rintro (⟨confined, -⟩ | ⟨other, added, -⟩)
      · exact confined
      · exact absurd (fits.addsUnkept other name id added found) outside
    · intro confined
      refine Or.inl ⟨confined, ?_⟩
      rintro ⟨other, member, found'⟩
      exact outside (injective name other id found found' ▸ member)

/-- The confinement points are those of the pattern, and no id has two names. -/
structure WellConfined (pattern : PreventSyncPattern) (m : LocalFolderManifest) : Prop where
  children : Injective m.children
  base : Injective m.base.children
  localPoints : m.localConfinementPoints = m.children.valuesAt pattern.isMatch
  remotePoints : m.remoteConfinementPoints = m.base.children.valuesAt pattern.isMatch

section WellConfined
variable {pattern : PreventSyncPattern} {m : LocalFolderManifest} (confined : WellConfined pattern m)
include confined

theorem mem_localPoints {name : EntryName} {id : VlobID} (found : m.children.lookup name = some id) :
    id ∈ m.localConfinementPoints ↔ pattern.isMatch name = true := by
  rw [confined.localPoints, mem_valuesAt]
  constructor
  · rintro ⟨other, there, matching⟩
    exact confined.children other name id there found ▸ matching
  · exact fun matching => ⟨name, found, matching⟩

theorem unconfined_iff {name : EntryName} {id : VlobID} :
    Unconfined m name id ↔ m.children.lookup name = some id ∧ pattern.isMatch name = false := by
  apply and_congr_right
  intro found
  rw [mem_localPoints confined found, Bool.not_eq_true]

theorem hidden_iff {name : EntryName} {id : VlobID} :
    Hidden m name id ↔ m.base.children.lookup name = some id ∧ pattern.isMatch name = true ∧
      ¬ ∃ other, m.children.lookup other = some id ∧ pattern.isMatch other = false := by
  simp only [Hidden, unconfined_iff confined]
  apply and_congr_right
  intro based
  apply and_congr_left
  intro _
  rw [confined.remotePoints, mem_valuesAt]
  constructor
  · rintro ⟨other, there, matching⟩
    exact confined.base other name id there based ▸ matching
  · exact fun matching => ⟨name, based, matching⟩

/-- Hidden names match the pattern and the names that stay do not, so nothing is overwritten. -/
theorem lookup_upload (orders : FolderOrders) {name : EntryName} {id : VlobID} :
    (removeConfinement orders m).children.lookup name = some id ↔
      Hidden m name id ∨ Unconfined m name id := by
  rw [lookup_removeConfinement]
  apply or_congr Iff.rfl
  apply and_iff_right_of_imp
  rintro seen ⟨other, hidden⟩
  rw [unconfined_iff confined] at seen
  rw [hidden_iff confined, seen.2] at hidden
  cases hidden.2.1

theorem uploaded_or_confined (orders : FolderOrders) {name : EntryName} {id : VlobID}
    (found : m.children.lookup name = some id) :
    Holds (removeConfinement orders m).children id ∨ id ∈ m.localConfinementPoints := by
  by_cases point : id ∈ m.localConfinementPoints
  · exact Or.inr point
  · exact Or.inl ⟨name, (lookup_upload confined orders).mpr (Or.inr ⟨found, point⟩)⟩

theorem uploaded_of_base (orders : FolderOrders) {name : EntryName} {id : VlobID}
    (based : m.base.children.lookup name = some id) (matching : pattern.isMatch name = true) :
    Holds (removeConfinement orders m).children id := by
  by_cases seen : ∃ other, Unconfined m other id
  · obtain ⟨other, seen⟩ := seen
    exact ⟨other, (lookup_upload confined orders).mpr (Or.inr seen)⟩
  · refine ⟨name, (lookup_upload confined orders).mpr (Or.inl ⟨based, ?_, seen⟩)⟩
    rw [confined.remotePoints]
    exact mem_valuesAt.mpr ⟨name, based, matching⟩

end WellConfined

noncomputable def someFolderOrders : FolderOrders := ⟨.any _, .any _, .any _, .any _, .any _⟩

/-- Only the name b matches. -/
def patternB : PreventSyncPattern := ⟨[fun raw => raw == ['b']]⟩

def folderOf (version : Nat) (children : Children) : FolderManifest :=
  { author := ⟨0⟩, timestamp := 0, id := ⟨7⟩, parent := ⟨8⟩, version := version, created := 0
    updated := 0, children := children }

/-- A folder with these children, confined as the pattern says. -/
def confinedFolder (pattern : PreventSyncPattern) (base children : Children) : LocalFolderManifest :=
  { base := folderOf 1 base, parent := ⟨8⟩, needSync := true, updated := 0, children := children
    localConfinementPoints := children.valuesAt pattern.isMatch
    remoteConfinementPoints := base.valuesAt pattern.isMatch, speculative := false }

end ParsecCloud

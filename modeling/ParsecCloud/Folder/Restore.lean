import ParsecCloud.Folder.Confinement

/- Which existing entries are restored when a pattern is applied, and how. -/
namespace ParsecCloud
open Rust HashMap LocalFolderManifest UnconfinedLocalFolderManifest

section Hide
variable {orders : FolderOrders} {pattern : PreventSyncPattern} {base children : Children}

theorem lookup_hideBaseEntry {name other : EntryName} {id : VlobID} :
    (hideBaseEntry pattern base children name).lookup other = some id ↔
      children.lookup other = some id ∧
        ¬ (other = name ∧ pattern.isMatch name = true ∧ base.lookup name = some id) := by
  unfold hideBaseEntry
  cases based : base.lookup name with
  | none => simp
  | some entryId =>
    simp only
    split
    · rename_i hidden
      rw [lookup_erase_ite]
      by_cases this : other = name
      · subst this
        simp [hidden.1, hidden.2]
      · simp [this]
    · rename_i seen
      constructor
      · intro found
        refine ⟨found, ?_⟩
        rintro ⟨rfl, matching, same⟩
        cases same
        exact seen ⟨matching, found⟩
      · exact And.left

theorem lookup_hideBaseEntries {name : EntryName} {id : VlobID} :
    (hideBaseEntries orders pattern base children).lookup name = some id ↔
      children.lookup name = some id ∧
        ¬ (pattern.isMatch name = true ∧ base.lookup name = some id) := by
  have walked : ∀ name id, (hideBaseEntries orders pattern base children).lookup name = some id ↔
      children.lookup name = some id ∧ ¬ (name ∈ orders.base.list base.keys ∧
        pattern.isMatch name = true ∧ base.lookup name = some id) := by
    apply foldl_list (P := fun done (s : Children) => ∀ name id, s.lookup name = some id ↔
      children.lookup name = some id ∧
        ¬ (name ∈ done ∧ pattern.isMatch name = true ∧ base.lookup name = some id))
    · simp
    · intro done a rest s split hidden name id
      rw [lookup_hideBaseEntry, hidden, and_assoc]
      apply and_congr_right
      intro _
      rw [← not_or, List.mem_append, List.mem_singleton, or_and_right]
      apply not_congr
      apply or_congr Iff.rfl
      constructor
      · rintro ⟨rfl, matched⟩
        exact ⟨rfl, matched⟩
      · rintro ⟨rfl, matched⟩
        exact ⟨rfl, matched⟩
  rw [walked, orders.base.mem_iff]
  apply and_congr_right
  intro _
  apply not_congr
  exact and_iff_right_of_imp fun matched => mem_keys_iff.mpr ⟨id, matched.2⟩

theorem injective_hideBaseEntries (injective : Injective children) :
    Injective (hideBaseEntries orders pattern base children) :=
  fun name name' id first second => injective name name' id (lookup_hideBaseEntries.mp first).1
    (lookup_hideBaseEntries.mp second).1

end Hide

section Restore
variable (pattern : PreventSyncPattern) (existing : LocalFolderManifest) (new : LocalFolderManifest)

/-- An existing entry that comes back: it was confined and has not got its name, or it has just
    been hidden and is to be confined. -/
def Restores (name : EntryName) (id : VlobID) : Prop :=
  existing.children.lookup name = some id ∧
    ((id ∈ existing.localConfinementPoints ∧ new.children.lookup name ≠ some id) ∨
      (id ∉ existing.localConfinementPoints ∧ ¬ Holds new.children id ∧
        id ∈ new.remoteConfinementPoints ∧ pattern.isMatch name = true))

/-- An existing confined entry that is in the new manifest under a previous name. -/
def Renames (name : EntryName) (id : VlobID) (previous : EntryName) : Prop :=
  existing.children.lookup name = some id ∧ id ∈ existing.localConfinementPoints ∧
    new.children.lookup previous = some id ∧ previous ≠ name

variable {pattern existing new} {orders : FolderOrders}

theorem restores_of_renames (injective : Injective new.children) {name previous : EntryName}
    {id : VlobID} (renames : Renames existing new name id previous) :
    Restores pattern existing new name id := by
  obtain ⟨there, confined, before, moved⟩ := renames
  exact ⟨there, Or.inl ⟨confined, fun same => moved (injective previous name id before same)⟩⟩

theorem restoreHidden_known {s : Restoring} {points : Finset VlobID} {name : EntryName} {id : VlobID}
    (known : id ∈ s.newEntryIds.keys) : s.restoreHidden pattern points name id = s := by
  unfold Restoring.restoreHidden
  rw [if_neg]
  exact fun hidden => hidden.1 known

variable (pattern) in
theorem restoreOne_cases {s : Restoring} {name : EntryName}
    (unseen : ∀ id, existing.children.lookup name = some id →
      ∀ other, s.newEntryIds.lookup id = some other ↔ new.children.lookup other = some id) :
    ((∀ id, ¬ Restores pattern existing new name id) ∧
      restoreOne pattern existing new.remoteConfinementPoints s name = s) ∨
    (∃ id previous, Restores pattern existing new name id ∧ Renames existing new name id previous ∧
      restoreOne pattern existing new.remoteConfinementPoints s name =
        ⟨(s.changes.insert previous none).insert name (some id), s.newEntryIds.insert id name⟩) ∨
    (∃ id, Restores pattern existing new name id ∧
      (∀ previous, ¬ Renames existing new name id previous) ∧
      restoreOne pattern existing new.remoteConfinementPoints s name =
        ⟨s.changes.insert name (some id), s.newEntryIds.insert id name⟩) := by
  unfold restoreOne
  cases there : existing.children.lookup name with
  | none =>
    refine Or.inl ⟨?_, rfl⟩
    rintro id ⟨found, -⟩
    rw [there] at found
    cases found
  | some id =>
    have seen := unseen id there
    have known : id ∈ s.newEntryIds.keys ↔ Holds new.children id := by
      simp only [mem_keys_iff, seen, Holds]
    simp only
    by_cases confined : id ∈ existing.localConfinementPoints ∧ new.children.lookup name ≠ some id
    · have restores : Restores pattern existing new name id := ⟨there, Or.inl confined⟩
      have next : (s.restoreConfined existing name id).restoreHidden pattern
          new.remoteConfinementPoints name id =
          ⟨(s.removePrevious id).insert name (some id), s.newEntryIds.insert id name⟩ := by
        have step : s.restoreConfined existing name id =
            ⟨(s.removePrevious id).insert name (some id), s.newEntryIds.insert id name⟩ :=
          if_pos ⟨confined.1, mt (seen name).mp confined.2⟩
        rw [step, restoreHidden_known]
        simp [keys_insert]
      cases before : s.newEntryIds.lookup id with
      | some previous =>
        have old := (seen previous).mp before
        have moved : previous ≠ name := fun same => confined.2 (same ▸ old)
        refine Or.inr (Or.inl ⟨id, previous, restores, ⟨there, confined.1, old, moved⟩, ?_⟩)
        rw [next, Restoring.removePrevious, before]
      | none =>
        refine Or.inr (Or.inr ⟨id, restores, ?_, ?_⟩)
        · rintro previous ⟨-, -, old, -⟩
          rw [(seen previous).mpr old] at before
          cases before
        · rw [next, Restoring.removePrevious, before]
    · have step : s.restoreConfined existing name id = s := by
        unfold Restoring.restoreConfined
        rw [if_neg]
        exact fun again => confined ⟨again.1, mt (seen name).mpr again.2⟩
      rw [step]
      by_cases hidden : id ∉ s.newEntryIds.keys ∧ id ∈ new.remoteConfinementPoints ∧
          pattern.isMatch name = true
      · have absent : ¬ Holds new.children id := mt known.mpr hidden.1
        have free : id ∉ existing.localConfinementPoints :=
          fun point => confined ⟨point, fun found => absent ⟨name, found⟩⟩
        refine Or.inr (Or.inr ⟨id, ⟨there, Or.inr ⟨free, absent, hidden.2⟩⟩, ?_, if_pos hidden⟩)
        rintro previous ⟨-, point, -⟩
        exact free point
      · refine Or.inl ⟨?_, if_neg hidden⟩
        rintro other ⟨found, restored⟩
        rw [there] at found
        cases found
        rcases restored with again | ⟨-, absent, rest⟩
        · exact confined again
        · exact hidden ⟨mt known.mp absent, rest⟩

variable (pattern existing new) in
/-- What the changes are after the turns for these names. -/
structure Walked (done : List EntryName) (s : Restoring) : Prop where
  unseen : ∀ id, (∀ name ∈ done, existing.children.lookup name ≠ some id) →
    ∀ other, s.newEntryIds.lookup id = some other ↔ new.children.lookup other = some id
  added : ∀ name id, s.changes.lookup name = some (some id) → Restores pattern existing new name id
  removed : ∀ name, s.changes.lookup name = some none → ∃ other id, Renames existing new other id name
  restored : ∀ name ∈ done, ∀ id, Restores pattern existing new name id → name ∈ s.changes.keys
  renamed : ∀ name ∈ done, ∀ id previous, Renames existing new name id previous →
    previous ∈ s.changes.keys

theorem walked_step {s : Restoring} {done : List EntryName} {name : EntryName} {id : VlobID}
    {changes : ChildrenChanges} (walked : Walked pattern existing new done s)
    (restores : Restores pattern existing new name id)
    (more : ∀ other entry, changes.lookup other = some entry →
      s.changes.lookup other = some entry ∨ (entry = none ∧ Renames existing new name id other))
    (kept : ∀ other ∈ s.changes.keys, other ∈ changes.keys)
    (renamed : ∀ previous, Renames existing new name id previous → previous ∈ changes.keys) :
    Walked pattern existing new (done ++ [name])
      ⟨changes.insert name (some id), s.newEntryIds.insert id name⟩ := by
  refine ⟨?_, ?_, ?_, ?_, ?_⟩
  · intro other unseen before
    have different : other ≠ id := by
      rintro rfl
      exact unseen name (by simp) restores.1
    rw [Finmap.lookup_insert_of_ne _ different]
    exact walked.unseen other (fun n member => unseen n (by simp [member])) before
  · intro n other found
    rw [lookup_insert_ite] at found
    split at found
    · rename_i same
      cases found
      exact same ▸ restores
    · rcases more n _ found with old | ⟨none, -⟩
      · exact walked.added n other old
      · cases none
  · intro n found
    rw [lookup_insert_ite] at found
    split at found
    · cases found
    · rcases more n _ found with old | ⟨-, renames⟩
      · exact walked.removed n old
      · exact ⟨name, id, renames⟩
  · intro n member other restored
    rw [keys_insert, Finset.mem_insert]
    rcases List.mem_append.mp member with before | this
    · exact Or.inr (kept n (walked.restored n before other restored))
    · exact Or.inl (List.mem_singleton.mp this)
  · intro n member other previous renames
    rw [keys_insert, Finset.mem_insert]
    rcases List.mem_append.mp member with before | this
    · exact Or.inr (kept previous (walked.renamed n before other previous renames))
    · obtain rfl := List.mem_singleton.mp this
      have same : other = id := Option.some.inj (renames.1.symm.trans restores.1)
      exact Or.inr (renamed previous (same ▸ renames))

theorem walked_nothing {s : Restoring} {done : List EntryName} {name : EntryName}
    (injective : Injective new.children) (never : ∀ id, ¬ Restores pattern existing new name id)
    (walked : Walked pattern existing new done s) :
    Walked pattern existing new (done ++ [name]) s := by
  refine ⟨?_, walked.added, walked.removed, ?_, ?_⟩
  · intro id unseen
    exact walked.unseen id fun n member => unseen n (by simp [member])
  · intro n member id restores
    rcases List.mem_append.mp member with before | this
    · exact walked.restored n before id restores
    · obtain rfl := List.mem_singleton.mp this
      exact absurd restores (never id)
  · intro n member id previous renames
    rcases List.mem_append.mp member with before | this
    · exact walked.renamed n before id previous renames
    · obtain rfl := List.mem_singleton.mp this
      exact absurd (restores_of_renames injective renames) (never id)

section Walk
variable {s : Restoring} {done rest : List EntryName} {name : EntryName}
variable (split : orders.existing.list existing.children.keys = done ++ name :: rest)
variable (existingInjective : Injective existing.children)
variable (walked : Walked pattern existing new done s)
include split existingInjective walked

theorem unseen_id (id : VlobID) (there : existing.children.lookup name = some id) (other : EntryName) :
    s.newEntryIds.lookup id = some other ↔ new.children.lookup other = some id := by
  apply walked.unseen id
  intro n member found
  exact orders.existing.notMem_done split (existingInjective n name id found there ▸ member)

theorem walked_next (newInjective : Injective new.children) :
    Walked pattern existing new (done ++ [name])
      (restoreOne pattern existing new.remoteConfinementPoints s name) := by
  obtain ⟨never, next⟩ | ⟨id, previous, restores, renames, next⟩ | ⟨id, restores, never, next⟩ :=
    restoreOne_cases pattern (unseen_id split existingInjective walked)
  · rw [next]
    exact walked_nothing newInjective never walked
  · rw [next]
    apply walked_step walked restores
    · intro other entry found
      rw [lookup_insert_ite] at found
      split at found
      · rename_i same
        exact Or.inr ⟨(Option.some.inj found).symm, same ▸ renames⟩
      · exact Or.inl found
    · intro other member
      simp [keys_insert, member]
    · intro other again
      rw [newInjective other previous id again.2.2.1 renames.2.2.1]
      simp [keys_insert]
  · rw [next]
    apply walked_step walked restores
    · exact fun other entry found => Or.inl found
    · exact fun other member => member
    · exact fun previous renames => absurd renames (never previous)

/-- The turn that renames an entry removes its previous name, and no other turn but the one for
    that name gives it back. -/
theorem removed_next (newInjective : Injective new.children) {moved previous : EntryName}
    {other : VlobID} (renames : Renames existing new moved other previous)
    (different : previous ≠ name)
    (removed : moved ∈ done → s.changes.lookup previous = some none)
    (reached : moved ∈ done ++ [name]) :
    (restoreOne pattern existing new.remoteConfinementPoints s name).changes.lookup previous =
      some none := by
  have now : moved ∉ done → moved = name := fun later => by simpa [later] using reached
  obtain ⟨never, next⟩ | ⟨id, previous', restores, renames', next⟩ | ⟨id, restores, never, next⟩ :=
    restoreOne_cases pattern (unseen_id split existingInjective walked)
  · rw [next]
    apply removed
    by_contra later
    exact never other (now later ▸ restores_of_renames newInjective renames)
  · rw [next]
    change Finmap.lookup previous (Finmap.insert name _ _) = _
    rw [Finmap.lookup_insert_of_ne _ different, lookup_insert_ite]
    split
    · rfl
    · rename_i apart
      apply removed
      by_contra later
      have there := renames.1
      rw [now later, restores.1] at there
      cases there
      exact apart (newInjective previous previous' _ renames.2.2.1 renames'.2.2.1)
  · rw [next]
    change Finmap.lookup previous (Finmap.insert name _ _) = _
    rw [Finmap.lookup_insert_of_ne _ different]
    apply removed
    by_contra later
    have there := renames.1
    rw [now later, restores.1] at there
    cases there
    exact never previous (now later ▸ renames)

end Walk

variable (orders pattern) in
theorem walked_first (newInjective : Injective new.children) :
    Walked pattern existing new []
      { changes := ∅, newEntryIds := reversed orders.reverse new.children } := by
  refine ⟨?_, by simp, by simp, by simp, by simp⟩
  intro id _ other
  exact lookup_reversed orders.reverse newInjective other id

variable (orders pattern) in
theorem restoreExisting_spec (existingInjective : Injective existing.children)
    (newInjective : Injective new.children) :
    Walked pattern existing new (orders.existing.list existing.children.keys)
      (restoreExisting orders pattern existing new) := by
  apply foldl_list
  · exact walked_first pattern orders newInjective
  · intro done name rest s split walked
    exact walked_next split existingInjective walked newInjective

variable (pattern) in
/-- A name walked through before the entry that was to leave it is removed for good. -/
theorem restoreExisting_removed (existingInjective : Injective existing.children)
    (newInjective : Injective new.children) {moved previous : EntryName} {other : VlobID}
    {names : List EntryName}
    (walk : orders.existing.list existing.children.keys = previous :: names)
    (renames : Renames existing new moved other previous) :
    (restoreExisting orders pattern existing new).changes.lookup previous = some none := by
  have inv : Walked pattern existing new (orders.existing.list existing.children.keys)
        (restoreExisting orders pattern existing new) ∧
      (moved ∈ orders.existing.list existing.children.keys →
        (restoreExisting orders pattern existing new).changes.lookup previous = some none) := by
    apply foldl_list (P := fun done (s : Restoring) => Walked pattern existing new done s ∧
      (moved ∈ done → s.changes.lookup previous = some none))
    · exact ⟨walked_first pattern orders newInjective, by simp⟩
    · rintro done name rest s split ⟨walked, removed⟩
      refine ⟨walked_next split existingInjective walked newInjective, ?_⟩
      intro reached
      apply removed_next split existingInjective walked newInjective renames _ removed reached
      rintro rfl
      -- the name comes first, so nothing has been reached before it
      have fresh := orders.existing.notMem_done split
      rw [walk] at split
      cases done with
      | nil => exact renames.2.2.2 (List.mem_singleton.mp reached).symm
      | cons first done =>
        cases split
        simp at fresh
  apply inv.2
  rw [orders.existing.mem_iff]
  exact mem_keys_iff.mpr ⟨other, renames.1⟩

variable (pattern existing new) in
/-- What the changes are in the end. -/
structure Restoration (data : ChildrenChanges) : Prop where
  added : ∀ name id, data.lookup name = some (some id) → Restores pattern existing new name id
  removed : ∀ name, data.lookup name = some none → ∃ other id, Renames existing new other id name
  restored : ∀ name id, Restores pattern existing new name id → name ∈ data.keys
  renamed : ∀ name id previous, Renames existing new name id previous → previous ∈ data.keys

variable (pattern orders) in
theorem restoreExisting_restoration (existingInjective : Injective existing.children)
    (newInjective : Injective new.children) :
    Restoration pattern existing new (restoreExisting orders pattern existing new).changes := by
  have walked := restoreExisting_spec pattern orders existingInjective newInjective
  have all : ∀ name id, existing.children.lookup name = some id →
      name ∈ orders.existing.list existing.children.keys := by
    intro name id there
    rw [orders.existing.mem_iff]
    exact mem_keys_iff.mpr ⟨id, there⟩
  refine ⟨walked.added, walked.removed, ?_, ?_⟩
  · intro name id restores
    exact walked.restored name (all name id restores.1) id restores
  · intro name id previous renames
    exact walked.renamed name (all name id renames.1) id previous renames

theorem Restoration.fits {data : ChildrenChanges}
    (restoration : Restoration pattern existing new data) : ChangesFit data new.children := by
  constructor
  · intro name gone
    obtain ⟨other, id, -, -, before, -⟩ := restoration.removed name gone
    exact mem_keys_iff.mpr ⟨id, before⟩
  · intro name other id added before
    obtain ⟨there, ⟨confined, moved⟩ | ⟨-, absent, -⟩⟩ := restoration.added name id added
    · apply restoration.renamed name id other
      exact ⟨there, confined, before, fun same => moved (same ▸ before)⟩
    · exact absurd ⟨other, before⟩ absent

end Restore

/-- Applying a pattern does not panic; the result is the new manifest with the existing entries
    restored. -/
theorem applyConfinement_spec (orders : FolderOrders) {m : UnconfinedLocalFolderManifest}
    {existing : LocalFolderManifest} (pattern : PreventSyncPattern) (timestamp : DateTime)
    (children : Injective m.children) (existingInjective : Injective existing.children) :
    ∃ r data, m.applyConfinement orders existing pattern timestamp = .ok r ∧
      Restoration pattern existing (newManifest orders m pattern) data ∧
      Evolved data pattern (newManifest orders m pattern) r := by
  have newInjective : Injective (newManifest orders m pattern).children :=
    injective_hideBaseEntries children
  unfold applyConfinement
  simp only
  split
  · have restoration := restoreExisting_restoration pattern orders existingInjective newInjective
    obtain ⟨r, run, change⟩ := evolve_spec orders pattern timestamp newInjective restoration.fits
    exact ⟨r, _, run, restoration, change⟩
  · rename_i nothing
    obtain ⟨noLocal, noRemote⟩ := not_or.mp nothing
    refine ⟨_, ∅, rfl, ?_, ?_⟩
    · refine ⟨by simp, by simp, ?_, ?_⟩
      · rintro name id ⟨-, ⟨point, -⟩ | ⟨-, -, point, -⟩⟩
        · simp [not_not.mp noLocal] at point
        · simp [not_not.mp noRemote] at point
      · rintro name id previous ⟨-, point, -⟩
        simp [not_not.mp noLocal] at point
    · exact ⟨rfl, rfl, rfl, by simp, by simp, by simp⟩

end ParsecCloud

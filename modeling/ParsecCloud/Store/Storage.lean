import ParsecCloud.Store.Cache

/- The local database of a workspace (libparsec_platform_storage, workspace.rs). A row of the
   vlobs table is the manifest it holds: it is written under the identifier of the manifest. The
   rows are in the order in which they are listed, which an update keeps. -/
namespace ParsecCloud
open Rust HashMap

/-- The row of the prevent_sync_pattern table. -/
structure PatternRow where
  pattern : String
  fullyApplied : Bool

structure WorkspaceStorage where
  vlobs : List LocalChildManifest
  preventSyncPattern : PatternRow
  unique : (vlobs.map LocalChildManifest.id).Nodup

inductive PopulateManifestOutcome where
  | stored
  | alreadyPresent

namespace WorkspaceStorage

def getManifest (storage : WorkspaceStorage) (entryId : VlobID) : Option LocalChildManifest :=
  storage.vlobs.find? fun row => row.id = entryId

/-- The rows after a manifest is written. -/
def writeRow (rows : List LocalChildManifest) (manifest : LocalChildManifest) :
    List LocalChildManifest :=
  if manifest.id ∈ rows.map LocalChildManifest.id then
    rows.map fun row => if row.id = manifest.id then manifest else row
  else rows ++ [manifest]

theorem ids_replaced (rows : List LocalChildManifest) (manifest : LocalChildManifest) :
    (rows.map fun row => if row.id = manifest.id then manifest else row).map LocalChildManifest.id =
      rows.map LocalChildManifest.id := by
  induction rows with
  | nil => rfl
  | cons row rest ih =>
    rw [List.map_cons, List.map_cons, List.map_cons, ih]
    split
    · rename_i same
      rw [same]
    · rfl

theorem unique_writeRow {rows : List LocalChildManifest} (manifest : LocalChildManifest)
    (unique : (rows.map LocalChildManifest.id).Nodup) :
    ((writeRow rows manifest).map LocalChildManifest.id).Nodup := by
  unfold writeRow
  split
  · rw [ids_replaced]
    exact unique
  · rename_i absent
    rw [List.map_append, List.nodup_append]
    refine ⟨unique, by simp, ?_⟩
    intro id member other isNew same
    rw [List.map_singleton, List.mem_singleton] at isNew
    rw [same, isNew] at member
    exact absent member

def updateManifest (storage : WorkspaceStorage) (manifest : LocalChildManifest) :
    WorkspaceStorage where
  vlobs := writeRow storage.vlobs manifest
  preventSyncPattern := storage.preventSyncPattern
  unique := unique_writeRow manifest storage.unique

/-- The writes of one transaction. -/
def updateManifests (storage : WorkspaceStorage) (manifests : List LocalChildManifest) :
    WorkspaceStorage :=
  manifests.foldl updateManifest storage

/-- A row that is already there stays. -/
def populateManifest (storage : WorkspaceStorage) (manifest : LocalChildManifest) :
    PopulateManifestOutcome × WorkspaceStorage :=
  match storage.getManifest manifest.id with
  | some _ => (.alreadyPresent, storage)
  | none => (.stored, storage.updateManifest manifest)

def listManifests (storage : WorkspaceStorage) (offset limit : Nat) : List LocalChildManifest :=
  (storage.vlobs.drop offset).take limit

/-- The result is whether the pattern is already applied to every manifest. -/
def setPreventSyncPattern (storage : WorkspaceStorage) (pattern : String) :
    Bool × WorkspaceStorage :=
  if storage.preventSyncPattern.pattern ≠ pattern then
    (false, { storage with preventSyncPattern := ⟨pattern, false⟩ })
  else (storage.preventSyncPattern.fullyApplied, storage)

def markPreventSyncPatternFullyApplied (storage : WorkspaceStorage) (pattern : String) :
    Except String WorkspaceStorage :=
  if storage.preventSyncPattern.pattern = pattern then
    .ok { storage with preventSyncPattern := ⟨pattern, true⟩ }
  else .error "Pattern mismatch"

variable {storage : WorkspaceStorage}

theorem id_of_getManifest {id : VlobID} {manifest : LocalChildManifest}
    (found : storage.getManifest id = some manifest) : manifest.id = id := by
  simpa using List.find?_some found

theorem find_replaced (rows : List LocalChildManifest) (manifest : LocalChildManifest) (id : VlobID) :
    (rows.map fun row => if row.id = manifest.id then manifest else row).find? (·.id = id) =
      if id = manifest.id ∧ id ∈ rows.map LocalChildManifest.id then some manifest
      else rows.find? (·.id = id) := by
  induction rows with
  | nil => simp
  | cons row rest ih =>
    by_cases here : row.id = id
    · by_cases written : id = manifest.id
      · simp [here, written]
      · simp [here, written]
    · by_cases same : row.id = manifest.id
      · have other : ¬ manifest.id = id := fun back => here (same.trans back)
        have later : ¬ id = manifest.id := fun back => other back.symm
        simp [same, other, later, ih]
      · simp [same, here, ih, Ne.symm here]

@[simp] theorem getManifest_updateManifest (manifest : LocalChildManifest) (id : VlobID) :
    (storage.updateManifest manifest).getManifest id =
      if id = manifest.id then some manifest else storage.getManifest id := by
  simp only [getManifest, updateManifest, writeRow]
  split
  · rename_i present
    rw [find_replaced]
    by_cases same : id = manifest.id
    · simp [same, present]
    · simp [same]
  · rename_i absent
    rw [List.find?_append]
    by_cases same : id = manifest.id
    · have none : storage.vlobs.find? (·.id = id) = none := by
        rw [List.find?_eq_none]
        intro row member here
        exact absent (List.mem_map.mpr ⟨row, member, by simpa [same] using here⟩)
      rw [none]
      simp [same]
    · simp [same, Ne.symm same]

theorem populateManifest_cases {manifest : LocalChildManifest} {outcome : PopulateManifestOutcome}
    {storage' : WorkspaceStorage} (run : storage.populateManifest manifest = (outcome, storage')) :
    (outcome = .stored ∧ storage.getManifest manifest.id = none ∧
        storage' = storage.updateManifest manifest) ∨
      (outcome = .alreadyPresent ∧ storage' = storage) := by
  unfold populateManifest at run
  split at run
  · cases run
    exact Or.inr ⟨rfl, rfl⟩
  · rename_i absent
    cases run
    exact Or.inl ⟨rfl, absent, rfl⟩

/-- Whether a pattern is already applied is all that its row says; the manifests stay. -/
theorem setPreventSyncPattern_cases {pattern : String} {fullyApplied : Bool}
    {storage' : WorkspaceStorage}
    (set : storage.setPreventSyncPattern pattern = (fullyApplied, storage')) :
    storage'.vlobs = storage.vlobs ∧
      (fullyApplied = true ↔ storage.preventSyncPattern = ⟨pattern, true⟩) := by
  unfold setPreventSyncPattern at set
  obtain ⟨rows, ⟨text, applied⟩, unique⟩ := storage
  split at set
  · rename_i other
    cases set
    exact ⟨rfl, by simpa using fun same => absurd same other⟩
  · rename_i same
    cases set
    rw [not_not] at same
    exact ⟨rfl, by simp_all⟩

end WorkspaceStorage
end ParsecCloud

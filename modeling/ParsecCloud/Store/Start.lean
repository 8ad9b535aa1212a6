import ParsecCloud.Store.Storage
import ParsecCloud.Folder.Evolve

/- How a workspace store starts: the root manifest is loaded, and every stored folder is
   rewritten when the prevent sync pattern has changed (store/mod.rs and
   store/prevent_sync_pattern.rs). -/
namespace ParsecCloud
open Rust HashMap

deriving instance DecidableEq for FolderManifest
deriving instance DecidableEq for LocalFolderManifest

structure WorkspaceStore where
  realmId : VlobID
  storage : WorkspaceStorage
  cache : CurrentViewCache
  preventSyncPattern : PreventSyncPattern

inductive StartError where
  | cannotLoadWorkspaceManifest
  | applyPreventSyncPattern (error : String)
  | panicked (panic : Panic)

/-- The new pattern, its text, and for each folder the clock and the orders when it is applied. -/
structure NewPattern where
  text : String
  pattern : PreventSyncPattern
  now : VlobID → DateTime
  orders : VlobID → FolderOrders

def LocalFolderManifest.newRoot (author : DeviceID) (realm : VlobID) (timestamp : DateTime)
    (speculative : Bool) : LocalFolderManifest where
  base :=
    { author := author, timestamp := timestamp, id := realm, parent := realm, version := 0
      created := timestamp, updated := timestamp, children := ∅ }
  parent := realm
  needSync := true
  updated := timestamp
  children := ∅
  localConfinementPoints := ∅
  remoteConfinementPoints := ∅
  speculative := speculative

namespace NewPattern

def apply (new : NewPattern) (folder : LocalFolderManifest) : Checked LocalFolderManifest :=
  folder.applyPreventSyncPattern (new.orders folder.base.id) new.pattern (new.now folder.base.id)

/-- The folders of a page that the pattern changes. -/
def updatedManifests (new : NewPattern) :
    List LocalChildManifest → Checked (List LocalChildManifest)
  | [] => .ok []
  | .file _ :: rest => updatedManifests new rest
  | .folder folder :: rest => do
    let newFolder ← new.apply folder
    let updated ← updatedManifests new rest
    if newFolder ≠ folder then return .folder newFolder :: updated else return updated

end NewPattern

def pageSize : Nat := 1000

/-- The loop over the pages; a bound on their number comes first. -/
def applyToPages (new : NewPattern) : Nat → Nat → WorkspaceStorage → Checked WorkspaceStorage
  | 0, _, storage => .ok storage
  | pages + 1, offset, storage => do
    let manifests := storage.listManifests offset pageSize
    let updated ← new.updatedManifests manifests
    let storage := storage.updateManifests updated
    if manifests.length < pageSize then return storage
    else applyToPages new pages (offset + pageSize) storage

def ensurePreventSyncPatternAppliedToWksp (new : NewPattern) (storage : WorkspaceStorage) :
    Except StartError WorkspaceStorage :=
  let (fullyApplied, storage) := storage.setPreventSyncPattern new.text
  if fullyApplied then .ok storage
  else
    match applyToPages new (storage.vlobs.length / pageSize + 1) 0 storage with
    | .error panic => .error (.panicked panic)
    | .ok storage =>
      match storage.markPreventSyncPatternFullyApplied new.text with
      | .error error => .error (.applyPreventSyncPattern error)
      | .ok storage => .ok storage

/-- The stored root manifest, or else a speculative one that is stored. -/
def loadRootManifest (deviceId : DeviceID) (realmId : VlobID) (timestamp : DateTime)
    (storage : WorkspaceStorage) : Except StartError (LocalFolderManifest × WorkspaceStorage) :=
  match storage.getManifest realmId with
  | some (.folder rootManifest) =>
    if rootManifest.base.id ≠ rootManifest.parent then .error .cannotLoadWorkspaceManifest
    else .ok (rootManifest, storage)
  | some (.file _) => .error .cannotLoadWorkspaceManifest
  | none =>
    let manifest := LocalFolderManifest.newRoot deviceId realmId timestamp true
    .ok (manifest, storage.updateManifest (.folder manifest))

def WorkspaceStore.start (deviceId : DeviceID) (realmId : VlobID) (timestamp : DateTime)
    (new : NewPattern) (storage : WorkspaceStorage) : Except StartError WorkspaceStore := do
  let (rootManifest, storage) ← loadRootManifest deviceId realmId timestamp storage
  let storage ← ensurePreventSyncPatternAppliedToWksp new storage
  return { realmId := realmId, storage := storage, cache := ⟨.new rootManifest, ∅⟩
           preventSyncPattern := new.pattern }

/-- A row after the pattern is applied to it. -/
def NewPattern.rewrite (new : NewPattern) : LocalChildManifest → Checked LocalChildManifest
  | .file manifest => .ok (.file manifest)
  | .folder folder => do
    let newFolder ← new.apply folder
    return .folder newFolder

theorem evolve_base {orders : FolderOrders} {data : ChildrenChanges} {pattern : PreventSyncPattern}
    {timestamp : DateTime} {m evolved : LocalFolderManifest}
    (run : m.evolveChildrenAndMarkUpdated orders data pattern timestamp = .ok evolved) :
    evolved.base = m.base ∧ evolved.parent = m.parent := by
  unfold LocalFolderManifest.evolveChildrenAndMarkUpdated at run
  obtain ⟨removed, -, run⟩ := bind_eq_ok.mp run
  obtain ⟨_, -, run⟩ := bind_eq_ok.mp run
  dsimp only at run
  split at run
  · cases run
    exact ⟨rfl, rfl⟩
  · cases run
    exact ⟨rfl, rfl⟩

theorem NewPattern.apply_base {new : NewPattern} {folder newFolder : LocalFolderManifest}
    (run : new.apply folder = .ok newFolder) : newFolder.base = folder.base := by
  unfold NewPattern.apply LocalFolderManifest.applyPreventSyncPattern
    UnconfinedLocalFolderManifest.applyConfinement at run
  dsimp only at run
  split at run
  · exact (evolve_base run).1
  · cases run
    rfl

theorem NewPattern.rewrite_id {new : NewPattern} {row newRow : LocalChildManifest}
    (run : new.rewrite row = .ok newRow) : newRow.id = row.id := by
  cases row with
  | file manifest =>
    cases run
    rfl
  | folder folder =>
    obtain ⟨newFolder, applied, done⟩ := bind_eq_ok.mp run
    cases done
    rw [LocalChildManifest.folder_id, NewPattern.apply_base applied]
    rfl

theorem writeRow_middle {before after : List LocalChildManifest} {row manifest : LocalChildManifest}
    (unique : ((before ++ row :: after).map LocalChildManifest.id).Nodup)
    (same : manifest.id = row.id) :
    WorkspaceStorage.writeRow (before ++ row :: after) manifest = before ++ manifest :: after := by
  have others : ∀ other ∈ before ++ after, other.id ≠ manifest.id := by
    intro other member again
    rw [List.map_append, List.map_cons, List.nodup_middle, ← List.map_append] at unique
    rw [same] at again
    exact (List.nodup_cons.mp unique).1 (List.mem_map.mpr ⟨other, member, again⟩)
  have kept : ∀ rows : List LocalChildManifest, (∀ other ∈ rows, other ∈ before ++ after) →
      rows.map (fun row => if row.id = manifest.id then manifest else row) = rows := by
    intro rows subset
    conv_rhs => rw [← List.map_id rows]
    apply List.map_congr_left
    intro other member
    exact if_neg (others other (subset other member))
  rw [WorkspaceStorage.writeRow, if_pos (by simp [same]), List.map_append, List.map_cons,
    kept before (by simp +contextual), kept after (by simp +contextual), if_pos same.symm]

theorem updateManifests_page {new : NewPattern} {before page after updated : List LocalChildManifest}
    {storage : WorkspaceStorage} (run : new.updatedManifests page = .ok updated)
    (split : storage.vlobs = before ++ page ++ after) :
    ∃ newPage, page.mapM new.rewrite = .ok newPage ∧
      (storage.updateManifests updated).vlobs = before ++ newPage ++ after := by
  induction page generalizing before storage updated with
  | nil =>
    cases run
    exact ⟨[], rfl, split⟩
  | cons row rest ih =>
    cases row with
    | file manifest =>
      obtain ⟨newPage, rewritten, rows⟩ := @ih (before ++ [.file manifest]) _ storage run
        (by rw [split]; simp)
      refine ⟨.file manifest :: newPage, ?_, by rw [rows]; simp⟩
      simp [List.mapM_cons, NewPattern.rewrite, rewritten]
    | folder folder =>
      obtain ⟨newFolder, applied, run⟩ := bind_eq_ok.mp run
      obtain ⟨later, laterRun, done⟩ := bind_eq_ok.mp run
      have first : new.rewrite (.folder folder) = .ok (.folder newFolder) := by
        simp [NewPattern.rewrite, applied]
      have regroup : before ++ .folder folder :: rest ++ after =
          before ++ .folder folder :: (rest ++ after) := by simp
      rw [regroup] at split
      have unique := storage.unique
      rw [split] at unique
      have replaced : WorkspaceStorage.writeRow storage.vlobs (.folder newFolder) =
          before ++ [.folder newFolder] ++ rest ++ after := by
        rw [split, writeRow_middle unique (NewPattern.rewrite_id first)]
        simp
      split at done
      · cases done
        obtain ⟨newPage, rewritten, rows⟩ :=
          @ih (before ++ [LocalChildManifest.folder newFolder]) later
            (storage.updateManifest (.folder newFolder)) laterRun replaced
        refine ⟨.folder newFolder :: newPage, by simp [List.mapM_cons, first, rewritten], ?_⟩
        change ((storage.updateManifest (.folder newFolder)).updateManifests later).vlobs = _
        rw [rows]
        simp
      · rename_i same
        cases done
        rw [not_not] at same
        subst same
        obtain ⟨newPage, rewritten, rows⟩ := @ih (before ++ [.folder newFolder]) _ storage laterRun
          (by rw [split]; simp)
        refine ⟨.folder newFolder :: newPage, by simp [List.mapM_cons, first, rewritten], ?_⟩
        rw [rows]
        simp

theorem applyToPages_rows {new : NewPattern} {pages : Nat} {done rest : List LocalChildManifest}
    {storage storage' : WorkspaceStorage} (split : storage.vlobs = done ++ rest)
    (enough : rest.length < pages * pageSize)
    (run : applyToPages new pages done.length storage = .ok storage') :
    ∃ newRest, rest.mapM new.rewrite = .ok newRest ∧ storage'.vlobs = done ++ newRest := by
  induction pages generalizing done rest storage with
  | zero => simp at enough
  | succ pages ih =>
    have page : storage.listManifests done.length pageSize = rest.take pageSize := by
      rw [WorkspaceStorage.listManifests, split, List.drop_left]
    unfold applyToPages at run
    rw [page] at run
    obtain ⟨updated, updates, run⟩ := bind_eq_ok.mp run
    have whole : storage.vlobs = done ++ rest.take pageSize ++ rest.drop pageSize := by
      rw [split, List.append_assoc, List.take_append_drop]
    obtain ⟨newPage, rewritten, rows⟩ := updateManifests_page updates whole
    have twoParts := List.take_append_drop pageSize rest
    split at run
    · rename_i short
      cases run
      have all : rest.take pageSize = rest := by
        apply List.take_of_length_le
        rw [List.length_take] at short
        omega
      rw [all] at rewritten
      rw [List.drop_eq_nil_of_le (by rw [← all]; exact short.le), List.append_nil] at rows
      exact ⟨newPage, rewritten, rows⟩
    · rename_i full
      rw [List.length_take] at full
      have length : newPage.length = pageSize := by
        rw [mapM_length rewritten, List.length_take]
        omega
      rw [← length, ← List.length_append] at run
      rw [Nat.add_mul] at enough
      have fewer : (rest.drop pageSize).length < pages * pageSize := by
        rw [List.length_drop]
        omega
      obtain ⟨newRest, later, final⟩ := ih rows fewer run
      refine ⟨newPage ++ newRest, ?_, by rw [final, List.append_assoc]⟩
      rw [← twoParts, List.mapM_append, rewritten, later]
      rfl

theorem applyToPages_all {new : NewPattern} {storage storage' : WorkspaceStorage}
    (run : applyToPages new (storage.vlobs.length / pageSize + 1) 0 storage = .ok storage') :
    storage.vlobs.mapM new.rewrite = .ok storage'.vlobs := by
  have enough : storage.vlobs.length < (storage.vlobs.length / pageSize + 1) * pageSize := by
    rw [Nat.mul_comm]
    exact Nat.lt_mul_div_succ _ (by decide)
  obtain ⟨newRows, rewritten, rows⟩ :=
    @applyToPages_rows new _ [] storage.vlobs storage storage' rfl enough run
  rw [rewritten, rows]
  rfl

theorem find_rewritten {new : NewPattern} {rows newRows : List LocalChildManifest} {id : VlobID}
    {row : LocalChildManifest} (run : rows.mapM new.rewrite = .ok newRows)
    (found : rows.find? (·.id = id) = some row) :
    ∃ newRow, new.rewrite row = .ok newRow ∧ newRows.find? (·.id = id) = some newRow := by
  induction rows generalizing newRows with
  | nil => cases found
  | cons first rest ih =>
    rw [List.mapM_cons] at run
    obtain ⟨newFirst, rewritten, run⟩ := bind_eq_ok.mp run
    obtain ⟨newRest, later, done⟩ := bind_eq_ok.mp run
    cases done
    have sameId := NewPattern.rewrite_id rewritten
    by_cases here : first.id = id
    · rw [List.find?_cons_of_pos (by simpa using here)] at found
      cases found
      exact ⟨newFirst, rewritten, List.find?_cons_of_pos (by simpa [sameId] using here)⟩
    · rw [List.find?_cons_of_neg (by simpa using here)] at found
      obtain ⟨newRow, isNew, foundNew⟩ := ih later found
      refine ⟨newRow, isNew, ?_⟩
      rw [List.find?_cons_of_neg (by simpa [sameId] using here)]
      exact foundNew

theorem apply_newRoot (new : NewPattern) (author : DeviceID) (realm : VlobID) (timestamp : DateTime)
    (speculative : Bool) :
    new.apply (.newRoot author realm timestamp speculative) =
      .ok (.newRoot author realm timestamp speculative) := by
  have empty : HashMap.valuesAt new.pattern.isMatch (∅ : Children) = ∅ := by
    rw [Finset.eq_empty_iff_forall_notMem]
    intro id member
    simp at member
  simp [NewPattern.apply, LocalFolderManifest.applyPreventSyncPattern,
    LocalFolderManifest.newRoot, UnconfinedLocalFolderManifest.removeConfinement,
    UnconfinedLocalFolderManifest.withoutConfinedEntries,
    UnconfinedLocalFolderManifest.applyConfinement, UnconfinedLocalFolderManifest.newManifest,
    UnconfinedLocalFolderManifest.hideBaseEntries, empty]

theorem loadRootManifest_cases {deviceId : DeviceID} {realmId : VlobID} {timestamp : DateTime}
    {storage storage' : WorkspaceStorage} {root : LocalFolderManifest}
    (loaded : loadRootManifest deviceId realmId timestamp storage = .ok (root, storage')) :
    storage'.getManifest realmId = some (.folder root) ∧
      storage'.preventSyncPattern = storage.preventSyncPattern ∧
      (storage.getManifest realmId = some (.folder root) ∨
        storage.getManifest realmId = none ∧ root = .newRoot deviceId realmId timestamp true) := by
  unfold loadRootManifest at loaded
  split at loaded
  · rename_i stored found
    split at loaded
    · cases loaded
    · cases loaded
      exact ⟨found, rfl, Or.inl found⟩
  · cases loaded
  · rename_i absent
    cases loaded
    refine ⟨?_, rfl, Or.inr ⟨absent, rfl⟩⟩
    rw [WorkspaceStorage.getManifest_updateManifest]
    exact if_pos rfl

theorem applyToPages_folder {new : NewPattern} {storage storage' : WorkspaceStorage} {id : VlobID}
    {folder : LocalFolderManifest}
    (run : applyToPages new (storage.vlobs.length / pageSize + 1) 0 storage = .ok storage')
    (found : storage.getManifest id = some (.folder folder)) :
    ∃ newFolder, new.apply folder = .ok newFolder ∧
      storage'.getManifest id = some (.folder newFolder) := by
  obtain ⟨newRow, rewritten, foundNew⟩ := find_rewritten (applyToPages_all run) found
  obtain ⟨newFolder, applied, done⟩ := bind_eq_ok.mp rewritten
  cases done
  exact ⟨newFolder, applied, foundNew⟩

theorem ensureApplied_folder {new : NewPattern} {storage storage' : WorkspaceStorage} {id : VlobID}
    {folder : LocalFolderManifest}
    (run : ensurePreventSyncPatternAppliedToWksp new storage = .ok storage')
    (found : storage.getManifest id = some (.folder folder)) :
    (storage.preventSyncPattern = ⟨new.text, true⟩ ∧
        storage'.getManifest id = some (.folder folder)) ∨
      storage.preventSyncPattern ≠ ⟨new.text, true⟩ ∧
        ∃ newFolder, new.apply folder = .ok newFolder ∧
          storage'.getManifest id = some (.folder newFolder) := by
  unfold ensurePreventSyncPatternAppliedToWksp at run
  obtain ⟨fullyApplied, storageSet, set⟩ :
      ∃ fullyApplied storageSet, storage.setPreventSyncPattern new.text = (fullyApplied, storageSet) :=
    ⟨_, _, rfl⟩
  simp only [set] at run
  obtain ⟨vlobs, alreadyApplied⟩ := WorkspaceStorage.setPreventSyncPattern_cases set
  have foundSet : storageSet.getManifest id = some (.folder folder) := by
    rw [WorkspaceStorage.getManifest, vlobs]
    exact found
  split at run
  · rename_i applied
    cases run
    exact Or.inl ⟨alreadyApplied.mp applied, foundSet⟩
  · rename_i unapplied
    refine Or.inr ⟨fun same => unapplied (alreadyApplied.mpr same), ?_⟩
    split at run
    · cases run
    · rename_i paged pages
      obtain ⟨newFolder, applied, foundNew⟩ := applyToPages_folder pages foundSet
      refine ⟨newFolder, applied, ?_⟩
      unfold WorkspaceStorage.markPreventSyncPatternFullyApplied at run
      split at run
      · cases run
      · rename_i marked mark
        cases run
        split at mark
        · cases mark
          exact foundNew
        · cases mark

end ParsecCloud

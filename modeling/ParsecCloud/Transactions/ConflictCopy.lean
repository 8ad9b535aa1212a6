import ParsecCloud.File.ReleaseBuild
import ParsecCloud.Transactions.InboundConflict

/- What is stored when a local file is in conflict, and when its copy is uploaded. -/
namespace ParsecCloud
open Rust HashMap LocalFolderManifest UnconfinedLocalFolderManifest CountedSearch

/-- What would be uploaded for the folder is what its base already has. -/
def UploadsBase (m : LocalFolderManifest) : Prop :=
  ∀ orders author timestamp, (m.toRemote orders author timestamp).children = m.base.children

section Upload
variable {parent : LocalFolderManifest} {name : EntryName} {newId : VlobID}
  (free : name ∉ parent.children.keys) (unconfined : newId ∉ parent.localConfinementPoints)
  (unbased : ¬ Holds parent.base.children newId)

include free unconfined in
theorem unconfined_inserted {other : EntryName} {id : VlobID} :
    Unconfined { parent with children := parent.children.insert name newId } other id ↔
      Unconfined parent other id ∨ other = name ∧ id = newId := by
  have unused : parent.children.lookup name = none := lookup_eq_none_iff.mpr free
  simp only [Unconfined, lookup_insert_ite]
  constructor
  · rintro ⟨found, outside⟩
    split at found
    · rename_i same
      cases found
      exact Or.inr ⟨same, rfl⟩
    · exact Or.inl ⟨found, outside⟩
  · rintro (⟨found, outside⟩ | ⟨rfl, rfl⟩)
    · refine ⟨?_, outside⟩
      rw [if_neg, found]
      rintro rfl
      rw [unused] at found
      cases found
    · exact ⟨by simp, unconfined⟩

include free unconfined unbased

theorem hidden_inserted {other : EntryName} {id : VlobID} :
    Hidden { parent with children := parent.children.insert name newId } other id ↔
      Hidden parent other id := by
  simp only [Hidden, unconfined_inserted free unconfined]
  apply and_congr_right
  intro based
  have differ : id ≠ newId := by
    rintro rfl
    exact unbased ⟨other, based⟩
  simp [differ]

/-- A new entry is uploaded, unless the base has an entry of that name that is only hidden. -/
theorem uploadsBase_inserted :
    UploadsBase { parent with children := parent.children.insert name newId } ↔
      (∃ id, Hidden parent name id) ∧ UploadsBase parent := by
  have lookup : ∀ orders other id,
      (removeConfinement orders
          { parent with children := parent.children.insert name newId }).children.lookup other =
          some id ↔
        Hidden parent other id ∨ (¬ (∃ hidden, Hidden parent other hidden) ∧
          (Unconfined parent other id ∨ other = name ∧ id = newId)) := by
    intro orders other id
    rw [lookup_removeConfinement]
    simp only [hidden_inserted free unconfined unbased, unconfined_inserted free unconfined]
  have sameWhenHidden : (∃ id, Hidden parent name id) → ∀ orders,
      (removeConfinement orders { parent with children := parent.children.insert name newId }).children =
        (removeConfinement orders parent).children := by
    intro hidden orders
    apply Finmap.ext_lookup
    intro other
    apply Option.ext
    intro id
    rw [lookup, lookup_removeConfinement]
    apply or_congr_right
    apply and_congr_right
    intro visible
    have elsewhere : other ≠ name := by
      rintro rfl
      exact visible hidden
    simp [elsewhere]
  constructor
  · intro uploads
    have hidden : ∃ id, Hidden parent name id := by
      by_contra visible
      apply unbased
      refine ⟨name, ?_⟩
      have uploaded := (lookup (⟨.any _, .any _, .any _, .any _, .any _⟩) name newId).mpr
        (Or.inr ⟨visible, Or.inr ⟨rfl, rfl⟩⟩)
      rw [← uploads ⟨.any _, .any _, .any _, .any _, .any _⟩ ⟨0⟩ 0]
      exact uploaded
    refine ⟨hidden, fun orders author timestamp => ?_⟩
    rw [← uploads orders author timestamp]
    exact (sameWhenHidden hidden orders).symm
  · rintro ⟨hidden, uploads⟩ orders author timestamp
    rw [← uploads orders author timestamp]
    exact sameWhenHidden hidden orders

end Upload

theorem clean_conflictParts (context : ConflictContext) (childId : VlobID)
    (parent : LocalFolderManifest) :
    CleanParts (context.conflictParts childId parent).1 (context.conflictParts childId parent).2 := by
  unfold ConflictContext.conflictParts
  split
  · exact clean_prefixAndSuffix _
  · split
    · exact clean_prefixAndSuffix _
    · exact clean_of_all (by decide)

theorem cachedOrPopulated_cases {store store' : WorkspaceStore} {context : ConflictContext}
    {entryId : VlobID} {manifest : LocalChildManifest}
    (got : store.cachedOrPopulated context entryId = .ok (.ok (manifest, store'))) :
    manifest.id = entryId ∧
      store'.cache.manifests.rootManifestId = store.cache.manifests.rootManifestId := by
  unfold WorkspaceStore.cachedOrPopulated at got
  split at got
  · rename_i found
    cases got
    exact ⟨ManifestsHashMap.id_of_get found, rfl⟩
  · split at got
    · cases got
    · rename_i populated
      obtain ⟨manifests, inserted, done⟩ := bind_eq_ok.mp got
      cases done
      refine ⟨context.populated _ _ populated, ?_⟩
      rcases ManifestsHashMap.insertIfMissing_cases inserted with same | ⟨-, inserted⟩
      · rw [same]
      · exact (ManifestsHashMap.insert_cases inserted).1

theorem intoSyncConflictUpdater_cases {store lockedStore : WorkspaceStore}
    {context : ConflictContext} {parentId : VlobID} {parent : LocalFolderManifest}
    (locked : store.intoSyncConflictUpdater context parentId = .ok (.ok (parent, lockedStore))) :
    parentId ∉ store.cache.lockUpdateManifests ∧ parent.base.id = parentId ∧
      lockedStore.cache.manifests.rootManifestId = store.cache.manifests.rootManifestId := by
  unfold WorkspaceStore.intoSyncConflictUpdater at locked
  split at locked
  · cases locked
  · rename_i locks taken
    have free : parentId ∉ store.cache.lockUpdateManifests := by
      intro held
      rw [PerManifestUpdateLock.take, if_pos held] at taken
      cases taken
    obtain ⟨outcome, got, locked⟩ := bind_eq_ok.mp locked
    split at locked
    · cases locked
    · cases locked
    · cases locked
      obtain ⟨isParent, sameRoot⟩ := cachedOrPopulated_cases got
      exact ⟨free, isParent, sameRoot⟩

/-- A file in conflict with the remote manifest of its entry: the lock of the entry is held, the
    one of its parent is taken too, and the identifier that is drawn is not in use. -/
structure FileConflict (context : ConflictContext) (store : WorkspaceStore)
    (child : LocalFileManifest) (remote : ChildManifest) (parent : LocalFolderManifest)
    (lockedStore : WorkspaceStore) : Prop where
  held : child.base.id ∈ store.cache.lockUpdateManifests
  cached : store.cache.manifests.get child.base.id = some (.file child)
  sameEntry : remote.id = child.base.id
  parentLocked : store.intoSyncConflictUpdater context child.parent = .ok (.ok (parent, lockedStore))
  writes : context.writes = .ok ()
  newChild : context.newId ≠ child.base.id
  newParent : context.newId ≠ child.parent
  newRoot : context.newId ≠ store.cache.manifests.rootManifestId
  unconfined : context.newId ∉ parent.localConfinementPoints
  unbased : ¬ Holds parent.base.children context.newId
  normalized : KeptByNfc context.nfc (context.conflictParts child.base.id parent).1
    (context.conflictParts child.base.id parent).2

/-- The manifest is in the storage and in the cache. -/
def StoredAs (store : WorkspaceStore) (id : VlobID) (manifest : LocalChildManifest) : Prop :=
  store.storage.getManifest id = some manifest ∧ store.cache.manifests.get id = some manifest

/-- The conflict gives the entry its remote manifest and adds a copy of the local file to the
    parent, which is to be uploaded unless its upload is what its base already has. -/
def ConflictKept (context : ConflictContext) (store : WorkspaceStore) (child : LocalFileManifest)
    (remote : ChildManifest) (parent : LocalFolderManifest) : Prop :=
  ∃ store' merged copy newParent name,
    handleConflictAndUpdateStore context store (.file child) remote =
      .ok (.ok (.updated remote.parent), store') ∧
    remote.fromRemote store.preventSyncPattern = .ok merged ∧
    StoredAs store' child.base.id merged ∧
    StoredAs store' context.newId (.file copy) ∧
    copy.size = child.size ∧ copy.blocksize = child.blocksize ∧ copy.blocks = child.blocks ∧
    copy.parent = child.parent ∧
    StoredAs store' child.parent (.folder newParent) ∧
    name ∉ parent.children.keys ∧
    newParent.children = parent.children.insert name context.newId ∧
    (newParent.needSync = false → UploadsBase newParent)

section Conflict
variable {context : ConflictContext} {store lockedStore : WorkspaceStore}
  {child : LocalFileManifest} {remote : ChildManifest} {parent : LocalFolderManifest}

theorem ChildManifest.fromRemote_id {pattern : PreventSyncPattern} {merged : LocalChildManifest}
    (converted : remote.fromRemote pattern = .ok merged) : merged.id = remote.id := by
  cases remote with
  | file remote =>
    obtain ⟨manifest, run, done⟩ := bind_eq_ok.mp converted
    cases done
    exact congrArg FileManifest.id (fromRemote_named run).2
  | folder remote =>
    cases converted
    rfl

theorem insertConflicting_eq_ok {originalId newId : VlobID} {newParent : LocalFolderManifest} :
    context.insertConflictingNewChildInParent originalId newId parent = .ok newParent ↔
      ∃ name, searchConflictName context.nfc (context.conflictParts originalId parent).1
          (context.conflictParts originalId parent).2 parent.children.keys = .ok name ∧
        newParent = { parent with children := parent.children.insert name newId } := by
  unfold ConflictContext.insertConflictingNewChildInParent
  rw [bind_eq_ok]
  apply exists_congr
  intro name
  apply and_congr_right
  intro _
  constructor
  · rintro ⟨⟩
    rfl
  · rintro rfl
    rfl

theorem handle_locked (conflict : FileConflict context store child remote parent lockedStore) :
    handleConflictAndUpdateStore context store (.file child) remote =
      (do
        let merged ← remote.fromRemote store.preventSyncPattern
        let newParent ← context.insertConflictingNewChildInParent child.base.id context.newId parent
        let store' ← SyncConflictUpdater.updateManifests lockedStore merged newParent
          (.file (conflictingManifest context child))
        return (.ok (.updated remote.parent),
          (store'.release child.base.id).release child.parent)) := by
  unfold handleConflictAndUpdateStore
  dsimp only
  rw [conflict.parentLocked]
  simp only [ok_bind, conflict.writes]
  rfl

theorem handle_stores (conflict : FileConflict context store child remote parent lockedStore)
    {merged : LocalChildManifest} {newParent : LocalFolderManifest}
    (converted : remote.fromRemote store.preventSyncPattern = .ok merged)
    (inserted : context.insertConflictingNewChildInParent child.base.id context.newId parent =
      .ok newParent) :
    ∃ store', handleConflictAndUpdateStore context store (.file child) remote =
        .ok (.ok (.updated remote.parent), store') ∧
      StoredAs store' child.base.id merged ∧
      StoredAs store' context.newId (.file (conflictingManifest context child)) ∧
      StoredAs store' child.parent (.folder newParent) := by
  obtain ⟨free, isParent, sameRoot⟩ := intoSyncConflictUpdater_cases conflict.parentLocked
  have mergedId : merged.id = child.base.id :=
    (ChildManifest.fromRemote_id converted).trans conflict.sameEntry
  have parentId : newParent.base.id = child.parent := by
    obtain ⟨name, -, rfl⟩ := insertConflicting_eq_ok.mp inserted
    exact isParent
  have copyId : (LocalChildManifest.file (conflictingManifest context child)).id = context.newId :=
    rfl
  have otherEntry : child.base.id ≠ child.parent := by
    intro same
    rw [← same] at free
    exact free conflict.held
  have notRoot : child.base.id ≠ store.cache.manifests.rootManifestId := by
    intro same
    have found := conflict.cached
    rw [same, ManifestsHashMap.get_root] at found
    cases found
  obtain ⟨written, run⟩ : ∃ written, SyncConflictUpdater.updateManifests lockedStore merged newParent
      (.file (conflictingManifest context child)) = .ok written := by
    apply write_ok
    intro manifest member isRoot
    rw [sameRoot] at isRoot
    simp only [List.mem_cons, List.not_mem_nil, or_false] at member
    rcases member with rfl | rfl | rfl
    · exact ⟨newParent, rfl⟩
    · exact absurd (mergedId.symm.trans isRoot) notRoot
    · exact absurd isRoot conflict.newRoot
  have wrote := SyncConflictUpdater.updateManifests_wrote
    (by rw [mergedId, parentId]; exact otherEntry) run
  have entries : ∀ id manifest,
      lastWritten [merged, .folder newParent, .file (conflictingManifest context child)] id =
        some manifest →
      StoredAs ((written.release child.base.id).release child.parent) id manifest := by
    intro id manifest last
    refine ⟨(wrote.stored id).trans ?_, (wrote.cached id).trans ?_⟩
    · rw [last]
      rfl
    · rw [last]
      rfl
  refine ⟨_, ?_, entries _ _ ?_, entries _ _ ?_, entries _ _ ?_⟩
  · rw [handle_locked conflict, converted, ok_bind, inserted, ok_bind, run]
    rfl
  · simp only [lastWritten_cons, copyId, mergedId, LocalChildManifest.folder_id, parentId,
      if_neg conflict.newChild.symm, if_neg otherEntry]
    simp [lastWritten]
  · simp only [lastWritten_cons, copyId]
    simp [lastWritten]
  · simp only [lastWritten_cons, copyId, LocalChildManifest.folder_id, parentId,
      if_neg conflict.newParent.symm]
    simp [lastWritten]

/-- The name that is tried for the copy. -/
def copyName (context : ConflictContext) (originalChildId : VlobID) (parent : LocalFolderManifest)
    (attempt : Nat) : Checked EntryName :=
  buildNextConflictName context.nfc attempt (context.conflictParts originalChildId parent).1
    (context.conflictParts originalChildId parent).2

/-- The first name that is free for the copy is one that the base of the parent has, for an entry
    that is not synchronized. -/
def FreeNameHidden (context : ConflictContext) (originalChildId : VlobID)
    (parent : LocalFolderManifest) : Prop :=
  ∃ name id,
    FirstFree (copyName context originalChildId parent) parent.children.keys 2 name ∧
    Hidden parent name id

/-- When the conflict is handled as it should be. -/
def ConflictRule (context : ConflictContext) (store : WorkspaceStore) (child : LocalFileManifest)
    (remote : ChildManifest) (parent : LocalFolderManifest) : Prop :=
  (∃ merged, remote.fromRemote store.preventSyncPattern = .ok merged) ∧
  AttemptsFit context.nfc (context.conflictParts child.base.id parent).1
    (context.conflictParts child.base.id parent).2 parent.children.keys ∧
  (parent.needSync = true ∨ UploadsBase parent ∧ FreeNameHidden context child.base.id parent)

theorem rule_of_kept (conflict : FileConflict context store child remote parent lockedStore)
    (kept : ConflictKept context store child remote parent) :
    ConflictRule context store child remote parent := by
  obtain ⟨store', merged, copy, newParent, _, run, converted, -, -, -, -, -, -, isParent, -, -, rule⟩ :=
    kept
  obtain ⟨inserted, insertion⟩ : ∃ inserted,
      context.insertConflictingNewChildInParent child.base.id context.newId parent =
        .ok inserted := by
    rw [handle_locked conflict, converted, ok_bind] at run
    obtain ⟨inserted, done, -⟩ := bind_eq_ok.mp run
    exact ⟨inserted, done⟩
  obtain ⟨name, search, isInserted⟩ := insertConflicting_eq_ok.mp insertion
  have attempts := (searchConflictName_ends_iff conflict.normalized (clean_conflictParts _ _ _)).mp
    ⟨name, search⟩
  refine ⟨⟨merged, converted⟩, attempts, ?_⟩
  -- The parent that is stored is the one with the new name, and with its flag unchanged.
  obtain ⟨final, runAgain, -, -, isInsertedParent⟩ := handle_stores conflict converted insertion
  rw [runAgain] at run
  cases run
  have sameParent := isInsertedParent.1.symm.trans isParent.1
  cases sameParent
  cases isInserted
  have first : FirstFree (copyName context child.base.id parent) _ 2 name := search_firstFree search
  have free : name ∉ parent.children.keys := search_unreserved search
  cases flag : parent.needSync with
  | true => exact Or.inl rfl
  | false =>
    obtain ⟨⟨id, hidden⟩, uploads⟩ :=
      (uploadsBase_inserted free conflict.unconfined conflict.unbased).mp (rule flag)
    exact Or.inr ⟨uploads, name, id, first, hidden⟩

theorem kept_of_rule (conflict : FileConflict context store child remote parent lockedStore)
    (rule : ConflictRule context store child remote parent) :
    ConflictKept context store child remote parent := by
  obtain ⟨⟨merged, converted⟩, attempts, rule⟩ := rule
  obtain ⟨name, search⟩ :=
    (searchConflictName_ends_iff conflict.normalized (clean_conflictParts _ _ _)).mpr attempts
  have first : FirstFree (copyName context child.base.id parent) _ 2 name := search_firstFree search
  have free : name ∉ parent.children.keys := search_unreserved search
  obtain ⟨store', run, isMerged, isCopy, isParent⟩ := handle_stores conflict converted
    (insertConflicting_eq_ok.mpr ⟨name, search, rfl⟩)
  refine ⟨store', merged, _, _, name, run, converted, isMerged, isCopy, rfl, rfl, rfl, rfl,
    isParent, free, rfl, ?_⟩
  intro unchanged
  rcases rule with needsSync | ⟨uploads, other, id, firstOther, hidden⟩
  · rw [show parent.needSync = false from unchanged] at needsSync
    cases needsSync
  · apply (uploadsBase_inserted free conflict.unconfined conflict.unbased).mpr
    rw [firstOther.unique first] at hidden
    exact ⟨⟨id, hidden⟩, uploads⟩

theorem ChildManifest.fromRemote_ok_iff {pattern : PreventSyncPattern}
    (checked : ∀ manifest, remote = .file manifest → manifest.checkDataIntegrity = .ok (.ok ())) :
    (∃ merged, remote.fromRemote pattern = .ok merged) ↔
      ∀ manifest, remote = .file manifest → SpansFit manifest := by
  cases remote with
  | folder manifest =>
    constructor
    · rintro - other ⟨⟩
    · exact fun _ => ⟨_, rfl⟩
  | file manifest =>
    constructor
    · rintro ⟨merged, converted⟩ other ⟨⟩
      obtain ⟨back, made, -⟩ := bind_eq_ok.mp converted
      exact spansFit_of_fromRemote made
    · intro fit
      obtain ⟨blocks, made, -⟩ := fromRemote_spec manifest (checked manifest rfl)
        (fit manifest rfl)
      exact ⟨_, bind_eq_ok.mpr ⟨_, made, rfl⟩⟩

theorem conflict_kept_iff (conflict : FileConflict context store child remote parent lockedStore) :
    (ConflictKept context store child remote parent ↔
      ConflictRule context store child remote parent) ∧
    ((∀ manifest, remote = .file manifest → manifest.checkDataIntegrity = .ok (.ok ())) →
      ((∃ merged, remote.fromRemote store.preventSyncPattern = .ok merged) ↔
        ∀ manifest, remote = .file manifest → SpansFit manifest)) :=
  ⟨⟨rule_of_kept conflict, kept_of_rule conflict⟩, ChildManifest.fromRemote_ok_iff⟩

end Conflict

/-- A root folder with a file. -/
def conflictRoot (needSync : Bool) : LocalFolderManifest where
  base :=
    { author := ⟨0⟩, timestamp := 0, id := ⟨1⟩, parent := ⟨1⟩, version := 1, created := 0
      updated := 0, children := Finmap.singleton entryA ⟨2⟩ }
  parent := ⟨1⟩
  needSync := needSync
  updated := 0
  children := Finmap.singleton entryA ⟨2⟩
  localConfinementPoints := ∅
  remoteConfinementPoints := ∅
  speculative := false

/-- The file was resized locally, and the remote one has a new version. -/
def conflictFile : LocalFileManifest := { LocalFileManifest.new ⟨2⟩ ⟨0⟩ ⟨1⟩ 0 with size := 5 }

def conflictRemote : FileManifest := { conflictFile.base with version := 2 }

def conflictStore (needSync : Bool) : WorkspaceStore where
  realmId := ⟨1⟩
  storage := ⟨[.folder (conflictRoot needSync), .file conflictFile], ⟨"", true⟩,
    by cases needSync <;> decide⟩
  cache :=
    { manifests := (ManifestsHashMap.new (conflictRoot needSync)).place (.file conflictFile)
        fun same => absurd same (by cases needSync <;> decide)
      lockUpdateManifests := {⟨2⟩} }
  preventSyncPattern := ⟨[]⟩

noncomputable def conflictContext : ConflictContext where
  nfc := id
  childrenOrder := .any _
  baseOrder := .any _
  deviceId := ⟨0⟩
  now := 1
  newId := ⟨3⟩
  populate := fun _ => .error .entryNotFound
  populated := by simp
  writes := .ok ()

theorem conflictParts_entryA (needSync : Bool) :
    conflictContext.conflictParts ⟨2⟩ (conflictRoot needSync) = (['a'], none) := by
  have holds : Holds (conflictRoot needSync).children ⟨2⟩ := ⟨entryA, Finmap.lookup_singleton_eq⟩
  obtain ⟨name, found⟩ := childName_of_holds conflictContext.childrenOrder holds
  have listed := childName_eq_some found
  rw [conflictRoot, lookup_singleton_ite] at listed
  split at listed
  · rename_i isA
    rw [ConflictContext.conflictParts, found, isA]
    rfl
  · cases listed

theorem conflictRoot_locked (needSync : Bool) :
    FileConflict conflictContext (conflictStore needSync) conflictFile (.file conflictRemote)
      (conflictRoot needSync) ((conflictStore needSync).withLocks {⟨1⟩, ⟨2⟩}) where
  held := Finset.mem_singleton_self _
  cached := rfl
  sameEntry := rfl
  parentLocked := rfl
  writes := rfl
  newChild := by decide
  newParent := by decide
  newRoot := by cases needSync <;> decide
  unconfined := by simp [conflictRoot]
  unbased := by
    rintro ⟨name, found⟩
    rw [conflictRoot, lookup_singleton_ite] at found
    split at found <;> cases found
  normalized := fun _ _ _ _ _ => rfl

theorem conflict_kept_in_changed_parent :
    FileConflict conflictContext (conflictStore true) conflictFile (.file conflictRemote)
        (conflictRoot true) ((conflictStore true).withLocks {⟨1⟩, ⟨2⟩}) ∧
      ConflictKept conflictContext (conflictStore true) conflictFile (.file conflictRemote)
        (conflictRoot true) := by
  refine ⟨conflictRoot_locked true, (conflict_kept_iff (conflictRoot_locked true)).1.mpr ?_⟩
  refine ⟨⟨_, rfl⟩, ?_, Or.inl rfl⟩
  have normalized := (conflictRoot_locked true).normalized
  have clean := clean_conflictParts conflictContext ⟨2⟩ (conflictRoot true)
  rw [show conflictFile.base.id = ⟨2⟩ from rfl, conflictParts_entryA] at *
  obtain ⟨name, built, text⟩ := @build_fits _ 2 _ _ normalized clean (by decide)
  apply (searchConflictName_ends_iff normalized clean).mp
  refine ⟨name, search_first built fun used => ?_⟩
  rw [Finset.mem_singleton.mp used] at text
  exact absurd text (by decide)

theorem copy_not_uploaded_from_unchanged_parent :
    FileConflict conflictContext (conflictStore false) conflictFile (.file conflictRemote)
        (conflictRoot false) ((conflictStore false).withLocks {⟨1⟩, ⟨2⟩}) ∧
      ¬ ConflictKept conflictContext (conflictStore false) conflictFile (.file conflictRemote)
        (conflictRoot false) := by
  refine ⟨conflictRoot_locked false, ?_⟩
  intro kept
  obtain ⟨-, -, needsSync | ⟨-, name, id, -, hidden⟩⟩ := rule_of_kept (conflictRoot_locked false) kept
  · cases needsSync
  · exact absurd hidden.2.1 (Finset.notMem_empty id)

end ParsecCloud

import ParsecCloud.Folder.RemoteView
import ParsecCloud.Lib.Runs
import ParsecCloud.Store.Updaters

/- Tasks that populate the cache (store/cache.rs) between the operations of the updaters, and
   when the cache shows what is in the storage. -/
namespace ParsecCloud
open Rust HashMap Runs

/-- Where a task that populates the cache has come to. -/
inductive PopulateTask where
  | lookup (entryId : VlobID) (orServer : Bool)
  | fetch (entryId : VlobID)
  | populateStorage (entryId : VlobID) (manifest : LocalChildManifest)
  | lookupAgain (entryId : VlobID) (manifest : LocalChildManifest)
  | insertIfMissing (manifest : LocalChildManifest)

/-- A manifest that comes from the server. -/
inductive FromServer (pattern : PreventSyncPattern) : LocalChildManifest → Prop where
  | file {remote : FileManifest} {manifest : LocalFileManifest} :
      LocalFileManifest.fromRemote remote = .ok manifest → FromServer pattern (.file manifest)
  | folder (remote : FolderManifest) :
      FromServer pattern (.folder (LocalFolderManifest.fromRemote remote pattern))

/-- One step of a task: it goes on, or it is over. -/
inductive PopulateStep (store : WorkspaceStore) :
    PopulateTask → WorkspaceStore → Option PopulateTask → Prop where
  | found {entryId : VlobID} {orServer : Bool} {manifest : LocalChildManifest} :
      store.storage.getManifest entryId = some manifest →
      PopulateStep store (.lookup entryId orServer) store (some (.insertIfMissing manifest))
  | absent {entryId : VlobID} : store.storage.getManifest entryId = none →
      PopulateStep store (.lookup entryId true) store (some (.fetch entryId))
  | fetched {entryId : VlobID} {manifest : LocalChildManifest} :
      FromServer store.preventSyncPattern manifest →
      PopulateStep store (.fetch entryId) store (some (.populateStorage entryId manifest))
  | stored {entryId : VlobID} {manifest : LocalChildManifest} {storage : WorkspaceStorage} :
      store.storage.populateManifest manifest = (.stored, storage) →
      PopulateStep store (.populateStorage entryId manifest) { store with storage := storage }
        (some (.insertIfMissing manifest))
  | alreadyPresent {entryId : VlobID} {manifest : LocalChildManifest} {storage : WorkspaceStorage} :
      store.storage.populateManifest manifest = (.alreadyPresent, storage) →
      PopulateStep store (.populateStorage entryId manifest) { store with storage := storage }
        (some (.lookupAgain entryId manifest))
  | foundAgain {entryId : VlobID} {manifest present : LocalChildManifest} :
      store.storage.getManifest entryId = some present →
      PopulateStep store (.lookupAgain entryId manifest) store (some (.insertIfMissing present))
  | removed {entryId : VlobID} {manifest : LocalChildManifest} :
      store.storage.getManifest entryId = none →
      PopulateStep store (.lookupAgain entryId manifest) store
        (some (.populateStorage entryId manifest))
  | inserted {manifest : LocalChildManifest} {manifests : ManifestsHashMap} :
      store.cache.manifests.insertIfMissing manifest = .ok manifests →
      PopulateStep store (.insertIfMissing manifest)
        { store with cache := { store.cache with manifests := manifests } } none
  | failed (task : PopulateTask) : PopulateStep store task store none

/-- An operation of an updater that is completed. The locks of the manifests of a conflict or of
    a reparenting have been taken one after the other. -/
inductive UpdaterOperation where
  | updateFolderManifest (manifest : LocalFolderManifest) (newChild : Option LocalChildManifest)
  | updateFileManifestAndContinue (manifest : LocalFileManifest)
  | updateManifest (manifest : LocalChildManifest)
  | updateFileManifestAndChunks (manifest : LocalFileManifest)
  | updateConflict (childManifest : LocalChildManifest) (parentManifest : LocalFolderManifest)
      (conflictingNewChildManifest : LocalChildManifest)
      (locked : childManifest.id ≠ parentManifest.base.id)
  | updateReparented (updater : ReparentingUpdater) (locked : updater.Locked)

def UpdaterOperation.run (store : WorkspaceStore) : UpdaterOperation → Checked WorkspaceStore
  | updateFolderManifest manifest newChild => store.updateFolderManifest manifest newChild
  | updateFileManifestAndContinue manifest => store.updateFileManifestAndContinue manifest
  | updateManifest manifest => SyncUpdater.updateManifest store manifest
  | updateFileManifestAndChunks manifest => SyncUpdater.updateFileManifestAndChunks store manifest
  | updateConflict childManifest parentManifest newChildManifest _ =>
    SyncConflictUpdater.updateManifests store childManifest parentManifest newChildManifest
  | updateReparented updater _ => updater.updateManifests store

structure StoreSystem where
  store : WorkspaceStore
  tasks : List PopulateTask

inductive StoreAction where
  | update (operation : UpdaterOperation)
  | populate (entryId : VlobID) (orServer : Bool)
  | proceed

inductive StoreStep : StoreSystem → StoreAction → StoreSystem → Prop where
  | update {s : StoreSystem} {operation : UpdaterOperation} {store : WorkspaceStore} :
      operation.run s.store = .ok store →
      StoreStep s (.update operation) { s with store := store }
  | populate {s : StoreSystem} {entryId : VlobID} {orServer : Bool} :
      StoreStep s (.populate entryId orServer)
        { s with tasks := s.tasks ++ [.lookup entryId orServer] }
  | proceed {s : StoreSystem} {before after : List PopulateTask} {task : PopulateTask}
      {next : Option PopulateTask} {store : WorkspaceStore} :
      s.tasks = before ++ task :: after → PopulateStep s.store task store next →
      StoreStep s .proceed ⟨store, before ++ next.toList ++ after⟩

/-- Each manifest in the cache is the one that is stored. -/
def CacheShowsStorage (store : WorkspaceStore) : Prop :=
  ∀ id manifest, store.cache.manifests.get id = some manifest →
    store.storage.getManifest id = some manifest

/-- A manifest that a task has read is still the stored one, unless a newer one is in the
    cache. -/
def Current (store : WorkspaceStore) (manifest : LocalChildManifest) : Prop :=
  store.storage.getManifest manifest.id = some manifest ∨
    (store.cache.manifests.get manifest.id).isSome = true

structure StoreInvariant (s : StoreSystem) : Prop where
  shows : CacheShowsStorage s.store
  current : ∀ manifest, .insertIfMissing manifest ∈ s.tasks → Current s.store manifest

theorem UpdaterOperation.run_wrote {store store' : WorkspaceStore} {operation : UpdaterOperation}
    (run : operation.run store = .ok store') : ∃ manifests, Wrote manifests store store' := by
  cases operation with
  | updateFolderManifest manifest newChild =>
    cases newChild with
    | none => exact ⟨_, write_wrote (fun _ => rfl) run⟩
    | some newChild => exact ⟨_, write_wrote (fun _ => rfl) run⟩
  | updateFileManifestAndContinue manifest => exact ⟨_, write_wrote (fun _ => rfl) run⟩
  | updateManifest manifest => exact ⟨_, write_wrote (fun _ => rfl) run⟩
  | updateFileManifestAndChunks manifest => exact ⟨_, write_wrote (fun _ => rfl) run⟩
  | updateConflict _ _ _ locked =>
    exact ⟨_, SyncConflictUpdater.updateManifests_wrote locked run⟩
  | updateReparented _ locked => exact ⟨_, ReparentingUpdater.updateManifests_wrote locked run⟩

section Wrote
variable {manifests : List LocalChildManifest} {store store' : WorkspaceStore}

theorem Wrote.shows (wrote : Wrote manifests store store') (shows : CacheShowsStorage store) :
    CacheShowsStorage store' := by
  intro id manifest found
  rw [wrote.cached] at found
  rw [wrote.stored]
  cases written : lastWritten manifests id with
  | some last =>
    rw [written] at found
    exact found
  | none =>
    rw [written] at found
    exact shows id manifest found

theorem Wrote.current (wrote : Wrote manifests store store') {manifest : LocalChildManifest}
    (current : Current store manifest) : Current store' manifest := by
  unfold Current
  rw [wrote.cached, wrote.stored]
  cases lastWritten manifests manifest.id with
  | some last => exact Or.inr rfl
  | none => exact current

end Wrote

/-- What a step of a task does to the store: nothing, or it stores a manifest that was not
    stored, or it inserts one that was not in the cache. -/
theorem PopulateStep.keeps {store store' : WorkspaceStore} {task : PopulateTask}
    {next : Option PopulateTask} (step : PopulateStep store task store' next)
    (shows : CacheShowsStorage store)
    (current : ∀ manifest, task = .insertIfMissing manifest → Current store manifest) :
    CacheShowsStorage store' ∧ (∀ manifest, Current store manifest → Current store' manifest) ∧
      ∀ manifest, next = some (.insertIfMissing manifest) → Current store' manifest := by
  have read : ∀ {entryId : VlobID} {manifest : LocalChildManifest},
      store.storage.getManifest entryId = some manifest → Current store manifest := by
    intro entryId manifest found
    rw [Current, WorkspaceStorage.id_of_getManifest found]
    exact Or.inl found
  cases step with
  | found isRow =>
    refine ⟨shows, fun _ => id, ?_⟩
    intro manifest same
    cases same
    exact read isRow
  | foundAgain isRow =>
    refine ⟨shows, fun _ => id, ?_⟩
    intro manifest same
    cases same
    exact read isRow
  | @stored _ stored _ populated =>
    rcases WorkspaceStorage.populateManifest_cases populated with ⟨-, absent, rfl⟩ | ⟨other, -⟩
    · have kept : ∀ {id row}, store.storage.getManifest id = some row →
          (store.storage.updateManifest stored).getManifest id = some row := by
        intro id row found
        rw [WorkspaceStorage.getManifest_updateManifest, if_neg, found]
        intro same
        rw [same, absent] at found
        cases found
      refine ⟨fun id row found => kept (shows id row found), ?_, ?_⟩
      · intro manifest still
        exact still.imp kept fun cached => cached
      · intro manifest same
        cases same
        refine Or.inl ?_
        rw [WorkspaceStorage.getManifest_updateManifest, if_pos rfl]
    · cases other
  | alreadyPresent populated =>
    rcases WorkspaceStorage.populateManifest_cases populated with ⟨other, -, -⟩ | ⟨-, rfl⟩
    · cases other
    · exact ⟨shows, fun _ => id, by simp⟩
  | @inserted manifest manifests run =>
    rcases ManifestsHashMap.insertIfMissing_cases run with rfl | ⟨absent, run⟩
    · exact ⟨shows, fun _ => id, by simp⟩
    · have get := (ManifestsHashMap.insert_cases run).2
      have isRow : store.storage.getManifest manifest.id = some manifest := by
        rcases current manifest rfl with isRow | cached
        · exact isRow
        · rw [absent] at cached
          cases cached
      refine ⟨?_, ?_, by simp⟩
      · intro id row found
        rw [get] at found
        split at found
        · rename_i same
          cases found
          rw [same]
          exact isRow
        · exact shows id row found
      · intro other still
        refine still.imp (fun stored => stored) ?_
        intro cached
        rw [get]
        split
        · rfl
        · exact cached
  | absent => exact ⟨shows, fun _ => id, by simp⟩
  | fetched => exact ⟨shows, fun _ => id, by simp⟩
  | removed => exact ⟨shows, fun _ => id, by simp⟩
  | failed => exact ⟨shows, fun _ => id, by simp⟩

theorem StoreStep.keeps {s s' : StoreSystem} {action : StoreAction} (step : StoreStep s action s')
    (inv : StoreInvariant s) : StoreInvariant s' := by
  obtain ⟨shows, current⟩ := inv
  cases step with
  | update run =>
    obtain ⟨manifests, wrote⟩ := UpdaterOperation.run_wrote run
    exact ⟨wrote.shows shows, fun manifest member => wrote.current (current manifest member)⟩
  | populate =>
    refine ⟨shows, fun manifest member => current manifest ?_⟩
    simpa using member
  | @proceed before after task next store split taken =>
    have here : ∀ manifest, task = .insertIfMissing manifest → Current s.store manifest := by
      intro manifest same
      exact current manifest (by rw [split, same]; simp)
    obtain ⟨shows', kept, fresh⟩ := taken.keeps shows here
    refine ⟨shows', ?_⟩
    intro manifest member
    simp only [List.append_assoc, List.mem_append, Option.mem_toList] at member
    rcases member with first | new | later
    · exact kept manifest (current manifest (by rw [split]; simp [first]))
    · exact fresh manifest new
    · exact kept manifest (current manifest (by rw [split]; simp [later]))

/-- The states that are reached after a store has started, whatever the steps. -/
def StoreReached (store : WorkspaceStore) (s : StoreSystem) : Prop :=
  Run StoreStep (fun _ _ => True) ⟨store, []⟩ s

theorem shows_of_reached {store : WorkspaceStore} {s : StoreSystem} (shows : CacheShowsStorage store)
    (reached : StoreReached store s) : CacheShowsStorage s.store := by
  have kept : StoreInvariant s := by
    apply Run.keeps _ _ reached
    · exact ⟨shows, fun manifest member => absurd member List.not_mem_nil⟩
    · intro s action s' inv _ step
      exact step.keeps inv
  exact kept.shows

/-- The new pattern is the one that was fully applied, or it leaves the stored root manifest
    as it is. -/
def RootKept (new : NewPattern) (realmId : VlobID) (storage : WorkspaceStorage) : Prop :=
  storage.preventSyncPattern = ⟨new.text, true⟩ ∨
    ∀ root, storage.getManifest realmId = some (.folder root) → new.apply root = .ok root

/-- For a root manifest that names each entry once: its confinement points are already those of the
    new pattern, the names of its children and of its base that match. -/
theorem rootKept_iff {new : NewPattern} {realmId : VlobID} {storage : WorkspaceStorage}
    (once : ∀ root, storage.getManifest realmId = some (.folder root) →
      Injective root.children ∧ Injective root.base.children) :
    RootKept new realmId storage ↔ storage.preventSyncPattern = ⟨new.text, true⟩ ∨
      ∀ root, storage.getManifest realmId = some (.folder root) → WellConfined new.pattern root := by
  refine or_congr_right (forall₂_congr fun root stored => ?_)
  exact applyPreventSyncPattern_same_iff _ _ (once root stored).1 (once root stored).2

section Start
variable {deviceId : DeviceID} {realmId : VlobID} {timestamp : DateTime} {new : NewPattern}
  {storage : WorkspaceStorage} {store : WorkspaceStore}

theorem start_of_parts {root : LocalFolderManifest} {loadedStorage finalStorage : WorkspaceStorage}
    (loaded : loadRootManifest deviceId realmId timestamp storage = .ok (root, loadedStorage))
    (ensured : ensurePreventSyncPatternAppliedToWksp new loadedStorage = .ok finalStorage) :
    WorkspaceStore.start deviceId realmId timestamp new storage =
      .ok { realmId := realmId, storage := finalStorage, cache := ⟨.new root, ∅⟩
            preventSyncPattern := new.pattern } := by
  simp only [WorkspaceStore.start, loaded, bind, Except.bind, ensured]
  rfl

theorem newCache_shows_iff {root : LocalFolderManifest} {locks : PerManifestUpdateLock}
    {pattern : PreventSyncPattern} (isRoot : root.base.id = realmId) :
    CacheShowsStorage
        { realmId := realmId, storage := storage, cache := ⟨.new root, locks⟩
          preventSyncPattern := pattern } ↔
      storage.getManifest realmId = some (.folder root) := by
  have get : ∀ id, (ManifestsHashMap.new root).get id =
      if id = realmId then some (.folder root) else none := by
    intro id
    rw [← isRoot]
    exact lookup_singleton_ite _ _ _
  constructor
  · intro shows
    exact shows realmId (.folder root) (by rw [get, if_pos rfl])
  · intro stored id manifest found
    rw [get] at found
    split at found
    · rename_i same
      cases found
      rw [same]
      exact stored
    · cases found

theorem start_shows_iff
    (started : WorkspaceStore.start deviceId realmId timestamp new storage = .ok store) :
    CacheShowsStorage store ↔ RootKept new realmId storage := by
  obtain ⟨⟨root, loadedStorage⟩, loaded, started⟩ := bind_eq_ok.mp started
  obtain ⟨finalStorage, ensured, done⟩ := bind_eq_ok.mp started
  cases done
  obtain ⟨present, sameRow, source⟩ := loadRootManifest_cases loaded
  have shows : CacheShowsStorage
        { realmId := realmId, storage := finalStorage, cache := ⟨.new root, ∅⟩
          preventSyncPattern := new.pattern } ↔
      finalStorage.getManifest realmId = some (.folder root) :=
    newCache_shows_iff (WorkspaceStorage.id_of_getManifest present)
  rw [shows, RootKept, ← sameRow]
  rcases ensureApplied_folder ensured present with ⟨applied, same⟩ | ⟨unapplied, newRoot, isNew, found⟩
  · simp [applied, same]
  · have isRoot : newRoot = root ↔ new.apply root = .ok root := by
      rw [isNew]
      simp
    rw [found, or_iff_right unapplied]
    rcases source with stored | ⟨absent, speculative⟩
    · simp [stored, isRoot]
    · rw [speculative] at isRoot ⊢
      simp [absent, isRoot, apply_newRoot]

/-- Right after the start and in every state reached from it, the cache shows the storage if and
    only if the start leaves the root manifest it has loaded as it is. -/
theorem cache_shows_storage_iff
    (started : WorkspaceStore.start deviceId realmId timestamp new storage = .ok store) :
    (∀ s, StoreReached store s → CacheShowsStorage s.store) ↔ RootKept new realmId storage := by
  rw [← start_shows_iff started]
  constructor
  · intro always
    exact always ⟨store, []⟩ .start
  · intro shows s reached
    exact shows_of_reached shows reached

end Start

/-- A workspace whose root has an entry that is not synchronized yet. -/
def startedRoot : LocalFolderManifest :=
  { LocalFolderManifest.newRoot ⟨0⟩ ⟨1⟩ 0 false with children := Finmap.singleton entryB ⟨2⟩ }

noncomputable def hideB : NewPattern := ⟨"^b$", patternB, fun _ => 0, fun _ => someFolderOrders⟩

def startedStorage (pattern : PatternRow) : WorkspaceStorage where
  vlobs := [.folder startedRoot]
  preventSyncPattern := pattern
  unique := by decide

theorem cache_shows_storage_at_restart :
    ∃ store, WorkspaceStore.start ⟨0⟩ ⟨1⟩ 0 hideB (startedStorage ⟨"^b$", true⟩) = .ok store ∧
      ∀ s, StoreReached store s → CacheShowsStorage s.store := by
  obtain ⟨store, started⟩ : ∃ store,
      WorkspaceStore.start ⟨0⟩ ⟨1⟩ 0 hideB (startedStorage ⟨"^b$", true⟩) = .ok store := ⟨_, rfl⟩
  exact ⟨store, started, (cache_shows_storage_iff started).mpr (Or.inl rfl)⟩

/-- The entry is confined when the pattern is applied. -/
def confinedRoot : LocalFolderManifest := { startedRoot with localConfinementPoints := {⟨2⟩} }

theorem startedRoot_applied : hideB.apply startedRoot = .ok confinedRoot := by
  have matching : HashMap.valuesAt patternB.isMatch startedRoot.children = {⟨2⟩} := by decide
  have empty : HashMap.valuesAt patternB.isMatch startedRoot.base.children = ∅ := by decide
  have shown : UnconfinedLocalFolderManifest.hideBaseEntries someFolderOrders patternB
      startedRoot.base.children startedRoot.children = startedRoot.children := by
    have none : startedRoot.base.children.keys = ∅ := rfl
    rw [UnconfinedLocalFolderManifest.hideBaseEntries, none, HashOrder.list_empty]
    rfl
  have unconfined : UnconfinedLocalFolderManifest.removeConfinement someFolderOrders startedRoot =
      { base := startedRoot.base, parent := ⟨1⟩, needSync := true, updated := 0
        children := startedRoot.children, speculative := false } := by
    simp [UnconfinedLocalFolderManifest.removeConfinement, startedRoot, LocalFolderManifest.newRoot,
      UnconfinedLocalFolderManifest.withoutConfinedEntries]
  have isNew : UnconfinedLocalFolderManifest.newManifest someFolderOrders
      (UnconfinedLocalFolderManifest.removeConfinement someFolderOrders startedRoot) patternB =
      confinedRoot := by
    rw [unconfined, UnconfinedLocalFolderManifest.newManifest]
    simp only [shown, matching, empty]
    rfl
  change UnconfinedLocalFolderManifest.applyConfinement someFolderOrders
    (UnconfinedLocalFolderManifest.removeConfinement someFolderOrders startedRoot) startedRoot
    patternB 0 = _
  simp only [UnconfinedLocalFolderManifest.applyConfinement, isNew]
  rw [if_neg (by decide)]

/-- The storage once the new pattern is set. -/
def patternSet : WorkspaceStorage := startedStorage ⟨"^b$", false⟩

theorem patternSet_applied :
    ensurePreventSyncPatternAppliedToWksp hideB (startedStorage ⟨"", true⟩) =
      .ok { patternSet.updateManifests [.folder confinedRoot] with
        preventSyncPattern := ⟨"^b$", true⟩ } := by
  have changed : confinedRoot ≠ startedRoot := by decide
  have page : hideB.updatedManifests [.folder startedRoot] = .ok [.folder confinedRoot] := by
    simp [NewPattern.updatedManifests, startedRoot_applied, changed]
  have pages : applyToPages hideB 1 0 patternSet =
      .ok (patternSet.updateManifests [.folder confinedRoot]) := by
    have listed : patternSet.listManifests 0 pageSize = [.folder startedRoot] := rfl
    rw [applyToPages, listed, page]
    rfl
  have set : (startedStorage ⟨"", true⟩).setPreventSyncPattern hideB.text = (false, patternSet) := rfl
  have count : patternSet.vlobs.length / pageSize + 1 = 1 := rfl
  simp only [ensurePreventSyncPatternAppliedToWksp, set, Bool.false_eq_true, if_false, count, pages]
  rfl

theorem stale_root_after_start :
    ∃ store, WorkspaceStore.start ⟨0⟩ ⟨1⟩ 0 hideB (startedStorage ⟨"", true⟩) = .ok store ∧
      ∃ s, StoreReached store s ∧ ¬ CacheShowsStorage s.store := by
  have loaded : loadRootManifest ⟨0⟩ ⟨1⟩ 0 (startedStorage ⟨"", true⟩) =
      .ok (startedRoot, startedStorage ⟨"", true⟩) := rfl
  refine ⟨_, start_of_parts loaded patternSet_applied, _, .start, ?_⟩
  intro shows
  have same := shows ⟨1⟩ (.folder startedRoot) rfl
  have stored : (patternSet.updateManifests [.folder confinedRoot]).getManifest ⟨1⟩ =
      some (.folder confinedRoot) := by
    rw [getManifest_updateManifests]
    rfl
  have equal : confinedRoot = startedRoot :=
    LocalChildManifest.folder.inj (Option.some.inj (stored.symm.trans same))
  exact absurd equal (by decide)

end ParsecCloud

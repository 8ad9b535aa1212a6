import ParsecCloud.Store.UpdateLocks
import ParsecCloud.Transactions.ConflictCopy

/- The guards of a sync conflict (store/sync_updater.rs). The updater of the child takes the lock of
   the parent too. No guard is released by a return: what fails has to release the one it took. -/
namespace ParsecCloud
open Rust HashMap

structure SyncUpdater where
  originalManifest : Option LocalChildManifest
  updateGuard : Option ManifestUpdateLockGuard

def SyncUpdater.drop (updater : SyncUpdater) (locks : UpdateLocks) : Checked UpdateLocks :=
  locks.releaseAll updater.updateGuard.toList

/-- The guards of the child and of the parent. -/
structure SyncConflictUpdater where
  updateGuards : Option (ManifestUpdateLockGuard × ManifestUpdateLockGuard)

def SyncConflictUpdater.drop (updater : SyncConflictUpdater) (locks : UpdateLocks) :
    Checked UpdateLocks :=
  match updater.updateGuards with
  | none => .ok locks
  | some (childUpdateGuard, parentUpdateGuard) =>
    locks.releaseAll [childUpdateGuard, parentUpdateGuard]

/-- The cache with the locks and their guards. -/
structure GuardedCache where
  manifests : ManifestsHashMap
  locks : UpdateLocks

/-- The cache is populated from the local storage or from the server. -/
abbrev PopulateManifests :=
  VlobID → ManifestsHashMap → Except PopulateCacheError (LocalChildManifest × ManifestsHashMap)

/-- The outcome, and the cache afterwards. -/
abbrev IntoSyncConflict :=
  Except (SyncUpdater × IntoSyncConflictUpdaterError) (SyncConflictUpdater × LocalFolderManifest) ×
    GuardedCache

section Into
variable (populate : PopulateManifests)

def getParentManifest (manifests : ManifestsHashMap) (parentId : VlobID) :
    Except PopulateCacheError (LocalChildManifest × ManifestsHashMap) :=
  match manifests.get parentId with
  | some parentManifest => .ok (parentManifest, manifests)
  | none => populate parentId manifests

/-- The end of the conversion, with the guard of the parent. It is not released for a file. -/
def SyncUpdater.handOver (updater : SyncUpdater) (parentUpdateGuard : ManifestUpdateLockGuard)
    (cache : GuardedCache) : LocalChildManifest → Checked IntoSyncConflict
  | .file _ => .ok (.error (updater, .parentIsNotAFolder), cache)
  | .folder parentManifest => do
    let childUpdateGuard ← expectSome "always present" updater.updateGuard
    return (.ok (⟨some (childUpdateGuard, parentUpdateGuard)⟩, parentManifest), cache)

def SyncUpdater.intoSyncConflictUpdater (updater : SyncUpdater) (cache : GuardedCache) :
    Checked IntoSyncConflict :=
  match updater.originalManifest with
  | none => .ok (.error (updater, .failed .internal), cache)
  | some childManifest =>
    match cache.locks.tryTake childManifest.parent with
    | (none, _) => .ok (.error (updater, .wouldBlock), cache)
    | (some parentUpdateGuard, locks) =>
      match getParentManifest populate cache.manifests childManifest.parent with
      | .error error => do
        let locks ← locks.release parentUpdateGuard
        return (.error (updater, error.intoSyncConflictUpdater), { cache with locks := locks })
      | .ok (parentManifest, manifests) =>
        updater.handOver parentUpdateGuard ⟨manifests, locks⟩ parentManifest

end Into

/-- After a success both locks are taken, and owned by the new updater. After an error the locks are
    the ones from before, and the updater of the child releases its own. -/
def LocksConsistent (updater : SyncUpdater) (guard : ManifestUpdateLockGuard)
    (before : PerManifestUpdateLock) : IntoSyncConflict → Prop
  | (.ok (conflictUpdater, _), cache) =>
    ∃ childManifest, updater.originalManifest = some childManifest ∧
      conflictUpdater.updateGuards = some (guard, ⟨childManifest.parent⟩) ∧
      childManifest.parent ∉ before ∧ cache.locks.held = insert childManifest.parent before
  | (.error (returned, _), cache) =>
    cache.locks.held = before ∧
      ∃ locks, returned.drop cache.locks = .ok locks ∧ locks.held = before.erase guard.entryId

/-- The lock of the parent can be taken, and the parent is a file. -/
def ParentIsFile (populate : PopulateManifests) (updater : SyncUpdater) (cache : GuardedCache) :
    Prop :=
  ∃ childManifest file manifests, updater.originalManifest = some childManifest ∧
    childManifest.parent ∉ cache.locks.held ∧
    getParentManifest populate cache.manifests childManifest.parent = .ok (.file file, manifests)

section Guards
variable {populate : PopulateManifests} {updater : SyncUpdater} {cache : GuardedCache}
  {guard : ManifestUpdateLockGuard}

theorem SyncUpdater.drop_held (owned : updater.updateGuard = some guard) {locks : UpdateLocks}
    (isHeld : guard.entryId ∈ locks.held) :
    ∃ locks', updater.drop locks = .ok locks' ∧ locks'.held = locks.held.erase guard.entryId := by
  obtain ⟨locks', released, held, -⟩ := UpdateLocks.release_held isHeld
  refine ⟨locks', ?_, held⟩
  rw [drop, owned, Option.toList_some, UpdateLocks.releaseAll, List.foldlM_cons, released]
  rfl

theorem locksConsistent_error (owned : updater.updateGuard = some guard)
    (isHeld : guard.entryId ∈ cache.locks.held) {manifests : ManifestsHashMap} {locks : UpdateLocks}
    (kept : locks.held = cache.locks.held) (error : IntoSyncConflictUpdaterError) :
    LocksConsistent updater guard cache.locks.held (.error (updater, error), ⟨manifests, locks⟩) := by
  obtain ⟨locks', dropped, held⟩ := SyncUpdater.drop_held owned (kept ▸ isHeld)
  exact ⟨kept, locks', dropped, by rw [held, kept]⟩

theorem syncConflictUpdater_cases (populate : PopulateManifests)
    (owned : updater.updateGuard = some guard) (isHeld : guard.entryId ∈ cache.locks.held) :
    ∃ outcome, updater.intoSyncConflictUpdater populate cache = .ok outcome ∧
      (LocksConsistent updater guard cache.locks.held outcome ∧
          ¬ ParentIsFile populate updater cache ∨
        ParentIsFile populate updater cache ∧ outcome.2.locks.held ≠ cache.locks.held ∧
          outcome.1 = .error (updater, .parentIsNotAFolder)) := by
  cases original : updater.originalManifest with
  | none =>
    refine ⟨_, by rw [SyncUpdater.intoSyncConflictUpdater, original], Or.inl ⟨?_, ?_⟩⟩
    · exact locksConsistent_error owned isHeld rfl _
    · rintro ⟨_, _, _, present, -⟩
      rw [original] at present
      cases present
  | some childManifest =>
    by_cases busy : childManifest.parent ∈ cache.locks.held
    · obtain ⟨_, _, -, refused, -⟩ := UpdateLocks.take_busy busy
      refine ⟨(.error (updater, .wouldBlock), cache), ?_, Or.inl ⟨?_, ?_⟩⟩
      · simp only [SyncUpdater.intoSyncConflictUpdater, original, refused]
      · exact locksConsistent_error owned isHeld rfl _
      · rintro ⟨_, _, _, present, free, -⟩
        rw [original] at present
        cases present
        exact free busy
    · obtain ⟨locks, -, taken, held, -⟩ := UpdateLocks.take_free busy
      cases obtained : getParentManifest populate cache.manifests childManifest.parent with
      | error error =>
        have isTaken : childManifest.parent ∈ locks.held := held ▸ Finset.mem_insert_self _ _
        obtain ⟨locks', released, held', -⟩ :=
          @UpdateLocks.release_held _ ⟨childManifest.parent⟩ isTaken
        have kept : locks'.held = cache.locks.held := by
          rw [held', held, Finset.erase_insert busy]
        refine ⟨(.error (updater, error.intoSyncConflictUpdater), ⟨cache.manifests, locks'⟩), ?_,
          Or.inl ⟨locksConsistent_error owned isHeld kept _, ?_⟩⟩
        · simp only [SyncUpdater.intoSyncConflictUpdater, original, taken, obtained, released]
          rfl
        · rintro ⟨_, _, _, present, -, isFile⟩
          rw [original] at present
          cases present
          rw [obtained] at isFile
          cases isFile
      | ok found =>
        obtain ⟨parentManifest, manifests⟩ := found
        cases parentManifest with
        | file file =>
          refine ⟨(.error (updater, .parentIsNotAFolder), ⟨manifests, locks⟩), ?_,
            Or.inr ⟨⟨childManifest, file, manifests, original, busy, obtained⟩, ?_, rfl⟩⟩
          · simp only [SyncUpdater.intoSyncConflictUpdater, original, taken, obtained]
            rfl
          · intro same
            exact busy (same ▸ held ▸ Finset.mem_insert_self _ _)
        | folder folder =>
          refine ⟨(.ok (⟨some (guard, ⟨childManifest.parent⟩)⟩, folder), ⟨manifests, locks⟩), ?_,
            Or.inl ⟨⟨childManifest, original, rfl, busy, held⟩, ?_⟩⟩
          · simp only [SyncUpdater.intoSyncConflictUpdater, original, taken, obtained,
              SyncUpdater.handOver, owned, expectSome]
            rfl
          · rintro ⟨_, _, _, present, -, isFile⟩
            rw [original] at present
            cases present
            rw [obtained] at isFile
            cases isFile

theorem intoSyncConflictUpdater_consistent_iff (populate : PopulateManifests) (updater : SyncUpdater)
    (cache : GuardedCache) (guard : ManifestUpdateLockGuard)
    (owned : updater.updateGuard = some guard) (isHeld : guard.entryId ∈ cache.locks.held) :
    (∃ outcome, updater.intoSyncConflictUpdater populate cache = .ok outcome ∧
      LocksConsistent updater guard cache.locks.held outcome) ↔
    ¬ ParentIsFile populate updater cache := by
  obtain ⟨outcome, run, ⟨consistent, isFolder⟩ | ⟨isFile, leaked, isError⟩⟩ :=
    syncConflictUpdater_cases populate owned isHeld
  · exact ⟨fun _ => isFolder, fun _ => ⟨outcome, run, consistent⟩⟩
  · constructor
    · rintro ⟨outcome', run', consistent⟩
      rw [run] at run'
      cases run'
      obtain ⟨result, after⟩ := outcome
      cases isError
      exact absurd consistent.1 leaked
    · intro isFolder
      exact absurd isFile isFolder

end Guards

section Refinement

/-- The cache is populated in the store of a conflict. -/
def ConflictContext.populateManifests (context : ConflictContext) : PopulateManifests :=
  fun parentId manifests =>
    match context.populate parentId with
    | .error error => .error error
    | .ok parentManifest =>
      match manifests.insertIfMissing parentManifest with
      | .error _ => .error .internal
      | .ok manifests => .ok (parentManifest, manifests)

theorem getParentManifest_of_populated {context : ConflictContext} {store : WorkspaceStore}
    {parentId : VlobID} {got : Except PopulateCacheError (LocalChildManifest × WorkspaceStore)}
    (populated : store.cachedOrPopulated context parentId = .ok got) :
    (∃ error, got = .error error ∧ getParentManifest context.populateManifests
        store.cache.manifests parentId = .error error) ∨
    ∃ parentManifest store', got = .ok (parentManifest, store') ∧
      getParentManifest context.populateManifests store.cache.manifests parentId =
        .ok (parentManifest, store'.cache.manifests) ∧
      store'.cache.lockUpdateManifests = store.cache.lockUpdateManifests := by
  unfold WorkspaceStore.cachedOrPopulated at populated
  unfold getParentManifest ConflictContext.populateManifests
  cases found : store.cache.manifests.get parentId with
  | some parentManifest =>
    simp only [found] at populated
    cases populated
    exact Or.inr ⟨parentManifest, store, rfl, rfl, rfl⟩
  | none =>
    simp only [found] at populated
    cases answer : context.populate parentId with
    | error error =>
      simp only [answer] at populated
      cases populated
      exact Or.inl ⟨error, rfl, rfl⟩
    | ok parentManifest =>
      simp only [answer] at populated
      obtain ⟨manifests, inserted, done⟩ := bind_eq_ok.mp populated
      cases done
      exact Or.inr ⟨parentManifest, _, rfl, by simp only [inserted], rfl⟩

/-- The conversion of a store, where a lock is a set of entries, answers the same and leaves the same
    cache. -/
def Agree : Except (IntoSyncConflictUpdaterError × WorkspaceStore)
    (LocalFolderManifest × WorkspaceStore) → IntoSyncConflict → Prop
  | .error (error, store), (.error (_, error'), cache) =>
    error = error' ∧ store.cache = ⟨cache.manifests, cache.locks.held⟩
  | .ok (parent, store), (.ok (_, parent'), cache) =>
    parent = parent' ∧ store.cache = ⟨cache.manifests, cache.locks.held⟩
  | _, _ => False

theorem intoSyncConflictUpdater_simulates {store : WorkspaceStore} {context : ConflictContext}
    {updater : SyncUpdater} {cache : GuardedCache} {guard : ManifestUpdateLockGuard}
    {childManifest : LocalChildManifest}
    {result : Except (IntoSyncConflictUpdaterError × WorkspaceStore)
      (LocalFolderManifest × WorkspaceStore)}
    (original : updater.originalManifest = some childManifest)
    (owned : updater.updateGuard = some guard)
    (same : store.cache = ⟨cache.manifests, cache.locks.held⟩)
    (run : store.intoSyncConflictUpdater context childManifest.parent = .ok result) :
    ∃ outcome, updater.intoSyncConflictUpdater context.populateManifests cache = .ok outcome ∧
      Agree result outcome := by
  by_cases busy : childManifest.parent ∈ cache.locks.held
  · obtain ⟨_, _, -, refused, -⟩ := UpdateLocks.take_busy busy
    refine ⟨(.error (updater, .wouldBlock), cache), ?_, ?_⟩
    · simp only [SyncUpdater.intoSyncConflictUpdater, original, refused]
    · simp only [WorkspaceStore.intoSyncConflictUpdater, PerManifestUpdateLock.take, same, busy,
        if_true] at run
      cases run
      exact ⟨rfl, same⟩
  · obtain ⟨locks, -, taken, held, -⟩ := UpdateLocks.take_free busy
    simp only [WorkspaceStore.intoSyncConflictUpdater, PerManifestUpdateLock.take, same, busy,
      if_false] at run
    obtain ⟨got, populated, run⟩ := bind_eq_ok.mp run
    have isTaken : childManifest.parent ∈ locks.held := held ▸ Finset.mem_insert_self _ _
    rcases getParentManifest_of_populated populated with
      ⟨error, rfl, obtained⟩ | ⟨parentManifest, store', rfl, obtained, kept⟩
    · cases run
      obtain ⟨locks', released, held', -⟩ :=
        @UpdateLocks.release_held _ ⟨childManifest.parent⟩ isTaken
      refine ⟨(.error (updater, error.intoSyncConflictUpdater), ⟨cache.manifests, locks'⟩), ?_,
        rfl, ?_⟩
      · simp only [WorkspaceStore.withLocks, same] at obtained
        simp only [SyncUpdater.intoSyncConflictUpdater, original, taken, obtained, released]
        rfl
      · rw [same, held', held, Finset.erase_insert busy]
    · have sameAfter : store'.cache = ⟨store'.cache.manifests, locks.held⟩ := by
        rw [held]
        exact congrArg (CurrentViewCache.mk _) kept
      simp only [WorkspaceStore.withLocks, same] at obtained
      cases parentManifest with
      | file file =>
        cases run
        refine ⟨(.error (updater, .parentIsNotAFolder), ⟨store'.cache.manifests, locks⟩), ?_,
          rfl, sameAfter⟩
        simp only [SyncUpdater.intoSyncConflictUpdater, original, taken, obtained]
        rfl
      | folder folder =>
        cases run
        refine ⟨(.ok (⟨some (guard, ⟨childManifest.parent⟩)⟩, folder),
          ⟨store'.cache.manifests, locks⟩), ?_, rfl, sameAfter⟩
        simp only [SyncUpdater.intoSyncConflictUpdater, original, taken, obtained,
          SyncUpdater.handOver, owned, expectSome]
        rfl

theorem intoSyncConflictUpdater_simulates_conflict : ∃ result outcome,
    (conflictStore true).intoSyncConflictUpdater conflictContext ⟨1⟩ = .ok result ∧
      Agree result outcome ∧ outcome.2.locks.held = {⟨1⟩, ⟨2⟩} := by
  obtain ⟨outcome, run, agree⟩ := @intoSyncConflictUpdater_simulates (conflictStore true)
    conflictContext ⟨some (.file conflictFile), some ⟨⟨2⟩⟩⟩
    ⟨(conflictStore true).cache.manifests, (UpdateLocks.new.take ⟨2⟩).2⟩ _ _ _ rfl rfl rfl rfl
  cases run
  exact ⟨_, _, rfl, agree, by decide⟩

end Refinement

section Samples

/-- The updater of a file, whose lock is the only one that is taken. -/
def fileUpdater (parentId : VlobID) : SyncUpdater where
  originalManifest := some (.file (.new ⟨3⟩ ⟨0⟩ parentId 0))
  updateGuard := some ⟨⟨3⟩⟩

def rootOnly : GuardedCache :=
  ⟨.new (.newRoot ⟨0⟩ ⟨1⟩ 0 false), (UpdateLocks.new.take ⟨3⟩).2⟩

/-- The server gives a file for the parent. -/
theorem fileUpdater_leaks :
    ¬ ∃ outcome, (fileUpdater ⟨2⟩).intoSyncConflictUpdater
        (fun id manifests => .ok (.file (.new id ⟨0⟩ ⟨1⟩ 0), manifests)) rootOnly = .ok outcome ∧
      LocksConsistent (fileUpdater ⟨2⟩) ⟨⟨3⟩⟩ rootOnly.locks.held outcome := by
  rintro ⟨outcome, run, consistent⟩
  cases run
  exact absurd consistent.1 (by decide)

theorem fileUpdater_consistent_iff :
    (∃ outcome, (fileUpdater ⟨1⟩).intoSyncConflictUpdater (fun _ _ => .error .offline) rootOnly =
        .ok outcome ∧
      LocksConsistent (fileUpdater ⟨1⟩) ⟨⟨3⟩⟩ rootOnly.locks.held outcome) ↔
    ¬ ParentIsFile (fun _ _ => .error .offline) (fileUpdater ⟨1⟩) rootOnly :=
  intoSyncConflictUpdater_consistent_iff _ _ _ ⟨⟨3⟩⟩ rfl (by decide)

end Samples
end ParsecCloud

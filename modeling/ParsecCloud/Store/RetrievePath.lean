import ParsecCloud.Store.ResolvePath
import ParsecCloud.Store.Start

/- The loops that retrieve a path from an identifier (store/resolve_path.rs): what is not in the cache
   is populated, and the path is looked for again. Nobody else changes the store. -/
namespace ParsecCloud
open Rust HashMap

/-- The manifests of the server as they are stored locally once they are fetched. -/
structure ServerManifests where
  manifests : HashMap VlobID LocalChildManifest
  keyed : ∀ id manifest, manifests.lookup id = some manifest → manifest.id = id

/-- None when the entry is not found. -/
def populateCacheFromLocalStorage (store : WorkspaceStore) (entryId : VlobID) :
    Checked (Option WorkspaceStore) :=
  match store.storage.getManifest entryId with
  | none => .ok none
  | some manifest => do
    let manifests ← store.cache.manifests.insertIfMissing manifest
    return some { store with cache := { store.cache with manifests := manifests } }

def populateCacheFromLocalStorageOrServer (server : ServerManifests) (store : WorkspaceStore)
    (entryId : VlobID) : Checked (Option WorkspaceStore) := do
  match ← populateCacheFromLocalStorage store entryId with
  | some store => return some store
  | none =>
    match server.manifests.lookup entryId with
    | none => return none
    | some manifest =>
      let manifests ← store.cache.manifests.insertIfMissing manifest
      return some { store with
        storage := (store.storage.populateManifest manifest).2
        cache := { store.cache with manifests := manifests } }

/-- The entry itself is only looked for in the local storage when it is to be locked. -/
def populateForUpdate (server : ServerManifests) (entryId : VlobID) (store : WorkspaceStore)
    (cacheMissEntryId : VlobID) : Checked (Option WorkspaceStore) :=
  if cacheMissEntryId = entryId then populateCacheFromLocalStorage store cacheMissEntryId
  else populateCacheFromLocalStorageOrServer server store cacheMissEntryId

/-- The turns of a loop, for a number of them. The last identifier that could not be populated is
    remembered from one turn to the next. -/
def retrieveLoop {α : Type} (orders : VlobID → HashOrder EntryName) (entryId : VlobID)
    (lockForUpdate : Bool) (populate : WorkspaceStore → VlobID → Checked (Option WorkspaceStore))
    (finish : RetrievePathFromIDEntry → Option VlobID → Checked α) (wait : Checked (Option α)) :
    Nat → WorkspaceStore → Option VlobID → Checked (Option α)
  | 0, _, _ => .ok none
  | turns + 1, store, lastNotFoundDuringPopulate =>
    match (cacheOnlyRetrievePathFromId orders store.cache entryId lockForUpdate
        lastNotFoundDuringPopulate).1 with
    | .done entry maybeUpdateLockGuard => do
      let result ← finish entry maybeUpdateLockGuard
      return some result
    | .needWaitForTakenUpdateLock _ => wait
    | .needPopulateCache cacheMissEntryId => do
      match ← populate store cacheMissEntryId with
      | some store =>
        retrieveLoop orders entryId lockForUpdate populate finish wait turns store
          lastNotFoundDuringPopulate
      | none =>
        retrieveLoop orders entryId lockForUpdate populate finish wait turns store
          (some cacheMissEntryId)

inductive RetrievePathFromIdAndLockForUpdateError where
  | wouldBlock

/-- The entry, and the guard that is always present. -/
def finishLocked (entry : RetrievePathFromIDEntry) (maybeUpdateLockGuard : Option VlobID) : Checked
    (Except RetrievePathFromIdAndLockForUpdateError (RetrievePathFromIDEntry × VlobID)) := do
  let lockGuard ← expectSome "always present" maybeUpdateLockGuard
  return .ok (entry, lockGuard)

def retrievePathFromIdAndLockForUpdate (orders : VlobID → HashOrder EntryName)
    (server : ServerManifests) (entryId : VlobID) (wait : Bool) (turns : Nat)
    (store : WorkspaceStore) : Checked (Option
      (Except RetrievePathFromIdAndLockForUpdateError (RetrievePathFromIDEntry × VlobID))) :=
  retrieveLoop orders entryId true (populateForUpdate server entryId) finishLocked
    (if wait then .ok none else .ok (some (.error .wouldBlock))) turns store none

def finishRetrieval (entry : RetrievePathFromIDEntry) (maybeUpdateLockGuard : Option VlobID) :
    Checked RetrievePathFromIDEntry := do
  assert maybeUpdateLockGuard.isNone "maybe_update_lock_guard.is_none()"
  return entry

def retrievePathFromId (orders : VlobID → HashOrder EntryName) (server : ServerManifests)
    (entryId : VlobID) (turns : Nat) (store : WorkspaceStore) :
    Checked (Option RetrievePathFromIDEntry) :=
  retrieveLoop orders entryId false (populateCacheFromLocalStorageOrServer server) finishRetrieval
    (.error (.expect "internal error: entered unreachable code")) turns store none

/-- Going up from an entry through folders that list it, one comes to a parent that exists nowhere,
    before the root and after a number of folders. -/
inductive Dangles (known : VlobID → Option LocalChildManifest) (rootId : VlobID) :
    Nat → VlobID → VlobID → Prop where
  | nowhere {entryId parentId : VlobID} : entryId ≠ rootId → known parentId = none →
      Dangles known rootId 0 entryId parentId
  | above {n : Nat} {entryId parentId : VlobID} {parent : LocalFolderManifest} :
      entryId ≠ rootId → known parentId = some (.folder parent) → Holds parent.children entryId →
      Dangles known rootId n parentId parent.parent → Dangles known rootId (n + 1) entryId parentId

/-- The entry exists, and its path dangles. -/
def Dangling (known : VlobID → Option LocalChildManifest) (rootId entryId : VlobID) : Prop :=
  ∃ entry n, known entryId = some entry ∧ Dangles known rootId n entryId entry.parent

section Dangles
variable {known : VlobID → Option LocalChildManifest} {rootId entryId parentId : VlobID} {n m : Nat}

theorem Dangles.not_root (dangles : Dangles known rootId n entryId parentId) : entryId ≠ rootId := by
  cases dangles with
  | nowhere below _ => exact below
  | above below _ _ _ => exact below

theorem Dangles.parent {parent : LocalFolderManifest}
    (dangles : Dangles known rootId n entryId parentId)
    (isParent : known parentId = some (.folder parent)) :
    Holds parent.children entryId ∧
      ∃ m, n = m + 1 ∧ Dangles known rootId m parentId parent.parent := by
  cases dangles with
  | nowhere _ absent =>
    rw [isParent] at absent
    cases absent
  | above _ isFolder listed above =>
    rw [isParent] at isFolder
    cases isFolder
    exact ⟨listed, _, rfl, above⟩

theorem Dangles.unique (dangles : Dangles known rootId n entryId parentId)
    (again : Dangles known rootId m entryId parentId) : n = m := by
  induction dangles generalizing m with
  | nowhere _ absent =>
    cases again with
    | nowhere => rfl
    | above _ isFolder _ _ =>
      rw [absent] at isFolder
      cases isFolder
  | above _ isFolder _ _ later =>
    obtain ⟨-, m', rfl, above⟩ := again.parent isFolder
    rw [later above]

end Dangles

section Walk
variable {orders : VlobID → HashOrder EntryName} {manifests : ManifestsHashMap} {entryId : VlobID}
  {entryManifest : LocalChildManifest} {notFound : Option VlobID}
  {known : VlobID → Option LocalChildManifest} {s : PathRetrieval}

/-- The cache holds nothing but what is known. -/
def Shows (manifests : ManifestsHashMap) (known : VlobID → Option LocalChildManifest) : Prop :=
  ∀ id manifest, manifests.get id = some manifest → known id = some manifest

/-- What has to be populated is not in the cache, and the path dangles when it exists nowhere. -/
theorem dangles_of_retrieveParts (shows : Shows manifests known) {id : VlobID}
    (missing : retrieveParts orders manifests entryId entryManifest notFound s = .error id) :
    manifests.get id = none ∧ (known id = none →
      ∃ n, Dangles known manifests.rootManifestId n s.currentEntryId s.currentParentId) := by
  fun_induction retrieveParts orders manifests entryId entryManifest notFound s with
  | case4 s below parent atParent name found fresh later =>
    obtain ⟨absent, dangles⟩ := later missing
    refine ⟨absent, fun nowhere => ?_⟩
    obtain ⟨n, above⟩ := dangles nowhere
    rw [ManifestsHashMap.rootManifest_id] at below
    exact ⟨n + 1, .above below (shows _ _ atParent) ⟨name, childName_eq_some found⟩ above⟩
  | case7 s below absent other =>
    cases missing
    rw [ManifestsHashMap.rootManifest_id] at below
    exact ⟨absent, fun nowhere => ⟨0, .nowhere below nowhere⟩⟩
  | case1 => cases missing
  | case2 => cases missing
  | case3 => cases missing
  | case5 => cases missing
  | case6 => cases missing

/-- Every entry that was seen is at least as far from the end of the path. -/
def SeenBefore (known : VlobID → Option LocalChildManifest) (rootId : VlobID) (n : Nat)
    (seen : Finset VlobID) : Prop :=
  ∀ id ∈ seen, ∃ manifest m, known id = some manifest ∧
    Dangles known rootId m id manifest.parent ∧ n ≤ m

theorem retrieveParts_of_dangles (shows : Shows manifests known) {n : Nat}
    (dangles : Dangles known manifests.rootManifestId n s.currentEntryId s.currentParentId)
    (seen : SeenBefore known manifests.rootManifestId n s.seen) (other : notFound ≠ some entryId) :
    ∃ id, retrieveParts orders manifests entryId entryManifest notFound s = .error id := by
  fun_induction retrieveParts orders manifests entryId entryManifest notFound s generalizing n with
  | case1 s atRoot =>
    rw [ManifestsHashMap.rootManifest_id] at atRoot
    exact absurd atRoot dangles.not_root
  | case2 s below parent atParent unlisted =>
    obtain ⟨name, found⟩ := childName_of_holds (orders s.currentParentId)
      (dangles.parent (shows _ _ atParent)).1
    rw [unlisted] at found
    cases found
  | case3 s below parent atParent name found again =>
    obtain ⟨-, m, rfl, above⟩ := dangles.parent (shows _ _ atParent)
    obtain ⟨manifest, m', isKnown, far, le⟩ := seen _ again
    rw [shows _ _ atParent] at isKnown
    cases isKnown
    have same := above.unique far
    omega
  | case4 s below parent atParent name found fresh later =>
    obtain ⟨-, m, rfl, above⟩ := dangles.parent (shows _ _ atParent)
    apply later above
    intro id isSeen
    rcases Finset.mem_insert.mp isSeen with rfl | before
    · exact ⟨_, m, shows _ _ atParent, above, Nat.le_refl m⟩
    · obtain ⟨manifest, m', isKnown, far, le⟩ := seen id before
      exact ⟨manifest, m', isKnown, far, by omega⟩
  | case5 s below file atParent =>
    have isKnown := shows _ _ atParent
    cases dangles with
    | nowhere _ absent =>
      rw [isKnown] at absent
      cases absent
    | above _ isFolder _ _ =>
      rw [isKnown] at isFolder
      cases isFolder
  | case6 s below absent same => exact absurd same other
  | case7 s below absent differs => exact ⟨_, rfl⟩

theorem retrieveEntry_missing (shows : Shows manifests known) {id : VlobID}
    (missing : retrieveEntry orders manifests entryId notFound = .error id) :
    manifests.get id = none ∧ (known id = none →
      known entryId = none ∧ id = entryId ∨ Dangling known manifests.rootManifestId entryId) := by
  unfold retrieveEntry at missing
  cases found : manifests.get entryId with
  | none =>
    rw [found] at missing
    simp only at missing
    split at missing
    · cases missing
    · cases missing
      exact ⟨found, fun nowhere => Or.inl ⟨nowhere, rfl⟩⟩
  | some entryManifest =>
    rw [found] at missing
    obtain ⟨absent, dangles⟩ := dangles_of_retrieveParts shows missing
    refine ⟨absent, fun nowhere => Or.inr ?_⟩
    obtain ⟨n, above⟩ := dangles nowhere
    exact ⟨entryManifest, n, shows _ _ found, above⟩

theorem retrieveEntry_of_dangling (shows : Shows manifests known)
    (dangling : Dangling known manifests.rootManifestId entryId) (other : notFound ≠ some entryId) :
    ∃ id, retrieveEntry orders manifests entryId notFound = .error id := by
  obtain ⟨entryManifest, n, isKnown, dangles⟩ := dangling
  unfold retrieveEntry
  cases found : manifests.get entryId with
  | none => exact ⟨entryId, by simp [other]⟩
  | some manifest =>
    have same := shows _ _ found
    rw [isKnown] at same
    cases same
    apply retrieveParts_of_dangles shows dangles _ other
    intro id isSeen
    rw [Finset.mem_singleton.mp isSeen]
    exact ⟨entryManifest, n, isKnown, dangles, Nat.le_refl n⟩

end Walk

/-- A manifest is in the cache now, and the rest is as it was. -/
structure Brought (store store' : WorkspaceStore) (id : VlobID) (manifest : LocalChildManifest) :
    Prop where
  root : store'.cache.manifests.rootManifestId = store.cache.manifests.rootManifestId
  get : ∀ other, store'.cache.manifests.get other =
    if other = id then some manifest else store.cache.manifests.get other
  locks : store'.cache.lockUpdateManifests = store.cache.lockUpdateManifests

/-- Populating brings in what is known, and nothing is known of infinitely many entries. -/
structure Populates (populate : WorkspaceStore → VlobID → Checked (Option WorkspaceStore))
    (known : WorkspaceStore → VlobID → Option LocalChildManifest) : Prop where
  shows : ∀ store, Shows store.cache.manifests (known store)
  finite : ∀ store, ∃ ids : Finset VlobID, ∀ id manifest, known store id = some manifest → id ∈ ids
  nowhere : ∀ store id, known store id = none → populate store id = .ok none
  brings : ∀ store id manifest, store.cache.manifests.get id = none →
    known store id = some manifest → ∃ store', populate store id = .ok (some store') ∧
      Brought store store' id manifest ∧ known store' = known store

section Loop
variable {α : Type} {orders : VlobID → HashOrder EntryName} {entryId : VlobID}
  {lockForUpdate : Bool} {populate : WorkspaceStore → VlobID → Checked (Option WorkspaceStore)}
  {finish : RetrievePathFromIDEntry → Option VlobID → Checked α} {wait : Checked (Option α)}
  {known : WorkspaceStore → VlobID → Option LocalChildManifest} {store : WorkspaceStore}
  {notFound : Option VlobID}

/-- The guard that is asked for. -/
def guardFor (lockForUpdate : Bool) (entryId : VlobID) : Option VlobID :=
  if lockForUpdate then some entryId else none

theorem retrieveLoop_done (free : lockForUpdate = true → entryId ∉ store.cache.lockUpdateManifests)
    {entry : RetrievePathFromIDEntry} {result : α}
    (retrieved : retrieveEntry orders store.cache.manifests entryId notFound = .ok entry)
    (finished : finish entry (guardFor lockForUpdate entryId) = .ok result) (turns : Nat) :
    retrieveLoop orders entryId lockForUpdate populate finish wait (turns + 1) store notFound =
      .ok (some result) := by
  have isDone : (cacheOnlyRetrievePathFromId orders store.cache entryId lockForUpdate notFound).1 =
      .done entry (guardFor lockForUpdate entryId) := by
    rw [cacheOnlyRetrievePathFromId, retrieved]
    cases lockForUpdate with
    | false => rfl
    | true => simp [PerManifestUpdateLock.take, free, guardFor]
  rw [retrieveLoop, isDone]
  simp only [finished]
  rfl

theorem retrieveLoop_nowhere {id : VlobID}
    (missing : retrieveEntry orders store.cache.manifests entryId notFound = .error id)
    (nowhere : populate store id = .ok none) (turns : Nat) :
    retrieveLoop orders entryId lockForUpdate populate finish wait (turns + 1) store notFound =
      retrieveLoop orders entryId lockForUpdate populate finish wait turns store (some id) := by
  rw [retrieveLoop, cacheOnlyRetrievePathFromId, missing]
  simp only [nowhere]
  rfl

theorem retrieveLoop_brought {id : VlobID} {store' : WorkspaceStore}
    (missing : retrieveEntry orders store.cache.manifests entryId notFound = .error id)
    (brought : populate store id = .ok (some store')) (turns : Nat) :
    retrieveLoop orders entryId lockForUpdate populate finish wait (turns + 1) store notFound =
      retrieveLoop orders entryId lockForUpdate populate finish wait turns store' notFound := by
  rw [retrieveLoop, cacheOnlyRetrievePathFromId, missing]
  simp only [brought]
  rfl

/-- An entry that exists nowhere is missing at the second turn. -/
theorem retrieveLoop_absent (populates : Populates populate known)
    (free : lockForUpdate = true → entryId ∉ store.cache.lockUpdateManifests)
    (absent : known store entryId = none)
    {result : α} (finished : finish .missing (guardFor lockForUpdate entryId) = .ok result) :
    retrieveLoop orders entryId lockForUpdate populate finish wait 2 store none =
      .ok (some result) := by
  have notCached : store.cache.manifests.get entryId = none := by
    cases found : store.cache.manifests.get entryId with
    | none => rfl
    | some manifest =>
      rw [populates.shows store _ _ found] at absent
      cases absent
  have missing : retrieveEntry orders store.cache.manifests entryId none = .error entryId := by
    simp [retrieveEntry, notCached]
  rw [retrieveLoop_nowhere missing (populates.nowhere store entryId absent)]
  exact retrieveLoop_done free (by simp [retrieveEntry, notCached]) finished 0

/-- Each turn brings one more of the known manifests into the cache. -/
theorem retrieveLoop_stops (populates : Populates populate known)
    (free : lockForUpdate = true → entryId ∉ store.cache.lockUpdateManifests)
    {entry : LocalChildManifest}
    (isKnown : known store entryId = some entry)
    (sound : ¬ Dangling (known store) store.cache.manifests.rootManifestId entryId)
    (finishes : ∀ entry, ∃ result, finish entry (guardFor lockForUpdate entryId) = .ok result) :
    ∃ turns entry result, finish entry (guardFor lockForUpdate entryId) = .ok result ∧
      retrieveLoop orders entryId lockForUpdate populate finish wait turns store notFound =
        .ok (some result) := by
  obtain ⟨ids, finite⟩ := populates.finite store
  induction left : (ids \ store.cache.manifests.manifests.keys).card using Nat.strongRecOn
    generalizing store with
  | ind count fewer =>
    cases retrieved : retrieveEntry orders store.cache.manifests entryId notFound with
    | ok found =>
      obtain ⟨result, finished⟩ := finishes found
      exact ⟨1, found, result, finished, retrieveLoop_done free retrieved finished 0⟩
    | error id =>
      obtain ⟨absent, nowhere⟩ := retrieveEntry_missing (populates.shows store) retrieved
      cases idKnown : known store id with
      | none =>
        rcases nowhere idKnown with ⟨missing, -⟩ | dangling
        · rw [isKnown] at missing
          cases missing
        · exact absurd dangling sound
      | some manifest =>
        obtain ⟨store', brings, brought, same⟩ := populates.brings store id manifest absent idKnown
        have fewerLeft : (ids \ store'.cache.manifests.manifests.keys).card < count := by
          rw [← left]
          apply Finset.card_lt_card
          rw [Finset.ssubset_iff_of_subset]
          · refine ⟨id, Finset.mem_sdiff.mpr ⟨finite id manifest idKnown, ?_⟩, ?_⟩
            · rw [← lookup_eq_none_iff]
              exact absent
            · intro still
              apply (Finset.mem_sdiff.mp still).2
              exact mem_keys_iff.mpr ⟨manifest, (brought.get id).trans (if_pos rfl)⟩
          · intro other isLeft
            obtain ⟨isId, notYet⟩ := Finset.mem_sdiff.mp isLeft
            refine Finset.mem_sdiff.mpr ⟨isId, fun before => notYet ?_⟩
            obtain ⟨row, found⟩ := mem_keys_iff.mp before
            have kept := brought.get other
            by_cases isNew : other = id
            · exact mem_keys_iff.mpr ⟨manifest, kept.trans (if_pos isNew)⟩
            · exact mem_keys_iff.mpr ⟨row, (kept.trans (if_neg isNew)).trans found⟩
        have stillFree : lockForUpdate = true → entryId ∉ store'.cache.lockUpdateManifests :=
          brought.locks ▸ free
        obtain ⟨turns, found, result, finished, stops⟩ := fewer _ fewerLeft stillFree
          (by rw [same, isKnown]) (by rw [same, brought.root]; exact sound)
          (by rw [same]; exact finite) rfl
        exact ⟨turns + 1, found, result, finished,
          (retrieveLoop_brought retrieved brings turns).trans stops⟩

/-- A path that dangles is looked for again and again. -/
theorem retrieveLoop_of_dangling (populates : Populates populate known)
    (dangling : Dangling (known store) store.cache.manifests.rootManifestId entryId)
    (other : notFound ≠ some entryId) (turns : Nat) :
    retrieveLoop orders entryId lockForUpdate populate finish wait turns store notFound =
      .ok none := by
  induction turns generalizing store notFound with
  | zero => rfl
  | succ turns later =>
    obtain ⟨id, missing⟩ : ∃ id,
        retrieveEntry orders store.cache.manifests entryId notFound = .error id :=
      retrieveEntry_of_dangling (populates.shows store) dangling other
    have absent := (retrieveEntry_missing (populates.shows store) missing).1
    cases idKnown : known store id with
    | none =>
      rw [retrieveLoop_nowhere missing (populates.nowhere store id idKnown)]
      apply later dangling
      rintro ⟨⟩
      obtain ⟨entry, -, isKnown, -⟩ := dangling
      rw [isKnown] at idKnown
      cases idKnown
    | some manifest =>
      obtain ⟨store', brings, brought, same⟩ := populates.brings store id manifest absent idKnown
      rw [retrieveLoop_brought missing brings]
      apply later _ other
      rw [same, brought.root]
      exact dangling

end Loop

/-- What is in the cache, or else in the local storage. -/
def knownLocally (store : WorkspaceStore) (id : VlobID) : Option LocalChildManifest :=
  (store.cache.manifests.get id).or (store.storage.getManifest id)

/-- What is in the cache, in the local storage or on the server, in this order. -/
def known (server : ServerManifests) (store : WorkspaceStore) (id : VlobID) :
    Option LocalChildManifest :=
  (knownLocally store id).or (server.manifests.lookup id)

/-- What can be known of an entry that is to be locked is known locally. -/
def knownForUpdate (server : ServerManifests) (entryId : VlobID) (store : WorkspaceStore)
    (id : VlobID) : Option LocalChildManifest :=
  if id = entryId then knownLocally store id else known server store id

section Populates
variable {server : ServerManifests} {store : WorkspaceStore} {id : VlobID}
  {manifest : LocalChildManifest}

theorem insertIfMissing_absent {cache : ManifestsHashMap} (isId : manifest.id = id)
    (absent : cache.get id = none) :
    ∃ cache', cache.insertIfMissing manifest = .ok cache' ∧
      cache'.rootManifestId = cache.rootManifestId ∧
      ∀ other, cache'.get other = if other = id then some manifest else cache.get other := by
  subst isId
  have notRoot : manifest.id ≠ cache.rootManifestId := by
    intro same
    rw [same, cache.get_root] at absent
    cases absent
  have inserts : ∃ cache', cache.insert manifest = .ok cache' := by
    cases manifest with
    | folder manifest => exact ⟨_, rfl⟩
    | file manifest => exact ⟨_, dif_pos notRoot⟩
  obtain ⟨cache', inserted⟩ := inserts
  obtain ⟨root, get⟩ := ManifestsHashMap.insert_cases inserted
  refine ⟨cache', ?_, root, get⟩
  rw [ManifestsHashMap.insertIfMissing, inserted, ok_bind, absent]
  rfl

theorem populateLocally_brings (absent : store.cache.manifests.get id = none)
    (stored : store.storage.getManifest id = some manifest) :
    ∃ store', populateCacheFromLocalStorage store id = .ok (some store') ∧
      Brought store store' id manifest ∧ store'.storage = store.storage := by
  obtain ⟨manifests, inserted, root, get⟩ :=
    insertIfMissing_absent (WorkspaceStorage.id_of_getManifest stored) absent
  exact ⟨{ store with cache := { store.cache with manifests := manifests } },
    by rw [populateCacheFromLocalStorage, stored]; simp only [inserted]; rfl, ⟨root, get, rfl⟩, rfl⟩

theorem populateServer_brings (absent : store.cache.manifests.get id = none)
    (notStored : store.storage.getManifest id = none)
    (onServer : server.manifests.lookup id = some manifest) :
    ∃ store', populateCacheFromLocalStorageOrServer server store id = .ok (some store') ∧
      Brought store store' id manifest ∧
      ∀ other, store'.storage.getManifest other =
        if other = id then some manifest else store.storage.getManifest other := by
  have isId := server.keyed id manifest onServer
  obtain ⟨manifests, inserted, root, get⟩ := insertIfMissing_absent isId absent
  refine ⟨{ store with
    storage := (store.storage.populateManifest manifest).2
    cache := { store.cache with manifests := manifests } }, ?_, ⟨root, get, rfl⟩, ?_⟩
  · rw [populateCacheFromLocalStorageOrServer, populateCacheFromLocalStorage, notStored]
    simp only [ok_bind, onServer, inserted]
    rfl
  · intro other
    rw [WorkspaceStorage.populateManifest, isId, notStored,
      WorkspaceStorage.getManifest_updateManifest, isId]

theorem knownLocally_of_brought {store' : WorkspaceStore} (brought : Brought store store' id manifest)
    (kept : ∀ other, other ≠ id → store'.storage.getManifest other = store.storage.getManifest other)
    (other : VlobID) :
    knownLocally store' other = if other = id then some manifest else knownLocally store other := by
  rw [knownLocally, brought.get]
  by_cases same : other = id
  · simp [same]
  · simp [same, kept other same, knownLocally]

theorem known_finite (server : ServerManifests) (store : WorkspaceStore) :
    ∃ ids : Finset VlobID, ∀ id manifest, known server store id = some manifest → id ∈ ids := by
  refine ⟨store.cache.manifests.manifests.keys ∪
    (store.storage.vlobs.map LocalChildManifest.id).toFinset ∪ server.manifests.keys, ?_⟩
  intro id manifest isKnown
  simp only [Finset.mem_union, List.mem_toFinset]
  rw [known, Option.or_eq_some_iff, knownLocally, Option.or_eq_some_iff] at isKnown
  rcases isKnown with (cached | ⟨-, stored⟩) | ⟨-, onServer⟩
  · exact Or.inl (Or.inl (mem_keys_iff.mpr ⟨manifest, cached⟩))
  · rw [← WorkspaceStorage.id_of_getManifest stored]
    exact Or.inl (Or.inr (List.mem_map_of_mem (List.mem_of_find?_eq_some stored)))
  · exact Or.inr (mem_keys_iff.mpr ⟨manifest, onServer⟩)

theorem known_of_brought {store' : WorkspaceStore} (brought : Brought store store' id manifest)
    (kept : ∀ other, other ≠ id → store'.storage.getManifest other = store.storage.getManifest other)
    (isKnown : known server store id = some manifest) : known server store' = known server store := by
  funext other
  rw [known, knownLocally_of_brought brought kept]
  by_cases same : other = id
  · simp [same, isKnown]
  · simp [same, known]

theorem populateServer_known (absent : store.cache.manifests.get id = none)
    (isKnown : known server store id = some manifest) :
    ∃ store', populateCacheFromLocalStorageOrServer server store id = .ok (some store') ∧
      Brought store store' id manifest ∧ ∀ other, other ≠ id →
        store'.storage.getManifest other = store.storage.getManifest other := by
  rw [known, knownLocally, absent, Option.none_or] at isKnown
  cases stored : store.storage.getManifest id with
  | some row =>
    rw [stored] at isKnown
    cases isKnown
    obtain ⟨store', brings, brought, kept⟩ := populateLocally_brings absent stored
    refine ⟨store', ?_, brought, fun _ _ => by rw [kept]⟩
    rw [populateCacheFromLocalStorageOrServer, brings]
    rfl
  | none =>
    rw [stored, Option.none_or] at isKnown
    obtain ⟨store', brings, brought, kept⟩ := populateServer_brings absent stored isKnown
    exact ⟨store', brings, brought, fun other differs => by rw [kept, if_neg differs]⟩

theorem populateServer_nowhere (absent : known server store id = none) :
    populateCacheFromLocalStorageOrServer server store id = .ok none := by
  rw [known, knownLocally, Option.or_eq_none_iff, Option.or_eq_none_iff] at absent
  obtain ⟨⟨-, notStored⟩, notOnServer⟩ := absent
  rw [populateCacheFromLocalStorageOrServer, populateCacheFromLocalStorage, notStored]
  simp only [ok_bind, notOnServer]
  rfl

theorem populateLocally_nowhere (absent : knownLocally store id = none) :
    populateCacheFromLocalStorage store id = .ok none := by
  rw [knownLocally, Option.or_eq_none_iff] at absent
  rw [populateCacheFromLocalStorage, absent.2]

theorem populates_server (server : ServerManifests) :
    Populates (populateCacheFromLocalStorageOrServer server) (known server) where
  shows store id manifest cached := by
    change store.cache.manifests.get id = _ at cached
    simp [known, knownLocally, cached]
  finite := known_finite server
  nowhere store id absent := populateServer_nowhere absent
  brings store id manifest absent isKnown := by
    obtain ⟨store', brings, brought, kept⟩ := populateServer_known absent isKnown
    exact ⟨store', brings, brought, known_of_brought brought kept isKnown⟩

theorem known_of_forUpdate {entryId : VlobID}
    (isKnown : knownForUpdate server entryId store id = some manifest) :
    known server store id = some manifest := by
  unfold knownForUpdate at isKnown
  split at isKnown
  · simp [known, isKnown]
  · exact isKnown

theorem populates_forUpdate (server : ServerManifests) (entryId : VlobID) :
    Populates (populateForUpdate server entryId) (knownForUpdate server entryId) where
  shows store id manifest cached := by
    simp [knownForUpdate, known, knownLocally, cached]
  finite store := by
    obtain ⟨ids, finite⟩ := known_finite server store
    exact ⟨ids, fun id manifest isKnown => finite id manifest (known_of_forUpdate isKnown)⟩
  nowhere store id absent := by
    unfold knownForUpdate at absent
    unfold populateForUpdate
    split
    · rename_i same
      rw [if_pos same] at absent
      exact populateLocally_nowhere absent
    · rename_i differs
      rw [if_neg differs] at absent
      exact populateServer_nowhere absent
  brings store id manifest absent isKnown := by
    have brings : ∃ store', populateForUpdate server entryId store id = .ok (some store') ∧
        Brought store store' id manifest ∧ ∀ other, other ≠ id →
          store'.storage.getManifest other = store.storage.getManifest other := by
      unfold populateForUpdate
      by_cases same : id = entryId
      · rw [if_pos same]
        rw [knownForUpdate, if_pos same, knownLocally, absent, Option.none_or] at isKnown
        obtain ⟨store', brings, brought, kept⟩ := populateLocally_brings absent isKnown
        exact ⟨store', brings, brought, fun _ _ => by rw [kept]⟩
      · rw [if_neg same]
        exact populateServer_known absent (known_of_forUpdate isKnown)
    obtain ⟨store', brings, brought, kept⟩ := brings
    refine ⟨store', brings, brought, ?_⟩
    funext other
    unfold knownForUpdate at isKnown ⊢
    split
    · rename_i isEntry
      rw [knownLocally_of_brought brought kept]
      split
      · rename_i same
        rw [if_pos (same.symm.trans isEntry)] at isKnown
        rw [same, isKnown]
      · rfl
    · exact congrFun (known_of_brought brought kept (known_of_forUpdate isKnown)) other

end Populates

/-- Both loops end with what is found, or go on for ever. -/
theorem retrieve_stops_iff (orders : VlobID → HashOrder EntryName) (server : ServerManifests)
    (store : WorkspaceStore) (entryId : VlobID) (wait : Bool)
    (free : entryId ∉ store.cache.lockUpdateManifests) :
    ((∃ turns entry, retrievePathFromId orders server entryId turns store = .ok (some entry)) ↔
      ¬ Dangling (known server store) store.cache.manifests.rootManifestId entryId) ∧
    ((∃ turns entry lockGuard, retrievePathFromIdAndLockForUpdate orders server entryId wait turns
        store = .ok (some (.ok (entry, lockGuard)))) ↔
      ¬ Dangling (knownForUpdate server entryId store) store.cache.manifests.rootManifestId
        entryId) := by
  constructor
  · constructor
    · rintro ⟨turns, entry, stops⟩ dangling
      rw [retrievePathFromId, retrieveLoop_of_dangling (populates_server server) dangling (by simp)]
        at stops
      cases stops
    · intro sound
      cases isKnown : known server store entryId with
      | none =>
        exact ⟨2, .missing, retrieveLoop_absent (populates_server server) (by simp) isKnown rfl⟩
      | some entry =>
        have finishes : ∀ entry, ∃ result,
            finishRetrieval entry (guardFor false entryId) = .ok result :=
          fun entry => ⟨entry, rfl⟩
        obtain ⟨turns, found, result, -, stops⟩ :=
          retrieveLoop_stops (populates_server server) (by simp) isKnown sound finishes
        exact ⟨turns, result, stops⟩
  · constructor
    · rintro ⟨turns, entry, lockGuard, stops⟩ dangling
      rw [retrievePathFromIdAndLockForUpdate,
        retrieveLoop_of_dangling (populates_forUpdate server entryId) dangling (by simp)] at stops
      cases stops
    · intro sound
      cases isKnown : knownForUpdate server entryId store entryId with
      | none =>
        exact ⟨2, .missing, entryId,
          retrieveLoop_absent (populates_forUpdate server entryId) (fun _ => free) isKnown rfl⟩
      | some entry =>
        have finishes : ∀ entry, ∃ result,
            finishLocked entry (guardFor true entryId) = .ok result :=
          fun entry => ⟨.ok (entry, entryId), rfl⟩
        obtain ⟨turns, found, result, finished, stops⟩ := retrieveLoop_stops
          (populates_forUpdate server entryId) (fun _ => free) isKnown sound finishes
        cases finished
        exact ⟨turns, found, entryId, stops⟩

/-- The root, and an entry whose parent exists nowhere. -/
def strayStore : WorkspaceStore where
  realmId := ⟨1⟩
  storage := ⟨[.folder (.newRoot ⟨0⟩ ⟨1⟩ 0 false), .file (.new ⟨2⟩ ⟨0⟩ ⟨9⟩ 0)], ⟨"", true⟩, by decide⟩
  cache := ⟨.new (.newRoot ⟨0⟩ ⟨1⟩ 0 false), ∅⟩
  preventSyncPattern := ⟨[]⟩

theorem keyed_empty (id : VlobID) (manifest : LocalChildManifest)
    (found : (∅ : HashMap VlobID LocalChildManifest).lookup id = some manifest) :
    manifest.id = id := by
  simp at found

def emptyServer : ServerManifests := ⟨∅, keyed_empty⟩

theorem strayStore_dangling :
    Dangling (known emptyServer strayStore) strayStore.cache.manifests.rootManifestId ⟨2⟩ :=
  ⟨.file (.new ⟨2⟩ ⟨0⟩ ⟨9⟩ 0), 0, rfl, .nowhere (by decide) rfl⟩

theorem strayStore_not_retrieved :
    ¬ ∃ turns entry, retrievePathFromId (fun _ => .any _) emptyServer ⟨2⟩ turns strayStore =
      .ok (some entry) := by
  rintro ⟨turns, entry, stops⟩
  rw [retrievePathFromId,
    retrieveLoop_of_dangling (populates_server emptyServer) strayStore_dangling (by simp)] at stops
  cases stops

theorem retrieve_stops_iff_of_stray :
    ((∃ turns entry, retrievePathFromId (fun _ => .any _) emptyServer ⟨2⟩ turns strayStore =
        .ok (some entry)) ↔
      ¬ Dangling (known emptyServer strayStore) strayStore.cache.manifests.rootManifestId ⟨2⟩) ∧
    ((∃ turns entry lockGuard, retrievePathFromIdAndLockForUpdate (fun _ => .any _) emptyServer ⟨2⟩
        true turns strayStore = .ok (some (.ok (entry, lockGuard)))) ↔
      ¬ Dangling (knownForUpdate emptyServer ⟨2⟩ strayStore)
        strayStore.cache.manifests.rootManifestId ⟨2⟩) :=
  retrieve_stops_iff _ _ _ _ _ (Finset.notMem_empty _)

end ParsecCloud

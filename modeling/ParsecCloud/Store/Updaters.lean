import ParsecCloud.Store.Start

/- What the updaters write, in the local storage and then in the cache (store/folder_updater.rs,
   store/file_updater.rs, store/sync_updater.rs and store/reparent_updater.rs). The chunks that
   are written with a file are left out. -/
namespace ParsecCloud
open Rust HashMap

namespace WorkspaceStore

/-- One transaction on the storage, followed by the insertions in the cache. -/
def write (store : WorkspaceStore) (stored cached : List LocalChildManifest) :
    Checked WorkspaceStore := do
  let manifests ← cached.foldlM ManifestsHashMap.insert store.cache.manifests
  return { store with
    storage := store.storage.updateManifests stored
    cache := { store.cache with manifests := manifests } }

def updateFolderManifest (store : WorkspaceStore) (manifest : LocalFolderManifest) :
    Option LocalChildManifest → Checked WorkspaceStore
  | none => store.write [.folder manifest] [.folder manifest]
  | some newChild => store.write [.folder manifest, newChild] [.folder manifest, newChild]

def updateFileManifestAndContinue (store : WorkspaceStore) (manifest : LocalFileManifest) :
    Checked WorkspaceStore :=
  store.write [.file manifest] [.file manifest]

end WorkspaceStore

def SyncUpdater.updateManifest (store : WorkspaceStore) (manifest : LocalChildManifest) :
    Checked WorkspaceStore :=
  store.write [manifest] [manifest]

def SyncUpdater.updateFileManifestAndChunks (store : WorkspaceStore)
    (manifest : LocalFileManifest) : Checked WorkspaceStore :=
  store.write [.file manifest] [.file manifest]

def SyncConflictUpdater.updateManifests (store : WorkspaceStore)
    (childManifest : LocalChildManifest) (parentManifest : LocalFolderManifest)
    (conflictingNewChildManifest : LocalChildManifest) : Checked WorkspaceStore :=
  store.write [childManifest, .folder parentManifest, conflictingNewChildManifest]
    [.folder parentManifest, childManifest, conflictingNewChildManifest]

/-- The manifests of a reparenting. -/
structure ReparentingUpdater where
  srcParentManifest : LocalFolderManifest
  srcChildManifest : LocalChildManifest
  dstParentManifest : LocalFolderManifest
  dstChildManifest : Option LocalChildManifest

/-- The locks that are taken for a reparenting, which are different. -/
def ReparentingUpdater.Locked (updater : ReparentingUpdater) : Prop :=
  ([updater.srcParentManifest.base.id, updater.srcChildManifest.id,
      updater.dstParentManifest.base.id] ++
    updater.dstChildManifest.toList.map LocalChildManifest.id).Nodup

def ReparentingUpdater.updateManifests (store : WorkspaceStore) (updater : ReparentingUpdater) :
    Checked WorkspaceStore :=
  match updater.dstChildManifest with
  | none =>
    store.write
      [.folder updater.srcParentManifest, updater.srcChildManifest,
        .folder updater.dstParentManifest]
      [.folder updater.srcParentManifest, .folder updater.dstParentManifest,
        updater.srcChildManifest]
  | some dstChildManifest =>
    store.write
      [.folder updater.srcParentManifest, updater.srcChildManifest,
        .folder updater.dstParentManifest, dstChildManifest]
      [.folder updater.srcParentManifest, .folder updater.dstParentManifest,
        updater.srcChildManifest, dstChildManifest]

/-- The last manifest that is written for an identifier. -/
def lastWritten (manifests : List LocalChildManifest) (id : VlobID) : Option LocalChildManifest :=
  manifests.reverse.find? fun manifest => manifest.id = id

theorem lastWritten_cons (manifest : LocalChildManifest) (rest : List LocalChildManifest)
    (id : VlobID) :
    lastWritten (manifest :: rest) id =
      (lastWritten rest id).or (if id = manifest.id then some manifest else none) := by
  simp only [lastWritten, List.reverse_cons, List.find?_append]
  congr 1
  by_cases same : id = manifest.id
  · simp [same]
  · simp [same, Ne.symm same]

theorem lastWritten_eq_none {manifests : List LocalChildManifest} {id : VlobID}
    (absent : id ∉ manifests.map LocalChildManifest.id) : lastWritten manifests id = none := by
  induction manifests with
  | nil => rfl
  | cons manifest rest ih =>
    rw [List.map_cons, List.mem_cons, not_or] at absent
    rw [lastWritten_cons, ih absent.2, if_neg absent.1]
    rfl

theorem lastWritten_of_mem {manifests : List LocalChildManifest} {manifest : LocalChildManifest}
    (unique : (manifests.map LocalChildManifest.id).Nodup) (member : manifest ∈ manifests) :
    lastWritten manifests manifest.id = some manifest := by
  induction manifests with
  | nil => cases member
  | cons first rest ih =>
    rw [List.map_cons, List.nodup_cons] at unique
    rcases List.mem_cons.mp member with rfl | later
    · rw [lastWritten_cons, lastWritten_eq_none unique.1, if_pos rfl]
      rfl
    · rw [lastWritten_cons, ih unique.2 later]
      rfl

theorem getManifest_updateManifests (storage : WorkspaceStorage)
    (manifests : List LocalChildManifest) (id : VlobID) :
    (storage.updateManifests manifests).getManifest id =
      (lastWritten manifests id).or (storage.getManifest id) := by
  induction manifests generalizing storage with
  | nil => rfl
  | cons manifest rest ih =>
    change ((storage.updateManifest manifest).updateManifests rest).getManifest id = _
    rw [ih, lastWritten_cons, WorkspaceStorage.getManifest_updateManifest, Option.or_assoc]
    congr 1
    split <;> rfl

theorem get_insertAll {manifests : List LocalChildManifest} {cache cache' : ManifestsHashMap}
    (run : manifests.foldlM ManifestsHashMap.insert cache = .ok cache') (id : VlobID) :
    cache'.get id = (lastWritten manifests id).or (cache.get id) := by
  induction manifests generalizing cache with
  | nil =>
    cases run
    rfl
  | cons manifest rest ih =>
    rw [List.foldlM_cons] at run
    obtain ⟨next, inserted, run⟩ := bind_eq_ok.mp run
    rw [ih run, lastWritten_cons, (ManifestsHashMap.insert_cases inserted).2, Option.or_assoc]
    congr 1
    split <;> rfl

/-- The store after manifests are written: those that are written last for each identifier, the
    same in the storage and in the cache, and nothing else changed. -/
structure Wrote (manifests : List LocalChildManifest) (store store' : WorkspaceStore) : Prop where
  stored : ∀ id, store'.storage.getManifest id =
    (lastWritten manifests id).or (store.storage.getManifest id)
  cached : ∀ id, store'.cache.manifests.get id =
    (lastWritten manifests id).or (store.cache.manifests.get id)

theorem write_wrote {store store' : WorkspaceStore} {stored cached : List LocalChildManifest}
    (same : ∀ id, lastWritten stored id = lastWritten cached id)
    (run : store.write stored cached = .ok store') : Wrote stored store store' := by
  obtain ⟨manifests, inserted, done⟩ := bind_eq_ok.mp run
  cases done
  constructor
  · exact getManifest_updateManifests _ _
  · intro id
    rw [same]
    exact get_insertAll inserted id

theorem insertAll_ok {manifests : List LocalChildManifest} (cache : ManifestsHashMap)
    (fits : ∀ manifest ∈ manifests,
      manifest.id = cache.rootManifestId → ∃ folder, manifest = .folder folder) :
    ∃ cache', manifests.foldlM ManifestsHashMap.insert cache = .ok cache' := by
  induction manifests generalizing cache with
  | nil => exact ⟨cache, rfl⟩
  | cons manifest rest ih =>
    obtain ⟨next, inserted⟩ : ∃ next, cache.insert manifest = .ok next := by
      cases manifest with
      | folder folder => exact ⟨_, rfl⟩
      | file file =>
        have other : file.base.id ≠ cache.rootManifestId := by
          intro same
          obtain ⟨folder, isFolder⟩ := fits (.file file) (by simp) same
          cases isFolder
        exact ⟨_, dif_pos other⟩
    obtain ⟨cache', run⟩ := ih next (by
      intro later member
      rw [(ManifestsHashMap.insert_cases inserted).1]
      exact fits later (List.mem_cons_of_mem _ member))
    refine ⟨cache', ?_⟩
    rw [List.foldlM_cons, inserted, ok_bind, run]

theorem write_ok (store : WorkspaceStore) (stored : List LocalChildManifest)
    {cached : List LocalChildManifest}
    (fits : ∀ manifest ∈ cached, manifest.id = store.cache.manifests.rootManifestId →
      ∃ folder, manifest = .folder folder) : ∃ store', store.write stored cached = .ok store' := by
  obtain ⟨manifests, inserted⟩ := insertAll_ok store.cache.manifests fits
  rw [WorkspaceStore.write, inserted]
  exact ⟨_, rfl⟩

theorem lastWritten_swap {a b : LocalChildManifest} (other : a.id ≠ b.id)
    (rest : List LocalChildManifest) (id : VlobID) :
    lastWritten (a :: b :: rest) id = lastWritten (b :: a :: rest) id := by
  simp only [lastWritten_cons, Option.or_assoc]
  congr 1
  by_cases first : id = a.id
  · have second : ¬ id = b.id := fun same => other (first.symm.trans same)
    rw [if_pos first, if_neg second]
    rfl
  · rw [if_neg first]
    simp

theorem SyncConflictUpdater.updateManifests_wrote {store store' : WorkspaceStore}
    {childManifest newChildManifest : LocalChildManifest} {parentManifest : LocalFolderManifest}
    (locked : childManifest.id ≠ parentManifest.base.id)
    (run : updateManifests store childManifest parentManifest newChildManifest = .ok store') :
    Wrote [childManifest, .folder parentManifest, newChildManifest] store store' :=
  write_wrote (lastWritten_swap locked _) run

theorem ReparentingUpdater.updateManifests_wrote {store store' : WorkspaceStore}
    {updater : ReparentingUpdater} (locked : updater.Locked)
    (run : updater.updateManifests store = .ok store') :
    Wrote ([.folder updater.srcParentManifest, updater.srcChildManifest,
      .folder updater.dstParentManifest] ++ updater.dstChildManifest.toList) store store' := by
  have other : updater.srcChildManifest.id ≠ updater.dstParentManifest.base.id := by
    simp only [Locked, List.cons_append, List.nodup_cons, List.mem_cons, not_or] at locked
    exact locked.2.1.1
  have same : ∀ rest id,
      lastWritten (.folder updater.srcParentManifest :: updater.srcChildManifest ::
        .folder updater.dstParentManifest :: rest) id =
      lastWritten (.folder updater.srcParentManifest :: .folder updater.dstParentManifest ::
        updater.srcChildManifest :: rest) id := by
    intro rest id
    rw [lastWritten_cons, lastWritten_swap other rest id, ← lastWritten_cons]
  unfold updateManifests at run
  split at run
  · rename_i absent
    rw [absent]
    exact write_wrote (same []) run
  · rename_i dstChild present
    rw [present]
    exact write_wrote (same [dstChild]) run

end ParsecCloud

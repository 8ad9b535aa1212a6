import ParsecCloud.Types.LocalFile
import ParsecCloud.Types.LocalFolder

/- The manifests a workspace keeps in memory, and their update locks (store/cache.rs and
   store/per_manifest_update_lock.rs). -/
namespace ParsecCloud
open Rust HashMap

inductive LocalChildManifest where
  | file (manifest : LocalFileManifest)
  | folder (manifest : LocalFolderManifest)

namespace LocalChildManifest

def id : LocalChildManifest → VlobID
  | file manifest => manifest.base.id
  | folder manifest => manifest.base.id

def parent : LocalChildManifest → VlobID
  | file manifest => manifest.parent
  | folder manifest => manifest.parent

@[simp] theorem folder_id (manifest : LocalFolderManifest) : (folder manifest).id = manifest.base.id :=
  rfl
@[simp] theorem folder_parent (manifest : LocalFolderManifest) :
    (folder manifest).parent = manifest.parent := rfl
@[simp] theorem file_id (manifest : LocalFileManifest) : (file manifest).id = manifest.base.id := rfl
@[simp] theorem file_parent (manifest : LocalFileManifest) :
    (file manifest).parent = manifest.parent := rfl

end LocalChildManifest

/-- Every manifest is under its own identifier, and the root manifest is a folder that is always
    there. -/
structure ManifestsHashMap where
  manifests : HashMap VlobID LocalChildManifest
  rootManifestId : VlobID
  keyed : ∀ id manifest, manifests.lookup id = some manifest → manifest.id = id
  rooted : ∃ folder, manifests.lookup rootManifestId = some (.folder folder)

namespace ManifestsHashMap

def new (rootManifest : LocalFolderManifest) : ManifestsHashMap where
  manifests := Finmap.singleton rootManifest.base.id (.folder rootManifest)
  rootManifestId := rootManifest.base.id
  keyed id manifest found := by
    rw [lookup_singleton_ite] at found
    split at found
    · rename_i same
      cases found
      exact same.symm
    · cases found
  rooted := ⟨rootManifest, Finmap.lookup_singleton_eq⟩

def get (cache : ManifestsHashMap) (id : VlobID) : Option LocalChildManifest :=
  cache.manifests.lookup id

def rootManifest (cache : ManifestsHashMap) : LocalFolderManifest :=
  match found : cache.manifests.lookup cache.rootManifestId with
  | some (.folder rootManifest) => rootManifest
  | some (.file _) => absurd (cache.rooted) (by simp [found])
  | none => absurd (cache.rooted) (by simp [found])

theorem get_root (cache : ManifestsHashMap) :
    cache.get cache.rootManifestId = some (.folder cache.rootManifest) := by
  obtain ⟨root, found⟩ := cache.rooted
  have same : cache.rootManifest = root := by
    unfold rootManifest
    split
    · rename_i other read
      rw [found] at read
      cases read
      rfl
    · rename_i read
      rw [found] at read
      cases read
    · rename_i read
      rw [found] at read
      cases read
  rw [same]
  exact found

theorem id_of_get {cache : ManifestsHashMap} {id : VlobID} {manifest : LocalChildManifest}
    (found : cache.get id = some manifest) : manifest.id = id :=
  cache.keyed id manifest found

@[simp] theorem rootManifest_id (cache : ManifestsHashMap) :
    cache.rootManifest.base.id = cache.rootManifestId :=
  id_of_get cache.get_root

/-- The manifest under its identifier, in the place of the one that was there. -/
def place (cache : ManifestsHashMap) (manifest : LocalChildManifest)
    (fits : manifest.id = cache.rootManifestId → ∃ folder, manifest = .folder folder) :
    ManifestsHashMap where
  manifests := cache.manifests.insert manifest.id manifest
  rootManifestId := cache.rootManifestId
  keyed id other found := by
    rw [lookup_insert_ite] at found
    split at found
    · rename_i same
      cases found
      exact same.symm
    · exact cache.keyed id other found
  rooted := by
    rw [lookup_insert_ite]
    split
    · rename_i same
      obtain ⟨folder, isFolder⟩ := fits same.symm
      exact ⟨folder, by rw [isFolder]⟩
    · exact cache.rooted

def insert (cache : ManifestsHashMap) : LocalChildManifest → Checked ManifestsHashMap
  | .file manifest =>
    if other : manifest.base.id ≠ cache.rootManifestId then
      .ok (cache.place (.file manifest) fun same => absurd same other)
    else .error (.assert "Root manifest must be a folder !")
  | .folder manifest => .ok (cache.place (.folder manifest) fun _ => ⟨manifest, rfl⟩)

/-- A manifest that is already there stays. -/
def insertIfMissing (cache : ManifestsHashMap) (manifest : LocalChildManifest) :
    Checked ManifestsHashMap := do
  let inserted ← cache.insert manifest
  match cache.get manifest.id with
  | some _ => return cache
  | none => return inserted

theorem insert_cases {cache cache' : ManifestsHashMap} {manifest : LocalChildManifest}
    (inserted : cache.insert manifest = .ok cache') :
    cache'.rootManifestId = cache.rootManifestId ∧
      ∀ id, cache'.get id = if id = manifest.id then some manifest else cache.get id := by
  cases manifest with
  | folder manifest =>
    cases inserted
    exact ⟨rfl, fun id => lookup_insert_ite _ _ _ _⟩
  | file manifest =>
    simp only [insert] at inserted
    split at inserted
    · cases inserted
      exact ⟨rfl, fun id => lookup_insert_ite _ _ _ _⟩
    · cases inserted

theorem insertIfMissing_cases {cache cache' : ManifestsHashMap} {manifest : LocalChildManifest}
    (inserted : cache.insertIfMissing manifest = .ok cache') :
    cache' = cache ∨ cache.get manifest.id = none ∧ cache.insert manifest = .ok cache' := by
  obtain ⟨next, run, done⟩ := bind_eq_ok.mp inserted
  split at done
  · cases done
    exact Or.inl rfl
  · rename_i absent
    cases done
    exact Or.inr ⟨absent, run⟩

end ManifestsHashMap

/-- The first name of a child, in the order in which the map is walked through. -/
def childName (order : HashOrder EntryName) (children : Children) (childId : VlobID) :
    Option EntryName :=
  (order.list children.keys).find? fun name => children.lookup name = some childId

theorem childName_eq_some {order : HashOrder EntryName} {children : Children} {childId : VlobID}
    {name : EntryName} (found : childName order children childId = some name) :
    children.lookup name = some childId := by
  simpa using List.find?_some found

theorem childName_of_holds (order : HashOrder EntryName) {children : Children} {childId : VlobID}
    (listed : Holds children childId) : ∃ name, childName order children childId = some name := by
  obtain ⟨name, found⟩ := listed
  cases search : childName order children childId with
  | some name => exact ⟨name, rfl⟩
  | none =>
    have never := List.find?_eq_none.mp search name
      ((order.mem_iff _ _).mpr (mem_keys_iff.mpr ⟨childId, found⟩))
    simp [found] at never

/-- The locks that are taken. -/
abbrev PerManifestUpdateLock := Finset VlobID

/-- The lock is taken, unless it already is. -/
def PerManifestUpdateLock.take (locks : PerManifestUpdateLock) (entryId : VlobID) :
    Option PerManifestUpdateLock :=
  if entryId ∈ locks then none else some (insert entryId locks)

structure CurrentViewCache where
  manifests : ManifestsHashMap
  lockUpdateManifests : PerManifestUpdateLock

end ParsecCloud

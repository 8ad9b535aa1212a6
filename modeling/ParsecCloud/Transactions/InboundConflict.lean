import ParsecCloud.File.Remote
import ParsecCloud.Folder.Confinement
import ParsecCloud.Merge.SyncConflictName
import ParsecCloud.Store.Updaters

/- A remote manifest in conflict with the local one (transactions/inbound_sync.rs): the remote one
   takes its place, and the local file becomes a new entry of its parent. -/
namespace ParsecCloud
open Rust HashMap

namespace ChildManifest

def id : ChildManifest → VlobID
  | file manifest => manifest.id
  | folder manifest => manifest.id

def parent : ChildManifest → VlobID
  | file manifest => manifest.parent
  | folder manifest => manifest.parent

def fromRemote (preventSyncPattern : PreventSyncPattern) : ChildManifest → Checked LocalChildManifest
  | file remote => do return .file (← LocalFileManifest.fromRemote remote)
  | folder remote => .ok (.folder (LocalFolderManifest.fromRemote remote preventSyncPattern))

end ChildManifest

inductive InboundSyncOutcomeWithParentID where
  | updated (parentId : VlobID)
  | noChange
  | entryIsBusy

inductive PopulateCacheError where
  | offline
  | stopped
  | entryNotFound
  | noRealmAccess
  | invalidKeysBundle
  | invalidCertificate
  | invalidManifest
  | internal

inductive WorkspaceSyncError where
  | offline
  | stopped
  | notAllowed
  | invalidKeysBundle
  | invalidCertificate
  | invalidManifest
  | internal

inductive WorkspaceStoreOperationError where
  | stopped
  | internal

def WorkspaceStoreOperationError.sync : WorkspaceStoreOperationError → WorkspaceSyncError
  | stopped => .stopped
  | internal => .internal

inductive IntoSyncConflictUpdaterError where
  | parentNotFound
  | parentIsNotAFolder
  | wouldBlock
  | failed (error : WorkspaceSyncError)

def PopulateCacheError.intoSyncConflictUpdater : PopulateCacheError → IntoSyncConflictUpdaterError
  | offline => .failed .offline
  | stopped => .failed .stopped
  | entryNotFound => .parentNotFound
  | noRealmAccess => .failed .notAllowed
  | invalidKeysBundle => .failed .invalidKeysBundle
  | invalidCertificate => .failed .invalidCertificate
  | invalidManifest => .failed .invalidManifest
  | internal => .failed .internal

/-- What a conflict is handled with: the normalization of names, the orders in which the children
    of the parent and of its base are walked through, the device and its clock, the identifier
    that is drawn for the copy, what the local storage or the server answer for a manifest that
    is not in the cache, and whether the storage can be written. -/
structure ConflictContext where
  nfc : List Char → List Char
  childrenOrder : HashOrder EntryName
  baseOrder : HashOrder EntryName
  deviceId : DeviceID
  now : DateTime
  newId : VlobID
  populate : VlobID → Except PopulateCacheError LocalChildManifest
  populated : ∀ id manifest, populate id = .ok manifest → manifest.id = id
  writes : Except WorkspaceStoreOperationError Unit

namespace ConflictContext
variable (context : ConflictContext)

/-- The prefix and the suffix of the name of the child, if the parent or its base has it. -/
def conflictParts (originalChildId : VlobID) (parent : LocalFolderManifest) :
    List Char × Option (List Char) :=
  match childName context.childrenOrder parent.children originalChildId with
  | some name => name.prefixAndSuffix
  | none =>
    match childName context.baseOrder parent.base.children originalChildId with
    | some name => name.prefixAndSuffix
    | none => ("lost+found".toList, none)

def insertConflictingNewChildInParent (originalChildId conflictingNewChildId : VlobID)
    (parent : LocalFolderManifest) : Checked LocalFolderManifest := do
  let (childPrefix, childSuffix) := context.conflictParts originalChildId parent
  let conflictName ← searchConflictName context.nfc childPrefix childSuffix parent.children.keys
  return { parent with children := parent.children.insert conflictName conflictingNewChildId }

end ConflictContext

namespace WorkspaceStore

def withLocks (store : WorkspaceStore) (locks : PerManifestUpdateLock) : WorkspaceStore :=
  { store with cache := { store.cache with lockUpdateManifests := locks } }

def release (store : WorkspaceStore) (entryId : VlobID) : WorkspaceStore :=
  store.withLocks (store.cache.lockUpdateManifests.erase entryId)

/-- The manifest in the cache, or else the cache is populated with it. -/
def cachedOrPopulated (store : WorkspaceStore) (context : ConflictContext) (entryId : VlobID) :
    Checked (Except PopulateCacheError (LocalChildManifest × WorkspaceStore)) :=
  match store.cache.manifests.get entryId with
  | some manifest => .ok (.ok (manifest, store))
  | none =>
    match context.populate entryId with
    | .error error => .ok (.error error)
    | .ok manifest => do
      let manifests ← store.cache.manifests.insertIfMissing manifest
      return .ok (manifest, { store with
        storage := (store.storage.populateManifest manifest).2
        cache := { store.cache with manifests := manifests } })

/-- The lock of the parent is taken too, but it is not waited for. It stays taken when the parent
    is not a folder. -/
def intoSyncConflictUpdater (store : WorkspaceStore) (context : ConflictContext)
    (parentId : VlobID) :
    Checked (Except (IntoSyncConflictUpdaterError × WorkspaceStore)
      (LocalFolderManifest × WorkspaceStore)) :=
  match store.cache.lockUpdateManifests.take parentId with
  | none => .ok (.error (.wouldBlock, store))
  | some locks => do
    match ← (store.withLocks locks).cachedOrPopulated context parentId with
    | .error error => return .error (error.intoSyncConflictUpdater, store)
    | .ok (.file _, store) => return .error (.parentIsNotAFolder, store)
    | .ok (.folder parentManifest, store) => return .ok (parentManifest, store)

end WorkspaceStore

/-- The manifest that gets the content of the local file. -/
def conflictingManifest (context : ConflictContext) (child : LocalFileManifest) :
    LocalFileManifest :=
  { LocalFileManifest.new context.newId context.deviceId child.parent context.now with
    needSync := child.needSync, updated := child.updated, size := child.size
    blocksize := child.blocksize, blocks := child.blocks }

/-- The outcome and the store afterwards, where the locks of the updater are released. -/
abbrev SyncResult := Except WorkspaceSyncError InboundSyncOutcomeWithParentID × WorkspaceStore

/-- The local changes are given up. -/
def updateChildOnly (context : ConflictContext) (store : WorkspaceStore)
    (mergedChildManifest : LocalChildManifest) (entryId parentId : VlobID) : Checked SyncResult :=
  match context.writes with
  | .error error => .ok (.error error.sync, store.release entryId)
  | .ok () => do
    let store ← SyncUpdater.updateManifest store mergedChildManifest
    return (.ok (.updated parentId), store.release entryId)

def handleConflictAndUpdateStore (context : ConflictContext) (store : WorkspaceStore)
    (localChildManifest : LocalChildManifest) (remoteChildManifest : ChildManifest) :
    Checked SyncResult := do
  let parentId := remoteChildManifest.parent
  let mergedChildManifest ← remoteChildManifest.fromRemote store.preventSyncPattern
  match localChildManifest with
  | .folder folder =>
    updateChildOnly context store mergedChildManifest folder.base.id parentId
  | .file child =>
    let conflicting := conflictingManifest context child
    match ← store.intoSyncConflictUpdater context child.parent with
    | .error (.wouldBlock, store) => return (.ok .entryIsBusy, store.release child.base.id)
    | .error (.parentNotFound, store) =>
      updateChildOnly context store mergedChildManifest child.base.id parentId
    | .error (.parentIsNotAFolder, store) =>
      updateChildOnly context store mergedChildManifest child.base.id parentId
    | .error (.failed error, store) => return (.error error, store.release child.base.id)
    | .ok (parentManifest, store) =>
      let parentManifest ← context.insertConflictingNewChildInParent child.base.id
        conflicting.base.id parentManifest
      match context.writes with
      | .error error =>
        return (.error error.sync, (store.release child.base.id).release child.parent)
      | .ok () =>
        let store ← SyncConflictUpdater.updateManifests store mergedChildManifest parentManifest
          (.file conflicting)
        return (.ok (.updated parentId), (store.release child.base.id).release child.parent)

end ParsecCloud

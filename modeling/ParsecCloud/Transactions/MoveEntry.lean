import ParsecCloud.Folder.Evolve
import ParsecCloud.Store.ResolvePath
import ParsecCloud.Store.Updaters
import ParsecCloud.Transactions.InboundConflict

/- Moving an entry (transactions/move_entry.rs), with the resolution of its paths and the locks
   (store/resolve_path.rs). A call that waits for a lock does not return here. -/
namespace ParsecCloud
open Rust HashMap

inductive MoveEntryMode where
  | canReplace
  | canReplaceFileOnly
  | noReplace
  | exchange
  deriving DecidableEq

inductive WorkspaceMoveEntryError where
  | offline
  | stopped
  | sourceNotFound
  | cannotMoveRoot
  | readOnlyRealm
  | noRealmAccess
  | destinationExists (entryId : VlobID)
  | destinationNotFound
  | invalidKeysBundle
  | invalidCertificate
  | invalidManifest
  | internal

/-- The error, where the entry that is not found is given its own one. -/
def PopulateCacheError.moveEntry (notFound : WorkspaceMoveEntryError) :
    PopulateCacheError → WorkspaceMoveEntryError
  | offline => .offline
  | stopped => .stopped
  | entryNotFound => notFound
  | noRealmAccess => .noRealmAccess
  | invalidKeysBundle => .invalidKeysBundle
  | invalidCertificate => .invalidCertificate
  | invalidManifest => .invalidManifest
  | internal => .internal

def WorkspaceStoreOperationError.moveEntry : WorkspaceStoreOperationError → WorkspaceMoveEntryError
  | stopped => .stopped
  | internal => .internal

def WorkspaceStoreOperationError.populate : WorkspaceStoreOperationError → PopulateCacheError
  | stopped => .stopped
  | internal => .internal

/-- What an entry is moved with: the role of the user, the clock, the orders in which the changes
    of the source parent and of the destination parent are walked through, the manifests that the
    server has, and whether the storage can be read, populated and written. -/
structure MoveContext where
  canWrite : Bool
  now : DateTime
  srcOrders : FolderOrders
  dstOrders : FolderOrders
  server : VlobID → Except PopulateCacheError LocalChildManifest
  served : ∀ id manifest, server id = .ok manifest → manifest.id = id
  reads : Except WorkspaceStoreOperationError Unit
  populates : Except WorkspaceStoreOperationError Unit
  writes : Except WorkspaceStoreOperationError Unit

namespace WorkspaceStore

def withManifests (store : WorkspaceStore) (manifests : ManifestsHashMap) : WorkspaceStore :=
  { store with cache := { store.cache with manifests := manifests } }

/-- The manifest in the cache, once the one that is read is inserted if it is missing. -/
def insertIfMissing (store : WorkspaceStore) (manifest : LocalChildManifest) :
    Checked (LocalChildManifest × WorkspaceStore) := do
  let manifests ← store.cache.manifests.insertIfMissing manifest
  return ((store.cache.manifests.get manifest.id).getD manifest, store.withManifests manifests)

def populateCacheFromLocalStorageOrServer (context : MoveContext) (store : WorkspaceStore)
    (entryId : VlobID) :
    Checked (Except PopulateCacheError (LocalChildManifest × WorkspaceStore)) :=
  match context.reads with
  | .error error => .ok (.error error.populate)
  | .ok () =>
    match store.storage.getManifest entryId with
    | some manifest => do return .ok (← store.insertIfMissing manifest)
    | none =>
      match context.server entryId with
      | .error error => .ok (.error error)
      | .ok manifest =>
        match context.populates with
        | .error error => .ok (.error error.populate)
        | .ok () =>
          let storage := (store.storage.populateManifest manifest).2
          do return .ok (← { store with storage := storage }.insertIfMissing manifest)

def getManifest (context : MoveContext) (store : WorkspaceStore) (entryId : VlobID) :
    Checked (Except PopulateCacheError (LocalChildManifest × WorkspaceStore)) :=
  match store.cache.manifests.get entryId with
  | some manifest => .ok (.ok (manifest, store))
  | none => store.populateCacheFromLocalStorageOrServer context entryId

def ensureManifestExistsWithParent (context : MoveContext) (store : WorkspaceStore)
    (childId expectedParentId : VlobID) :
    Checked (Except PopulateCacheError (Option LocalChildManifest × WorkspaceStore)) := do
  match ← store.getManifest context childId with
  | .error .entryNotFound => return .ok (none, store)
  | .error error => return .error error
  | .ok (manifest, store) =>
    if manifest.parent = expectedParentId then return .ok (some manifest, store)
    else return .ok (none, store)

end WorkspaceStore

/-- What is missing for the resolution of the paths of a reparenting. -/
inductive WhoIsInNeed where
  | srcParent
  | srcChild
  | dstParent
  | dstChild

def WhoIsInNeed.notFound : WhoIsInNeed → WorkspaceMoveEntryError
  | dstParent => .destinationNotFound
  | dstChild => .destinationNotFound
  | srcParent => .sourceNotFound
  | srcChild => .sourceNotFound

/-- Why an attempt to resolve the paths stops; the locks it has taken are released. -/
inductive ReparentingStop where
  | notFound (who : WhoIsInNeed)
  | needPopulateCache (id : VlobID) (who : WhoIsInNeed)
  | needWait (id : VlobID)

/-- The path of a parent is resolved and its lock is taken. -/
def resolveParent (who : WhoIsInNeed) (realmId : VlobID) (cache : CurrentViewCache)
    (parts : List EntryName) : Except ReparentingStop (LocalFolderManifest × CurrentViewCache) :=
  match cacheOnlyPathResolution realmId cache parts true with
  | (.done (.folder manifest) _ _, cache) => .ok (manifest, cache)
  | (.done (.file _) _ _, _) => .error (.notFound who)
  | (.entryNotFound, _) => .error (.notFound who)
  | (.needPopulateCache id, _) => .error (.needPopulateCache id who)
  | (.needWaitForTakenUpdateLock id, _) => .error (.needWait id)

/-- The child of a parent, whose lock is taken. -/
def resolveChild (who : WhoIsInNeed) (parent : LocalFolderManifest) (childName : EntryName)
    (cache : CurrentViewCache) : Except ReparentingStop (LocalChildManifest × CurrentViewCache) :=
  match parent.children.lookup childName with
  | none => .error (.notFound who)
  | some childId =>
    match cache.manifests.get childId with
    | none => .error (.needPopulateCache childId who)
    | some manifest =>
      if manifest.parent ≠ parent.base.id then .error (.notFound who)
      else
        match cache.lockUpdateManifests.take childId with
        | none => .error (.needWait childId)
        | some locks => .ok (manifest, { cache with lockUpdateManifests := locks })

/-- One attempt. The lock of the destination child is released at its end: its guard is the one
    that is left behind. -/
def cacheOnlyReparenting (realmId : VlobID) (cache : CurrentViewCache)
    (srcParentParts : List EntryName) (srcChildName : EntryName) (dstParentParts : List EntryName)
    (dstChildName : Option EntryName) :
    Except ReparentingStop (ReparentingUpdater × CurrentViewCache) := do
  let (dstParent, cache) ← resolveParent .dstParent realmId cache dstParentParts
  let (srcParent, cache) ← resolveParent .srcParent realmId cache srcParentParts
  let (srcChild, cache) ← resolveChild .srcChild srcParent srcChildName cache
  match dstChildName with
  | none => return (⟨srcParent, srcChild, dstParent, none⟩, cache)
  | some name =>
    let (dstChild, _) ← resolveChild .dstChild dstParent name cache
    return (⟨srcParent, srcChild, dstParent, some dstChild⟩, cache)

/-- What a call gives: a result and the store afterwards, or none when it does not return. -/
abbrev Returned (α : Type) := Option (Except WorkspaceMoveEntryError α × WorkspaceStore)

/-- A loop of attempts, for a number of turns. A manifest that is missing in the cache is populated
    before the next turn. -/
def retryAttempts (context : MoveContext)
    (attempt : CurrentViewCache → Except ReparentingStop (α × CurrentViewCache)) :
    Nat → WorkspaceStore → Checked (Returned α)
  | 0, _ => .ok none
  | turns + 1, store =>
    match attempt store.cache with
    | .ok (resolved, cache) => .ok (some (.ok resolved, { store with cache := cache }))
    | .error (.notFound who) => .ok (some (.error who.notFound, store))
    | .error (.needWait _) => .ok none
    | .error (.needPopulateCache id who) => do
      match ← store.populateCacheFromLocalStorageOrServer context id with
      | .error error => return some (.error (error.moveEntry who.notFound), store)
      | .ok (_, store) => retryAttempts context attempt turns store

def resolvePathForReparenting (context : MoveContext) (turns : Nat) (store : WorkspaceStore)
    (srcParentParts : List EntryName) (srcChildName : EntryName) (dstParentParts : List EntryName)
    (dstChildName : Option EntryName) : Checked (Returned ReparentingUpdater) :=
  retryAttempts context (fun cache => cacheOnlyReparenting store.realmId cache srcParentParts
    srcChildName dstParentParts dstChildName) turns store

/-- Without a folder at the parent path, the source cannot exist. -/
def resolvePathForUpdateFolder (context : MoveContext) (turns : Nat) (store : WorkspaceStore)
    (parts : List EntryName) : Checked (Returned LocalFolderManifest) :=
  retryAttempts context (fun cache => resolveParent .srcParent store.realmId cache parts) turns store

/-- The entry that takes the name of the source: the one at the destination in an exchange. -/
def exchangeSrcChildId (context : MoveContext) (store : WorkspaceStore) (mode : MoveEntryMode)
    (dstParent : LocalFolderManifest) (dstChildName : EntryName) :
    Checked (Except WorkspaceMoveEntryError (Option VlobID) × WorkspaceStore) :=
  match dstParent.children.lookup dstChildName with
  | none =>
    if mode = .exchange then .ok (.error .destinationNotFound, store) else .ok (.ok none, store)
  | some dstChildId => do
    match ← store.ensureManifestExistsWithParent context dstChildId dstParent.base.id with
    | .error error => return (.error (error.moveEntry .destinationNotFound), store)
    | .ok (none, store) =>
      if mode = .exchange then return (.error .destinationNotFound, store)
      else return (.ok none, store)
    | .ok (some existing, store) =>
      match mode, existing with
      | .canReplace, _ => return (.ok none, store)
      | .canReplaceFileOnly, .file _ => return (.ok none, store)
      | .canReplaceFileOnly, .folder _ => return (.error (.destinationExists dstChildId), store)
      | .noReplace, _ => return (.error (.destinationExists dstChildId), store)
      | .exchange, _ => return (.ok (some dstChildId), store)

/-- The changes of the children when an entry is renamed. The destination comes last. -/
def renameChanges (srcChildName dstChildName : EntryName) (childId : VlobID)
    (exchange : Option VlobID) : ChildrenChanges :=
  (Finmap.singleton srcChildName exchange).insert dstChildName (some childId)

def moveEntrySameParent (context : MoveContext) (store : WorkspaceStore)
    (parent : LocalFolderManifest) (srcChildName dstChildName : EntryName) (mode : MoveEntryMode) :
    Checked (Except WorkspaceMoveEntryError Unit × WorkspaceStore) :=
  match parent.children.lookup srcChildName with
  | none => .ok (.error .sourceNotFound, store)
  | some childId => do
    match ← store.ensureManifestExistsWithParent context childId parent.base.id with
    | .error error => return (.error (error.moveEntry .sourceNotFound), store)
    | .ok (none, store) => return (.error .sourceNotFound, store)
    | .ok (some _, store) =>
      match ← exchangeSrcChildId context store mode parent dstChildName with
      | (.error error, store) => return (.error error, store)
      | (.ok exchange, store) =>
        let parent ← parent.evolveChildrenAndMarkUpdated context.srcOrders
          (renameChanges srcChildName dstChildName childId exchange) store.preventSyncPattern
          context.now
        match context.writes with
        | .error error => return (.error error.moveEntry, store)
        | .ok () => return (.ok (), ← store.updateFolderManifest parent none)

/-- The manifest of an entry that gets a new parent. -/
def LocalChildManifest.reparent (parentId : VlobID) (now : DateTime) :
    LocalChildManifest → LocalChildManifest
  | file manifest => file { manifest with parent := parentId, updated := now, needSync := true }
  | folder manifest => folder { manifest with parent := parentId, updated := now, needSync := true }

/-- The manifest of the destination child, which gets the source parent in an exchange. -/
def exchangedChild (context : MoveContext) (updater : ReparentingUpdater) :
    Option VlobID → Checked (Option LocalChildManifest)
  | none => .ok updater.dstChildManifest
  | some _ =>
    match updater.dstChildManifest with
    | none => .error (.expect "always exists in exchange mode")
    | some dstChild => .ok (some (dstChild.reparent updater.srcParentManifest.base.id context.now))

def moveEntryDifferentParents (context : MoveContext) (store : WorkspaceStore)
    (updater : ReparentingUpdater) (srcChildName dstChildName : EntryName) (mode : MoveEntryMode) :
    Checked (Except WorkspaceMoveEntryError Unit × WorkspaceStore) := do
  let childId := updater.srcChildManifest.id
  match ← exchangeSrcChildId context store mode updater.dstParentManifest dstChildName with
  | (.error error, store) => return (.error error, store)
  | (.ok exchange, store) =>
    let dstChild ← exchangedChild context updater exchange
    let srcParent ← updater.srcParentManifest.evolveChildrenAndMarkUpdated context.srcOrders
      (Finmap.singleton srcChildName exchange) store.preventSyncPattern context.now
    let dstParent ← updater.dstParentManifest.evolveChildrenAndMarkUpdated context.dstOrders
      (Finmap.singleton dstChildName (some childId)) store.preventSyncPattern context.now
    match context.writes with
    | .error error => return (.error error.moveEntry, store)
    | .ok () =>
      let moved : ReparentingUpdater :=
        { srcParentManifest := srcParent
          srcChildManifest := updater.srcChildManifest.reparent updater.dstParentManifest.base.id
            context.now
          dstParentManifest := dstParent
          dstChildManifest := dstChild }
      return (.ok (), ← moved.updateManifests store)

/-- The locks are released at the end. -/
def moveEntry (context : MoveContext) (turns : Nat) (store : WorkspaceStore)
    (src dst : List EntryName) (mode : MoveEntryMode) : Checked (Returned Unit) :=
  if context.canWrite = false then .ok (some (.error .readOnlyRealm, store))
  else
    match src.getLast?, dst.getLast? with
    | some srcChildName, some dstChildName =>
      if src.dropLast = dst.dropLast then do
        match ← resolvePathForUpdateFolder context turns store src.dropLast with
        | none => return none
        | some (.error error, store) => return some (.error error, store)
        | some (.ok parent, locked) =>
          let (result, store') ← moveEntrySameParent context locked parent srcChildName dstChildName
            mode
          return some (result, store'.withLocks store.cache.lockUpdateManifests)
      else do
        let maybeDstChildName := if mode = .exchange then some dstChildName else none
        match ← resolvePathForReparenting context turns store src.dropLast srcChildName dst.dropLast
            maybeDstChildName with
        | none => return none
        | some (.error error, store) => return some (.error error, store)
        | some (.ok updater, locked) =>
          let (result, store') ← moveEntryDifferentParents context locked updater srcChildName
            dstChildName mode
          return some (result, store'.withLocks store.cache.lockUpdateManifests)
    | _, _ => .ok (some (.error .cannotMoveRoot, store))

end ParsecCloud

import ParsecCloud.PlatformStorage.Native
import Mathlib.Data.Prod.Lex

/- The workspace storage on IndexedDB (platform_storage, web/workspace.rs). The records of an object
   store are found by their key, and a cursor goes through them in the order of the keys, or of an
   index and then of the keys. A transaction that fails leaves the database as it was. -/
namespace ParsecCloud.PlatformStorage

inductive WebError where
  | notJavaScriptNumber
  | cursorCompleted
  deriving DecidableEq

/-- What the calls on a cursor past its end return, which is up to the IndexedDB binding. -/
structure CompletedCursor where
  advance : Except WebError Unit
  delete : Except WebError Unit

/-- The flags are numbers, an index has no booleans. -/
structure VlobObject where
  baseVersion : Nat
  remoteVersion : Nat
  inboundNeedSync : Nat
  outboundNeedSync : Nat
  blob : RawEncryptedManifest

structure ChunkObject where
  size : Nat
  data : List Byte

structure BlockObject where
  size : Nat
  offline : Bool
  accessedOn : DateTime
  data : List Byte

structure WebStorage where
  maxBlocks : Nat
  checkpoint : Option Nat
  vlobs : Dict VlobID VlobObject
  chunks : Dict ChunkID ChunkObject
  blocks : Dict BlockID BlockObject

def maxSafeInteger : Nat := 2 ^ 53 - 1

def isSafeInteger (x : Int) : Bool := -maxSafeInteger ≤ x && x ≤ maxSafeInteger

def rsToJsTimestamp (timestamp : DateTime) : Except WebError Int :=
  if isSafeInteger timestamp then .ok timestamp else .error .notJavaScriptNumber

def rsToJsU64 (x : Nat) : Except WebError Nat :=
  if x > maxSafeInteger then .error .notJavaScriptNumber else .ok x

def boolAsU32 (x : Bool) : Nat := if x then 1 else 0

section Stores

/-- The stored object with its new remote version, and the flag that goes with it. -/
def updateRemoteVersion (vlobs : Dict VlobID VlobObject) (vlobId : VlobID)
    (newRemoteVersion : Nat) : Dict VlobID VlobObject :=
  match vlobs.get? vlobId with
  | none => vlobs
  | some obj => vlobs.set vlobId { obj with
      remoteVersion := newRemoteVersion
      inboundNeedSync := boolAsU32 (obj.baseVersion ≠ newRemoteVersion) }

def updateManifestInternal (vlobs : Dict VlobID VlobObject) (manifest : UpdateManifestData) :
    Dict VlobID VlobObject :=
  let remoteVersion := match vlobs.get? manifest.entryId with
    | some obj => max obj.remoteVersion manifest.baseVersion
    | none => manifest.baseVersion
  let inboundNeedSync := boolAsU32 (remoteVersion ≠ manifest.baseVersion)
  vlobs.set manifest.entryId ⟨manifest.baseVersion, remoteVersion, inboundNeedSync,
    boolAsU32 manifest.needSync, manifest.encrypted⟩

def setChunkInternal (chunks : Dict ChunkID ChunkObject) (chunkId : ChunkID)
    (encrypted : List Byte) : Dict ChunkID ChunkObject :=
  chunks.set chunkId ⟨encrypted.length, encrypted⟩

/-- The order of the cursor on the index of the access dates. -/
def accessedOnIndex (item : BlockID × BlockObject) : Int ×ₗ Nat :=
  toLex (item.2.accessedOn, item.1.uuid)

/-- Each round opens a cursor on the index and deletes what it points at. -/
def cleanupLoop (completed : CompletedCursor) :
    Nat → Dict BlockID BlockObject → Except WebError (Dict BlockID BlockObject)
  | 0, blocks => .ok blocks
  | n + 1, blocks =>
    match blocks.sortedBy accessedOnIndex with
    | [] => do
      completed.delete
      cleanupLoop completed n blocks
    | item :: _ => cleanupLoop completed n (blocks.erase item.1)

def webMayCleanupBlocks (completed : CompletedCursor) (blocks : Dict BlockID BlockObject)
    (maxBlocks : Nat) : Except WebError (Dict BlockID BlockObject) :=
  let extraBlocks := blocks.items.length - maxBlocks
  if extraBlocks > 0 then cleanupLoop completed (extraBlocks + maxBlocks / 10) blocks
  else .ok blocks

/-- A block is put in the store, then the oldest ones may have to leave. -/
def putBlock (completed : CompletedCursor) (blocks : Dict BlockID BlockObject) (maxBlocks : Nat)
    (blockId : BlockID) (data : List Byte) (accessedOn : DateTime) :
    Except WebError (Dict BlockID BlockObject) := do
  let accessedOnJs ← rsToJsTimestamp accessedOn
  webMayCleanupBlocks completed (blocks.set blockId ⟨data.length, false, accessedOnJs, data⟩)
    maxBlocks

/-- The order of the cursor on a store whose keys are identifiers. -/
def vlobsCursor (vlobs : Dict VlobID VlobObject) : List (VlobID × VlobObject) :=
  vlobs.sortedBy fun item => item.1.uuid

/-- The values from a cursor on, of which one is taken before the limit is looked at. -/
def takeBlobs (limit : Nat) : List VlobObject → List RawEncryptedManifest → List RawEncryptedManifest
  | [], items => items
  | obj :: rest, items =>
    let items := items ++ [obj.blob]
    if items.length ≥ limit then items else takeBlobs limit rest items

end Stores

namespace WebStorage
variable (completed : CompletedCursor) (storage : WebStorage)

def noPopulateStart (cacheMaxBlocks : Nat) : WebStorage :=
  ⟨cacheMaxBlocks, none, .empty, .empty, .empty⟩

def getRealmCheckpoint : Nat := storage.checkpoint.getD 0

def updateRealmCheckpoint (newCheckpoint : Nat) (changedVlobs : List (VlobID × Nat)) :
    Except WebError WebStorage := do
  let newCheckpointJs ← rsToJsU64 newCheckpoint
  return { storage with
    checkpoint := some newCheckpointJs
    vlobs := changedVlobs.foldl
      (fun vlobs changed => updateRemoteVersion vlobs changed.1 changed.2) storage.vlobs }

/-- The keys that an index has under a flag that is set. -/
def getNeedSync (flag : VlobObject → Nat) (limit : Nat) : List VlobID :=
  (((vlobsCursor storage.vlobs).filter fun item => flag item.2 = 1).map Prod.fst).take limit

def getOutboundNeedSync (limit : Nat) : List VlobID :=
  storage.getNeedSync VlobObject.outboundNeedSync limit

def getInboundNeedSync (limit : Nat) : List VlobID :=
  storage.getNeedSync VlobObject.inboundNeedSync limit

def getManifest (entryId : VlobID) : Option RawEncryptedManifest :=
  (storage.vlobs.get? entryId).map VlobObject.blob

def listManifests (offset limit : Nat) : Except WebError (List RawEncryptedManifest) := do
  let objects := (vlobsCursor storage.vlobs).map Prod.snd
  if offset > 0 ∧ objects = [] then completed.advance
  return takeBlobs limit (objects.drop offset) []

def setChunk (chunkId : ChunkID) (encrypted : List Byte) : WebStorage :=
  { storage with chunks := setChunkInternal storage.chunks chunkId encrypted }

def getChunk (chunkId : ChunkID) : Option RawEncryptedChunk :=
  (storage.chunks.get? chunkId).map ChunkObject.data

def setBlock (blockId : BlockID) (encrypted : List Byte) (accessedOn : DateTime) :
    Except WebError WebStorage := do
  let blocks ← putBlock completed storage.blocks storage.maxBlocks blockId encrypted accessedOn
  return { storage with blocks := blocks }

def getBlock (blockId : BlockID) (timestamp : DateTime) :
    Except WebError (Option RawEncryptedBlock × WebStorage) :=
  match storage.blocks.get? blockId with
  | none => .ok (none, storage)
  | some obj => do
    let accessedOnJs ← rsToJsTimestamp timestamp
    return (some obj.data,
      { storage with
        blocks := storage.blocks.set blockId { obj with accessedOn := accessedOnJs } })

def populateManifest (manifest : UpdateManifestData) : PopulateManifestOutcome × WebStorage :=
  match storage.vlobs.get? manifest.entryId with
  | some _ => (.alreadyPresent, storage)
  | none => (.stored, { storage with
      vlobs := storage.vlobs.set manifest.entryId ⟨manifest.baseVersion, manifest.baseVersion,
        boolAsU32 false, boolAsU32 manifest.needSync, manifest.encrypted⟩ })

def updateManifest (manifest : UpdateManifestData) : WebStorage :=
  { storage with vlobs := updateManifestInternal storage.vlobs manifest }

def updateManifests (manifests : List UpdateManifestData) : WebStorage :=
  { storage with vlobs := manifests.foldl updateManifestInternal storage.vlobs }

def updateManifestAndChunks (manifest : UpdateManifestData)
    (newChunks : List (ChunkID × RawEncryptedChunk)) (removedChunks : List ChunkID) :
    WebStorage :=
  { storage with
    vlobs := updateManifestInternal storage.vlobs manifest
    chunks := removedChunks.foldl Dict.erase
      (newChunks.foldl (fun chunks new => setChunkInternal chunks new.1 new.2) storage.chunks) }

/-- The chunk is deleted first; the transaction brings it back when the rest fails. -/
def promoteChunkToBlock (chunkId : ChunkID) (now : DateTime) : Except WebError WebStorage :=
  match storage.chunks.get? chunkId with
  | none => .ok storage
  | some obj => do
    let chunks := storage.chunks.erase chunkId
    let blocks ← putBlock completed storage.blocks storage.maxBlocks (BlockID.ofChunkID chunkId)
      obj.data now
    return { storage with chunks := chunks, blocks := blocks }

end WebStorage

end ParsecCloud.PlatformStorage

import ParsecCloud.Store.Storage
import ParsecCloud.Lib.SortedDict
import Mathlib.Order.WithBot

/- The workspace storage on SQLite (platform_storage, native/workspace.rs). A table is given by its
   rows in the order of their rowids, which is the order of a scan: an update keeps the place of
   its row. The chunks and the blocks are in two databases with the same table; a chunk is never
   accessed on its own. The statements of a transaction take effect together. -/
namespace ParsecCloud.PlatformStorage
open Rust

abbrev RawEncryptedManifest := List Byte

abbrev RawEncryptedChunk := List Byte

abbrev RawEncryptedBlock := List Byte

structure UpdateManifestData where
  entryId : VlobID
  encrypted : RawEncryptedManifest
  needSync : Bool
  baseVersion : Nat

structure VlobRow where
  baseVersion : Nat
  remoteVersion : Nat
  needSync : Bool
  blob : RawEncryptedManifest

structure ChunkRow where
  size : Nat
  offline : Bool
  accessedOn : Option DateTime
  data : List Byte

structure NativeStorage where
  cacheMaxBlocks : Nat
  realmCheckpoint : Option Nat
  vlobs : Dict VlobID VlobRow
  chunks : Dict ChunkID ChunkRow
  cacheChunks : Dict BlockID ChunkRow

/-- A conversion to u32 keeps the low bits. -/
def asU32 (x : Nat) : Nat := x % 2 ^ 32

section Tables

def dbUpdateManifestRemoteVersion (vlobs : Dict VlobID VlobRow) (entryId : VlobID)
    (remoteVersion : Nat) : Dict VlobID VlobRow :=
  match vlobs.get? entryId with
  | none => vlobs
  | some row => vlobs.set entryId { row with remoteVersion := remoteVersion }

def UpdateManifestData.row (manifest : UpdateManifestData) : VlobRow :=
  ⟨manifest.baseVersion, manifest.baseVersion, manifest.needSync, manifest.encrypted⟩

def dbPopulateManifest (vlobs : Dict VlobID VlobRow) (manifest : UpdateManifestData) :
    PopulateManifestOutcome × Dict VlobID VlobRow :=
  match vlobs.get? manifest.entryId with
  | some _ => (.alreadyPresent, vlobs)
  | none => (.stored, vlobs.set manifest.entryId manifest.row)

/-- An insertion, or an update where the greatest remote version is kept. -/
def dbUpdateManifest (vlobs : Dict VlobID VlobRow) (manifest : UpdateManifestData) :
    Dict VlobID VlobRow :=
  match vlobs.get? manifest.entryId with
  | none => vlobs.set manifest.entryId manifest.row
  | some row => vlobs.set manifest.entryId
      { manifest.row with remoteVersion := max manifest.baseVersion row.remoteVersion }

def dbInsertChunk (chunks : Dict ChunkID ChunkRow) (chunkId : ChunkID) (encrypted : List Byte) :
    Dict ChunkID ChunkRow :=
  match chunks.get? chunkId with
  | none => chunks.set chunkId ⟨encrypted.length, false, none, encrypted⟩
  | some row => chunks.set chunkId
      { row with size := encrypted.length, offline := false, data := encrypted }

def dbInsertBlock (chunks : Dict BlockID ChunkRow) (blockId : BlockID) (encrypted : List Byte)
    (accessedOn : DateTime) : Dict BlockID ChunkRow :=
  chunks.set blockId ⟨encrypted.length, false, some accessedOn, encrypted⟩

/-- The order of the dates in SQLite, where NULL comes first. -/
def accessedOnOrder (item : BlockID × ChunkRow) : WithBot Int := item.2.accessedOn

/-- The blocks that were accessed first are removed. -/
def dbCleanupBlocks (chunks : Dict BlockID ChunkRow) (toRemove : Nat) : Dict BlockID ChunkRow :=
  (((chunks.sortedBy accessedOnOrder).take toRemove).map Prod.fst).foldl Dict.erase chunks

def mayCleanupBlocks (chunks : Dict BlockID ChunkRow) (maxBlocks : Nat) : Dict BlockID ChunkRow :=
  let extraBlocks := chunks.items.length - maxBlocks
  if extraBlocks > 0 then dbCleanupBlocks chunks (extraBlocks + maxBlocks / 10) else chunks

theorem dbUpdateManifestRemoteVersion_get? (vlobs : Dict VlobID VlobRow) (entryId id : VlobID)
    (remoteVersion : Nat) :
    (dbUpdateManifestRemoteVersion vlobs entryId remoteVersion).get? id =
      (vlobs.get? id).map fun row =>
        if entryId = id then { row with remoteVersion := remoteVersion } else row := by
  unfold dbUpdateManifestRemoteVersion
  by_cases same : entryId = id
  · rw [← same]
    cases found : vlobs.get? entryId with
    | none => simp [found]
    | some row => simp
  · simp only [if_neg same, Option.map_id']
    split
    · rfl
    · exact Dict.get?_set_of_ne (Ne.symm same)

theorem dbPopulateManifest_get? (vlobs : Dict VlobID VlobRow) (manifest : UpdateManifestData)
    (id : VlobID) :
    (dbPopulateManifest vlobs manifest).2.get? id =
      if id = manifest.entryId then some ((vlobs.get? id).getD manifest.row)
      else vlobs.get? id := by
  unfold dbPopulateManifest
  split
  · rename_i row found
    split
    · rename_i same
      rw [same, found]
      rfl
    · rfl
  · rename_i absent
    rw [Dict.get?_set]
    split
    · rename_i same
      rw [same, absent]
      rfl
    · rfl

/-- The row of a manifest once it is stored. -/
def UpdateManifestData.updated (manifest : UpdateManifestData) : Option VlobRow → VlobRow
  | none => manifest.row
  | some row => { manifest.row with
      remoteVersion := max manifest.baseVersion row.remoteVersion }

theorem dbUpdateManifest_get? (vlobs : Dict VlobID VlobRow) (manifest : UpdateManifestData)
    (id : VlobID) :
    (dbUpdateManifest vlobs manifest).get? id =
      if id = manifest.entryId then some (manifest.updated (vlobs.get? id))
      else vlobs.get? id := by
  unfold dbUpdateManifest
  split
  · rename_i absent
    rw [Dict.get?_set]
    split
    · rename_i same
      rw [same, absent]
      rfl
    · rfl
  · rename_i row found
    rw [Dict.get?_set]
    split
    · rename_i same
      rw [same, found]
      rfl
    · rfl

/-- What the changed versions make of the row of an entry. -/
def changedRow (id : VlobID) (changedVlobs : List (VlobID × Nat)) (row : VlobRow) : VlobRow :=
  changedVlobs.foldl
    (fun row changed => if changed.1 = id then { row with remoteVersion := changed.2 } else row)
    row

theorem changedVlobs_get? (vlobs : Dict VlobID VlobRow) (changedVlobs : List (VlobID × Nat))
    (id : VlobID) :
    (changedVlobs.foldl
      (fun vlobs changed => dbUpdateManifestRemoteVersion vlobs changed.1 changed.2) vlobs).get? id =
      (vlobs.get? id).map (changedRow id changedVlobs) := by
  induction changedVlobs generalizing vlobs with
  | nil => exact Option.map_id'.symm
  | cons changed rest ih =>
    rw [List.foldl_cons, ih, dbUpdateManifestRemoteVersion_get?, Option.map_map]
    rfl

theorem changedRow_baseVersion (id : VlobID) (changedVlobs : List (VlobID × Nat))
    (row : VlobRow) : (changedRow id changedVlobs row).baseVersion = row.baseVersion := by
  induction changedVlobs generalizing row with
  | nil => rfl
  | cons changed rest ih =>
    unfold changedRow
    rw [List.foldl_cons]
    apply (ih _).trans
    split
    · rfl
    · rfl

theorem changedRow_remoteVersion (id : VlobID) (changedVlobs : List (VlobID × Nat))
    (row : VlobRow) :
    (∃ version, (id, version) ∈ changedVlobs ∧
      (changedRow id changedVlobs row).remoteVersion = version) ∨
    ((∀ version, (id, version) ∉ changedVlobs) ∧
      (changedRow id changedVlobs row).remoteVersion = row.remoteVersion) := by
  induction changedVlobs generalizing row with
  | nil =>
    right
    constructor
    · intro version member
      cases member
    · rfl
  | cons changed rest ih =>
    have after : changedRow id (changed :: rest) row = changedRow id rest
        (if changed.1 = id then { row with remoteVersion := changed.2 } else row) := rfl
    rw [after]
    rcases ih (if changed.1 = id then { row with remoteVersion := changed.2 } else row) with
      ⟨version, member, isVersion⟩ | ⟨absent, same⟩
    · exact .inl ⟨version, List.mem_cons_of_mem _ member, isVersion⟩
    · rw [same]
      by_cases isId : changed.1 = id
      · left
        use changed.2
        rw [if_pos isId, ← isId]
        exact ⟨List.mem_cons_self, rfl⟩
      · right
        rw [if_neg isId]
        refine ⟨?_, rfl⟩
        intro version member
        rcases List.mem_cons.mp member with isFirst | isRest
        · rw [← isFirst] at isId
          exact isId rfl
        · exact absent version isRest

end Tables

namespace NativeStorage
variable (storage : NativeStorage)

def noPopulateStart (cacheMaxBlocks : Nat) : NativeStorage :=
  ⟨cacheMaxBlocks, none, .empty, .empty, .empty⟩

def getRealmCheckpoint : Nat := storage.realmCheckpoint.getD 0

def updateRealmCheckpoint (newCheckpoint : Nat) (changedVlobs : List (VlobID × Nat)) :
    NativeStorage :=
  { storage with
    realmCheckpoint := some (asU32 newCheckpoint)
    vlobs := changedVlobs.foldl
      (fun vlobs changed => dbUpdateManifestRemoteVersion vlobs changed.1 changed.2)
      storage.vlobs }

def getInboundNeedSync (limit : Nat) : List VlobID :=
  ((storage.vlobs.items.filter fun row => row.2.baseVersion ≠ row.2.remoteVersion).map
    Prod.fst).take limit

def getOutboundNeedSync (limit : Nat) : List VlobID :=
  ((storage.vlobs.items.filter fun row => row.2.needSync).map Prod.fst).take limit

def getManifest (entryId : VlobID) : Option RawEncryptedManifest :=
  (storage.vlobs.get? entryId).map VlobRow.blob

def listManifests (offset limit : Nat) : List RawEncryptedManifest :=
  ((storage.vlobs.values.map VlobRow.blob).drop offset).take limit

def getChunk (chunkId : ChunkID) : Option RawEncryptedChunk :=
  (storage.chunks.get? chunkId).map ChunkRow.data

def getBlock (blockId : BlockID) (now : DateTime) : Option RawEncryptedBlock × NativeStorage :=
  match storage.cacheChunks.get? blockId with
  | none => (none, storage)
  | some row => (some row.data,
      { storage with
        cacheChunks := storage.cacheChunks.set blockId { row with accessedOn := some now } })

def populateManifest (manifest : UpdateManifestData) : PopulateManifestOutcome × NativeStorage :=
  let (outcome, vlobs) := dbPopulateManifest storage.vlobs manifest
  (outcome, { storage with vlobs := vlobs })

def updateManifest (manifest : UpdateManifestData) : NativeStorage :=
  { storage with vlobs := dbUpdateManifest storage.vlobs manifest }

def updateManifests (manifests : List UpdateManifestData) : NativeStorage :=
  { storage with vlobs := manifests.foldl dbUpdateManifest storage.vlobs }

def updateManifestAndChunks (manifest : UpdateManifestData)
    (newChunks : List (ChunkID × RawEncryptedChunk)) (removedChunks : List ChunkID) :
    NativeStorage :=
  { storage with
    vlobs := dbUpdateManifest storage.vlobs manifest
    chunks := removedChunks.foldl Dict.erase
      (newChunks.foldl (fun chunks new => dbInsertChunk chunks new.1 new.2) storage.chunks) }

def setChunk (chunkId : ChunkID) (encrypted : List Byte) : NativeStorage :=
  { storage with chunks := dbInsertChunk storage.chunks chunkId encrypted }

def setBlock (blockId : BlockID) (encrypted : List Byte) (now : DateTime) : NativeStorage :=
  { storage with
    cacheChunks := mayCleanupBlocks (dbInsertBlock storage.cacheChunks blockId encrypted now)
      storage.cacheMaxBlocks }

def promoteChunkToBlock (chunkId : ChunkID) (now : DateTime) : NativeStorage :=
  match storage.getChunk chunkId with
  | none => storage
  | some encrypted =>
    { storage with
      cacheChunks := mayCleanupBlocks
        (dbInsertBlock storage.cacheChunks (BlockID.ofChunkID chunkId) encrypted now)
        storage.cacheMaxBlocks
      chunks := storage.chunks.erase chunkId }

end NativeStorage

end ParsecCloud.PlatformStorage

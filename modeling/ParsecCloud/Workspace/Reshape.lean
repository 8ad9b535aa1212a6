import ParsecCloud.Merge.FileMerge

/- One reshape operation of the outbound synchronization (do_next_reshape_operation), and what an
   inbound synchronization makes of a file (merge_manifest_and_update_store). -/
namespace ParsecCloud
open Rust

/-- The first operation of prepare_reshape, with the slot it borrows. -/
def firstReshape (id : ChunkID) : Nat → List (List ChunkView) →
    Checked (Option (Nat × ReshapeBlockOperation))
  | _, [] => .ok none
  | block, views :: rest => do
    match ← ReshapeBlockOperation.tryReshape id views with
    | some operation => return some (block, operation)
    | none => firstReshape id (block + 1) rest

/-- A manifest to store, with the chunks to insert and to remove in the same transaction. -/
structure FileUpdate where
  manifest : LocalFileManifest
  newChunks : List (ChunkID × List Byte)
  removedChunks : Finset ChunkID

/-- The chunks of the storage after the transaction. -/
def FileUpdate.transaction (update : FileUpdate) (chunks : ChunkStore) : ChunkStore :=
  (update.newChunks.foldl (fun chunks entry => chunks.insert entry.1 entry.2) chunks).removeAll
    update.removedChunks

/-- What is stored next, or none when the manifest is reshaped already. The data of the chunks is
    read locally or from the server. -/
def doNextReshapeOperation (fromData : List Byte → HashDigest) (found : ChunkStore) (id : ChunkID)
    (m : LocalFileManifest) : Checked (Option FileUpdate) := do
  match ← firstReshape id 0 m.blocks with
  | none => return none
  | some (block, operation) => do
    let destination := operation.destination
    let (buf, _) ← copyViews found destination.start operation.source
    assert (buf.length == destination.stop - destination.start)
      "buf.len() == reshape.destination().size() as usize"
    let manifest ← commitReshape fromData m block operation buf
    return some { manifest := manifest, newChunks := [(destination.id, buf)]
                  removedChunks := operation.cleanupIds }

/-- The manifest that an inbound synchronization stores for the file, if any. In a conflict the
    remote manifest is taken, and the local one goes to a new entry. -/
def inboundFile (localAuthor : DeviceID) (now : DateTime) (m : LocalFileManifest)
    (remote : FileManifest) : Checked (Option LocalFileManifest) := do
  match ← mergeLocalFileManifest localAuthor now m remote with
  | .noChange => return none
  | .merged merged => return some merged
  | .conflict remote => return some (← LocalFileManifest.fromRemote remote)

def blockIds (remote : FileManifest) : Finset ChunkID :=
  (remote.blocks.map fun access => ChunkID.ofBlockID access.id).toFinset

end ParsecCloud

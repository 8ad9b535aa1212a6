import ParsecCloud.File.ChunkIds

/- A file together with the chunks it refers to: what the callers of the file operations do
   with the data (fd_write.rs, fd_resize.rs, fd_read.rs, and the reshape of fd_flush.rs). -/
namespace ParsecCloud
open Rust OrderedSegments

abbrev ChunkStore := ChunkID → Option (List Byte)

namespace ChunkStore

def empty : ChunkStore := fun _ => none

def insert (store : ChunkStore) (id : ChunkID) (data : List Byte) : ChunkStore :=
  fun other => if other = id then some data else store other

def removeAll (store : ChunkStore) (ids : Finset ChunkID) : ChunkStore :=
  fun other => if other ∈ ids then none else store other

theorem removeAll_empty (store : ChunkStore) : store.removeAll ∅ = store := by
  funext id
  simp [removeAll]

end ChunkStore

structure FileState where
  manifest : LocalFileManifest
  store : ChunkStore

/-- i64::checked_add_unsigned followed by expect -/
def checkedAddUnsigned (message : String) (a : Int) (b : Nat) : Checked Int :=
  if a + b < i64Limit then .ok (a + b) else .error (.expect message)

/-- vec![0; size]: asking for more than isize::MAX bytes is a panic. -/
def zeroes (size : Nat) : Checked (List Byte) :=
  if size ≤ isizeMax then .ok (List.replicate size 0) else .error .outOfRange

/-- The data of the chunk that a write operation creates. -/
def writeChunkData (data : List Byte) (operation : WriteOperation) : Checked (List Byte) := do
  let chunkStart := operation.chunkView.start
  let chunkStop := operation.chunkView.stop
  assert (chunkStart ≤ chunkStop) "chunk_start <= chunk_stop"
  let chunkDataStart := operation.offset
  let chunkDataStop ← checkedAddUnsigned "overflow !" operation.offset (chunkStop - chunkStart)
  if chunkDataStart ≥ 0 then slice data chunkDataStart.toNat chunkDataStop.toNat
  else if chunkDataStop ≤ 0 then
    -- the difference is cast to usize as it is, so that a negative one wraps around
    zeroes ((chunkDataStart - chunkDataStop) % (u64Limit : Int)).toNat
  else do
    let zeroesFillerSize := (-chunkDataStart).toNat
    let fromBufferSize := chunkDataStop.toNat
    let filler ← zeroes (zeroesFillerSize + fromBufferSize)
    return filler.take zeroesFillerSize ++ (← slice data 0 fromBufferSize)

/-- The loop that fills a buffer from views, each with the data of its chunk. -/
def copyViews (store : ChunkStore) (offset : Nat) (views : List ChunkView) :
    Checked (List Byte × Nat) :=
  views.foldlM (fun (buf, bufSize) v => do
    let data ← expectSome "Chunk ID referenced in local manifest not in local storage !" (store v.id)
    v.copyBetweenStartAndStop data offset buf bufSize) ([], 0)

namespace FileState

def read (s : FileState) (size offset : Nat) : Checked (List Byte) := do
  let (writtenSize, views) ← prepareRead s.manifest size offset
  let (buf, bufSize) ← copyViews s.store offset views
  if bufSize < writtenSize then return buf ++ List.replicate (writtenSize - bufSize) 0
  else return buf

def write (s : FileState) (data : List Byte) (offset : Nat) (timestamp : DateTime)
    (ids : Nat → ChunkID) : Checked FileState := do
  let (manifest, writeOperations, removedIds) ←
    prepareWrite s.manifest data.length offset timestamp ids
  let store ← writeOperations.foldlM (fun (store : ChunkStore) operation => do
    let chunkData ← writeChunkData data operation
    return store.insert operation.chunkView.id chunkData) s.store
  return ⟨manifest, store.removeAll removedIds⟩

def resize (s : FileState) (length : Nat) (timestamp : DateTime) : Checked FileState :=
  if s.manifest.size = length then .ok s
  else do
    let (manifest, removedIds) ← prepareResize s.manifest length timestamp
    return ⟨manifest, s.store.removeAll removedIds⟩

/-- One turn of the loop of reshape: the data of the new block is built from its views, stored
    if it is new, and the chunks it replaces are forgotten. -/
def reshapeBlock (fromData : List Byte → HashDigest) (s : FileState)
    (p : Nat × ReshapeBlockOperation) : Checked FileState := do
  let destination := p.2.destination
  let (buf, _) ← copyViews s.store destination.start p.2.source
  assert (buf.length == destination.stop - destination.start)
    "buf.len() == reshape.destination().size() as usize"
  let store := if p.2.writeBack then s.store.insert destination.id buf else s.store
  let manifest ← commitReshape fromData s.manifest p.1 p.2 buf
  return ⟨manifest, store.removeAll p.2.cleanupIds⟩

def reshape (fromData : List Byte → HashDigest) (s : FileState) (ids : Nat → ChunkID) :
    Checked FileState := do
  let operations ← prepareReshape s.manifest ids
  operations.foldlM (reshapeBlock fromData) s

end FileState

inductive FileOp where
  | write (data : List Byte) (offset : Nat) (timestamp : DateTime) (ids : Nat → ChunkID)
  | resize (length : Nat) (timestamp : DateTime)
  | reshape (ids : Nat → ChunkID)

namespace FileOp

def apply (fromData : List Byte → HashDigest) (s : FileState) : FileOp → Checked FileState
  | write data offset timestamp ids => s.write data offset timestamp ids
  | resize length timestamp => s.resize length timestamp
  | reshape ids => s.reshape fromData ids

def run (fromData : List Byte → HashDigest) (s : FileState) (ops : List FileOp) :
    Checked FileState :=
  ops.foldlM (apply fromData) s

/-- The conditions on one operation: its end plus a block fits in 64 bits, a buffer is not
    longer than a slice can be, and the identifiers it draws are not in use. -/
def Allowed (s : FileState) : FileOp → Prop
  | write data offset _ ids =>
    data.length ≤ isizeMax ∧ offset + data.length + s.manifest.blocksize.inner < u64Limit ∧
      FreshIds (Touched s.manifest.blocksize.inner data.length offset) ids (chunkIds s.manifest)
  | resize length _ => length + s.manifest.blocksize.inner < u64Limit
  | reshape ids => FreshIds (· < s.manifest.blocks.length) ids (chunkIds s.manifest)

/-- Every operation of the list is allowed in the state it is applied to. -/
def Admissible (fromData : List Byte → HashDigest) : FileState → List FileOp → Prop
  | _, [] => True
  | s, op :: rest =>
    Allowed s op ∧ ∀ s', apply fromData s op = .ok s' → Admissible fromData s' rest

end FileOp

def newFile (id : VlobID) (author : DeviceID) (parent : VlobID) (timestamp : DateTime)
    (blocksize : Blocksize) : FileState :=
  let manifest := LocalFileManifest.new id author parent timestamp
  ⟨{ manifest with
      blocksize := blocksize
      base := { manifest.base with blocksize := blocksize } }, ChunkStore.empty⟩

end ParsecCloud

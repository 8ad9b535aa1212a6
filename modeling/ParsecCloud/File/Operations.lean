import ParsecCloud.File.Layout
import Mathlib.Data.List.DropRight
import Mathlib.Data.Finset.Image

/- The file operations of the workspace transactions (file_operations.rs). Every function
   that draws chunk identifiers receives them as an argument, indexed by block. -/
namespace ParsecCloud
open Rust OrderedSegments

structure WriteOperation where
  chunkView : ChunkView
  offset : Int
  deriving DecidableEq, Repr

/-- The index of the first view to consider for a range that begins at start. -/
def startIndex (views : List ChunkView) (start : Nat) : Nat :=
  match binarySearchByKey views ChunkView.start start with
  | .ok found => found
  | .error insert => insert - 1

/-- The index of the first view past a range that ends at stop. -/
def stopIndex (views : List ChunkView) (stop : Nat) : Nat :=
  match binarySearchByKey views ChunkView.start stop with
  | .ok found => found
  | .error insert => insert

def viewIds (views : List ChunkView) : Finset ChunkID := (views.map ChunkView.id).toFinset

def blockRead (views : List ChunkView) (size start : Nat) : Checked (List ChunkView) := do
  let stop ← add start size
  let inRange := getRange views (startIndex views start) (stopIndex views stop)
  (inRange.filter fun v => v.start < stop && v.stop > start).mapM fun v => do
    let stop ← nonZero "The stop offset can only be 0 if the index range is empty" stop
    return { v with start := max v.start start, stop := min v.stop stop }

def prepareReadBlock (m : LocalFileManifest) (size offset block : Nat) :
    Checked (List ChunkView) := do
  let blocksize := m.blocksize.inner
  let blockStart ← mul block blocksize
  let subStart := max offset blockStart
  let subStop := min (← add offset size) (← add blockStart blocksize)
  let subSize ← checkedSub "Sub-stop is always greater than sub-start" subStop subStart
  match m.getChunks block with
  | some views => if views.isEmpty then return [] else blockRead views subSize subStart
  | none => return []

def prepareRead (m : LocalFileManifest) (size offset : Nat) :
    Checked (Nat × List ChunkView) := do
  let offset := min offset m.size
  let rest ← checkedSub
    "The offset computed above cannot be greater than the manifest size" m.size offset
  let size := min size rest
  let startBlock := offset / m.blocksize.inner
  let stopBlock := divCeil (← add offset size) m.blocksize.inner
  let chunks ← (List.range' startBlock (stopBlock - startBlock)).mapM
    (prepareReadBlock m size offset)
  return (size, chunks.flatten)

/-- The start chunk of a write is cut when it begins before it. -/
def testStartChunk (views : List ChunkView) (first start : Nat) (newViews : List ChunkView)
    (removedIds : Finset ChunkID) : Checked (List ChunkView × Finset ChunkID) := do
  let startView ← expectSome
    "Indexes are found using binary search and hence always valid" views[first]?
  if startView.start < start then do
    let start ← nonZero
      "Cannot be zero since it's strictly greater than start_chunk_view.start" start
    let newStartView := { startView with stop := min startView.stop start }
    return (newViews ++ [newStartView], removedIds.erase startView.id)
  else return (newViews, removedIds)

/-- The stop chunk of a write is cut when it ends after it. -/
def testStopChunk (views : List ChunkView) (last stop : Nat) (newViews : List ChunkView)
    (removedIds : Finset ChunkID) : Checked (List ChunkView × Finset ChunkID) :=
  if last > 0 then do
    let stopView ← expectSome
      "Indexes are found using binary search and hence always valid" views[last - 1]?
    if stopView.stop > stop then
      return (newViews ++ [{ stopView with start := stop }], removedIds.erase stopView.id)
    else return (newViews, removedIds)
  else .ok (newViews, removedIds)

/-- The views of a block once newView is written over [start, start + size), and the chunks
    that none of them refers to any more. The same chunk may appear in several views, so an
    identifier that ends up in the new views is taken back from the removed ones. -/
def blockWrite (views : List ChunkView) (size start : Nat) (newView : ChunkView) :
    Checked (List ChunkView × Finset ChunkID) := do
  let stop ← add start size
  if views.isEmpty then return ([newView], ∅)
  let first := startIndex views start
  let last := stopIndex views stop
  let removedIds := viewIds (getRange views first last)
  let before := getRange views 0 first
  let (newViews, removedIds) ← testStartChunk views first start before (removedIds \ viewIds before)
  let (newViews, removedIds) ← testStopChunk views last stop (newViews ++ [newView]) removedIds
  let after := getRange views last views.length
  return (newViews ++ after, removedIds \ viewIds after)

structure WriteState where
  blocks : List (List ChunkView)
  writeOperations : List WriteOperation
  removedIds : Finset ChunkID
  deriving DecidableEq

def prepareWriteBlock (blocksize size offset : Nat) (ids : Nat → ChunkID) (state : WriteState)
    (block : Nat) : Checked WriteState := do
  let blockStart ← mul block blocksize
  let subStart := max offset blockStart
  let subStop := min (← add offset size) (← add blockStart blocksize)
  let subSize ← checkedSub "Sub-stop is always greater than sub-start" subStop subStart
  let contentOffset ← sub subStart offset
  let viewStop ← add subStart subSize
  let viewStop ← nonZero "sub-size is always strictly greater than zero" viewStop
  let newView ← ChunkView.new (ids block) subStart viewStop
  let writeOperations := state.writeOperations ++ [⟨newView, asI64 contentOffset⟩]
  let (newViews, removedIds) ←
    match state.blocks[block]? with
    | some views => do
      let (newViews, moreRemovedIds) ← blockWrite views subSize subStart newView
      pure (newViews, state.removedIds ∪ moreRemovedIds)
    | none => pure ([newView], state.removedIds)
  let blocks := LocalFileManifest.padBlocks state.blocks block
  return ⟨blocks.set block newViews, writeOperations, removedIds⟩

def prepareWrite (m : LocalFileManifest) (size offset : Nat) (timestamp : DateTime)
    (ids : Nat → ChunkID) :
    Checked (LocalFileManifest × List WriteOperation × Finset ChunkID) := do
  -- Writing zero bytes is a no-op
  if size = 0 then return (m, [], ∅)
  let blocksize := m.blocksize.inner
  let startBlock := offset / blocksize
  let stopBlock := divCeil (← add offset size) blocksize
  let state ← (List.range' startBlock (stopBlock - startBlock)).foldlM
    (prepareWriteBlock blocksize size offset ids) ⟨m.blocks, [], ∅⟩
  let newSize := max m.size (← add offset size)
  return ({ m with blocks := state.blocks, needSync := true, updated := timestamp, size := newSize },
    state.writeOperations, state.removedIds)

def prepareTruncate (m : LocalFileManifest) (size : Nat) (timestamp : DateTime) :
    Checked (LocalFileManifest × Finset ChunkID) := do
  -- Check that there is something to truncate
  if size ≥ m.size then return (m, ∅)
  let block := size / m.blocksize.inner
  let remainder := size % m.blocksize.inner
  let removedIds := viewIds (m.blocks.drop block).flatten
  let views := (m.getChunks block).getD []
  let index := stopIndex views size
  let (blocks, removedIds) ←
    if index = 0 then
      -- No need to split the last block
      pure ((m.blocks.take block).rdropWhile List.isEmpty, removedIds)
    else do
      assert (remainder != 0) "The remainder cannot be zero"
      let lastView ← expectSome
        "The index is found using binary search and hence always valid" views[index - 1]?
      let size ← nonZero "Cannot be zero since the remainder is not zero" size
      let newView := { lastView with stop := min lastView.stop size }
      let newViews := getRange views 0 (index - 1) ++ [newView]
      pure (m.blocks.take block ++ [newViews], removedIds \ viewIds newViews)
  return ({ m with blocks := blocks, needSync := true, size := size, updated := timestamp },
    removedIds)

def prepareResize (m : LocalFileManifest) (size : Nat) (timestamp : DateTime) :
    Checked (LocalFileManifest × Finset ChunkID) :=
  if size ≥ m.size then
    .ok ({ m with needSync := true, size := size, updated := timestamp }, ∅)
  else prepareTruncate m size timestamp

inductive ReshapeBlockOperation where
  | toReshape (manifestChunkViews : List ChunkView) (reshapedChunkView : ChunkView)
  | toPromote (chunkView : ChunkView)
  deriving DecidableEq

namespace ReshapeBlockOperation

def tryReshape (id : ChunkID) (views : List ChunkView) : Checked (Option ReshapeBlockOperation) :=
  match views with
  | [] => .ok none
  | [v] =>
    if v.isBlock then .ok none
    else if v.isAlignedWithRawData then .ok (some (.toPromote v))
    else do return some (.toReshape [v] (← ChunkView.new id v.start v.stop))
  | v :: w :: rest => do
    let last := (w :: rest).getLast (List.cons_ne_nil w rest)
    return some (.toReshape views (← ChunkView.new id v.start last.stop))

def destination : ReshapeBlockOperation → ChunkView
  | toReshape _ reshapedChunkView => reshapedChunkView
  | toPromote chunkView => chunkView

def source : ReshapeBlockOperation → List ChunkView
  | toReshape manifestChunkViews _ => manifestChunkViews
  | toPromote chunkView => [chunkView]

def writeBack : ReshapeBlockOperation → Bool
  | toReshape .. => true
  | toPromote _ => false

def cleanupIds : ReshapeBlockOperation → Finset ChunkID
  | toReshape manifestChunkViews _ => viewIds manifestChunkViews
  | toPromote _ => ∅

/-- The new views of the slot the operation was prepared from. -/
def commit (fromData : List Byte → HashDigest) (operation : ReshapeBlockOperation)
    (chunkData : List Byte) : Checked (List ChunkView) := do
  match ← operation.destination.promoteAsBlock fromData chunkData with
  | .ok promoted => return [promoted]
  | .error _ => .error (.expect "chunk is block-compatible")

end ReshapeBlockOperation

/-- The operations of prepare_reshape, each with the index of the slot it borrows. -/
def prepareReshape (m : LocalFileManifest) (ids : Nat → ChunkID) :
    Checked (List (Nat × ReshapeBlockOperation)) := do
  let operations ← m.blocks.zipIdx.mapM fun (views, i) => do
    let operation ← ReshapeBlockOperation.tryReshape (ids i) views
    return operation.map (i, ·)
  return operations.filterMap id

/-- Committing an operation writes in place to the slot that it borrows. -/
def commitReshape (fromData : List Byte → HashDigest) (m : LocalFileManifest) (index : Nat)
    (operation : ReshapeBlockOperation) (chunkData : List Byte) : Checked LocalFileManifest := do
  let views ← operation.commit fromData chunkData
  return { m with blocks := m.blocks.set index views }

/-- Several operations of one call of prepare_reshape, each with the data of its new block. An
    operation whose data is missing is skipped by the callers, and never committed. -/
def commitAll (fromData : List Byte → HashDigest) (m : LocalFileManifest)
    (operations : List ((Nat × ReshapeBlockOperation) × List Byte)) : Checked LocalFileManifest :=
  operations.foldlM (fun m p => commitReshape fromData m p.1.1 p.1.2 p.2) m

end ParsecCloud

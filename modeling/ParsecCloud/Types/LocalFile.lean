import ParsecCloud.Types.Manifest
import ParsecCloud.Lib.OrderedSegments
import Mathlib.Data.Finset.Basic

/- Local file manifests (libparsec_types, local_manifest/file.rs): a list of block slots, each
   a list of views over stored chunks. -/
namespace ParsecCloud
open Rust OrderedSegments

structure ChunkView where
  id : ChunkID
  start : Nat
  stop : Nat
  rawOffset : Nat
  rawSize : Nat
  access : Option BlockAccess
  deriving DecidableEq, Repr

namespace ChunkView

def integrityError (inv : String) : Checked (Except DataError Unit) :=
  .ok (.error ⟨"ChunkView", inv⟩)

def checkDataIntegrity (v : ChunkView) : Checked (Except DataError Unit) :=
  if ¬ v.rawOffset ≤ v.start then integrityError "raw_offset <= start"
  else if ¬ v.start < v.stop then integrityError "start < stop"
  else do
    let rawStop ← add v.rawOffset v.rawSize
    if ¬ v.stop ≤ rawStop then integrityError "stop <= raw_offset + raw_size"
    else return .ok ()

/-- The chunk identifier is drawn by the caller: ChunkID::default() is a random UUID. -/
def new (id : ChunkID) (start stop : Nat) : Checked ChunkView := do
  let size ← sub stop start
  let rawSize ← nonZero "Chunk view raw_size should be NonZeroU64" size
  let view : ChunkView := ⟨id, start, stop, start, rawSize, none⟩
  match ← view.checkDataIntegrity with
  | .ok () => return view
  | .error _ => .error (.expect "Chunk view integrity")

def size (v : ChunkView) : Checked Nat := sub v.stop v.start

/-- Appends the viewed bytes to dst, of which dstSize bytes are already written, after
    filling up with zeroes the hole that precedes the view. -/
def copyBetweenStartAndStop (v : ChunkView) (chunkData : List Byte) (offset : Nat)
    (dst : List Byte) (dstSize : Nat) : Checked (List Byte × Nat) := do
  let start ← sub v.start v.rawOffset
  let stop ← sub v.stop v.rawOffset
  let dataSlice ← slice chunkData start stop
  let dstIndex ← sub v.start offset
  let (dst, dstSize) :=
    if dstIndex > dstSize then (dst ++ List.replicate (dstIndex - dstSize) 0, dstIndex)
    else (dst, dstSize)
  return (dst ++ dataSlice, dstSize + dataSlice.length)

def fromBlockAccess (access : BlockAccess) : Checked ChunkView := do
  let stop ← add access.offset access.size
  let stop ← nonZero
    "Chunk view stop should be NonZeroU64 since bloc_access.size is already NonZeroU64" stop
  return ⟨ChunkID.ofBlockID access.id, access.offset, stop, access.offset, access.size, some access⟩

def isAlignedWithRawData (v : ChunkView) : Bool :=
  v.start == v.rawOffset && v.stop == v.rawOffset + v.rawSize

def block (v : ChunkView) : Option BlockAccess :=
  match v.access with
  | none => none
  | some access =>
    if v.isAlignedWithRawData && v.rawOffset == access.offset && v.rawSize == access.size then
      some access
    else none

def isBlock (v : ChunkView) : Bool := v.block.isSome

inductive PromoteAsBlockError where
  | alreadyPromotedAsBlock
  | notAligned
  deriving DecidableEq, Repr

/-- fromData stands for HashDigest::from_data. -/
def promoteAsBlock (fromData : List Byte → HashDigest) (v : ChunkView) (data : List Byte) :
    Checked (Except PromoteAsBlockError ChunkView) :=
  if v.isBlock then .ok (.error .alreadyPromotedAsBlock)
  else if ¬ v.isAlignedWithRawData then .ok (.error .notAligned)
  else do
    let size ← v.size
    if positive : 0 < size then
      return .ok { v with
        access := some ⟨BlockID.ofChunkID v.id, v.start, size, positive, fromData data⟩ }
    else .error (.expect "size must be > 0")

inductive GetBlockAccessError where
  | notPromotedAsBlock
  deriving DecidableEq, Repr

def getBlockAccess (v : ChunkView) : Except GetBlockAccessError BlockAccess :=
  match v.block with
  | some access => .ok access
  | none => .error .notPromotedAsBlock

/-- The rule stated with the type: raw_offset <= start < stop <= raw_offset + raw_size. -/
structure Valid (v : ChunkView) : Prop where
  left : v.rawOffset ≤ v.start
  inside : v.start < v.stop
  right : v.stop ≤ v.rawOffset + v.rawSize
  fits : v.rawOffset + v.rawSize < u64Limit

theorem check_ok_iff (v : ChunkView) : v.checkDataIntegrity = .ok (.ok ()) ↔ v.Valid := by
  constructor
  · intro ok
    unfold checkDataIntegrity integrityError at ok
    split at ok
    · simp at ok
    split at ok
    · simp at ok
    rename_i left inside
    obtain ⟨rawStop, sum, ok⟩ := bind_eq_ok.mp ok
    obtain ⟨fits, rfl⟩ := add_eq_ok.mp sum
    split at ok
    · simp at ok
    · rename_i right
      exact ⟨by omega, by omega, by omega, fits⟩
  · intro valid
    obtain ⟨left, inside, right, fits⟩ := valid
    simp [checkDataIntegrity, add_ok fits, left, inside, right]

theorem new_ok {id : ChunkID} {start stop : Nat} (inside : start < stop) (fits : stop < u64Limit) :
    new id start stop = .ok ⟨id, start, stop, start, stop - start, none⟩ := by
  have check : (⟨id, start, stop, start, stop - start, none⟩ : ChunkView).checkDataIntegrity =
      .ok (.ok ()) := by
    rw [check_ok_iff]
    exact ⟨Nat.le_refl _, inside, by simp; omega, by simp; omega⟩
  simp [new, sub_ok (show start ≤ stop by omega), nonZero_ok (show 0 < stop - start by omega),
    check]

/-- What the promotion of a view as a block comes down to when its preconditions hold: the
    view is not empty then, so the size is the length of the view. -/
def promoted (v : ChunkView) (digest : HashDigest) : ChunkView :=
  { v with
    access := some ⟨BlockID.ofChunkID v.id, v.start, max 1 (v.stop - v.start), by omega, digest⟩ }

theorem promote_ok {fromData : List Byte → HashDigest} {v : ChunkView} {data : List Byte}
    (inside : v.start < v.stop) (fresh : v.isBlock = false)
    (aligned : v.isAlignedWithRawData = true) :
    v.promoteAsBlock fromData data = .ok (.ok (v.promoted (fromData data))) := by
  have length : max 1 (v.stop - v.start) = v.stop - v.start := by omega
  have positive : 0 < v.stop - v.start := by omega
  simp [promoteAsBlock, fresh, aligned, size, sub_ok (Nat.le_of_lt inside), positive, promoted, length]

theorem aligned_iff (v : ChunkView) : v.isAlignedWithRawData = true ↔
    v.start = v.rawOffset ∧ v.stop = v.rawOffset + v.rawSize := by
  simp [isAlignedWithRawData]

end ChunkView

structure LocalFileManifest where
  base : FileManifest
  parent : VlobID
  needSync : Bool
  updated : DateTime
  size : Nat
  blocksize : Blocksize
  blocks : List (List ChunkView)
  deriving DecidableEq

namespace LocalFileManifest

/-- The vlob identifier is drawn by the caller: VlobID::default() is a random UUID. -/
def new (id : VlobID) (author : DeviceID) (parent : VlobID) (timestamp : DateTime) :
    LocalFileManifest where
  base :=
    { author := author, timestamp := timestamp, id := id, parent := parent, version := 0
      created := timestamp, updated := timestamp, blocksize := defaultBlockSize, size := 0
      blocks := [] }
  parent := parent
  needSync := true
  updated := timestamp
  blocksize := defaultBlockSize
  size := 0
  blocks := []

def getChunks (m : LocalFileManifest) (block : Nat) : Option (List ChunkView) := m.blocks[block]?

def isReshaped (m : LocalFileManifest) : Bool :=
  m.blocks.all fun
    | [] => true
    | [v] => v.isBlock
    | _ => false

def integrityError (inv : String) : Checked (Except DataError α) :=
  .ok (.error ⟨"LocalFileManifest", inv⟩)

/-- The checks of the views of one slot; current is where the previous view stops. -/
def checkViews (spanStart spanStop : Nat) : Nat → List ChunkView → Checked (Except DataError Nat)
  | current, [] => .ok (.ok current)
  | current, v :: rest => do
    match ← v.checkDataIntegrity with
    | .error e => return .error e
    | .ok () =>
      if v.start < spanStart ∨ v.stop > spanStop then
        integrityError "Chunk view belong to the block span"
      else if current > v.start then
        integrityError "Chunk views are ordered and do not overlap"
      else checkViews spanStart spanStop v.stop rest

def checkSlots (blocksize : Nat) :
    Nat → Nat → List (List ChunkView) → Checked (Except DataError Nat)
  | _, current, [] => .ok (.ok current)
  | i, current, views :: rest => do
    let spanStart ← mul i blocksize
    let spanStop ← add spanStart blocksize
    match ← checkViews spanStart spanStop current views with
    | .error e => return .error e
    | .ok current => checkSlots blocksize (i + 1) current rest

def checkDataIntegrity (m : LocalFileManifest) : Checked (Except DataError Unit) :=
  if m.base.id = m.parent then integrityError "id and parent are different"
  else do
    match ← checkSlots m.blocksize.inner 0 0 m.blocks with
    | .error e => return .error e
    | .ok current =>
      assert (m.blocks.getLast? != some []) "!chunks.is_empty()"
      if current > m.size then integrityError "File size is consistent with the last chunk view"
      else return .ok ()

/-- The list is made long enough to have a slot at the given index. -/
def padBlocks (blocks : List (List ChunkView)) (block : Nat) : List (List ChunkView) :=
  blocks ++ List.replicate (block + 1 - blocks.length) []

/-- A view is pushed at the end of the slot where it begins. -/
def pushView (blocksize : Nat) (blocks : List (List ChunkView)) (v : ChunkView) :
    List (List ChunkView) :=
  let block := v.start / blocksize
  let blocks := padBlocks blocks block
  blocks.set block (blocks.getD block [] ++ [v])

def fromRemote (remote : FileManifest) : Checked LocalFileManifest := do
  let chunkViews ← remote.blocks.mapM ChunkView.fromBlockAccess
  let manifest : LocalFileManifest :=
    { base := remote, parent := remote.parent, needSync := false, updated := remote.updated
      size := remote.size, blocksize := remote.blocksize
      blocks := chunkViews.foldl (pushView remote.blocksize.inner) [] }
  match ← manifest.checkDataIntegrity with
  | .ok () => return manifest
  | .error _ => .error (.expect "Manifest integrity")

inductive ToRemoteError where
  | needReshape
  deriving DecidableEq, Repr

/-- The single block of a slot, when the slot is not empty. -/
def slotAccess : List ChunkView → Except ToRemoteError BlockAccess
  | [v] =>
    match v.getBlockAccess with
    | .ok access => .ok access
    | .error _ => .error .needReshape
  | _ => .error .needReshape

def toRemote (m : LocalFileManifest) (author : DeviceID) (timestamp : DateTime) :
    Checked (Except ToRemoteError FileManifest) := do
  match ← m.checkDataIntegrity with
  | .error _ => .error (.expect "Local file manifest content integrity")
  | .ok () =>
    match (m.blocks.filter fun views => !views.isEmpty).mapM slotAccess with
    | .error e => return .error e
    | .ok blocks =>
      let manifest : FileManifest :=
        { author := author, timestamp := timestamp, id := m.base.id, parent := m.parent
          version := m.base.version + 1, created := m.base.created, updated := m.updated
          size := m.size, blocksize := m.blocksize, blocks := blocks }
      match ← manifest.checkDataIntegrity with
      | .ok () => return .ok manifest
      | .error _ => .error (.expect "Invalid manifest")

end LocalFileManifest
end ParsecCloud

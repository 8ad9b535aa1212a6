import ParsecCloud.Lib.Rust

/- Identifiers, block accesses and remote file manifests (libparsec_types, manifest.rs).
   An identifier stands for its UUID. A digest stands for its bytes; how a digest is computed
   from data is a parameter of the code that needs it. -/
namespace ParsecCloud
open Rust

structure VlobID where
  uuid : Nat
  deriving DecidableEq, Repr

structure BlockID where
  uuid : Nat
  deriving DecidableEq, Repr

structure ChunkID where
  uuid : Nat
  deriving DecidableEq, Repr

structure DeviceID where
  uuid : Nat
  deriving DecidableEq, Repr

/-- Microseconds since the epoch. -/
abbrev DateTime := Int

abbrev Byte := UInt8

structure HashDigest where
  bytes : List Byte
  deriving DecidableEq, Repr

structure DataError where
  dataType : String
  inv : String
  deriving DecidableEq, Repr

/-- The size is a NonZeroU64. -/
structure BlockAccess where
  id : BlockID
  offset : Nat
  size : Nat
  positive : 0 < size
  digest : HashDigest
  deriving DecidableEq, Repr

/-- A block size is a u64 that is only built by a conversion that refuses anything below 8. -/
structure Blocksize where
  inner : Nat
  valid : 8 ≤ inner
  fits : inner < u64Limit
  deriving DecidableEq

def Blocksize.tryFrom (data : UInt64) : Except String Blocksize :=
  if valid : 8 ≤ data.toNat then .ok ⟨data.toNat, valid, data.toNat_lt⟩
  else .error "Invalid blocksize"

def defaultBlockSize : Blocksize := ⟨512 * 1024, by decide, by decide⟩

theorem blocksize_positive (blocksize : Blocksize) : 0 < blocksize.inner := by
  have := blocksize.valid
  omega

structure FileManifest where
  author : DeviceID
  timestamp : DateTime
  id : VlobID
  parent : VlobID
  version : Nat
  created : DateTime
  updated : DateTime
  size : Nat
  blocksize : Blocksize
  blocks : List BlockAccess
  deriving DecidableEq

namespace FileManifest

def integrityError (inv : String) : Checked (Except DataError α) :=
  .ok (.error ⟨"FileManifest", inv⟩)

/-- The checks of the blocks; the result is where the last of them stops. -/
def checkBlocks (blocksize : Nat) : Nat → Nat → List BlockAccess → Checked (Except DataError Nat)
  | currentOffset, _, [] => .ok (.ok currentOffset)
  | currentOffset, currentBlockIndex, block :: rest => do
    if currentOffset > block.offset then
      integrityError "blocks are ordered and not overlapping"
    else do
      let stop ← add block.offset block.size
      let blockIndex := block.offset / blocksize
      if currentBlockIndex > blockIndex then
        integrityError "blocks are not sharing the same block span"
      else if (stop - 1) / blocksize ≠ blockIndex then
        integrityError "blocks are not spanning over multiple block spans"
      else checkBlocks blocksize stop (blockIndex + 1) rest

def checkDataIntegrity (m : FileManifest) : Checked (Except DataError Unit) :=
  if m.id = m.parent then integrityError "id and parent are different"
  else do
    match ← checkBlocks m.blocksize.inner 0 0 m.blocks with
    | .error e => return .error e
    | .ok currentOffset =>
      if currentOffset > m.size then integrityError "file size is not exceeded"
      else return .ok ()

end FileManifest

def ChunkID.ofBlockID (id : BlockID) : ChunkID := ⟨id.uuid⟩
def BlockID.ofChunkID (id : ChunkID) : BlockID := ⟨id.uuid⟩

end ParsecCloud

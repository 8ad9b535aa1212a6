import ParsecCloud.Blockstore.Raid
import ParsecCloud.Lib.Bytes
import Mathlib.Data.List.Perm.Basic

/- How a block is cut into chunks with a checksum, and rebuilt from them (raid5_blockstore.py). -/
namespace ParsecCloud
open Bytes

def assertThat (condition : Bool) : Except PythonError Unit :=
  if condition then .ok () else .error .assertionError

/-- The loop over the buffers after the first one. -/
def xorRest (byteorder : ByteOrder) (buffLen : Nat) : Nat → List Bytes → Except PythonError Nat
  | xored, [] => .ok xored
  | xored, buff :: rest => do
    assertThat (buff.length == buffLen)
    xorRest byteorder buffLen (xored ^^^ fromBytes byteorder buff) rest

def xorBuffers (byteorder : ByteOrder) : List Bytes → Except PythonError Bytes
  | [] => .error .indexError
  | first :: rest => do
    let xored ← xorRest byteorder first.length (fromBytes byteorder first) rest
    if xored < 256 ^ first.length then return toBytes byteorder first.length xored
    else .error .overflowError

/-- struct.pack with the format !I -/
def packUint32 (n : Nat) : Except PythonError Bytes :=
  if n < 256 ^ 4 then .ok (toBytes .big 4 n) else .error .structError

/-- struct.unpack with the format !I -/
def unpackUint32 (bytes : Bytes) : Except PythonError Nat :=
  if bytes.length = 4 then .ok (fromBytes .big bytes) else .error .structError

/-- The slice data[first:last] -/
def pySlice (data : List β) (first last : Nat) : List β := (data.take last).drop first

def splitBlockInChunks (block : Bytes) (nbChunks : Nat) : Except PythonError (List Bytes) := do
  let payloadSize := block.length + 4
  if nbChunks = 0 then .error .zeroDivisionError
  else
    let chunkLen := payloadSize / nbChunks
    let chunkLen := if nbChunks * chunkLen < payloadSize then chunkLen + 1 else chunkLen
    let paddingLen := chunkLen * nbChunks - payloadSize
    let payload := (← packUint32 block.length) ++ block ++ List.replicate paddingLen 0
    return (List.range nbChunks).map fun i => pySlice payload (chunkLen * i) (chunkLen * (i + 1))

def generateChecksumChunk (byteorder : ByteOrder) (chunks : List Bytes) : Except PythonError Bytes :=
  xorBuffers byteorder chunks

def rebuildBlockFromChunks (byteorder : ByteOrder) (chunks : List (Option Bytes))
    (checksumChunk : Option Bytes) : Except PythonError Bytes := do
  let validChunks := chunks.filterMap id
  assertThat (chunks.length - validChunks.length ≤ 1)
  let chunks ←
    match chunks.findIdx? Option.isNone with
    | none => pure validChunks
    | some missingChunkId =>
      match checksumChunk with
      | none => .error .assertionError
      | some checksum => do
        let missing ← xorBuffers byteorder (validChunks ++ [checksum])
        pure ((chunks.set missingChunkId (some missing)).filterMap id)
  let payload := chunks.flatten
  let blockLen ← unpackUint32 (pySlice payload 0 4)
  return pySlice payload 4 (4 + blockLen)

/-- The exclusive or of the bytes of the buffers at an index. -/
def xorAt : List Bytes → Nat → Byte
  | [], _ => 0
  | buffer :: rest, i => buffer.getD i 0 ^^^ xorAt rest i

theorem xorAt_append (a b : List Bytes) (i : Nat) : xorAt (a ++ b) i = xorAt a i ^^^ xorAt b i := by
  induction a with
  | nil => simp [xorAt]
  | cons buffer rest ih => rw [List.cons_append, xorAt, xorAt, ih, UInt8.xor_assoc]

theorem xorAt_perm {a b : List Bytes} (perm : a.Perm b) (i : Nat) : xorAt a i = xorAt b i := by
  induction perm with
  | nil => rfl
  | cons buffer _ ih => rw [xorAt, xorAt, ih]
  | swap x y rest =>
    simp only [xorAt]
    rw [← UInt8.xor_assoc, ← UInt8.xor_assoc, UInt8.xor_comm (y.getD i 0)]
  | trans _ _ first second => exact first.trans second

theorem getD_xor {a b : Bytes} (same : a.length = b.length) (i : Nat) :
    (Bytes.xor a b).getD i 0 = a.getD i 0 ^^^ b.getD i 0 := by
  simp only [Bytes.xor, List.getD_eq_getElem?_getD, List.getElem?_zipWith]
  by_cases inside : i < a.length
  · simp [inside, same ▸ inside]
  · have outside : ¬ i < b.length := same ▸ inside
    simp [inside, outside]

theorem xorRest_spec {byteorder : ByteOrder} {rest : List Bytes} {current : Bytes}
    (same : ∀ buffer ∈ rest, buffer.length = current.length) :
    ∃ out, xorRest byteorder current.length (fromBytes byteorder current) rest =
        .ok (fromBytes byteorder out) ∧ out.length = current.length ∧
      ∀ i, out.getD i 0 = current.getD i 0 ^^^ xorAt rest i := by
  induction rest generalizing current with
  | nil => exact ⟨current, rfl, rfl, by simp [xorAt]⟩
  | cons buffer rest ih =>
    have sameLength : current.length = buffer.length := (same buffer (by simp)).symm
    have length : (Bytes.xor current buffer).length = current.length := length_xor sameLength
    obtain ⟨out, run, outLength, bytes⟩ := @ih (Bytes.xor current buffer) (by
      intro other member
      rw [length]
      exact same other (List.mem_cons_of_mem _ member))
    rw [length] at run outLength
    refine ⟨out, ?_, outLength, ?_⟩
    · rw [xorRest, assertThat, if_pos (by simp [sameLength])]
      rw [fromBytes_xor byteorder sameLength] at run
      exact run
    · intro i
      rw [bytes, getD_xor sameLength, xorAt, UInt8.xor_assoc]

theorem xorBuffers_spec (byteorder : ByteOrder) {first : Bytes} {rest : List Bytes}
    (same : ∀ buffer ∈ rest, buffer.length = first.length) :
    ∃ out, xorBuffers byteorder (first :: rest) = .ok out ∧ out.length = first.length ∧
      ∀ i, out.getD i 0 = xorAt (first :: rest) i := by
  obtain ⟨out, run, length, bytes⟩ := @xorRest_spec byteorder rest first same
  have fits : fromBytes byteorder out < 256 ^ first.length := length ▸ fromBytes_lt byteorder out
  refine ⟨out, ?_, length, bytes⟩
  simp only [xorBuffers, run]
  rw [← length] at fits ⊢
  change (if _ then _ else _) = _
  rw [if_pos fits, toBytes_fromBytes]
  rfl

theorem bytes_ext {a b : Bytes} (same : a.length = b.length)
    (bytes : ∀ i, a.getD i 0 = b.getD i 0) : a = b := by
  apply List.ext_getElem same
  intro i inA inB
  have here := bytes i
  simpa [List.getD_eq_getElem?_getD, inA, inB] using here

theorem join_slices (payload : Bytes) (chunkLen count : Nat) :
    ((List.range count).map fun i => pySlice payload (chunkLen * i) (chunkLen * (i + 1))).flatten =
      payload.take (chunkLen * count) := by
  induction count with
  | zero => simp
  | succ count ih =>
    rw [List.range_succ, List.map_append, List.flatten_append, ih]
    simp only [List.map_cons, List.map_nil, List.flatten_cons, List.flatten_nil, List.append_nil,
      pySlice, Nat.mul_add, Nat.mul_one]
    have front : payload.take (chunkLen * count) =
        (payload.take (chunkLen * count + chunkLen)).take (chunkLen * count) := by
      rw [List.take_take, Nat.min_eq_left (Nat.le_add_right _ _)]
    rw [front, List.take_append_drop]

theorem length_slice {payload : Bytes} {chunkLen count i : Nat}
    (length : payload.length = chunkLen * count) (inside : i < count) :
    (pySlice payload (chunkLen * i) (chunkLen * (i + 1))).length = chunkLen := by
  have bound : chunkLen * (i + 1) ≤ payload.length := by
    rw [length]
    exact Nat.mul_le_mul_left _ inside
  rw [pySlice, List.length_drop, List.length_take, Nat.min_eq_left bound, Nat.mul_add, Nat.mul_one]
  omega

theorem enough_room {payloadSize nbChunks : Nat} (positive : 0 < nbChunks) :
    payloadSize ≤ (if nbChunks * (payloadSize / nbChunks) < payloadSize then
      payloadSize / nbChunks + 1 else payloadSize / nbChunks) * nbChunks := by
  split
  · have whole := Nat.div_add_mod payloadSize nbChunks
    have small := Nat.mod_lt payloadSize positive
    rw [Nat.mul_comm, Nat.mul_add, Nat.mul_one]
    omega
  · rename_i enough
    rw [Nat.mul_comm]
    exact Nat.le_of_not_lt enough

/-- What the chunks of a block are: as many as asked for, of one length, and the payload when they
    are joined. -/
structure Split (block : Bytes) (nbChunks : Nat) (chunks : List Bytes) : Prop where
  count : chunks.length = nbChunks
  sameLength : ∃ length, ∀ chunk ∈ chunks, chunk.length = length
  payload : ∃ padding, chunks.flatten = toBytes .big 4 block.length ++ block ++ padding

theorem split_spec {block : Bytes} {nbChunks : Nat} (positive : 0 < nbChunks)
    (fits : block.length < 256 ^ 4) :
    ∃ chunks, splitBlockInChunks block nbChunks = .ok chunks ∧ Split block nbChunks chunks := by
  have room := @enough_room (block.length + 4) nbChunks positive
  generalize isLen : (if nbChunks * ((block.length + 4) / nbChunks) < block.length + 4 then
    (block.length + 4) / nbChunks + 1 else (block.length + 4) / nbChunks) = chunkLen at room
  let payload := toBytes .big 4 block.length ++ block ++
    List.replicate (chunkLen * nbChunks - (block.length + 4)) 0
  have length : payload.length = chunkLen * nbChunks := by
    simp only [payload, List.length_append, List.length_replicate, length_toBytes]
    omega
  refine ⟨(List.range nbChunks).map fun i => pySlice payload (chunkLen * i) (chunkLen * (i + 1)),
    ?_, ?_, ?_, ?_⟩
  · simp only [splitBlockInChunks, if_neg (Nat.ne_of_gt positive), isLen, packUint32, if_pos fits]
    rfl
  · rw [List.length_map, List.length_range]
  · refine ⟨chunkLen, ?_⟩
    intro chunk member
    obtain ⟨i, inRange, rfl⟩ := List.mem_map.mp member
    exact length_slice length (List.mem_range.mp inRange)
  · refine ⟨List.replicate (chunkLen * nbChunks - (block.length + 4)) 0, ?_⟩
    exact (join_slices payload chunkLen nbChunks).trans (List.take_of_length_le (by rw [length]))

theorem read_payload {block padding : Bytes} (fits : block.length < 256 ^ 4) :
    unpackUint32 (pySlice (toBytes .big 4 block.length ++ block ++ padding) 0 4) =
        .ok block.length ∧
      pySlice (toBytes .big 4 block.length ++ block ++ padding) 4 (4 + block.length) = block := by
  have four : (toBytes .big 4 block.length).length = 4 := length_toBytes _ _ _
  constructor
  · have front : pySlice (toBytes .big 4 block.length ++ block ++ padding) 0 4 =
        toBytes .big 4 block.length := by
      rw [pySlice, List.drop_zero, List.append_assoc, List.take_append_of_le_length (by rw [four]),
        List.take_of_length_le (by rw [four])]
    rw [front, unpackUint32, if_pos four, fromBytes_toBytes .big fits]
  · have whole : (toBytes .big 4 block.length ++ block).length = 4 + block.length := by
      rw [List.length_append, four]
    rw [pySlice, ← whole, List.take_left, List.drop_append_of_le_length (by rw [four]),
      List.drop_of_length_le (by rw [four]), List.nil_append]

theorem filterMap_some (chunks : List Bytes) : (chunks.map some).filterMap id = chunks := by
  simp

theorem rebuild_all {byteorder : ByteOrder} {block : Bytes} {nbChunks : Nat} {chunks : List Bytes}
    (split : Split block nbChunks chunks) (fits : block.length < 256 ^ 4) (checksum : Option Bytes) :
    rebuildBlockFromChunks byteorder (chunks.map some) checksum = .ok block := by
  obtain ⟨padding, payload⟩ := split.payload
  obtain ⟨isLength, isBlock⟩ := @read_payload block padding fits
  have none : (chunks.map some).findIdx? Option.isNone = none := by
    rw [List.findIdx?_eq_none_iff]
    simp
  have run : rebuildBlockFromChunks byteorder (chunks.map some) checksum =
      (unpackUint32 (pySlice chunks.flatten 0 4) >>= fun blockLen =>
        .ok (pySlice chunks.flatten 4 (4 + blockLen))) := by
    simp only [rebuildBlockFromChunks, filterMap_some, List.length_map, Nat.sub_self, none, assertThat]
    rfl
  rw [run, payload, isLength]
  exact congrArg Except.ok isBlock

theorem filterMap_set {chunks : List Bytes} {i : Nat} {chunk : Bytes} (found : chunks[i]? = some chunk) :
    ((chunks.map some).set i none).filterMap id = chunks.eraseIdx i := by
  induction chunks generalizing i with
  | nil => cases found
  | cons first rest ih =>
    cases i with
    | zero =>
      rw [List.map_cons, List.set_cons_zero, List.eraseIdx_cons_zero]
      exact filterMap_some rest
    | succ i =>
      rw [List.map_cons, List.set_cons_succ, List.eraseIdx_cons_succ, ← ih found]
      rfl

theorem findIdx_set {chunks : List Bytes} {i : Nat} {chunk : Bytes} (found : chunks[i]? = some chunk) :
    ((chunks.map some).set i none).findIdx? Option.isNone = some i := by
  induction chunks generalizing i with
  | nil => cases found
  | cons first rest ih =>
    cases i with
    | zero => rfl
    | succ i =>
      rw [List.map_cons, List.set_cons_succ, List.findIdx?_cons, ih found]
      rfl

/-- The checksum and the other chunks give the missing chunk. -/
theorem xor_missing {byteorder : ByteOrder} {chunks : List Bytes} {length i : Nat}
    {chunk checksum : Bytes}
    (sameLength : ∀ chunk ∈ chunks, chunk.length = length) (found : chunks[i]? = some chunk)
    (isChecksum : xorBuffers byteorder chunks = .ok checksum) :
    xorBuffers byteorder (chunks.eraseIdx i ++ [checksum]) = .ok chunk := by
  obtain ⟨inside, isChunk⟩ := List.getElem?_eq_some_iff.mp found
  have member : chunk ∈ chunks := List.mem_of_getElem? found
  have others : ∀ other ∈ chunks.eraseIdx i, other.length = length :=
    fun other isOther => sameLength other (List.mem_of_mem_eraseIdx isOther)
  have perm : (chunk :: chunks.eraseIdx i).Perm chunks :=
    isChunk ▸ List.getElem_cons_eraseIdx_perm inside
  have xorAll : ∀ {buffers : List Bytes}, buffers ≠ [] → (∀ buffer ∈ buffers, buffer.length = length) →
      ∃ out, xorBuffers byteorder buffers = .ok out ∧ out.length = length ∧
        ∀ k, out.getD k 0 = xorAt buffers k := by
    intro buffers nonempty lengths
    obtain ⟨first, rest, rfl⟩ := List.exists_cons_of_ne_nil nonempty
    have isLength := lengths first (by simp)
    rw [← isLength]
    apply xorBuffers_spec
    intro buffer isRest
    rw [isLength]
    exact lengths buffer (List.mem_cons_of_mem _ isRest)
  obtain ⟨out, isOut, checksumLength, checksumBytes⟩ := xorAll (List.ne_nil_of_mem member) sameLength
  rw [isChecksum] at isOut
  cases isOut
  obtain ⟨rebuilt, run, rebuiltLength, rebuiltBytes⟩ := @xorAll (chunks.eraseIdx i ++ [checksum])
    (by simp) (by
      intro buffer isBuffer
      rcases List.mem_append.mp isBuffer with isOther | isLast
      · exact others buffer isOther
      · rw [List.mem_singleton.mp isLast]
        exact checksumLength)
  have same : rebuilt = chunk := by
    apply bytes_ext (rebuiltLength.trans (sameLength chunk member).symm)
    intro k
    rw [rebuiltBytes, xorAt_append]
    simp only [xorAt, UInt8.xor_zero]
    rw [checksumBytes, ← xorAt_perm perm k, xorAt, UInt8.xor_comm (chunk.getD k 0),
      ← UInt8.xor_assoc, UInt8.xor_self, UInt8.zero_xor]
  rw [run, same]

/-- All the chunks but one and the checksum give the block back. -/
theorem rebuild_missing {byteorder : ByteOrder} {block : Bytes} {nbChunks : Nat}
    {chunks : List Bytes} {checksum : Bytes} (split : Split block nbChunks chunks)
    (fits : block.length < 256 ^ 4) (isChecksum : generateChecksumChunk byteorder chunks = .ok checksum)
    {missing : Nat} (isChunk : missing < nbChunks) :
    rebuildBlockFromChunks byteorder ((chunks.map some).set missing none) (some checksum) =
      .ok block := by
  obtain ⟨padding, payload⟩ := split.payload
  obtain ⟨isLength, isBlock⟩ := @read_payload block padding fits
  obtain ⟨length, sameLength⟩ := split.sameLength
  have inside : missing < chunks.length := split.count ▸ isChunk
  have found : chunks[missing]? = some chunks[missing] := List.getElem?_eq_getElem inside
  have restored : ((chunks.map some).set missing none).set missing (some chunks[missing]) =
      chunks.map some := by
    rw [List.set_set, ← List.map_set, List.set_getElem_self]
  have run : rebuildBlockFromChunks byteorder ((chunks.map some).set missing none) (some checksum) =
      (unpackUint32 (pySlice chunks.flatten 0 4) >>= fun blockLen =>
        .ok (pySlice chunks.flatten 4 (4 + blockLen))) := by
    have few : ((chunks.map some).set missing none).length - (chunks.eraseIdx missing).length ≤ 1 := by
      rw [List.length_set, List.length_map, List.length_eraseIdx_of_lt inside]
      omega
    simp only [rebuildBlockFromChunks, filterMap_set found, findIdx_set found, assertThat, few,
      xor_missing sameLength found isChecksum, decide_true, if_true]
    change (unpackUint32 (pySlice (List.flatten (List.filterMap id (((chunks.map some).set missing
      none).set missing (some chunks[missing])))) 0 4) >>= _) = _
    rw [restored, filterMap_some]
    rfl
  rw [run, payload, isLength]
  exact congrArg Except.ok isBlock

end ParsecCloud

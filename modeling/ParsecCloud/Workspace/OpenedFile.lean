import ParsecCloud.File.Store

/- An opened file in memory, and what open_file_by_id, fd_write, fd_resize, fd_flush and fd_close
   do to it while they hold its mutex (transactions/open_file.rs and fd_*.rs). -/
namespace ParsecCloud
open Rust

structure OpenOptions where
  read : Bool
  write : Bool
  truncate : Bool
  deriving DecidableEq

/-- An updater is the guard of the update lock of one entry. -/
structure FileUpdater where
  entryId : VlobID
  deriving DecidableEq

inductive ReadMode where
  | allowed
  | denied
  deriving DecidableEq

inductive WriteMode where
  | allowed
  | denied
  deriving DecidableEq

structure OpenedFileCursor where
  fileDescriptor : Nat
  readMode : ReadMode
  writeMode : WriteMode
  deriving DecidableEq

def OpenOptions.cursor (options : OpenOptions) (fileDescriptor : Nat) : OpenedFileCursor :=
  { fileDescriptor := fileDescriptor
    readMode := if options.read then .allowed else .denied
    writeMode := if options.write then .allowed else .denied }

/-- The chunks created since the last flush are kept by identifier, and the order of those to
    remove is forgotten. The last two fields are not in the source: the entry it was opened
    for, and the manifest as it was fetched or last written to the storage. -/
structure OpenedFile where
  updater : Option FileUpdater
  manifest : LocalFileManifest
  cursors : List OpenedFileCursor
  bytesWrittenSinceLastFlush : Nat
  removedChunks : Finset ChunkID
  newChunks : ChunkStore
  flushNeeded : Bool
  entryId : VlobID
  flushed : LocalFileManifest

/-- Truncate-on-open. -/
def maybeTruncateOnOpen (truncate : Bool) (m : LocalFileManifest) (now : DateTime) :
    Checked (LocalFileManifest × Option (Finset ChunkID)) :=
  if truncate = true ∧ m.size > 0 then do
    let (m, removedChunks) ← prepareResize m 0 now
    return (m, some removedChunks)
  else .ok (m, none)

inductive FdWriteStrategy where
  | normal (offset : Nat)
  | constrainedIO (offset : Nat)
  | startEOF

/-- The data is truncated to the right length if the write is constrained. -/
def FdWriteStrategy.resolve (size : Nat) (data : List Byte) : FdWriteStrategy →
    Checked (Nat × List Byte)
  | normal offset => .ok (offset, data)
  | constrainedIO offset => do
    if (← add offset data.length) > size then return (offset, ← slice data 0 (size - offset))
    else return (offset, data)
  | startEOF => .ok (size, data)

namespace OpenedFile

/-- A file opened for the first time. -/
def opened (entryId : VlobID) (m : LocalFileManifest) (updater : Option FileUpdater)
    (cursor : OpenedFileCursor) (truncate : Bool) (now : DateTime) : Checked OpenedFile := do
  let (manifest, removed) ← maybeTruncateOnOpen truncate m now
  return { updater := updater, manifest := manifest, cursors := [cursor]
           bytesWrittenSinceLastFlush := 0, removedChunks := removed.getD ∅
           newChunks := ChunkStore.empty, flushNeeded := removed.isSome
           entryId := entryId, flushed := m }

/-- The updater of an open becomes the one of the file, if the file has none. -/
def joinUpdater (own updater : Option FileUpdater) : Checked (Option FileUpdater) :=
  match own with
  | none => .ok updater
  | some own => do
    assert updater.isNone "updater.is_none()"
    return some own

/-- One more cursor, for a file that was opened already. -/
def join (f : OpenedFile) (updater : Option FileUpdater) (cursor : OpenedFileCursor)
    (truncate : Bool) (now : DateTime) : Checked OpenedFile := do
  let updater ← joinUpdater f.updater updater
  let (manifest, removed) ← maybeTruncateOnOpen truncate f.manifest now
  return { f with
    updater := updater, cursors := f.cursors ++ [cursor], manifest := manifest
    flushNeeded := f.flushNeeded || removed.isSome
    removedChunks := f.removedChunks ∪ removed.getD ∅ }

def cursorOf (f : OpenedFile) (fd : Nat) : Option OpenedFileCursor :=
  f.cursors.find? fun cursor => cursor.fileDescriptor == fd

def removeCursor (f : OpenedFile) (fd : Nat) : OpenedFile :=
  { f with cursors := f.cursors.eraseP fun cursor => cursor.fileDescriptor == fd }

/-- Chunks that are no longer used: a new one is forgotten, any other is to be removed from the
    storage. -/
def forgetChunks (f : OpenedFile) (removed : Finset ChunkID) : OpenedFile :=
  { f with
    newChunks := f.newChunks.removeAll removed
    removedChunks := f.removedChunks ∪ removed.filter fun id => (f.newChunks id).isNone }

def write (f : OpenedFile) (data : List Byte) (offset : Nat) (now : DateTime)
    (ids : Nat → ChunkID) : Checked OpenedFile := do
  let (manifest, writeOperations, removed) ←
    prepareWrite f.manifest data.length offset now ids
  let forgotten := f.forgetChunks removed
  let newChunks ← writeOperations.foldlM (fun (chunks : ChunkStore) operation => do
    let chunkData ← writeChunkData data operation
    return chunks.insert operation.chunkView.id chunkData) forgotten.newChunks
  let bytes ← add f.bytesWrittenSinceLastFlush data.length
  return { forgotten with
    manifest := manifest, newChunks := newChunks, bytesWrittenSinceLastFlush := bytes
    flushNeeded := true }

def resize (f : OpenedFile) (length : Nat) (now : DateTime) : Checked OpenedFile := do
  let (manifest, removed) ← prepareResize f.manifest length now
  return { f.forgetChunks removed with manifest := manifest, flushNeeded := true }

end OpenedFile

/-- The operations of a cursor in write mode. Chunk identifiers are drawn by the caller. -/
inductive FdOperation where
  | write (data : List Byte) (mode : FdWriteStrategy) (now : DateTime) (ids : Nat → ChunkID)
  | resize (length : Nat) (truncateOnly : Bool) (now : DateTime)
  | flush

/-- The identifiers drawn are different, and the file neither uses them nor is to remove them. -/
def FdOperation.Fresh (f : OpenedFile) : FdOperation → Prop
  | write _ _ _ ids => Function.Injective ids ∧
      ∀ i, ids i ∉ chunkIds f.manifest ∧ ids i ∉ f.removedChunks
  | _ => True

namespace OpenedFile

def maybeEarlyFlush (f : OpenedFile) : Bool :=
  f.bytesWrittenSinceLastFlush ≥ f.manifest.blocksize.inner

/-- The file after the part of the operation that is done in memory, and whether
    force_reshape_and_flush comes next. -/
def perform (f : OpenedFile) : FdOperation → Checked (OpenedFile × Bool)
  | .write data mode now ids => do
    let (offset, data) ← mode.resolve f.manifest.size data
    if data.isEmpty then return (f, false)
    else do
      let f ← f.write data offset now ids
      return (f, f.maybeEarlyFlush)
  | .resize length truncateOnly now =>
    if f.manifest.size = length ∨ (truncateOnly = true ∧ f.manifest.size ≤ length) then
      .ok (f, false)
    else do
      let f ← f.resize length now
      return (f, f.maybeEarlyFlush)
  | .flush => .ok (f, true)

/-- One turn of the loop of reshape, for a storage that has this data at hand. An operation that
    misses some data is skipped. -/
def reshapeSlot (fromData : List Byte → HashDigest) (f : OpenedFile) (storage : ChunkStore)
    (id : ChunkID) (block : Nat) : Checked OpenedFile := do
  let operation ← ReshapeBlockOperation.tryReshape id (f.manifest.blocks.getD block [])
  match operation with
  | none => return f
  | some operation =>
    let found : ChunkStore := fun id => (f.newChunks id).or (storage id)
    if operation.source.any fun v => (found v.id).isNone then return f
    else do
      let destination := operation.destination
      let (buf, _) ← copyViews found destination.start operation.source
      assert (buf.length == destination.stop - destination.start)
        "buf.len() == reshape.destination().size() as usize"
      let forgotten := f.forgetChunks operation.cleanupIds
      let newChunks := if operation.writeBack then forgotten.newChunks.insert destination.id buf
        else forgotten.newChunks
      let manifest ← commitReshape fromData f.manifest block operation buf
      return { forgotten with manifest := manifest, newChunks := newChunks }

/-- The chunks of the storage after the transaction of a flush: the new ones are inserted, then
    those to remove are removed. -/
def transaction (f : OpenedFile) (chunks : ChunkStore) : ChunkStore :=
  ChunkStore.removeAll (fun id => (f.newChunks id).or (chunks id)) f.removedChunks

/-- Everything is in the storage. -/
def afterFlush (f : OpenedFile) : OpenedFile :=
  { f with
    newChunks := ChunkStore.empty, removedChunks := ∅, bytesWrittenSinceLastFlush := 0
    flushNeeded := false, flushed := f.manifest }

end OpenedFile

/-- Neither the cursors nor the updater change. -/
structure SameCursors (f f' : OpenedFile) : Prop where
  entryId : f'.entryId = f.entryId
  updater : f'.updater = f.updater
  cursors : f'.cursors = f.cursors
  flushed : f'.flushed = f.flushed

namespace OpenedFile
variable {f f' : OpenedFile}

theorem maybeTruncateOnOpen_spec {truncate : Bool} {m m' : LocalFileManifest} {now : DateTime}
    {removed : Option (Finset ChunkID)}
    (ok : maybeTruncateOnOpen truncate m now = .ok (m', removed)) :
    (removed.isSome = true → truncate = true ∧ 0 < m.size) ∧ (removed.isSome = false → m' = m) := by
  unfold maybeTruncateOnOpen at ok
  split at ok
  · rename_i asked
    obtain ⟨⟨m'', removed'⟩, -, ok⟩ := bind_eq_ok.mp ok
    cases ok
    exact ⟨fun _ => asked, by simp⟩
  · cases ok
    simp

theorem opened_spec {entryId : VlobID} {m : LocalFileManifest} {updater : Option FileUpdater}
    {cursor : OpenedFileCursor} {truncate : Bool} {now : DateTime}
    (ok : opened entryId m updater cursor truncate now = .ok f) :
    f.entryId = entryId ∧ f.updater = updater ∧ f.cursors = [cursor] ∧
      (f.flushNeeded = true → truncate = true ∧ 0 < m.size) ∧
      (f.flushNeeded = false → f.manifest = f.flushed) := by
  unfold opened at ok
  obtain ⟨⟨manifest, removed⟩, truncated, ok⟩ := bind_eq_ok.mp ok
  cases ok
  exact ⟨rfl, rfl, rfl, maybeTruncateOnOpen_spec truncated⟩

theorem join_spec {updater : Option FileUpdater} {cursor : OpenedFileCursor} {truncate : Bool}
    {now : DateTime} (ok : f.join updater cursor truncate now = .ok f') :
    f'.entryId = f.entryId ∧ f'.flushed = f.flushed ∧ f'.cursors = f.cursors ++ [cursor] ∧
      f'.updater = f.updater.or updater ∧ (f.updater.isSome = true → updater = none) ∧
      (f'.flushNeeded = true → f.flushNeeded = true ∨ (truncate = true ∧ 0 < f.manifest.size)) ∧
      (f'.flushNeeded = false → f.flushNeeded = false ∧ f'.manifest = f.manifest) := by
  unfold join at ok
  obtain ⟨both, chosen, ok⟩ := bind_eq_ok.mp ok
  obtain ⟨⟨manifest, removed⟩, truncated, ok⟩ := bind_eq_ok.mp ok
  cases ok
  have spec := maybeTruncateOnOpen_spec truncated
  have alone : both = f.updater.or updater ∧ (f.updater.isSome = true → updater = none) := by
    unfold joinUpdater at chosen
    cases own : f.updater with
    | none =>
      rw [own] at chosen
      cases chosen
      simp
    | some value =>
      rw [own] at chosen
      obtain ⟨⟨⟩, single, chosen⟩ := bind_eq_ok.mp chosen
      cases chosen
      exact ⟨rfl, fun _ => by simpa using assert_eq_ok.mp single⟩
  refine ⟨rfl, rfl, rfl, alone.1, alone.2, ?_, ?_⟩
  · intro needed
    rcases Bool.or_eq_true_iff.mp needed with old | new
    · exact Or.inl old
    · exact Or.inr (spec.1 new)
  · intro quiet
    obtain ⟨old, new⟩ := Bool.or_eq_false_iff.mp quiet
    exact ⟨old, spec.2 new⟩

theorem write_spec {data : List Byte} {offset : Nat} {now : DateTime} {ids : Nat → ChunkID}
    (ok : f.write data offset now ids = .ok f') : SameCursors f f' ∧ f'.flushNeeded = true := by
  unfold write at ok
  obtain ⟨⟨manifest, operations, removed⟩, -, ok⟩ := bind_eq_ok.mp ok
  obtain ⟨newChunks, -, ok⟩ := bind_eq_ok.mp ok
  obtain ⟨bytes, -, ok⟩ := bind_eq_ok.mp ok
  cases ok
  exact ⟨⟨rfl, rfl, rfl, rfl⟩, rfl⟩

theorem resize_spec {length : Nat} {now : DateTime} (ok : f.resize length now = .ok f') :
    SameCursors f f' ∧ f'.flushNeeded = true := by
  unfold resize at ok
  obtain ⟨⟨manifest, removed⟩, -, ok⟩ := bind_eq_ok.mp ok
  cases ok
  exact ⟨⟨rfl, rfl, rfl, rfl⟩, rfl⟩

theorem perform_spec {operation : FdOperation} {flush : Bool}
    (ok : f.perform operation = .ok (f', flush)) :
    SameCursors f f' ∧ (f' = f ∨ f'.flushNeeded = true) := by
  have same : SameCursors f f := ⟨rfl, rfl, rfl, rfl⟩
  cases operation with
  | write data mode now ids =>
    obtain ⟨⟨offset, data'⟩, -, ok⟩ := bind_eq_ok.mp ok
    dsimp only at ok
    split at ok
    · cases ok
      exact ⟨same, Or.inl rfl⟩
    · obtain ⟨g, written, ok⟩ := bind_eq_ok.mp ok
      cases ok
      exact ⟨(write_spec written).1, Or.inr (write_spec written).2⟩
  | resize length truncateOnly now =>
    simp only [perform] at ok
    split at ok
    · cases ok
      exact ⟨same, Or.inl rfl⟩
    · obtain ⟨g, resized, ok⟩ := bind_eq_ok.mp ok
      cases ok
      exact ⟨(resize_spec resized).1, Or.inr (resize_spec resized).2⟩
  | flush =>
    cases ok
    exact ⟨same, Or.inl rfl⟩

theorem reshapeSlot_spec {fromData : List Byte → HashDigest} {storage : ChunkStore} {id : ChunkID}
    {block : Nat} (ok : f.reshapeSlot fromData storage id block = .ok f') :
    SameCursors f f' ∧ f'.flushNeeded = f.flushNeeded := by
  unfold reshapeSlot at ok
  obtain ⟨operation, -, ok⟩ := bind_eq_ok.mp ok
  cases operation with
  | none =>
    cases ok
    exact ⟨⟨rfl, rfl, rfl, rfl⟩, rfl⟩
  | some operation =>
    dsimp only at ok
    split at ok
    · cases ok
      exact ⟨⟨rfl, rfl, rfl, rfl⟩, rfl⟩
    · obtain ⟨⟨buf, size⟩, -, ok⟩ := bind_eq_ok.mp ok
      obtain ⟨-, -, ok⟩ := bind_eq_ok.mp ok
      obtain ⟨manifest, -, ok⟩ := bind_eq_ok.mp ok
      cases ok
      exact ⟨⟨rfl, rfl, rfl, rfl⟩, rfl⟩

end OpenedFile
end ParsecCloud

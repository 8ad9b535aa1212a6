import ParsecCloud.PlatformStorage.Web

/- The two workspace storages under the same requests. The web one stores the flags that the native
   one computes from the versions, and removes the oldest blocks one by one. -/
namespace ParsecCloud.PlatformStorage

inductive StorageRequest where
  | populateManifest (manifest : UpdateManifestData)
  | updateManifest (manifest : UpdateManifestData)
  | updateManifests (manifests : List UpdateManifestData)
  | updateManifestAndChunks (manifest : UpdateManifestData)
      (newChunks : List (ChunkID × RawEncryptedChunk)) (removedChunks : List ChunkID)
  | updateRealmCheckpoint (newCheckpoint : Nat) (changedVlobs : List (VlobID × Nat))
  | setChunk (chunkId : ChunkID) (encrypted : List Byte)
  | setBlock (blockId : BlockID) (encrypted : List Byte) (accessedOn : DateTime)
  | getBlock (blockId : BlockID) (timestamp : DateTime)
  | promoteChunkToBlock (chunkId : ChunkID) (now : DateTime)

def StorageRequest.accessTime : StorageRequest → Option DateTime
  | .setBlock _ _ accessedOn => some accessedOn
  | .getBlock _ timestamp => some timestamp
  | .promoteChunkToBlock _ now => some now
  | _ => none

def StorageRequest.checkpoint : StorageRequest → Nat
  | .updateRealmCheckpoint newCheckpoint _ => newCheckpoint
  | _ => 0

inductive StorageOutcome where
  | done
  | populated (outcome : PopulateManifestOutcome)
  | block (data : Option RawEncryptedBlock)

def NativeStorage.run (storage : NativeStorage) : StorageRequest → StorageOutcome × NativeStorage
  | .populateManifest manifest =>
    let (outcome, storage) := storage.populateManifest manifest
    (.populated outcome, storage)
  | .updateManifest manifest => (.done, storage.updateManifest manifest)
  | .updateManifests manifests => (.done, storage.updateManifests manifests)
  | .updateManifestAndChunks manifest newChunks removedChunks =>
    (.done, storage.updateManifestAndChunks manifest newChunks removedChunks)
  | .updateRealmCheckpoint newCheckpoint changedVlobs =>
    (.done, storage.updateRealmCheckpoint newCheckpoint changedVlobs)
  | .setChunk chunkId encrypted => (.done, storage.setChunk chunkId encrypted)
  | .setBlock blockId encrypted accessedOn =>
    (.done, storage.setBlock blockId encrypted accessedOn)
  | .getBlock blockId timestamp =>
    let (data, storage) := storage.getBlock blockId timestamp
    (.block data, storage)
  | .promoteChunkToBlock chunkId now => (.done, storage.promoteChunkToBlock chunkId now)

/-- A request that fails leaves the storage as it was. -/
def WebStorage.orUnchanged (storage : WebStorage) {α : Type} (outcome : α → StorageOutcome)
    (next : α → WebStorage) : Except WebError α → Except WebError StorageOutcome × WebStorage
  | .ok result => (.ok (outcome result), next result)
  | .error error => (.error error, storage)

def WebStorage.run (completed : CompletedCursor) (storage : WebStorage) :
    StorageRequest → Except WebError StorageOutcome × WebStorage
  | .populateManifest manifest =>
    let (outcome, storage) := storage.populateManifest manifest
    (.ok (.populated outcome), storage)
  | .updateManifest manifest => (.ok .done, storage.updateManifest manifest)
  | .updateManifests manifests => (.ok .done, storage.updateManifests manifests)
  | .updateManifestAndChunks manifest newChunks removedChunks =>
    (.ok .done, storage.updateManifestAndChunks manifest newChunks removedChunks)
  | .updateRealmCheckpoint newCheckpoint changedVlobs =>
    storage.orUnchanged (fun _ => .done) id
      (storage.updateRealmCheckpoint newCheckpoint changedVlobs)
  | .setChunk chunkId encrypted => (.ok .done, storage.setChunk chunkId encrypted)
  | .setBlock blockId encrypted accessedOn =>
    storage.orUnchanged (fun _ => .done) id
      (storage.setBlock completed blockId encrypted accessedOn)
  | .getBlock blockId timestamp =>
    storage.orUnchanged (fun result => .block result.1) Prod.snd
      (storage.getBlock blockId timestamp)
  | .promoteChunkToBlock chunkId now =>
    storage.orUnchanged (fun _ => .done) id (storage.promoteChunkToBlock completed chunkId now)

def NativeStorage.runAll (storage : NativeStorage) :
    List StorageRequest → List StorageOutcome × NativeStorage
  | [] => ([], storage)
  | request :: rest =>
    let (outcome, storage) := storage.run request
    let (outcomes, storage) := storage.runAll rest
    (outcome :: outcomes, storage)

def WebStorage.runAll (completed : CompletedCursor) (storage : WebStorage) :
    List StorageRequest → List (Except WebError StorageOutcome) × WebStorage
  | [] => ([], storage)
  | request :: rest =>
    let (outcome, storage) := storage.run completed request
    let (outcomes, storage) := storage.runAll completed rest
    (outcome :: outcomes, storage)

/-- The object that the web storage has for a row. -/
def VlobRow.object (row : VlobRow) : VlobObject :=
  ⟨row.baseVersion, row.remoteVersion, boolAsU32 (row.baseVersion ≠ row.remoteVersion),
    boolAsU32 row.needSync, row.blob⟩

def ChunkRow.chunkObject (row : ChunkRow) : ChunkObject := ⟨row.size, row.data⟩

def ChunkRow.blockObject (row : ChunkRow) : BlockObject :=
  ⟨row.size, row.offline, row.accessedOn.getD 0, row.data⟩

section Vlobs
variable {rows : Dict VlobID VlobRow} {objects : Dict VlobID VlobObject}

def SameVlobs (rows : Dict VlobID VlobRow) (objects : Dict VlobID VlobObject) : Prop :=
  ∀ id, objects.get? id = (rows.get? id).map VlobRow.object

theorem SameVlobs.remoteVersion (same : SameVlobs rows objects) (vlobId : VlobID)
    (remoteVersion : Nat) :
    SameVlobs (dbUpdateManifestRemoteVersion rows vlobId remoteVersion)
      (updateRemoteVersion objects vlobId remoteVersion) := by
  intro id
  rw [dbUpdateManifestRemoteVersion_get?]
  unfold updateRemoteVersion
  rw [same vlobId]
  by_cases isId : vlobId = id
  · rw [← isId]
    cases found : rows.get? vlobId with
    | none =>
      rw [Option.map_none]
      exact (same vlobId).trans (congrArg _ found)
    | some row =>
      rw [Option.map_some, Option.map_some, Option.map_some, Dict.get?_set_self, if_pos rfl]
      rfl
  · simp only [if_neg isId, Option.map_id']
    split
    · exact same id
    · rw [Dict.get?_set_of_ne (Ne.symm isId)]
      exact same id

theorem SameVlobs.remoteVersions (same : SameVlobs rows objects)
    (changedVlobs : List (VlobID × Nat)) :
    SameVlobs
      (changedVlobs.foldl
        (fun vlobs changed => dbUpdateManifestRemoteVersion vlobs changed.1 changed.2) rows)
      (changedVlobs.foldl
        (fun vlobs changed => updateRemoteVersion vlobs changed.1 changed.2) objects) := by
  induction changedVlobs generalizing rows objects with
  | nil => exact same
  | cons changed rest ih => exact ih (same.remoteVersion changed.1 changed.2)

theorem SameVlobs.updateManifest (same : SameVlobs rows objects) (manifest : UpdateManifestData) :
    SameVlobs (dbUpdateManifest rows manifest) (updateManifestInternal objects manifest) := by
  intro id
  unfold updateManifestInternal
  rw [dbUpdateManifest_get?, same manifest.entryId, Dict.get?_set]
  split
  · rename_i isId
    rw [isId]
    cases rows.get? manifest.entryId with
    | none => simp [UpdateManifestData.updated, UpdateManifestData.row, VlobRow.object]
    | some row =>
      simp [UpdateManifestData.updated, UpdateManifestData.row, VlobRow.object,
        Nat.max_comm row.remoteVersion]
  · exact same id

theorem SameVlobs.updateManifests (same : SameVlobs rows objects)
    (manifests : List UpdateManifestData) :
    SameVlobs (manifests.foldl dbUpdateManifest rows)
      (manifests.foldl updateManifestInternal objects) := by
  induction manifests generalizing rows objects with
  | nil => exact same
  | cons manifest rest ih => exact ih (same.updateManifest manifest)

end Vlobs

section Chunks
variable {rows : Dict ChunkID ChunkRow} {objects : Dict ChunkID ChunkObject}

def SameChunks (rows : Dict ChunkID ChunkRow) (objects : Dict ChunkID ChunkObject) : Prop :=
  ∀ id, objects.get? id = (rows.get? id).map ChunkRow.chunkObject

theorem SameChunks.insert (same : SameChunks rows objects) (chunkId : ChunkID)
    (encrypted : List Byte) :
    SameChunks (dbInsertChunk rows chunkId encrypted)
      (setChunkInternal objects chunkId encrypted) := by
  intro id
  unfold dbInsertChunk setChunkInternal
  split
  · rw [Dict.get?_set, Dict.get?_set]
    split
    · rfl
    · exact same id
  · rw [Dict.get?_set, Dict.get?_set]
    split
    · rfl
    · exact same id

theorem SameChunks.insertAll (same : SameChunks rows objects)
    (newChunks : List (ChunkID × RawEncryptedChunk)) :
    SameChunks (newChunks.foldl (fun chunks new => dbInsertChunk chunks new.1 new.2) rows)
      (newChunks.foldl (fun chunks new => setChunkInternal chunks new.1 new.2) objects) := by
  induction newChunks generalizing rows objects with
  | nil => exact same
  | cons new rest ih => exact ih (same.insert new.1 new.2)

theorem SameChunks.erase (same : SameChunks rows objects) (chunkId : ChunkID) :
    SameChunks (rows.erase chunkId) (objects.erase chunkId) := by
  intro id
  rw [Dict.get?_erase, Dict.get?_erase]
  split
  · rfl
  · exact same id

theorem SameChunks.eraseAll (same : SameChunks rows objects) (removedChunks : List ChunkID) :
    SameChunks (removedChunks.foldl Dict.erase rows) (removedChunks.foldl Dict.erase objects) := by
  induction removedChunks generalizing rows objects with
  | nil => exact same
  | cons chunkId rest ih => exact ih (same.erase chunkId)

end Chunks

section Blocks
variable {rows : Dict BlockID ChunkRow} {objects : Dict BlockID BlockObject}
  {times : List DateTime} {completed : CompletedCursor}

/-- The blocks have the dates of the accesses so far, and no two of them the same one. -/
structure SameBlocks (times : List DateTime) (rows : Dict BlockID ChunkRow)
    (objects : Dict BlockID BlockObject) : Prop where
  same : ∀ id, objects.get? id = (rows.get? id).map ChunkRow.blockObject
  dated : ∀ id row, rows.get? id = some row → ∃ t ∈ times, row.accessedOn = some t
  distinct : ∀ id id' row row', rows.get? id = some row → rows.get? id' = some row' →
    row.accessedOn = row'.accessedOn → id = id'

def blockItem (item : BlockID × ChunkRow) : BlockID × BlockObject := (item.1, item.2.blockObject)

theorem accessedOnIndex_distinct (objects : Dict BlockID BlockObject) :
    objects.Distinct accessedOnIndex := by
  intro a isA b isB sameIndex
  apply Dict.eq_of_fst_eq isA isB
  obtain ⟨⟨uuid⟩, object⟩ := a
  obtain ⟨⟨uuid'⟩, object'⟩ := b
  have sameUuid : uuid = uuid' := congrArg (fun index => (ofLex index).2) sameIndex
  exact congrArg BlockID.mk sameUuid

theorem SameBlocks.sortedBy (same : SameBlocks times rows objects) :
    objects.sortedBy accessedOnIndex = (rows.sortedBy accessedOnOrder).map blockItem := by
  symm
  apply Dict.eq_sortedBy (accessedOnIndex_distinct objects)
  · apply ((rows.sortedBy_perm accessedOnOrder).map blockItem).trans
    exact (Dict.items_perm_of_get? same.same).symm
  · rw [List.pairwise_map]
    apply (rows.sortedBy_pairwise accessedOnOrder).imp_of_mem
    intro a b isA isB below
    rw [(rows.sortedBy_perm accessedOnOrder).mem_iff] at isA isB
    have foundA := Dict.get?_eq_some_iff.mpr isA
    have foundB := Dict.get?_eq_some_iff.mpr isB
    obtain ⟨t, -, isT⟩ := same.dated a.1 a.2 foundA
    obtain ⟨t', -, isT'⟩ := same.dated b.1 b.2 foundB
    unfold accessedOnOrder at below
    rw [isT, isT'] at below
    have order : t ≤ t' := WithBot.coe_le_coe.mp below
    unfold accessedOnIndex blockItem ChunkRow.blockObject
    rw [isT, isT', Option.getD_some, Option.getD_some, Prod.Lex.toLex_le_toLex]
    rcases lt_or_eq_of_le order with isLess | isSame
    · exact .inl isLess
    · right
      have sameId := same.distinct a.1 b.1 a.2 b.2 foundA foundB (by rw [isT, isT', isSame])
      rw [sameId]
      exact ⟨isSame, le_refl _⟩

theorem cleanupLoop_spec (completed : CompletedCursor) {n : Nat}
    (enough : n ≤ objects.items.length) :
    ∃ objects', cleanupLoop completed n objects = .ok objects' ∧
      ∀ item, item ∈ objects'.items ↔ item ∈ (objects.sortedBy accessedOnIndex).drop n := by
  induction n generalizing objects with
  | zero =>
    refine ⟨objects, rfl, ?_⟩
    intro item
    rw [List.drop_zero]
    exact ((objects.sortedBy_perm accessedOnIndex).mem_iff).symm
  | succ n ih =>
    have length := (objects.sortedBy_perm accessedOnIndex).length_eq
    unfold cleanupLoop
    split
    · rename_i isEmpty
      rw [isEmpty, List.length_nil] at length
      omega
    · rename_i item rest split
      obtain ⟨-, sorted⟩ := Dict.sortedBy_erase (accessedOnIndex_distinct objects) split
      have lengthRest := ((objects.erase item.1).sortedBy_perm accessedOnIndex).length_eq
      rw [sorted] at lengthRest
      rw [split, List.length_cons] at length
      obtain ⟨objects', isObjects, members⟩ := @ih (objects.erase item.1) (by omega)
      refine ⟨objects', isObjects, ?_⟩
      intro other
      rw [members, sorted, split, List.drop_succ_cons]

theorem SameBlocks.cleanup {n : Nat} (same : SameBlocks times rows objects)
    (enough : n ≤ objects.items.length) :
    ∃ objects', cleanupLoop completed n objects = .ok objects' ∧
      SameBlocks times (dbCleanupBlocks rows n) objects' := by
  obtain ⟨objects', isObjects, members⟩ := cleanupLoop_spec completed enough
  refine ⟨objects', isObjects, ?_⟩
  have kept : ∀ id row, (dbCleanupBlocks rows n).get? id = some row → rows.get? id = some row := by
    intro id row found
    rw [Dict.get?_eq_some_iff] at found ⊢
    exact (Dict.mem_items_eraseAll.mp found).1
  constructor
  · intro id
    ext object
    rw [Dict.get?_eq_some_iff, members, same.sortedBy, ← List.map_drop, List.mem_map,
      Option.map_eq_some_iff]
    constructor
    · intro isLater
      obtain ⟨item, member, isItem⟩ := isLater
      cases isItem
      exact ⟨item.2, Dict.get?_eq_some_iff.mpr (Dict.mem_items_eraseFirst.mpr member), rfl⟩
    · intro isKept
      obtain ⟨row, found, isObject⟩ := isKept
      rw [← isObject]
      exact ⟨(id, row), Dict.mem_items_eraseFirst.mp (Dict.get?_eq_some_iff.mp found), rfl⟩
  · intro id row found
    exact same.dated id row (kept id row found)
  · intro id id' row row' found found'
    exact same.distinct id id' row row' (kept id row found) (kept id' row' found')

theorem SameBlocks.length (same : SameBlocks times rows objects) :
    objects.items.length = rows.items.length := by
  rw [(Dict.items_perm_of_get? same.same).length_eq, List.length_map]

theorem SameBlocks.mayCleanup (same : SameBlocks times rows objects) (maxBlocks : Nat) :
    ∃ objects', webMayCleanupBlocks completed objects maxBlocks = .ok objects' ∧
      SameBlocks times (mayCleanupBlocks rows maxBlocks) objects' := by
  unfold webMayCleanupBlocks mayCleanupBlocks
  dsimp only
  rw [← same.length]
  split
  · apply same.cleanup
    omega
  · exact ⟨objects, rfl, same⟩

theorem SameBlocks.access {blockId : BlockID} {row : ChunkRow} {object : BlockObject}
    {time : DateTime} (same : SameBlocks times rows objects) (isNew : time ∉ times)
    (isTime : row.accessedOn = some time) (isObject : object = row.blockObject) :
    SameBlocks (time :: times) (rows.set blockId row) (objects.set blockId object) := by
  have isRow : ∀ id row', (rows.set blockId row).get? id = some row' →
      (id = blockId ∧ row'.accessedOn = some time) ∨ (rows.get? id = some row' ∧
        ∃ t ∈ times, row'.accessedOn = some t) := by
    intro id row' found
    rcases Dict.found_set rfl found with ⟨isId, rfl⟩ | ⟨-, found⟩
    · exact .inl ⟨isId, isTime⟩
    · exact .inr ⟨found, same.dated id row' found⟩
  constructor
  · intro id
    rw [Dict.get?_set, Dict.get?_set]
    split
    · rw [isObject]
      rfl
    · exact same.same id
  · intro id row' found
    rcases isRow id row' found with ⟨-, isDate⟩ | ⟨-, t, member, isDate⟩
    · exact ⟨time, List.mem_cons_self, isDate⟩
    · exact ⟨t, List.mem_cons_of_mem _ member, isDate⟩
  · intro id id' row' row'' found found' sameDate
    rcases isRow id row' found with ⟨isId, isDate⟩ | ⟨isOld, t, member, isDate⟩
    · rcases isRow id' row'' found' with ⟨isId', -⟩ | ⟨-, t', member', isDate'⟩
      · rw [isId, isId']
      · rw [isDate, isDate'] at sameDate
        cases sameDate
        exact absurd member' isNew
    · rcases isRow id' row'' found' with ⟨-, isDate'⟩ | ⟨isOld', -⟩
      · rw [isDate, isDate'] at sameDate
        cases sameDate
        exact absurd member isNew
      · exact same.distinct id id' row' row'' isOld isOld' sameDate

theorem rsToJsTimestamp_safe {time : DateTime} (safe : isSafeInteger time = true) :
    rsToJsTimestamp time = .ok time :=
  if_pos safe

theorem SameBlocks.put {time : DateTime} (same : SameBlocks times rows objects)
    (isNew : time ∉ times) (safe : isSafeInteger time = true) (completed : CompletedCursor)
    (maxBlocks : Nat) (blockId : BlockID) (encrypted : List Byte) :
    ∃ objects', putBlock completed objects maxBlocks blockId encrypted time = .ok objects' ∧
      SameBlocks (time :: times)
        (mayCleanupBlocks (dbInsertBlock rows blockId encrypted time) maxBlocks) objects' := by
  unfold putBlock
  rw [rsToJsTimestamp_safe safe]
  apply SameBlocks.mayCleanup
  exact same.access isNew rfl rfl

theorem SameBlocks.weaken {time : DateTime} (same : SameBlocks times rows objects) :
    SameBlocks (time :: times) rows objects := by
  refine ⟨same.same, ?_, same.distinct⟩
  intro id row found
  obtain ⟨t, member, isDate⟩ := same.dated id row found
  exact ⟨t, List.mem_cons_of_mem _ member, isDate⟩

end Blocks

/-- The two storages after the same requests, with the access times of these. -/
structure SameStorage (times : List DateTime) (native : NativeStorage) (web : WebStorage) :
    Prop where
  maxBlocks : web.maxBlocks = native.cacheMaxBlocks
  checkpoint : web.checkpoint = native.realmCheckpoint
  vlobs : SameVlobs native.vlobs web.vlobs
  chunks : SameChunks native.chunks web.chunks
  blocks : SameBlocks times native.cacheChunks web.blocks

namespace SameStorage
variable {times : List DateTime} {native : NativeStorage} {web : WebStorage}

theorem weaken {time : DateTime} (same : SameStorage times native web) :
    SameStorage (time :: times) native web :=
  ⟨same.maxBlocks, same.checkpoint, same.vlobs, same.chunks, same.blocks.weaken⟩

theorem populateManifest (same : SameStorage times native web) (manifest : UpdateManifestData) :
    (web.populateManifest manifest).1 = (native.populateManifest manifest).1 ∧
      SameStorage times (native.populateManifest manifest).2 (web.populateManifest manifest).2 := by
  unfold WebStorage.populateManifest NativeStorage.populateManifest dbPopulateManifest
  rw [same.vlobs manifest.entryId]
  cases native.vlobs.get? manifest.entryId with
  | some row => exact ⟨rfl, same⟩
  | none =>
    refine ⟨rfl, same.maxBlocks, same.checkpoint, ?_, same.chunks, same.blocks⟩
    intro id
    dsimp only [Option.map_none]
    rw [Dict.get?_set, Dict.get?_set]
    split
    · simp [VlobRow.object, UpdateManifestData.row]
    · exact same.vlobs id

theorem updateRealmCheckpoint (same : SameStorage times native web) {newCheckpoint : Nat}
    (small : newCheckpoint < 2 ^ 32) (changedVlobs : List (VlobID × Nat)) :
    ∃ web', web.updateRealmCheckpoint newCheckpoint changedVlobs = .ok web' ∧
      SameStorage times (native.updateRealmCheckpoint newCheckpoint changedVlobs) web' := by
  have isSafe : rsToJsU64 newCheckpoint = .ok newCheckpoint := by
    apply if_neg
    unfold maxSafeInteger
    omega
  unfold WebStorage.updateRealmCheckpoint
  rw [isSafe]
  refine ⟨_, rfl, same.maxBlocks, ?_, same.vlobs.remoteVersions changedVlobs, same.chunks,
    same.blocks⟩
  exact congrArg some (Nat.mod_eq_of_lt small).symm

theorem setBlock (same : SameStorage times native web) {time : DateTime} (isNew : time ∉ times)
    (safe : isSafeInteger time = true) (completed : CompletedCursor) (blockId : BlockID)
    (encrypted : List Byte) :
    ∃ web', web.setBlock completed blockId encrypted time = .ok web' ∧
      SameStorage (time :: times) (native.setBlock blockId encrypted time) web' := by
  obtain ⟨blocks, isBlocks, sameBlocks⟩ :=
    same.blocks.put isNew safe completed native.cacheMaxBlocks blockId encrypted
  unfold WebStorage.setBlock
  rw [same.maxBlocks, isBlocks]
  exact ⟨_, rfl, rfl, same.checkpoint, same.vlobs, same.chunks, sameBlocks⟩

theorem getBlock (same : SameStorage times native web) {time : DateTime} (isNew : time ∉ times)
    (safe : isSafeInteger time = true) (blockId : BlockID) :
    ∃ web', web.getBlock blockId time = .ok ((native.getBlock blockId time).1, web') ∧
      SameStorage (time :: times) (native.getBlock blockId time).2 web' := by
  unfold WebStorage.getBlock NativeStorage.getBlock
  rw [same.blocks.same blockId]
  cases native.cacheChunks.get? blockId with
  | none => exact ⟨web, rfl, same.weaken⟩
  | some row =>
    dsimp only [Option.map_some]
    rw [rsToJsTimestamp_safe safe]
    refine ⟨_, rfl, same.maxBlocks, same.checkpoint, same.vlobs, same.chunks, ?_⟩
    exact same.blocks.access isNew rfl rfl

theorem promoteChunkToBlock (same : SameStorage times native web) {time : DateTime}
    (isNew : time ∉ times) (safe : isSafeInteger time = true) (completed : CompletedCursor)
    (chunkId : ChunkID) :
    ∃ web', web.promoteChunkToBlock completed chunkId time = .ok web' ∧
      SameStorage (time :: times) (native.promoteChunkToBlock chunkId time) web' := by
  unfold WebStorage.promoteChunkToBlock NativeStorage.promoteChunkToBlock NativeStorage.getChunk
  rw [same.chunks chunkId]
  cases native.chunks.get? chunkId with
  | none => exact ⟨web, rfl, same.weaken⟩
  | some row =>
    dsimp only [Option.map_some]
    obtain ⟨blocks, isBlocks, sameBlocks⟩ :=
      same.blocks.put isNew safe completed native.cacheMaxBlocks (BlockID.ofChunkID chunkId)
        row.data
    rw [same.maxBlocks]
    change ∃ web', (putBlock completed web.blocks native.cacheMaxBlocks
      (BlockID.ofChunkID chunkId) row.data time >>= _) = _ ∧ _
    rw [isBlocks]
    exact ⟨_, rfl, rfl, same.checkpoint, same.vlobs, same.chunks.erase chunkId, sameBlocks⟩

/-- What a request needs: a date that no other has, which JavaScript can represent, and a checkpoint
    of 32 bits. -/
structure Admissible (times : List DateTime) (request : StorageRequest) : Prop where
  isNew : ∀ time, request.accessTime = some time → time ∉ times
  safe : ∀ time, request.accessTime = some time → isSafeInteger time = true
  small : request.checkpoint < 2 ^ 32

def timesAfter (times : List DateTime) (request : StorageRequest) : List DateTime :=
  match request.accessTime with
  | none => times
  | some time => time :: times

theorem run {request : StorageRequest} (same : SameStorage times native web)
    (admissible : Admissible times request) (completed : CompletedCursor) :
    (web.run completed request).1 = .ok (native.run request).1 ∧
      SameStorage (timesAfter times request) (native.run request).2
        (web.run completed request).2 := by
  cases request with
  | populateManifest manifest =>
    obtain ⟨sameOutcome, sameAfter⟩ := same.populateManifest manifest
    exact ⟨congrArg (fun outcome => Except.ok (StorageOutcome.populated outcome)) sameOutcome, sameAfter⟩
  | updateManifest manifest =>
    exact ⟨rfl, same.maxBlocks, same.checkpoint, same.vlobs.updateManifest manifest, same.chunks,
      same.blocks⟩
  | updateManifests manifests =>
    exact ⟨rfl, same.maxBlocks, same.checkpoint, same.vlobs.updateManifests manifests, same.chunks,
      same.blocks⟩
  | updateManifestAndChunks manifest newChunks removedChunks =>
    exact ⟨rfl, same.maxBlocks, same.checkpoint, same.vlobs.updateManifest manifest,
      (same.chunks.insertAll newChunks).eraseAll removedChunks, same.blocks⟩
  | updateRealmCheckpoint newCheckpoint changedVlobs =>
    have isSmall : newCheckpoint < 2 ^ 32 := admissible.small
    obtain ⟨web', isWeb, sameAfter⟩ := same.updateRealmCheckpoint isSmall changedVlobs
    simp only [WebStorage.run, isWeb]
    exact ⟨rfl, sameAfter⟩
  | setChunk chunkId encrypted =>
    exact ⟨rfl, same.maxBlocks, same.checkpoint, same.vlobs, same.chunks.insert chunkId encrypted,
      same.blocks⟩
  | setBlock blockId encrypted accessedOn =>
    obtain ⟨web', isWeb, sameAfter⟩ := same.setBlock (admissible.isNew _ rfl)
      (admissible.safe _ rfl) completed blockId encrypted
    simp only [WebStorage.run, isWeb]
    exact ⟨rfl, sameAfter⟩
  | getBlock blockId timestamp =>
    obtain ⟨web', isWeb, sameAfter⟩ := same.getBlock (admissible.isNew _ rfl)
      (admissible.safe _ rfl) blockId
    simp only [WebStorage.run, isWeb]
    exact ⟨rfl, sameAfter⟩
  | promoteChunkToBlock chunkId now =>
    obtain ⟨web', isWeb, sameAfter⟩ := same.promoteChunkToBlock (admissible.isNew _ rfl)
      (admissible.safe _ rfl) completed chunkId
    simp only [WebStorage.run, isWeb]
    exact ⟨rfl, sameAfter⟩

theorem runAll {requests : List StorageRequest} (completed : CompletedCursor)
    (same : SameStorage times native web)
    (distinct : (requests.filterMap StorageRequest.accessTime).Nodup)
    (isNew : ∀ time ∈ requests.filterMap StorageRequest.accessTime, time ∉ times)
    (safe : ∀ time ∈ requests.filterMap StorageRequest.accessTime, isSafeInteger time = true)
    (small : ∀ request ∈ requests, request.checkpoint < 2 ^ 32) :
    (web.runAll completed requests).1 = (native.runAll requests).1.map .ok ∧
      ∃ times', SameStorage times' (native.runAll requests).2
        (web.runAll completed requests).2 := by
  induction requests generalizing times native web with
  | nil => exact ⟨rfl, times, same⟩
  | cons request rest ih =>
    have isMember : ∀ time, request.accessTime = some time →
        time ∈ (request :: rest).filterMap StorageRequest.accessTime :=
      fun time isTime => List.mem_filterMap.mpr ⟨request, List.mem_cons_self, isTime⟩
    have isLater : ∀ time ∈ rest.filterMap StorageRequest.accessTime,
        time ∈ (request :: rest).filterMap StorageRequest.accessTime := by
      intro time member
      obtain ⟨other, isOther, isTime⟩ := List.mem_filterMap.mp member
      exact List.mem_filterMap.mpr ⟨other, List.mem_cons_of_mem _ isOther, isTime⟩
    have admissible : Admissible times request :=
      ⟨fun time isTime => isNew time (isMember time isTime),
        fun time isTime => safe time (isMember time isTime), small request List.mem_cons_self⟩
    obtain ⟨sameOutcome, sameAfter⟩ := same.run admissible completed
    have distinctRest : (rest.filterMap StorageRequest.accessTime).Nodup ∧
        ∀ time ∈ rest.filterMap StorageRequest.accessTime, time ∉ timesAfter times request := by
      unfold timesAfter
      cases isTime : request.accessTime with
      | none =>
        rw [List.filterMap_cons_none isTime] at distinct
        exact ⟨distinct, fun time member => isNew time (isLater time member)⟩
      | some accessTime =>
        rw [List.filterMap_cons_some isTime, List.nodup_cons] at distinct
        refine ⟨distinct.2, ?_⟩
        intro time member isBefore
        rcases List.mem_cons.mp isBefore with isThis | isOld
        · rw [isThis] at member
          exact distinct.1 member
        · exact isNew time (isLater time member) isOld
    obtain ⟨sameOutcomes, sameEnd⟩ := ih sameAfter distinctRest.1 distinctRest.2
      (fun time member => safe time (isLater time member))
      (fun other isOther => small other (List.mem_cons_of_mem _ isOther))
    exact ⟨congrArg₂ List.cons sameOutcome sameOutcomes, sameEnd⟩

end SameStorage

section Listings
variable {rows : Dict VlobID VlobRow} {objects : Dict VlobID VlobObject}

theorem takeBlobs_eq {limit : Nat} {objects : List VlobObject} {items : List RawEncryptedManifest}
    (room : items.length < limit) :
    takeBlobs limit objects items =
      items ++ (objects.map VlobObject.blob).take (limit - items.length) := by
  induction objects generalizing items with
  | nil => rw [takeBlobs, List.map_nil, List.take_nil, List.append_nil]
  | cons object rest ih =>
    have next : limit - items.length = limit - (items ++ [object.blob]).length + 1 := by
      rw [List.length_append, List.length_singleton]
      omega
    rw [takeBlobs, List.map_cons, next, List.take_succ_cons]
    split
    · rename_i isFull
      rw [Nat.sub_eq_zero_of_le isFull, List.take_zero]
    · rename_i hasRoom
      rw [ih (Nat.lt_of_not_le hasRoom), List.append_assoc]
      rfl

theorem SameVlobs.cursor_perm (same : SameVlobs rows objects) :
    (vlobsCursor objects).Perm (rows.items.map fun item => (item.1, item.2.object)) :=
  (objects.sortedBy_perm _).trans (Dict.items_perm_of_get? same)

theorem SameVlobs.blobs_perm (same : SameVlobs rows objects) :
    (((vlobsCursor objects).map Prod.snd).map VlobObject.blob).Perm
      (rows.values.map VlobRow.blob) := by
  apply ((same.cursor_perm.map Prod.snd).map VlobObject.blob).trans
  rw [Dict.values, List.map_map, List.map_map, List.map_map]
  exact List.Perm.refl _

/-- An index has the keys of the rows that meet the condition the flag stands for. -/
theorem SameVlobs.flagged_perm (same : SameVlobs rows objects) (flag : VlobObject → Nat)
    (isSet : VlobRow → Bool) (isFlag : ∀ row, flag row.object = boolAsU32 (isSet row)) :
    (((vlobsCursor objects).filter fun item => flag item.2 = 1).map Prod.fst).Perm
      ((rows.items.filter fun item => isSet item.2).map Prod.fst) := by
  apply ((same.cursor_perm.filter _).map Prod.fst).trans
  rw [List.filter_map, List.map_map]
  have sameFilter : ((fun item : VlobID × VlobObject => decide (flag item.2 = 1)) ∘
      fun item : VlobID × VlobRow => (item.1, item.2.object)) = fun item => isSet item.2 := by
    funext item
    simp only [Function.comp_apply, isFlag, boolAsU32]
    cases isSet item.2 with
    | true => rfl
    | false => rfl
  rw [sameFilter]
  exact List.Perm.refl _

theorem perm_take_of_lt {α : Type} {l l' : List α} {limit : Nat} (perm : l.Perm l')
    (notReached : (l'.take limit).length < limit) : (l.take limit).Perm (l'.take limit) := by
  rw [List.length_take] at notReached
  have length := perm.length_eq
  rw [List.take_of_length_le (by omega), List.take_of_length_le (by omega)]
  exact perm

end Listings

/-- What can be observed of the two storages: all but the order of the listings. A page of the
    manifests that does not begin at the first one has the same length on both sides. -/
structure SameObservations (completed : CompletedCursor) (native : NativeStorage)
    (web : WebStorage) : Prop where
  manifest : ∀ id, web.getManifest id = native.getManifest id
  chunk : ∀ id, web.getChunk id = native.getChunk id
  block : ∀ id time, isSafeInteger time = true →
    ∃ web', web.getBlock id time = .ok ((native.getBlock id time).1, web')
  checkpoint : web.getRealmCheckpoint = native.getRealmCheckpoint
  inbound : ∀ limit, (native.getInboundNeedSync limit).length < limit →
    (web.getInboundNeedSync limit).Perm (native.getInboundNeedSync limit)
  outbound : ∀ limit, (native.getOutboundNeedSync limit).length < limit →
    (web.getOutboundNeedSync limit).Perm (native.getOutboundNeedSync limit)
  list : ∀ limit, 1 ≤ limit → (native.listManifests 0 limit).length < limit →
    ∃ page, web.listManifests completed 0 limit = .ok page ∧
      page.Perm (native.listManifests 0 limit)
  pages : ∀ offset limit, 1 ≤ limit → offset = 0 ∨ native.vlobs.items ≠ [] →
    ∃ page, web.listManifests completed offset limit = .ok page ∧
      page.length = (native.listManifests offset limit).length

namespace SameStorage
variable {times : List DateTime} {native : NativeStorage} {web : WebStorage}

theorem listManifests (same : SameStorage times native web) (completed : CompletedCursor)
    {offset limit : Nat} (positive : 1 ≤ limit)
    (notCompleted : offset = 0 ∨ native.vlobs.items ≠ []) :
    web.listManifests completed offset limit = .ok
      (((((vlobsCursor web.vlobs).map Prod.snd).map VlobObject.blob).drop offset).take limit) := by
  have isPage : takeBlobs limit (((vlobsCursor web.vlobs).map Prod.snd).drop offset) [] =
      ((((vlobsCursor web.vlobs).map Prod.snd).map VlobObject.blob).drop offset).take limit := by
    rw [takeBlobs_eq positive, List.nil_append, List.map_drop]
    rfl
  have isOpen : ¬ (offset > 0 ∧ (vlobsCursor web.vlobs).map Prod.snd = []) := by
    intro isPast
    rcases notCompleted with isFirst | notEmpty
    · omega
    · apply notEmpty
      have length := same.vlobs.cursor_perm.length_eq
      rw [List.map_eq_nil_iff.mp isPast.2, List.length_map] at length
      exact List.length_eq_zero_iff.mp length.symm
  unfold WebStorage.listManifests
  rw [← isPage]
  dsimp only
  rw [if_neg isOpen]
  rfl

theorem observations (same : SameStorage times native web) (completed : CompletedCursor) :
    SameObservations completed native web := by
  constructor
  · intro id
    unfold WebStorage.getManifest NativeStorage.getManifest
    rw [same.vlobs id, Option.map_map]
    rfl
  · intro id
    unfold WebStorage.getChunk NativeStorage.getChunk
    rw [same.chunks id, Option.map_map]
    rfl
  · intro id time safe
    unfold WebStorage.getBlock NativeStorage.getBlock
    rw [same.blocks.same id]
    cases native.cacheChunks.get? id with
    | none => exact ⟨web, rfl⟩
    | some row =>
      dsimp only [Option.map_some]
      rw [rsToJsTimestamp_safe safe]
      exact ⟨_, rfl⟩
  · unfold WebStorage.getRealmCheckpoint NativeStorage.getRealmCheckpoint
    rw [same.checkpoint]
  · intro limit notReached
    apply perm_take_of_lt _ notReached
    exact same.vlobs.flagged_perm VlobObject.inboundNeedSync
      (fun row => row.baseVersion ≠ row.remoteVersion) (fun _ => rfl)
  · intro limit notReached
    apply perm_take_of_lt _ notReached
    exact same.vlobs.flagged_perm VlobObject.outboundNeedSync VlobRow.needSync (fun _ => rfl)
  · intro limit positive notReached
    refine ⟨_, same.listManifests completed positive (.inl rfl), ?_⟩
    rw [List.drop_zero]
    exact perm_take_of_lt same.vlobs.blobs_perm notReached
  · intro offset limit positive notCompleted
    refine ⟨_, same.listManifests completed positive notCompleted, ?_⟩
    unfold NativeStorage.listManifests
    rw [List.length_take, List.length_take, List.length_drop, List.length_drop,
      same.vlobs.blobs_perm.length_eq]

end SameStorage

/-- Requests with distinct access times that JavaScript can represent have the same outcomes on both
    storages, and nothing but the order of the manifests tells these apart afterwards. -/
theorem native_web_same (completed : CompletedCursor) (maxBlocks : Nat)
    (requests : List StorageRequest)
    (distinct : (requests.filterMap StorageRequest.accessTime).Nodup)
    (safe : ∀ time ∈ requests.filterMap StorageRequest.accessTime, isSafeInteger time = true)
    (small : ∀ request ∈ requests, request.checkpoint < 2 ^ 32) :
    ((WebStorage.noPopulateStart maxBlocks).runAll completed requests).1 =
      ((NativeStorage.noPopulateStart maxBlocks).runAll requests).1.map .ok ∧
    SameObservations completed ((NativeStorage.noPopulateStart maxBlocks).runAll requests).2
      ((WebStorage.noPopulateStart maxBlocks).runAll completed requests).2 := by
  have start : SameStorage [] (NativeStorage.noPopulateStart maxBlocks)
      (WebStorage.noPopulateStart maxBlocks) := by
    refine ⟨rfl, rfl, fun _ => rfl, fun _ => rfl, fun _ => rfl, ?_, ?_⟩
    · intro id row found
      cases found
    · intro id id' row row' found
      cases found
  obtain ⟨sameOutcomes, times, same⟩ := start.runAll completed distinct
    (fun _ _ isBefore => by cases isBefore) safe small
  exact ⟨sameOutcomes, same.observations completed⟩

section Samples

def invalidStateCursor : CompletedCursor := ⟨.error .cursorCompleted, .error .cursorCompleted⟩

def twoManifests : List StorageRequest :=
  [.populateManifest ⟨⟨2⟩, [2], false, 1⟩, .populateManifest ⟨⟨1⟩, [1], true, 1⟩]

/-- A cache of one block, where a second one takes the place of the first. -/
def twoBlocks : List StorageRequest :=
  [.setChunk ⟨1⟩ [1], .promoteChunkToBlock ⟨1⟩ 10, .setBlock ⟨2⟩ [2] 20, .getBlock ⟨1⟩ 30]

theorem native_web_same_of_blocks :
    ((WebStorage.noPopulateStart 1).runAll invalidStateCursor (twoManifests ++ twoBlocks)).1 =
      ((NativeStorage.noPopulateStart 1).runAll (twoManifests ++ twoBlocks)).1.map .ok ∧
    SameObservations invalidStateCursor
      ((NativeStorage.noPopulateStart 1).runAll (twoManifests ++ twoBlocks)).2
      ((WebStorage.noPopulateStart 1).runAll invalidStateCursor (twoManifests ++ twoBlocks)).2 :=
  native_web_same invalidStateCursor 1 (twoManifests ++ twoBlocks) (by decide) (by decide)
    (by decide)

/-- A manifest that was stored first but has the greater identifier comes first on one side and last
    on the other. -/
theorem second_page_differs :
    ¬ ∀ (completed : CompletedCursor) (maxBlocks : Nat) (requests : List StorageRequest),
      (requests.filterMap StorageRequest.accessTime).Nodup →
      (∀ request ∈ requests, request.checkpoint < 2 ^ 32) →
      ∀ offset limit, 1 ≤ limit →
        (((NativeStorage.noPopulateStart maxBlocks).runAll requests).2.listManifests offset
          limit).length < limit →
        ∃ page, ((WebStorage.noPopulateStart maxBlocks).runAll completed requests).2.listManifests
            completed offset limit = .ok page ∧
          ∀ blob, blob ∈ page ↔ blob ∈
            ((NativeStorage.noPopulateStart maxBlocks).runAll requests).2.listManifests offset
              limit := by
  intro claim
  obtain ⟨page, isPage, sameSet⟩ := claim invalidStateCursor 1 twoManifests (by decide) (by decide)
    1 2 (by decide) (by decide)
  have isWeb : ((WebStorage.noPopulateStart 1).runAll invalidStateCursor
      twoManifests).2.listManifests invalidStateCursor 1 2 = .ok [[2]] := by rfl
  rw [isWeb] at isPage
  cases isPage
  exact absurd ((sameSet [2]).mp List.mem_cons_self) (by decide)

end Samples

end ParsecCloud.PlatformStorage

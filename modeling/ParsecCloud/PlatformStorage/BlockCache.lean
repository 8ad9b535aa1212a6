import ParsecCloud.Lib.LeastRecent
import ParsecCloud.PlatformStorage.Equivalence
import Mathlib.Data.Int.Basic

/- The cache of blocks under any requests, where a promotion can be interrupted at its commits. The
   blocks and the chunks are in two databases, and the one of the blocks is committed first. -/
namespace ParsecCloud.PlatformStorage
open LeastRecent

section Machine

/-- The conversions between i64 and u64 keep the bits. -/
def asU64 (x : Int) : Nat := (x % 2 ^ 64).toNat

def asI64 (x : Nat) : Int := Int.bmod x (2 ^ 64)

def checkedAddU64 (a b : Nat) : Option Nat := if a + b < 2 ^ 64 then some (a + b) else none

def dbGetBlocksCount (chunks : Dict BlockID ChunkRow) : Nat := asU64 chunks.items.length

/-- In SQLite a negative limit is no limit. -/
def dbCleanupBlocksLimit (chunks : Dict BlockID ChunkRow) (toRemove : Int) :
    Dict BlockID ChunkRow :=
  if toRemove < 0 then dbCleanupBlocks chunks chunks.items.length
  else dbCleanupBlocks chunks toRemove.toNat

/-- The cleanup on u64, with no result when the sum overflows. -/
def mayCleanupBlocksU64 (chunks : Dict BlockID ChunkRow) (maxBlocks : Nat) :
    Option (Dict BlockID ChunkRow) :=
  let extraBlocks := dbGetBlocksCount chunks - maxBlocks
  if extraBlocks > 0 then
    (checkedAddU64 extraBlocks (maxBlocks / 10)).map fun toRemove =>
      dbCleanupBlocksLimit chunks (asI64 toRemove)
  else some chunks

/-- The conversions and the sum of the cleanup are exact. -/
structure CleanupExact (nbBlocks maxBlocks : Nat) : Prop where
  count : asU64 nbBlocks = nbBlocks
  sum : checkedAddU64 (nbBlocks - maxBlocks) (maxBlocks / 10) =
    some (nbBlocks - maxBlocks + maxBlocks / 10)
  limit : asI64 (nbBlocks - maxBlocks + maxBlocks / 10) =
    (nbBlocks - maxBlocks + maxBlocks / 10 : Nat)

variable {nbBlocks maxBlocks : Nat} {chunks : Dict BlockID ChunkRow}

theorem asU64_natCast {x : Nat} (fits : x < 2 ^ 64) : asU64 x = x := by
  unfold asU64
  omega

theorem asI64_of_lt {x : Nat} (fits : x < 2 ^ 63) : asI64 x = x := by
  unfold asI64
  rw [Int.bmod_def]
  split
  · omega
  · omega

theorem cleanupExact (count : nbBlocks < 2 ^ 63) (max : maxBlocks < 2 ^ 64) :
    CleanupExact nbBlocks maxBlocks := by
  constructor
  · exact asU64_natCast (by omega)
  · exact if_pos (by omega)
  · exact asI64_of_lt (by omega)

theorem mayCleanupBlocksU64_eq (exact_ : CleanupExact chunks.items.length maxBlocks) :
    mayCleanupBlocksU64 chunks maxBlocks = some (mayCleanupBlocks chunks maxBlocks) := by
  unfold mayCleanupBlocksU64 mayCleanupBlocks dbGetBlocksCount
  rw [exact_.count]
  dsimp only
  split
  · rw [exact_.sum, Option.map_some, exact_.limit, dbCleanupBlocksLimit, if_neg (by omega),
      Int.toNat_natCast]
  · rfl

end Machine

section Stops

/-- Where a promotion is interrupted. A transaction that is not committed is rolled back. -/
inductive PromoteStop where
  | beforeCommits
  | betweenCommits
  | afterCommits

def NativeStorage.promoteChunkToBlockUntil (storage : NativeStorage) (chunkId : ChunkID)
    (now : DateTime) (stop : PromoteStop) : NativeStorage :=
  match storage.getChunk chunkId with
  | none => storage
  | some encrypted =>
    let committedCache := { storage with
      cacheChunks := mayCleanupBlocks
        (dbInsertBlock storage.cacheChunks (BlockID.ofChunkID chunkId) encrypted now)
        storage.cacheMaxBlocks }
    match stop with
    | .beforeCommits => storage
    | .betweenCommits => committedCache
    | .afterCommits => { committedCache with chunks := storage.chunks.erase chunkId }

theorem promoteChunkToBlockUntil_afterCommits (storage : NativeStorage) (chunkId : ChunkID)
    (now : DateTime) :
    storage.promoteChunkToBlockUntil chunkId now .afterCommits =
      storage.promoteChunkToBlock chunkId now := by
  unfold NativeStorage.promoteChunkToBlockUntil NativeStorage.promoteChunkToBlock
  cases storage.getChunk chunkId with
  | none => rfl
  | some encrypted => rfl

end Stops

section Calls

inductive StorageCall where
  | whole (request : StorageRequest)
  | interrupted (chunkId : ChunkID) (now : DateTime) (stop : PromoteStop)

def StorageCall.accessTime : StorageCall → Option DateTime
  | .whole request => request.accessTime
  | .interrupted _ now _ => some now

def StorageCall.run (storage : NativeStorage) : StorageCall → NativeStorage
  | .whole request => (storage.run request).2
  | .interrupted chunkId now stop => storage.promoteChunkToBlockUntil chunkId now stop

def StorageCall.stored (storage : NativeStorage) :
    StorageCall → Option (BlockID × RawEncryptedBlock)
  | .whole (.setBlock blockId encrypted _) => some (blockId, encrypted)
  | .whole (.promoteChunkToBlock chunkId _) =>
    (storage.getChunk chunkId).map fun encrypted => (BlockID.ofChunkID chunkId, encrypted)
  | .interrupted _ _ .beforeCommits => none
  | .interrupted chunkId _ _ =>
    (storage.getChunk chunkId).map fun encrypted => (BlockID.ofChunkID chunkId, encrypted)
  | .whole _ => none

/-- The block that the call stores or reads. -/
def StorageCall.accessed (storage : NativeStorage) (call : StorageCall) : Option BlockID :=
  match call with
  | .whole (.getBlock blockId _) => (storage.cacheChunks.get? blockId).map fun _ => blockId
  | _ => (call.stored storage).map Prod.fst

structure CacheTrace where
  storage : NativeStorage
  accesses : List (BlockID × DateTime)

def CacheTrace.next (trace : CacheTrace) (call : StorageCall) : CacheTrace :=
  ⟨call.run trace.storage, trace.accesses ++
    ((call.accessed trace.storage).bind fun blockId =>
      call.accessTime.map fun time => (blockId, time)).toList⟩

def trace (storage : NativeStorage) (calls : List StorageCall) : CacheTrace :=
  calls.foldl CacheTrace.next ⟨storage, []⟩

def accessTimes (calls : List StorageCall) : List DateTime := calls.filterMap StorageCall.accessTime

/-- The times of the accesses never decrease, and no two are the same. -/
def DistinctTimes (calls : List StorageCall) : Prop :=
  (accessTimes calls).Pairwise (fun a b => a ≤ b) ∧ (accessTimes calls).Nodup

abbrev NativeStorage.Cached (storage : NativeStorage) (blockId : BlockID) : Prop :=
  blockId ∈ storage.cacheChunks.keys

end Calls
section Effects
variable {storage : NativeStorage} {before : CacheTrace} {call : StorageCall}

/-- What a call does to the cache and to the log of the accesses. -/
inductive CacheEffect (before : CacheTrace) (call : StorageCall) : CacheTrace → Prop where
  | same {after : CacheTrace} (stored : call.stored before.storage = none)
      (chunks : after.storage.cacheChunks = before.storage.cacheChunks)
      (accesses : after.accesses = before.accesses) : CacheEffect before call after
  | read {after : CacheTrace} {blockId : BlockID} {row : ChunkRow} {now : DateTime}
      (stored : call.stored before.storage = none) (time : call.accessTime = some now)
      (found : before.storage.cacheChunks.get? blockId = some row)
      (chunks : after.storage.cacheChunks =
        before.storage.cacheChunks.set blockId { row with accessedOn := some now })
      (accesses : after.accesses = before.accesses ++ [(blockId, now)]) :
      CacheEffect before call after
  | store {after : CacheTrace} {blockId : BlockID} {encrypted : RawEncryptedBlock} {now : DateTime}
      (stored : call.stored before.storage = some (blockId, encrypted))
      (time : call.accessTime = some now)
      (chunks : after.storage.cacheChunks = mayCleanupBlocks
        (dbInsertBlock before.storage.cacheChunks blockId encrypted now)
        before.storage.cacheMaxBlocks)
      (accesses : after.accesses = before.accesses ++ [(blockId, now)]) :
      CacheEffect before call after

theorem StorageCall.run_cacheMaxBlocks (call : StorageCall) (storage : NativeStorage) :
    (call.run storage).cacheMaxBlocks = storage.cacheMaxBlocks := by
  cases call with
  | whole request =>
    cases request with
    | getBlock blockId now =>
      simp only [StorageCall.run, NativeStorage.run, NativeStorage.getBlock]
      split
      · rfl
      · rfl
    | promoteChunkToBlock chunkId now =>
      simp only [StorageCall.run, NativeStorage.run, NativeStorage.promoteChunkToBlock]
      split
      · rfl
      · rfl
    | _ => rfl
  | interrupted chunkId now stop =>
    simp only [StorageCall.run, NativeStorage.promoteChunkToBlockUntil]
    cases storage.getChunk chunkId with
    | none => rfl
    | some encrypted =>
      cases stop with
      | _ => rfl

theorem promote_effect {chunkId : ChunkID} {now : DateTime} {stop : PromoteStop}
    (commits : stop ≠ .beforeCommits) :
    CacheEffect before (.interrupted chunkId now stop)
      (before.next (.interrupted chunkId now stop)) := by
  have isStored : StorageCall.stored before.storage (.interrupted chunkId now stop) =
      (before.storage.getChunk chunkId).map fun encrypted =>
        (BlockID.ofChunkID chunkId, encrypted) := by
    cases stop with
    | beforeCommits => exact absurd rfl commits
    | betweenCommits => rfl
    | afterCommits => rfl
  cases found : before.storage.getChunk chunkId with
  | none =>
    rw [found] at isStored
    apply CacheEffect.same isStored
    · simp [CacheTrace.next, StorageCall.run, NativeStorage.promoteChunkToBlockUntil, found]
    · simp [CacheTrace.next, StorageCall.accessed, isStored]
  | some encrypted =>
    rw [found] at isStored
    apply CacheEffect.store isStored rfl
    · cases stop with
      | beforeCommits => exact absurd rfl commits
      | _ => simp [CacheTrace.next, StorageCall.run, NativeStorage.promoteChunkToBlockUntil, found]
    · simp [CacheTrace.next, StorageCall.accessed, isStored, StorageCall.accessTime]

theorem cacheEffect (before : CacheTrace) (call : StorageCall) :
    CacheEffect before call (before.next call) := by
  cases call with
  | whole request =>
    cases request with
    | setBlock blockId encrypted now => exact .store rfl rfl rfl rfl
    | getBlock blockId now =>
      cases found : before.storage.cacheChunks.get? blockId with
      | none =>
        apply CacheEffect.same rfl
        · simp [CacheTrace.next, StorageCall.run, NativeStorage.run, NativeStorage.getBlock, found]
        · simp [CacheTrace.next, StorageCall.accessed, found]
      | some row =>
        apply CacheEffect.read rfl rfl found
        · simp [CacheTrace.next, StorageCall.run, NativeStorage.run, NativeStorage.getBlock, found]
        · simp [CacheTrace.next, StorageCall.accessed, found, StorageCall.accessTime,
            StorageRequest.accessTime]
    | promoteChunkToBlock chunkId now =>
      have effect := @promote_effect before chunkId now .afterCommits PromoteStop.noConfusion
      have same : before.next (.interrupted chunkId now .afterCommits) =
          before.next (.whole (.promoteChunkToBlock chunkId now)) :=
        congrArg (fun storage => CacheTrace.mk storage _)
          (promoteChunkToBlockUntil_afterCommits before.storage chunkId now)
      rw [same] at effect
      cases effect with
      | same stored chunks accesses => exact .same stored chunks accesses
      | read stored time found chunks accesses => exact .read stored time found chunks accesses
      | store stored time chunks accesses => exact .store stored time chunks accesses
    | _ => exact .same rfl rfl (List.append_nil _)
  | interrupted chunkId now stop =>
    cases stop with
    | beforeCommits =>
      apply CacheEffect.same rfl
      · simp only [CacheTrace.next, StorageCall.run, NativeStorage.promoteChunkToBlockUntil]
        split
        · rfl
        · rfl
      · exact List.append_nil _
    | betweenCommits => exact promote_effect PromoteStop.noConfusion
    | afterCommits => exact promote_effect PromoteStop.noConfusion

end Effects
section Store
variable {chunks : Dict BlockID ChunkRow} {accesses : List (BlockID × DateTime)} {maxBlocks : Nat}
  {blockId : BlockID} {encrypted : RawEncryptedBlock} {now : DateTime}

theorem dbCleanupBlocks_eq (chunks : Dict BlockID ChunkRow) (toRemove : Nat) :
    dbCleanupBlocks chunks toRemove = removeFirst ChunkRow.accessedOn chunks toRemove := rfl

theorem length_insertBlock (chunks : Dict BlockID ChunkRow) (blockId : BlockID)
    (encrypted : RawEncryptedBlock) (now : DateTime) :
    (dbInsertBlock chunks blockId encrypted now).items.length =
      if blockId ∈ chunks.keys then chunks.items.length else chunks.items.length + 1 := by
  unfold dbInsertBlock Dict.set
  split
  · exact List.length_map _
  · exact List.length_append

theorem mem_insertBlock {other : BlockID} :
    other ∈ (dbInsertBlock chunks blockId encrypted now).keys ↔
      other = blockId ∨ other ∈ chunks.keys := by
  have iff_ := not_congr (@Dict.get?_eq_none_iff _ _ _ (dbInsertBlock chunks blockId encrypted now)
    other)
  rw [not_not] at iff_
  rw [← iff_, dbInsertBlock, Dict.get?_set]
  by_cases same : other = blockId
  · simp [same]
  · simp [same, Dict.get?_eq_none_iff]

/-- The blocks of the cache after one is stored. -/
structure Stored (chunks kept : Dict BlockID ChunkRow) (accesses : List (BlockID × DateTime))
    (maxBlocks : Nat) (blockId : BlockID) (encrypted : RawEncryptedBlock) : Prop where
  bounded : kept.items.length ≤ maxBlocks
  recorded : Recorded ChunkRow.accessedOn kept accesses
  evicted : ∀ evicted left, evicted ∈ chunks.keys → evicted ∉ kept.keys → left ∈ kept.keys →
    ∃ time time', lastAccess accesses evicted = some time ∧
      lastAccess accesses left = some time' ∧ time < time'
  stored : (kept.get? blockId).map ChunkRow.data = some encrypted
  restored : blockId ∈ chunks.keys → ∀ other ∈ chunks.keys, other ∈ kept.keys

theorem store_stored (bounded : chunks.items.length ≤ maxBlocks) (one : 1 ≤ maxBlocks)
    (recorded : Recorded ChunkRow.accessedOn chunks accesses)
    (later : ∀ access ∈ accesses, access.2 < now) :
    Stored chunks (mayCleanupBlocks (dbInsertBlock chunks blockId encrypted now) maxBlocks)
      (accesses ++ [(blockId, now)]) maxBlocks blockId encrypted := by
  have inserted : Recorded ChunkRow.accessedOn (dbInsertBlock chunks blockId encrypted now)
      (accesses ++ [(blockId, now)]) := recorded.access later rfl
  have found : (dbInsertBlock chunks blockId encrypted now).get? blockId =
      some ⟨encrypted.length, false, some now, encrypted⟩ := Dict.get?_set_self _ _ _
  have latest : ∀ access ∈ accesses ++ [(blockId, now)], access.2 ≤ now := by
    intro access member
    rcases List.mem_append.mp member with isBefore | isNew
    · exact (later access isBefore).le
    · rw [List.mem_singleton.mp isNew]
  have length := length_insertBlock chunks blockId encrypted now
  unfold mayCleanupBlocks
  dsimp only
  split
  · -- One block too many: it is new, and at least one block is left.
    rename_i extra
    have absent : blockId ∉ chunks.keys := by
      intro present
      rw [if_pos present] at length
      omega
    rw [if_neg absent] at length
    have cleaned := @length_removeFirst _ _ _ _ _ ChunkRow.accessedOn
      (dbInsertBlock chunks blockId encrypted now)
    constructor
    · rw [dbCleanupBlocks_eq, cleaned]
      omega
    · exact inserted.kept fun key row isKept => get?_of_removeFirst isKept
    · intro evicted left isBefore gone isLeft
      exact removed_before_kept inserted (mem_insertBlock.mpr (.inr isBefore)) gone isLeft
    · rw [dbCleanupBlocks_eq, latest_kept inserted found rfl latest (by omega)]
      rfl
    · intro present
      exact absurd present absent
  · rename_i enough
    constructor
    · omega
    · exact inserted
    · intro evicted left isBefore gone isLeft
      exact absurd (mem_insertBlock.mpr (.inr isBefore)) gone
    · rw [found]
      rfl
    · intro present other isBefore
      exact mem_insertBlock.mpr (.inr isBefore)

end Store

section Runs
variable {storage : NativeStorage} {before : CacheTrace} {call : StorageCall}
  {times : List DateTime} {maxBlocks : Nat}

structure CacheInvariant (maxBlocks : Nat) (times : List DateTime) (s : CacheTrace) : Prop where
  max : s.storage.cacheMaxBlocks = maxBlocks
  bounded : s.storage.cacheChunks.items.length ≤ maxBlocks
  recorded : Recorded ChunkRow.accessedOn s.storage.cacheChunks s.accesses
  past : ∀ access ∈ s.accesses, access.2 ∈ times

/-- What a call guarantees of the cache. -/
structure CallRight (maxBlocks : Nat) (before : CacheTrace) (call : StorageCall)
    (after : CacheTrace) : Prop where
  bounded : after.storage.cacheChunks.items.length ≤ maxBlocks
  evictedFirst : ∀ evicted left, before.storage.Cached evicted → ¬after.storage.Cached evicted →
    after.storage.Cached left → ∃ time time', lastAccess after.accesses evicted = some time ∧
      lastAccess after.accesses left = some time' ∧ time < time'
  stored : ∀ blockId encrypted, call.stored before.storage = some (blockId, encrypted) →
    (after.storage.cacheChunks.get? blockId).map ChunkRow.data = some encrypted
  restored : ∀ blockId encrypted, call.stored before.storage = some (blockId, encrypted) →
    before.storage.Cached blockId → ∀ other, before.storage.Cached other →
      after.storage.Cached other
  interrupted : ∀ chunkId now stop encrypted, call = .interrupted chunkId now stop →
    before.storage.getChunk chunkId = some encrypted →
      after.storage.getChunk chunkId = some encrypted ∨
      (after.storage.cacheChunks.get? (BlockID.ofChunkID chunkId)).map ChunkRow.data =
        some encrypted

/-- The data of an interrupted promotion is left in one of the two databases. -/
theorem interrupted_kept {chunkId : ChunkID} {now : DateTime} {encrypted : RawEncryptedChunk}
    (stop : PromoteStop) (found : before.storage.getChunk chunkId = some encrypted)
    (stored : ∀ blockId data, StorageCall.stored before.storage (.interrupted chunkId now stop) =
      some (blockId, data) → ((before.next (.interrupted chunkId now stop)).storage.cacheChunks.get?
        blockId).map ChunkRow.data = some data) :
    (before.next (.interrupted chunkId now stop)).storage.getChunk chunkId = some encrypted ∨
    ((before.next (.interrupted chunkId now stop)).storage.cacheChunks.get?
      (BlockID.ofChunkID chunkId)).map ChunkRow.data = some encrypted := by
  cases stop with
  | beforeCommits =>
    left
    simp only [CacheTrace.next, StorageCall.run, NativeStorage.promoteChunkToBlockUntil, found]
  | betweenCommits =>
    left
    simp only [CacheTrace.next, StorageCall.run, NativeStorage.promoteChunkToBlockUntil, found]
    exact found
  | afterCommits =>
    right
    apply stored
    rw [StorageCall.stored, found]
    · rfl
    · exact PromoteStop.noConfusion

theorem CacheInvariant.next (inv : CacheInvariant maxBlocks times before)
    (one : 1 ≤ maxBlocks)
    (later : ∀ now, call.accessTime = some now → ∀ time ∈ times, time < now) :
    CacheInvariant maxBlocks (times ++ call.accessTime.toList) (before.next call) ∧
      CallRight maxBlocks before call (before.next call) := by
  have max : (before.next call).storage.cacheMaxBlocks = maxBlocks :=
    (call.run_cacheMaxBlocks before.storage).trans inv.max
  have sameBlocks : call.stored before.storage = none →
      (before.next call).storage.cacheChunks.keys = before.storage.cacheChunks.keys →
      CallRight maxBlocks before call (before.next call) := by
    intro notStored keys
    have nothing : ∀ blockId encrypted,
        call.stored before.storage ≠ some (blockId, encrypted) := by
      simp [notStored]
    have length := congrArg List.length keys
    rw [Dict.keys, Dict.keys, List.length_map, List.length_map] at length
    constructor
    · rw [length]
      exact inv.bounded
    · intro evicted left isBefore gone
      rw [NativeStorage.Cached, keys] at gone
      exact absurd isBefore gone
    · intro blockId encrypted isStored
      exact absurd isStored (nothing blockId encrypted)
    · intro blockId encrypted isStored
      exact absurd isStored (nothing blockId encrypted)
    · intro chunkId now stop encrypted isCall found
      subst isCall
      apply interrupted_kept stop found
      intro blockId data isStored
      exact absurd isStored (nothing blockId data)
  cases cacheEffect before call with
  | same notStored chunks accesses =>
    refine ⟨⟨max, ?_, ?_, ?_⟩, sameBlocks notStored (congrArg Dict.keys chunks)⟩
    · rw [chunks]
      exact inv.bounded
    · rw [chunks, accesses]
      exact inv.recorded
    · rw [accesses]
      intro access member
      exact List.mem_append_left _ (inv.past access member)
  | read notStored isTime found chunks accesses =>
    rename_i blockId row now
    have keys : (before.next call).storage.cacheChunks.keys =
        before.storage.cacheChunks.keys := by
      rw [chunks, Dict.keys_set_of_found found]
    have right := sameBlocks notStored keys
    have isLater : ∀ access ∈ before.accesses, access.2 < now := by
      intro access member
      exact later now isTime _ (inv.past access member)
    refine ⟨⟨max, right.bounded, ?_, ?_⟩, right⟩
    · rw [chunks, accesses]
      exact inv.recorded.access isLater rfl
    · rw [accesses, isTime]
      intro access member
      rcases List.mem_append.mp member with isBefore | isNew
      · exact List.mem_append_left _ (inv.past access isBefore)
      · rw [List.mem_singleton.mp isNew]
        exact List.mem_append_right _ (List.mem_singleton_self now)
  | store isStored isTime chunks accesses =>
    rename_i blockId encrypted now
    have isLater : ∀ access ∈ before.accesses, access.2 < now := by
      intro access member
      exact later now isTime _ (inv.past access member)
    have stored : Stored before.storage.cacheChunks (before.next call).storage.cacheChunks
        (before.next call).accesses maxBlocks blockId encrypted := by
      rw [chunks, accesses, inv.max]
      exact store_stored inv.bounded one inv.recorded isLater
    have same : ∀ blockId' encrypted', call.stored before.storage = some (blockId', encrypted') →
        blockId' = blockId ∧ encrypted' = encrypted := by
      intro blockId' encrypted' isStored'
      rw [isStored] at isStored'
      cases isStored'
      exact ⟨rfl, rfl⟩
    have kept : ∀ blockId' encrypted', call.stored before.storage = some (blockId', encrypted') →
        ((before.next call).storage.cacheChunks.get? blockId').map ChunkRow.data =
          some encrypted' := by
      intro blockId' encrypted' isStored'
      obtain ⟨isBlock, isData⟩ := same blockId' encrypted' isStored'
      rw [isBlock, isData]
      exact stored.stored
    constructor
    · refine ⟨max, stored.bounded, stored.recorded, ?_⟩
      rw [accesses, isTime]
      intro access member
      rcases List.mem_append.mp member with isBefore | isNew
      · exact List.mem_append_left _ (inv.past access isBefore)
      · rw [List.mem_singleton.mp isNew]
        exact List.mem_append_right _ (List.mem_singleton_self now)
    · constructor
      · exact stored.bounded
      · exact stored.evicted
      · exact kept
      · intro blockId' encrypted' isStored' present
        rw [NativeStorage.Cached, (same blockId' encrypted' isStored').1] at present
        exact stored.restored present
      · intro chunkId now' stop encrypted' isCall found
        subst isCall
        exact interrupted_kept stop found kept

theorem accessTimes_append (calls : List StorageCall) (call : StorageCall) :
    accessTimes (calls ++ [call]) = accessTimes calls ++ call.accessTime.toList := by
  rw [accessTimes, List.filterMap_append]
  cases isTime : call.accessTime with
  | none => simp [isTime, accessTimes]
  | some time => simp [isTime, accessTimes]

theorem DistinctTimes.later {calls : List StorageCall} (distinct : DistinctTimes (calls ++ [call])) :
    DistinctTimes calls ∧
      ∀ now, call.accessTime = some now → ∀ time ∈ accessTimes calls, time < now := by
  obtain ⟨ordered, nodup⟩ := distinct
  rw [accessTimes_append] at ordered nodup
  rw [List.pairwise_append] at ordered
  rw [List.nodup_append] at nodup
  refine ⟨⟨ordered.1, nodup.1⟩, ?_⟩
  intro now isTime time member
  have isNew : now ∈ call.accessTime.toList := by simp [isTime]
  exact lt_of_le_of_ne (ordered.2.2 time member now isNew) (nodup.2.2 time member now isNew)

theorem cache_invariant (empty : storage.cacheChunks = .empty)
    (one : 1 ≤ storage.cacheMaxBlocks) (calls : List StorageCall) (distinct : DistinctTimes calls) :
    CacheInvariant storage.cacheMaxBlocks (accessTimes calls) (trace storage calls) := by
  induction calls using List.reverseRecOn with
  | nil =>
    constructor
    · rfl
    · rw [trace, List.foldl_nil, empty]
      exact Nat.zero_le _
    · rw [trace, List.foldl_nil, empty]
      exact .empty _
    · intro access member
      cases member
  | append_singleton calls call ih =>
    obtain ⟨before, later⟩ := distinct.later
    rw [accessTimes_append, trace, List.foldl_concat]
    exact ((ih before).next one later).1

/-- The cache keeps to its bound under any calls, and loses what was accessed first. The cleanup on
    machine integers is the one of the model. -/
theorem block_cache_right (storage : NativeStorage) (empty : storage.cacheChunks = .empty)
    (one : 1 ≤ storage.cacheMaxBlocks) :
    (∀ calls call, DistinctTimes (calls ++ [call]) →
      CallRight storage.cacheMaxBlocks (trace storage calls) call
        (trace storage (calls ++ [call]))) ∧
    ∀ chunks : Dict BlockID ChunkRow, chunks.items.length < 2 ^ 63 →
      ∀ maxBlocks < 2 ^ 64, CleanupExact chunks.items.length maxBlocks ∧
        mayCleanupBlocksU64 chunks maxBlocks = some (mayCleanupBlocks chunks maxBlocks) := by
  constructor
  · intro calls call distinct
    obtain ⟨before, later⟩ := distinct.later
    rw [trace, trace, List.foldl_concat]
    exact ((cache_invariant empty one calls before).next one later).2
  · intro chunks count maxBlocks max
    exact ⟨cleanupExact count max, mayCleanupBlocksU64_eq (cleanupExact count max)⟩

def storedBlock : List StorageCall :=
  [.whole (.setChunk ⟨7⟩ [9]), .whole (.setBlock ⟨1⟩ [8] 10)]

theorem promotion_over_stored_block :
    1 ≤ (NativeStorage.noPopulateStart 1).cacheMaxBlocks ∧
    CallRight 1 (trace (NativeStorage.noPopulateStart 1) storedBlock)
      (.interrupted ⟨7⟩ 20 .betweenCommits) (trace (NativeStorage.noPopulateStart 1)
        (storedBlock ++ [.interrupted ⟨7⟩ 20 .betweenCommits])) :=
  ⟨Nat.le_refl 1, (block_cache_right (NativeStorage.noPopulateStart 1) rfl (Nat.le_refl 1)).1
    storedBlock (.interrupted ⟨7⟩ 20 .betweenCommits)
    ⟨by decide +kernel, by decide +kernel⟩⟩

end Runs
end ParsecCloud.PlatformStorage

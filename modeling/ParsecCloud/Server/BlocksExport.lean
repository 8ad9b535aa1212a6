import ParsecCloud.Types.Manifest
import Mathlib.Algebra.GroupWithZero.Nat

/- The export of the data of the blocks of a realm (realm_export.py, _do_export_blocks_data): tasks
   that fetch the blocks of a batch, and a thread that serves the output database. A step is what
   one of them does between two awaits. -/
namespace ParsecCloud.Server

abbrev SequentialID := Nat

def blockMetadataExportBatchSize : Nat := 1000000
def blockDataExportParallelism : Nat := 10
def blockDataExportRamLimit : Nat := 2 ^ 30
def maxConsecutiveStoreUnavailableErrors : Nat := 5

inductive BlockStoreRead where
  | data (bytes : List Byte)
  | blockNotFound
  | storeUnavailable

/-- The reads are numbered in the order of the answers. -/
structure BlockStore where
  unavailable : Nat → Bool
  content : BlockID → Option (List Byte)

def BlockStore.read (store : BlockStore) (n : Nat) (blockId : BlockID) : BlockStoreRead :=
  if store.unavailable n then .storeUnavailable
  else match store.content blockId with
    | none => .blockNotFound
    | some bytes => .data bytes

inductive InputDbError where
  | blockMissing (blockId : BlockID)
  | tooManyRetries
  deriving DecidableEq

inductive ExportException where
  | storeUnavailable
  | inputDbError (error : InputDbError)
  | integrityError
  | assertionError
  deriving DecidableEq

/-- A group reports the errors of its tasks together. -/
inductive Propagated where
  | alone (exception : ExportException)
  | exceptionGroup (exceptions : List ExportException)
  deriving DecidableEq

/-- except StoreUnavailable -/
def Propagated.isStoreUnavailable : Propagated → Bool
  | .alone .storeUnavailable => true
  | _ => false

/-- What a task does once its flush is done. -/
inductive AfterFlush where
  | report (size : Nat)
  | raiseStoreUnavailable
  deriving DecidableEq

inductive FetchTask where
  | popping
  | reading (block : SequentialID × BlockID)
  | flushing (job : Nat) (next : AfterFlush)
  | ended
  deriving DecidableEq

inductive BlocksExportPhase where
  | begin
  | nextBatch
  | fetching (tasks : List FetchTask) (errors : List ExportException)
  | lastFlush (job : Nat)
  | markDone
  | completed
  | raised (exception : Propagated)
  deriving DecidableEq

/-- The thread of the output database serves the flushes in the order they are asked for. It first
    takes the data to flush, and then writes it. -/
structure SqliteWorker where
  asked : Nat
  served : Nat
  inserting : Option (List (SequentialID × List Byte))
  failed : List Nat

structure BlocksExport where
  block : List (SequentialID × BlockID)
  blockData : List (SequentialID × List Byte)
  blocksDataExportDone : Bool
  toFlushData : List (SequentialID × List Byte)
  toFlushDataTotalSize : Nat
  exportedBytes : Nat
  batch : List (SequentialID × BlockID)
  consecutiveStoreUnavailableErrors : Nat
  reads : Nat
  sqlite : SqliteWorker
  phase : BlocksExportPhase

/-- The key of block_data is unique. -/
def insertBlockData (table : List (SequentialID × List Byte)) :
    List (SequentialID × List Byte) → List (SequentialID × List Byte) × Bool
  | [] => (table, true)
  | row :: rest =>
    if table.any fun other => other.1 = row.1 then (table, false)
    else insertBlockData (table ++ [row]) rest

namespace BlocksExport
variable (s : BlocksExport)

/-- The blocks without data. -/
def missing : List (SequentialID × BlockID) :=
  s.block.filter fun block => !s.blockData.any fun row => row.1 = block.1

def getNextBatchOfBlocks : List (SequentialID × BlockID) :=
  s.missing.take blockMetadataExportBatchSize

/-- The first half of _flush_data_to_sqlite, under the lock. -/
def stealData : BlocksExport :=
  { s with
    toFlushData := []
    toFlushDataTotalSize := 0
    sqlite := { s.sqlite with inserting := some s.toFlushData } }

def insertData (rows : List (SequentialID × List Byte)) : BlocksExport :=
  { s with
    blockData := (insertBlockData s.blockData rows).1
    sqlite := ⟨s.sqlite.asked, s.sqlite.served + 1, none,
      if (insertBlockData s.blockData rows).2 then s.sqlite.failed
      else s.sqlite.served :: s.sqlite.failed⟩ }

/-- The job that a call of _flush_data_to_sqlite waits for. -/
def askFlush : BlocksExport :=
  { s with sqlite := { s.sqlite with asked := s.sqlite.asked + 1 } }

/-- _add_block_data_and_maybe_flush_to_sqlite -/
def addBlockData (sequentialId : SequentialID) (data : List Byte) : BlocksExport × FetchTask :=
  let s := { s with
    toFlushData := s.toFlushData ++ [(sequentialId, data)]
    toFlushDataTotalSize := s.toFlushDataTotalSize + data.length }
  if s.toFlushDataTotalSize ≥ blockDataExportRamLimit then
    (s.askFlush, .flushing s.sqlite.asked (.report data.length))
  else ({ s with exportedBytes := s.exportedBytes + data.length }, .popping)

/-- What a task of _fetch_data_in_batch does until it waits again, or raises. -/
def runTask (store : BlockStore) :
    FetchTask → Option (BlocksExport × (FetchTask ⊕ ExportException))
  | .popping =>
    match s.batch with
    | [] => some (s, .inl .ended)
    | block :: rest => some ({ s with batch := rest }, .inl (.reading block))
  | .reading (sequentialId, blockId) =>
    let answered := { s with reads := s.reads + 1 }
    match store.read s.reads blockId with
    | .data bytes =>
      let (added, task) := { answered with consecutiveStoreUnavailableErrors := 0 }.addBlockData
        sequentialId bytes
      some (added, .inl task)
    | .blockNotFound => some (answered, .inr (.inputDbError (.blockMissing blockId)))
    | .storeUnavailable =>
      some (answered.askFlush, .inl (.flushing s.sqlite.asked .raiseStoreUnavailable))
  | .flushing job next =>
    if job < s.sqlite.served then
      if job ∈ s.sqlite.failed then some (s, .inr .integrityError)
      else match next with
        | .report size => some ({ s with exportedBytes := s.exportedBytes + size }, .inl .popping)
        | .raiseStoreUnavailable => some (s, .inr .storeUnavailable)
    else none
  | .ended => none

def startTasks : BlocksExport :=
  { s with phase := .fetching (List.replicate blockDataExportParallelism .popping) [] }

/-- The end of the tasks: the last flush, or their errors. -/
def leaveGroup (errors : List ExportException) : BlocksExport :=
  if errors = [] then { s.askFlush with phase := .lastFlush s.sqlite.asked }
  else if (Propagated.exceptionGroup errors).isStoreUnavailable then
    let retried := { s with
      consecutiveStoreUnavailableErrors := s.consecutiveStoreUnavailableErrors + 1 }
    if retried.consecutiveStoreUnavailableErrors > maxConsecutiveStoreUnavailableErrors then
      { retried with phase := .raised (.alone (.inputDbError .tooManyRetries)) }
    else retried.startTasks
  else { s with phase := .raised (.exceptionGroup errors) }

def sqliteIdle : Prop := s.sqlite.served = s.sqlite.asked

/-- A task that raises ends, and the others are then cancelled, at some later time. -/
inductive Step (store : BlockStore) (s : BlocksExport) : BlocksExport → Prop where
  | steal : s.sqlite.inserting = none → s.sqlite.served < s.sqlite.asked → Step store s s.stealData
  | insert {rows : List (SequentialID × List Byte)} : s.sqlite.inserting = some rows →
      Step store s (s.insertData rows)
  | begin : s.phase = .begin →
      Step store s { s with phase := if s.blocksDataExportDone then .completed else .nextBatch }
  | lastBatch : s.phase = .nextBatch → s.sqliteIdle → s.getNextBatchOfBlocks = [] →
      Step store s { s with phase := .markDone }
  | nextBatch : s.phase = .nextBatch → s.sqliteIdle → s.getNextBatchOfBlocks ≠ [] →
      Step store s { s with
        batch := s.getNextBatchOfBlocks
        consecutiveStoreUnavailableErrors := 0 }.startTasks
  | task {before after : List FetchTask} {task next : FetchTask} {errors : List ExportException}
      {s' : BlocksExport} : s.phase = .fetching (before ++ task :: after) errors →
      s.runTask store task = some (s', .inl next) →
      Step store s { s' with phase := .fetching (before ++ next :: after) errors }
  | raises {before after : List FetchTask} {task : FetchTask} {errors : List ExportException}
      {exception : ExportException} {s' : BlocksExport} :
      s.phase = .fetching (before ++ task :: after) errors →
      s.runTask store task = some (s', .inr exception) →
      Step store s { s' with
        phase := .fetching (before ++ .ended :: after) (errors ++ [exception]) }
  | cancel {tasks : List FetchTask} {errors : List ExportException} :
      s.phase = .fetching tasks errors → errors ≠ [] → (∃ task ∈ tasks, task ≠ .ended) →
      Step store s { s with phase := .fetching (tasks.map fun _ => .ended) errors }
  | leave {tasks : List FetchTask} {errors : List ExportException} :
      s.phase = .fetching tasks errors → (∀ task ∈ tasks, task = .ended) →
      Step store s (s.leaveGroup errors)
  | flushed {job : Nat} : s.phase = .lastFlush job → job < s.sqlite.served →
      Step store s { s with
        phase := if job ∈ s.sqlite.failed then .raised (.alone .integrityError) else .nextBatch }
  | markDone : s.phase = .markDone → s.sqliteIdle →
      Step store s (if s.missing = [] then
          { s with blocksDataExportDone := true, phase := .completed }
        else { s with phase := .raised (.alone .assertionError) })

end BlocksExport

end ParsecCloud.Server

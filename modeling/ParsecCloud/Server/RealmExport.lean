import ParsecCloud.Server.Calls
import ParsecCloud.Lib.Runs
import ParsecCloud.Lib.Sequence
import Mathlib.Data.Prod.Lex

/- The export of a realm (realm_export.py) from the tables of a server, that it reads batch by batch up
   to a marker while rows are added. The tables are those of PostgreSQL, or those that the in-memory
   server simulates (memory/realm.py). What is written in the export database stays there when the
   export is interrupted. -/
namespace ParsecCloud.Server
open Certif Runs Sequence

/-- What the export reads of the rows of a table, beside their sequential ids, and the columns that
    its own table wants unique. -/
structure ExportSchema (α κ : Type) where
  realmId : α → VlobID
  createdOn : α → DateTime
  size : α → Nat
  uniqueKey : α → κ

def vlobAtomSchema : ExportSchema MemoryVlobAtom (VlobID × DateTime) :=
  ⟨MemoryVlobAtom.realmId, MemoryVlobAtom.createdOn, fun atom => atom.blob.length,
    fun atom => (atom.vlobId, atom.createdOn)⟩

def blockSchema : ExportSchema MemoryBlock BlockID :=
  ⟨MemoryBlock.realmId, MemoryBlock.createdOn, MemoryBlock.blockSize, MemoryBlock.blockId⟩

structure TableBaseInfo where
  offsetMarkerUpperBound : Nat
  totalBytes : Nat

structure BaseInfo where
  vlobs : TableBaseInfo
  blocks : TableBaseInfo

/-- What the export database has of a table. -/
structure ExportedTable (α : Type) where
  rows : List (Nat × α)
  exportDone : Bool

inductive ExportError where
  | totalBytesDiffer
  | noUpperBoundMarker
  | integrityError
  deriving DecidableEq

/-- The loop over the batches of a table, at its head or with a batch to write. -/
inductive ExportLoop (α : Type) where
  | head (currentBatchOffsetMarker : Nat)
  | writing (items : List (Nat × α))

inductive LoopOutcome (α : Type) where
  | goesOn (loop : ExportLoop α)
  | done
  | failed (error : ExportError)

section Schema
variable {α κ : Type} [DecidableEq κ] (schema : ExportSchema α κ) (realmId : VlobID)
  (snapshot : DateTime)

/-- The rows of the realm. -/
def realmRows (rows : List (Nat × α)) : List (Nat × α) :=
  rows.filter fun row => schema.realmId row.2 = realmId

def inSnapshot (row : α) : Bool := schema.createdOn row ≤ snapshot

/-- The rows of the realm that the export is for. -/
def snapshotRows (rows : List (Nat × α)) : List (Nat × α) :=
  (realmRows schema realmId rows).filter fun row => inSnapshot schema snapshot row.2

def totalSize (rows : List (Nat × α)) : Nat :=
  rows.foldr (fun row total => schema.size row.2 + total) 0

/-- The base information of the table, as the rows of the snapshot have it. -/
def snapshotInfo (rows : List (Nat × α)) : TableBaseInfo :=
  ⟨maxNumber Prod.fst (snapshotRows schema realmId snapshot rows),
    totalSize schema (snapshotRows schema realmId snapshot rows)⟩

/-- The rows that the export still has to read, by batches. -/
def rowsAbove (batchOffsetMarker : Nat) (rows : List (Nat × α)) : List (Nat × α) :=
  (realmRows schema realmId rows).filter fun row => batchOffsetMarker < row.1

/-- The last batch is cut at the upper bound. -/
def cutBatch (items : List (Nat × α)) (upperBound : Nat) : Except ExportError (List (Nat × α)) :=
  match items.getLast? with
  | none => .error .noUpperBoundMarker
  | some last =>
    if last.1 > upperBound then .ok (items.filter fun item => item.1 ≤ upperBound) else .ok items

/-- The rows are inserted one after the other, in a transaction. -/
def insertRows (rows : List (Nat × α)) : List (Nat × α) → Except ExportError (List (Nat × α))
  | [] => .ok rows
  | item :: rest =>
    if rows.any fun row => row.1 = item.1 || schema.uniqueKey row.2 = schema.uniqueKey item.2 then
      .error .integrityError
    else insertRows (rows ++ [item]) rest

def batchOffsetMarker (items : List (Nat × α)) : Nat :=
  match items.getLast? with
  | none => 0
  | some last => last.1

/-- A step of the loop over a table: a batch is fetched, or written, or the table is marked. -/
def loopStep (fetch : Nat → List (Nat × α)) (upperBound : Nat) (table : ExportedTable α) :
    ExportLoop α → ExportedTable α × LoopOutcome α
  | .head marker =>
    if marker < upperBound then
      match cutBatch (fetch marker) upperBound with
      | .ok items => (table, .goesOn (.writing items))
      | .error error => (table, .failed error)
    else ({ table with exportDone := true }, .done)
  | .writing items =>
    match insertRows schema table.rows items with
    | .ok rows => ({ table with rows := rows }, .goesOn (.head (batchOffsetMarker items)))
    | .error error => (table, .failed error)

end Schema

/-- How a backend answers the export from what it has stored, and what it stores. The rows of its
    tables have their sequential ids. -/
structure ExportBackend (σ : Type) where
  empty : σ
  vlobAtomTable : σ → List (Nat × MemoryVlobAtom)
  blockTable : σ → List (Nat × MemoryBlock)
  exportDoBaseInfo : VlobID → DateTime → σ → BaseInfo
  exportDoVlobsBatch : VlobID → Nat → Nat → σ → List (Nat × MemoryVlobAtom)
  exportDoBlocksMetadataBatch : VlobID → Nat → Nat → σ → List (Nat × MemoryBlock)
  createsRealm : VlobID → σ → σ → Prop
  insertsVlob : MemoryVlobAtom → σ → σ → Prop
  insertsBlock : MemoryBlock → σ → σ → Prop

section Postgresql

/-- A table of PostgreSQL, its rows in the order of their ids. -/
structure ServerTable (α : Type) where
  rows : List (Nat × α)
  nextId : Nat

structure PostgresqlTables where
  vlobAtom : ServerTable MemoryVlobAtom
  block : ServerTable MemoryBlock

end Postgresql

section Memory

/-- What the in-memory server stores: the atoms of each vlob of each realm, and the blocks. -/
structure MemoryTables where
  realms : Dict VlobID (Dict VlobID (List MemoryVlobAtom))
  blocks : Dict BlockID MemoryBlock

section Loops
variable {α κ : Type} (schema : ExportSchema α κ) (realmId : VlobID)

end Loops

end Memory

structure OutputDb where
  vlobsTotalBytes : Nat
  blocksTotalBytes : Nat
  vlobs : ExportedTable MemoryVlobAtom
  blocks : ExportedTable MemoryBlock

inductive ExportPhase where
  | idle
  | connecting (info : BaseInfo)
  | vlobs (info : BaseInfo) (loop : ExportLoop MemoryVlobAtom)
  | blocks (info : BaseInfo) (loop : ExportLoop MemoryBlock)
  | completed
  | failed (error : ExportError)

/-- The server and the export, with the time when the export was last begun. -/
structure ExportServer (σ : Type) where
  now : DateTime
  tables : σ
  begunAt : Option DateTime
  db : Option OutputDb
  phase : ExportPhase

/-- What is exported, and by which batches. -/
structure ExportParameters where
  realmId : VlobID
  snapshot : DateTime
  vlobBatchSize : Nat
  blockBatchSize : Nat
  vlobBatch : 1 ≤ vlobBatchSize
  blockBatch : 1 ≤ blockBatchSize

inductive ExportStep where
  | tick (now : DateTime)
  | createRealm (realmId : VlobID)
  | insertVlob (requestedAt : DateTime) (atom : MemoryVlobAtom)
  | insertBlock (requestedAt : DateTime) (block : MemoryBlock)
  | interrupt
  | begins
  | connect
  | advance

namespace ExportServer

/-- Where an export goes on, from what its database has. -/
def resume (info : BaseInfo) (db : OutputDb) : ExportPhase :=
  if !db.vlobs.exportDone then .vlobs info (.head (maxNumber Prod.fst db.vlobs.rows))
  else if !db.blocks.exportDone then .blocks info (.head (maxNumber Prod.fst db.blocks.rows))
  else .completed

def newDb (info : BaseInfo) : OutputDb :=
  ⟨info.vlobs.totalBytes, info.blocks.totalBytes, ⟨[], false⟩, ⟨[], false⟩⟩

def connectOrCreate (info : BaseInfo) (db : OutputDb) : ExportPhase :=
  if db.vlobsTotalBytes ≠ info.vlobs.totalBytes ∨ db.blocksTotalBytes ≠ info.blocks.totalBytes then
    .failed .totalBytesDiffer
  else resume info db

/-- After a step of a loop, that goes on, or from which the export goes on elsewhere. -/
def afterLoop {α : Type} (inLoop : ExportLoop α → ExportPhase) (resumed : ExportPhase) :
    LoopOutcome α → ExportPhase
  | .goesOn loop => inLoop loop
  | .done => resumed
  | .failed error => .failed error

variable {σ : Type} (backend : ExportBackend σ) (parameters : ExportParameters)

def vlobsStep (s : ExportServer σ) (info : BaseInfo) (loop : ExportLoop MemoryVlobAtom)
    (db : OutputDb) : ExportServer σ :=
  let step := loopStep vlobAtomSchema
    (backend.exportDoVlobsBatch parameters.realmId · parameters.vlobBatchSize s.tables)
    info.vlobs.offsetMarkerUpperBound db.vlobs loop
  { s with
    db := some { db with vlobs := step.1 }
    phase := afterLoop (.vlobs info) (resume info { db with vlobs := step.1 }) step.2 }

def blocksStep (s : ExportServer σ) (info : BaseInfo) (loop : ExportLoop MemoryBlock)
    (db : OutputDb) : ExportServer σ :=
  let step := loopStep blockSchema
    (backend.exportDoBlocksMetadataBatch parameters.realmId · parameters.blockBatchSize s.tables)
    info.blocks.offsetMarkerUpperBound db.blocks loop
  { s with
    db := some { db with blocks := step.1 }
    phase := afterLoop (.blocks info) (resume info { db with blocks := step.1 }) step.2 }

/-- The vlobs are dated by their clients, the blocks by the request; a row may be added some time
    after its request was checked. -/
inductive Step (s : ExportServer σ) : ExportStep → ExportServer σ → Prop where
  | tick {now : DateTime} (later : s.now ≤ now) : Step s (.tick now) { s with now := now }
  | createRealm {realmId : VlobID} {tables : σ}
      (created : backend.createsRealm realmId s.tables tables) :
      Step s (.createRealm realmId) { s with tables := tables }
  | insertVlob {requestedAt : DateTime} {atom : MemoryVlobAtom} {tables : σ}
      (isPast : requestedAt ≤ s.now)
      (ballpark : timestampsInTheBallpark atom.createdOn requestedAt = true)
      (inserted : backend.insertsVlob atom s.tables tables) :
      Step s (.insertVlob requestedAt atom) { s with tables := tables }
  | insertBlock {requestedAt : DateTime} {block : MemoryBlock} {tables : σ}
      (isPast : requestedAt ≤ s.now) (isDate : block.createdOn = requestedAt)
      (inserted : backend.insertsBlock block s.tables tables) :
      Step s (.insertBlock requestedAt block) { s with tables := tables }
  | interrupt : Step s .interrupt { s with phase := .idle }
  | begins (allowed : parameters.snapshot ≤ s.now - ballparkClientLateOffset) :
      Step s .begins { s with
        begunAt := some s.now
        phase := .connecting
          (backend.exportDoBaseInfo parameters.realmId parameters.snapshot s.tables) }
  | connect {info : BaseInfo} (isPhase : s.phase = .connecting info) :
      Step s .connect { s with
        db := some (s.db.getD (newDb info))
        phase := connectOrCreate info (s.db.getD (newDb info)) }
  | vlobs {info : BaseInfo} {loop : ExportLoop MemoryVlobAtom} {db : OutputDb}
      (isPhase : s.phase = .vlobs info loop) (isDb : s.db = some db) :
      Step s .advance (s.vlobsStep backend parameters info loop db)
  | blocks {info : BaseInfo} {loop : ExportLoop MemoryBlock} {db : OutputDb}
      (isPhase : s.phase = .blocks info loop) (isDb : s.db = some db) :
      Step s .advance (s.blocksStep backend parameters info loop db)

/-- Empty tables, and no export yet. -/
def fresh (now : DateTime) : ExportServer σ := ⟨now, backend.empty, none, none, .idle⟩

end ExportServer

end ParsecCloud.Server

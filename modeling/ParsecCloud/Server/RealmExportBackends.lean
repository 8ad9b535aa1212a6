import ParsecCloud.Server.RealmExportRuns

/- The export from the PostgreSQL tables, where the ids follow the insertions, and from the in-memory
   ones, where those of the atoms follow the dates and the base information stops at the first row
   that is newer than the snapshot. -/
namespace ParsecCloud.Server
open Certif Runs Sequence ExportServer

section Table
variable {α κ : Type} {schema : ExportSchema α κ} {realmId : VlobID} {snapshot : DateTime}
  {rows : List (Nat × α)}

section Loops

end Loops

end Table

section Postgresql
variable {α : Type}

/-- The ids are given in the order of the insertions. -/
structure TableOrdered (table : ServerTable α) : Prop where
  increasing : Increasing Prod.fst table.rows
  below : ∀ row ∈ table.rows, row.1 < table.nextId
  positive : 0 < table.nextId

structure PostgresqlTables.Sound (tables : PostgresqlTables) : Prop where
  vlobs : TableOrdered tables.vlobAtom
  blocks : TableOrdered tables.block
  blockIds : (tables.block.rows.map fun row => row.2.blockId).Nodup

end Postgresql

section Memory
variable {realmId : VlobID} {snapshot : DateTime} {tables : MemoryTables}

/-- The blocks are stored by their ids. -/
def MemoryTables.Sound (tables : MemoryTables) : Prop :=
  ∀ item ∈ tables.blocks.items, item.2.blockId = item.1

end Memory

end ParsecCloud.Server

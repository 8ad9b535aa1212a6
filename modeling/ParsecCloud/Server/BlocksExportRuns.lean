import ParsecCloud.Lib.Inevitable
import ParsecCloud.Server.BlocksExport
import Mathlib.Data.List.Nodup

/- Whole exports of the data of the blocks, for every behaviour of the block store. A group of tasks
   reports an unavailable store as an exception group, which the retry does not catch. -/
namespace ParsecCloud.Server
open Inevitable

section Insert
variable {table rows : List (SequentialID × List Byte)}

theorem insertBlockData_unique (unique : ((table ++ rows).map Prod.fst).Nodup) :
    insertBlockData table rows = (table ++ rows, true) := by
  induction rows generalizing table with
  | nil => rw [insertBlockData, List.append_nil]
  | cons row rest ih =>
    have absent : (table.any fun other => other.1 = row.1) = false := by
      rw [List.any_eq_false]
      intro other member
      rw [List.map_append, List.nodup_append] at unique
      have differ := unique.2.2 other.1 (List.mem_map_of_mem member) row.1 (by simp)
      simpa using differ
    rw [List.append_cons] at unique
    rw [insertBlockData, if_neg (by rw [absent]; exact Bool.false_ne_true), ih unique,
      ← List.append_cons]

end Insert

namespace FetchTask

def blocks : FetchTask → List (SequentialID × BlockID)
  | .reading block => [block]
  | _ => []

/-- The steps a task may still take before it looks for another block. -/
def weight : FetchTask → Nat
  | .popping => 1
  | .reading _ => 5
  | .flushing _ _ => 2
  | .ended => 0

end FetchTask

/-- The blocks being read. -/
def readBlocks (tasks : List FetchTask) : List (SequentialID × BlockID) :=
  tasks.flatMap FetchTask.blocks

def totalWeight (tasks : List FetchTask) : Nat := (tasks.map FetchTask.weight).sum

section Tasks
variable (before after : List FetchTask) (task : FetchTask)

theorem readBlocks_middle : readBlocks (before ++ task :: after) =
    readBlocks before ++ (task.blocks ++ readBlocks after) := by
  simp [readBlocks]

theorem totalWeight_middle : totalWeight (before ++ task :: after) =
    totalWeight before + (task.weight + totalWeight after) := by
  simp [totalWeight]

theorem readBlocks_ended {tasks : List FetchTask} (ended : ∀ task ∈ tasks, task = .ended) :
    readBlocks tasks = [] := by
  induction tasks with
  | nil => rfl
  | cons first rest ih =>
    have isEnded := ended first List.mem_cons_self
    rw [readBlocks, List.flatMap_cons, isEnded]
    exact ih fun task member => ended task (List.mem_cons_of_mem first member)

theorem totalWeight_cancelled {tasks : List FetchTask} (some : ∃ task ∈ tasks, task ≠ .ended) :
    totalWeight (tasks.map fun _ => .ended) < totalWeight tasks := by
  have none : totalWeight (tasks.map fun _ => .ended) = 0 := by
    simp [totalWeight, FetchTask.weight]
  obtain ⟨task, member, running⟩ := some
  obtain ⟨before, after, rfl⟩ := List.append_of_mem member
  rw [none, totalWeight_middle]
  cases task with
  | popping => simp only [FetchTask.weight]; omega
  | reading block => simp only [FetchTask.weight]; omega
  | flushing job next => simp only [FetchTask.weight]; omega
  | ended => exact absurd rfl running

end Tasks

def exportedRow (store : BlockStore) (block : SequentialID × BlockID) : SequentialID × List Byte :=
  (block.1, (store.content block.2).getD [])

/-- Where each block left to export is: read, lost by a read that failed, being read, in the batch,
    or in a later one. -/
structure BlocksLedger (store : BlockStore) (start s : BlocksExport) (tasks : List FetchTask)
    (delivered failed rest : List (SequentialID × BlockID)) : Prop where
  block : s.block = start.block
  rows : s.blockData ++ s.sqlite.inserting.getD [] ++ s.toFlushData =
    start.blockData ++ delivered.map (exportedRow store)
  count : ∀ block, delivered.count block + failed.count block + (readBlocks tasks).count block +
    s.batch.count block + rest.count block = start.missing.count block
  reads : s.reads = delivered.length + failed.length
  answers : failed = [] ↔ ∀ n < s.reads, store.unavailable n = false
  noFailure : s.sqlite.failed = []
  served : s.sqlite.served ≤ s.sqlite.asked
  inserting : s.sqlite.inserting.isSome → s.sqlite.served < s.sqlite.asked

/-- The tasks of a group and the errors of those that have raised. -/
structure FetchingAt (s : BlocksExport) (tasks : List FetchTask) (errors : List ExportException)
    (failed : List (SequentialID × BlockID)) : Prop where
  some : tasks ≠ []
  waits : ∀ job next, .flushing job next ∈ tasks → job < s.sqlite.asked
  failed : failed ≠ [] ↔ errors ≠ [] ∨ ∃ job, .flushing job .raiseStoreUnavailable ∈ tasks
  ended : .ended ∈ tasks → s.batch = [] ∨ errors ≠ []

/-- Everything read so far is in the database. -/
structure Flushed (s : BlocksExport) : Prop where
  batch : s.batch = []
  toFlush : s.toFlushData = []
  idle : s.sqliteIdle

def BlocksInvariant (store : BlockStore) (start s : BlocksExport) : Prop :=
  match s.phase with
  | .begin => Flushed s ∧ ∃ delivered rest, BlocksLedger store start s [] delivered [] rest ∧
      (s.blocksDataExportDone = true → rest = [])
  | .nextBatch => Flushed s ∧ ∃ delivered rest, BlocksLedger store start s [] delivered [] rest
  | .fetching tasks errors => ∃ delivered failed rest,
      BlocksLedger store start s tasks delivered failed rest ∧ FetchingAt s tasks errors failed
  | .lastFlush job => s.batch = [] ∧ job + 1 = s.sqlite.asked ∧
      (job < s.sqlite.served ∨ s.sqlite.served = job ∧ s.sqlite.inserting.isSome →
        s.toFlushData = []) ∧
      ∃ delivered rest, BlocksLedger store start s [] delivered [] rest
  | .markDone => Flushed s ∧ ∃ delivered, BlocksLedger store start s [] delivered [] []
  | .completed => s.blocksDataExportDone = true ∧ Flushed s ∧
      ∃ delivered, BlocksLedger store start s [] delivered [] []
  | .raised exception => ∃ delivered failed rest errors,
      BlocksLedger store start s [] delivered failed rest ∧ failed ≠ [] ∧
      exception = .exceptionGroup errors

/-- The blocks that are neither read, nor being read, nor in the batch. -/
def blocksToRead (start s : BlocksExport) (tasks : List FetchTask) : Nat :=
  start.missing.length - (s.reads + (readBlocks tasks).length + s.batch.length)

/-- The steps of the thread for the flushes asked for. -/
def SqliteWorker.jobsLeft (sqlite : SqliteWorker) : Nat :=
  2 * (sqlite.asked - sqlite.served) - if sqlite.inserting.isSome then 1 else 0

def phaseWeight (start s : BlocksExport) : BlocksExportPhase → Nat
  | .begin => 24 * blocksToRead start s [] + 4
  | .nextBatch => 24 * blocksToRead start s [] + 3
  | .fetching tasks errors =>
    (if errors = [] then 24 * blocksToRead start s tasks else 0) + totalWeight tasks + 7
  | .lastFlush _ => 24 * blocksToRead start s [] + 4
  | .markDone => 2
  | .completed => 0
  | .raised _ => 0

/-- What every step lowers. -/
def exportMeasure (start s : BlocksExport) : Nat :=
  phaseWeight start s s.phase + 5 * s.batch.length + s.sqlite.jobsLeft

structure BlocksExport.Ready (start : BlocksExport) : Prop where
  phase : start.phase = .begin
  done : start.blocksDataExportDone = true → start.missing = []
  batch : start.batch = []
  toFlush : start.toFlushData = []
  reads : start.reads = 0
  sqlite : start.sqlite = ⟨0, 0, none, []⟩
  blockKeys : (start.block.map Prod.fst).Nodup
  dataKeys : (start.blockData.map Prod.fst).Nodup

variable {store : BlockStore} {start s s' : BlocksExport} {tasks : List FetchTask}
  {errors : List ExportException} {delivered failed rest : List (SequentialID × BlockID)}

section Missing

theorem mem_missing {block : SequentialID × BlockID} :
    block ∈ s.missing ↔ block ∈ s.block ∧ ∀ row ∈ s.blockData, row.1 ≠ block.1 := by
  simp [BlocksExport.missing]

theorem missing_nodup (keys : (s.block.map Prod.fst).Nodup) : (s.missing.map Prod.fst).Nodup :=
  keys.sublist (List.filter_sublist.map Prod.fst)

theorem eq_of_key (keys : (s.block.map Prod.fst).Nodup) {a b : SequentialID × BlockID}
    (isA : a ∈ s.block) (isB : b ∈ s.block) (same : a.1 = b.1) : a = b :=
  List.inj_on_of_nodup_map keys isA isB same

end Missing

namespace BlocksLedger
variable (ledger : BlocksLedger store start s tasks delivered failed rest)

include ledger

theorem perm : (delivered ++ (failed ++ readBlocks tasks ++ s.batch ++ rest)).Perm start.missing := by
  rw [List.perm_iff_count]
  intro block
  have count := ledger.count block
  simp only [List.count_append]
  omega

theorem length : delivered.length + failed.length + (readBlocks tasks).length + s.batch.length +
    rest.length = start.missing.length := by
  have length := ledger.perm.length_eq
  simp only [List.length_append] at length
  omega

theorem delivered_nodup (ready : start.Ready) : (delivered.map Prod.fst).Nodup := by
  have all := (ledger.perm.map Prod.fst).nodup_iff.mpr (missing_nodup ready.blockKeys)
  rw [List.map_append] at all
  exact List.Nodup.of_append_left all

theorem mem_missing_of_delivered {block : SequentialID × BlockID} (member : block ∈ delivered) :
    block ∈ start.missing :=
  ledger.perm.mem_iff.mp (List.mem_append_left _ member)

theorem unique (ready : start.Ready) :
    ((start.blockData ++ delivered.map (exportedRow store)).map Prod.fst).Nodup := by
  rw [List.map_append, List.nodup_append, List.map_map]
  refine ⟨ready.dataKeys, ledger.delivered_nodup ready, ?_⟩
  intro old isOld new isNew same
  obtain ⟨row, isRow, rfl⟩ := List.mem_map.mp isOld
  obtain ⟨block, isBlock, rfl⟩ := List.mem_map.mp isNew
  exact (mem_missing.mp (ledger.mem_missing_of_delivered isBlock)).2 row isRow same

theorem blocksToRead : blocksToRead start s tasks = rest.length := by
  unfold Server.blocksToRead
  have length := ledger.length
  have reads := ledger.reads
  omega

end BlocksLedger

theorem BlocksLedger.written (ledger : BlocksLedger store start s tasks delivered failed rest)
    (flushed : Flushed s) : s.blockData = start.blockData ++ delivered.map (exportedRow store) := by
  have rows := ledger.rows
  have none : s.sqlite.inserting = none := by
    cases inserting : s.sqlite.inserting with
    | none => rfl
    | some rows =>
      have busy := ledger.inserting (by rw [inserting]; rfl)
      have idle := flushed.idle
      unfold BlocksExport.sqliteIdle at idle
      omega
  rw [none, flushed.toFlush] at rows
  simpa using rows

/-- Once all is flushed, the blocks that remain are those without data. -/
theorem BlocksLedger.missing_count (ready : start.Ready)
    (ledger : BlocksLedger store start s [] delivered [] rest) (flushed : Flushed s)
    (block : SequentialID × BlockID) : s.missing.count block = rest.count block := by
  have written := ledger.written flushed
  have isMissing : ∀ block, block ∈ s.missing ↔ block ∈ start.missing ∧ block ∉ delivered := by
    intro block
    rw [mem_missing, mem_missing, ledger.block, written]
    constructor
    · intro absent
      obtain ⟨isBlock, noRow⟩ := absent
      refine ⟨⟨isBlock, fun row isRow => noRow row (List.mem_append_left _ isRow)⟩, ?_⟩
      intro isDelivered
      exact noRow _ (List.mem_append_right _ (List.mem_map_of_mem isDelivered)) rfl
    · intro absent
      obtain ⟨⟨isBlock, noRow⟩, notDelivered⟩ := absent
      refine ⟨isBlock, ?_⟩
      intro row isRow same
      rcases List.mem_append.mp isRow with isOld | isNew
      · exact noRow row isOld same
      · obtain ⟨other, isOther, rfl⟩ := List.mem_map.mp isNew
        have inTable := (mem_missing.mp (ledger.mem_missing_of_delivered isOther)).1
        rw [eq_of_key ready.blockKeys inTable isBlock same] at isOther
        exact notDelivered isOther
  have keys : (s.block.map Prod.fst).Nodup := ledger.block ▸ ready.blockKeys
  have unique := List.Nodup.of_map Prod.fst (missing_nodup keys)
  have startUnique := List.Nodup.of_map Prod.fst (missing_nodup ready.blockKeys)
  have count := ledger.count block
  rw [readBlocks, List.flatMap_nil, List.count_nil, flushed.batch, List.count_nil] at count
  by_cases isDelivered : block ∈ delivered
  · have none := List.count_eq_zero_of_not_mem fun member => ((isMissing block).mp member).2 isDelivered
    have once := List.nodup_iff_count_le_one.mp startUnique block
    have written := List.count_pos_iff.mpr isDelivered
    omega
  · have notWritten := List.count_eq_zero_of_not_mem isDelivered
    by_cases wasMissing : block ∈ start.missing
    · have isOne := List.count_eq_one_of_mem unique ((isMissing block).mpr ⟨wasMissing, isDelivered⟩)
      have wasOne := List.count_eq_one_of_mem startUnique wasMissing
      omega
    · have none := List.count_eq_zero_of_not_mem fun member => wasMissing ((isMissing block).mp member).1
      have wasNone := List.count_eq_zero_of_not_mem wasMissing
      omega

section Thread

theorem BlocksLedger.steal (ledger : BlocksLedger store start s tasks delivered failed rest)
    (free : s.sqlite.inserting = none) (busy : s.sqlite.served < s.sqlite.asked) :
    BlocksLedger store start s.stealData tasks delivered failed rest where
  block := ledger.block
  rows := by
    have rows := ledger.rows
    rw [free] at rows
    simpa [BlocksExport.stealData] using rows
  count := ledger.count
  reads := ledger.reads
  answers := ledger.answers
  noFailure := ledger.noFailure
  served := ledger.served
  inserting _ := busy

theorem BlocksLedger.insert (ready : start.Ready)
    (ledger : BlocksLedger store start s tasks delivered failed rest)
    {rows : List (SequentialID × List Byte)} (isInserting : s.sqlite.inserting = some rows) :
    BlocksLedger store start (s.insertData rows) tasks delivered failed rest := by
  have all := ledger.rows
  rw [isInserting, Option.getD_some] at all
  have unique := ledger.unique ready
  rw [← all, List.map_append] at unique
  have inserted := insertBlockData_unique (List.Nodup.of_append_left unique)
  constructor
  · exact ledger.block
  · simpa [BlocksExport.insertData, inserted] using all
  · exact ledger.count
  · exact ledger.reads
  · exact ledger.answers
  · simpa [BlocksExport.insertData, inserted] using ledger.noFailure
  · exact ledger.inserting (by rw [isInserting]; rfl)
  · intro some
    cases some

theorem steal_keeps (inv : BlocksInvariant store start s)
    (free : s.sqlite.inserting = none) (busy : s.sqlite.served < s.sqlite.asked) :
    BlocksInvariant store start s.stealData := by
  have notFlushed : ¬ Flushed s := by
    intro flushed
    have idle := flushed.idle
    unfold BlocksExport.sqliteIdle at idle
    omega
  have samePhase : s.stealData.phase = s.phase := rfl
  unfold BlocksInvariant at inv ⊢
  rw [samePhase]
  cases phase : s.phase with
  | begin =>
    simp only [phase] at inv
    exact absurd inv.1 notFlushed
  | nextBatch =>
    simp only [phase] at inv
    exact absurd inv.1 notFlushed
  | fetching tasks errors =>
    simp only [phase] at inv ⊢
    obtain ⟨delivered, failed, rest, ledger, fetching⟩ := inv
    exact ⟨delivered, failed, rest, ledger.steal free busy, fetching.some, fetching.waits,
      fetching.failed, fetching.ended⟩
  | lastFlush job =>
    simp only [phase] at inv ⊢
    obtain ⟨batch, isLast, -, delivered, rest, ledger⟩ := inv
    exact ⟨batch, isLast, fun _ => rfl, delivered, rest, ledger.steal free busy⟩
  | markDone =>
    simp only [phase] at inv
    exact absurd inv.1 notFlushed
  | completed =>
    simp only [phase] at inv
    exact absurd inv.2.1 notFlushed
  | raised exception =>
    simp only [phase] at inv ⊢
    obtain ⟨delivered, failed, rest, errors, ledger, some, isGroup⟩ := inv
    exact ⟨delivered, failed, rest, errors, ledger.steal free busy, some, isGroup⟩

theorem insert_keeps (ready : start.Ready) (inv : BlocksInvariant store start s)
    {rows : List (SequentialID × List Byte)} (isInserting : s.sqlite.inserting = some rows) :
    BlocksInvariant store start (s.insertData rows) := by
  have notFlushed {tasks : List FetchTask} {delivered failed rest : List (SequentialID × BlockID)}
      (ledger : BlocksLedger store start s tasks delivered failed rest) : ¬ Flushed s := by
    intro flushed
    have idle := flushed.idle
    have busy := ledger.inserting (by rw [isInserting]; rfl)
    unfold BlocksExport.sqliteIdle at idle
    omega
  have samePhase : (s.insertData rows).phase = s.phase := rfl
  unfold BlocksInvariant at inv ⊢
  rw [samePhase]
  cases phase : s.phase with
  | begin =>
    simp only [phase] at inv
    obtain ⟨flushed, delivered, rest, ledger, -⟩ := inv
    exact absurd flushed (notFlushed ledger)
  | nextBatch =>
    simp only [phase] at inv
    obtain ⟨flushed, delivered, rest, ledger⟩ := inv
    exact absurd flushed (notFlushed ledger)
  | fetching tasks errors =>
    simp only [phase] at inv ⊢
    obtain ⟨delivered, failed, rest, ledger, fetching⟩ := inv
    exact ⟨delivered, failed, rest, ledger.insert ready isInserting, fetching.some, fetching.waits,
      fetching.failed, fetching.ended⟩
  | lastFlush job =>
    simp only [phase] at inv ⊢
    obtain ⟨batch, isLast, taken, delivered, rest, ledger⟩ := inv
    refine ⟨batch, isLast, ?_, delivered, rest, ledger.insert ready isInserting⟩
    intro served
    apply taken
    rcases served with isServed | waiting
    · have upTo : job < s.sqlite.served + 1 := isServed
      by_cases before : job < s.sqlite.served
      · exact .inl before
      · exact .inr ⟨by omega, by rw [isInserting]; rfl⟩
    · cases waiting.2
  | markDone =>
    simp only [phase] at inv
    obtain ⟨flushed, delivered, ledger⟩ := inv
    exact absurd flushed (notFlushed ledger)
  | completed =>
    simp only [phase] at inv
    obtain ⟨-, flushed, delivered, ledger⟩ := inv
    exact absurd flushed (notFlushed ledger)
  | raised exception =>
    simp only [phase] at inv ⊢
    obtain ⟨delivered, failed, rest, errors, ledger, some, isGroup⟩ := inv
    exact ⟨delivered, failed, rest, errors, ledger.insert ready isInserting, some, isGroup⟩

theorem steal_lowers (free : s.sqlite.inserting = none) (busy : s.sqlite.served < s.sqlite.asked) :
    exportMeasure start s.stealData < exportMeasure start s := by
  have same : phaseWeight start s.stealData s.stealData.phase = phaseWeight start s s.phase := rfl
  have lower : s.stealData.sqlite.jobsLeft < s.sqlite.jobsLeft := by
    simp only [SqliteWorker.jobsLeft, BlocksExport.stealData, free, Option.isSome_some,
      Option.isSome_none, if_true, Bool.false_eq_true, if_false]
    omega
  simp only [exportMeasure, same]
  exact Nat.add_lt_add_left lower _

theorem insert_lowers {rows : List (SequentialID × List Byte)}
    (isInserting : s.sqlite.inserting = some rows) (busy : s.sqlite.served < s.sqlite.asked) :
    exportMeasure start (s.insertData rows) < exportMeasure start s := by
  have same : phaseWeight start (s.insertData rows) (s.insertData rows).phase =
      phaseWeight start s s.phase := rfl
  have lower : (s.insertData rows).sqlite.jobsLeft < s.sqlite.jobsLeft := by
    simp only [SqliteWorker.jobsLeft, BlocksExport.insertData, isInserting, Option.isSome_some,
      Option.isSome_none, if_true, Bool.false_eq_true, if_false]
    omega
  simp only [exportMeasure, same]
  exact Nat.add_lt_add_left lower _

end Thread

theorem BlocksInvariant.ledger (inv : BlocksInvariant store start s) :
    ∃ tasks delivered failed rest, BlocksLedger store start s tasks delivered failed rest := by
  unfold BlocksInvariant at inv
  cases phase : s.phase with
  | begin =>
    simp only [phase] at inv
    obtain ⟨-, delivered, rest, ledger, -⟩ := inv
    exact ⟨_, _, _, _, ledger⟩
  | nextBatch =>
    simp only [phase] at inv
    obtain ⟨-, delivered, rest, ledger⟩ := inv
    exact ⟨_, _, _, _, ledger⟩
  | fetching tasks errors =>
    simp only [phase] at inv
    obtain ⟨delivered, failed, rest, ledger, -⟩ := inv
    exact ⟨_, _, _, _, ledger⟩
  | lastFlush job =>
    simp only [phase] at inv
    obtain ⟨-, -, -, delivered, rest, ledger⟩ := inv
    exact ⟨_, _, _, _, ledger⟩
  | markDone =>
    simp only [phase] at inv
    obtain ⟨-, delivered, ledger⟩ := inv
    exact ⟨_, _, _, _, ledger⟩
  | completed =>
    simp only [phase] at inv
    obtain ⟨-, -, delivered, ledger⟩ := inv
    exact ⟨_, _, _, _, ledger⟩
  | raised exception =>
    simp only [phase] at inv
    obtain ⟨delivered, failed, rest, errors, ledger, -⟩ := inv
    exact ⟨_, _, _, _, ledger⟩

/-- What a step of a run does. -/
structure Advances (store : BlockStore) (start s s' : BlocksExport) : Prop where
  kept : BlocksInvariant store start s'
  lower : exportMeasure start s' < exportMeasure start s

section Batches

theorem BlocksLedger.atPhase (ledger : BlocksLedger store start s tasks delivered failed rest)
    (phase : BlocksExportPhase) :
    BlocksLedger store start { s with phase := phase } tasks delivered failed rest :=
  ⟨ledger.block, ledger.rows, ledger.count, ledger.reads, ledger.answers, ledger.noFailure,
    ledger.served, ledger.inserting⟩

theorem Flushed.atPhase (flushed : Flushed s) (phase : BlocksExportPhase) :
    Flushed { s with phase := phase } :=
  ⟨flushed.batch, flushed.toFlush, flushed.idle⟩

theorem begin_advances (inv : BlocksInvariant store start s) (phase : s.phase = .begin) :
    Advances store start s
      { s with phase := if s.blocksDataExportDone then .completed else .nextBatch } := by
  simp only [BlocksInvariant, phase] at inv
  obtain ⟨flushed, delivered, rest, ledger, none⟩ := inv
  by_cases done : s.blocksDataExportDone = true
  · rw [if_pos done]
    obtain rfl := none done
    constructor
    · exact ⟨done, flushed.atPhase _, delivered, ledger.atPhase _⟩
    · simp only [exportMeasure, phaseWeight, phase]
      omega
  · rw [if_neg done]
    constructor
    · exact ⟨flushed.atPhase _, delivered, rest, ledger.atPhase _⟩
    · simp only [exportMeasure, phaseWeight, phase, Server.blocksToRead]
      omega

theorem lastBatch_advances (ready : start.Ready) (inv : BlocksInvariant store start s)
    (phase : s.phase = .nextBatch) (none : s.getNextBatchOfBlocks = []) :
    Advances store start s { s with phase := .markDone } := by
  simp only [BlocksInvariant, phase] at inv
  obtain ⟨flushed, delivered, rest, ledger⟩ := inv
  have noneMissing : s.missing = [] := by
    rcases List.take_eq_nil_iff.mp none with isZero | isNil
    · cases isZero
    · exact isNil
  have noRest : rest = [] := by
    apply List.eq_nil_iff_forall_not_mem.mpr
    intro block member
    have count := ledger.missing_count ready flushed block
    rw [noneMissing, List.count_nil] at count
    have some := List.count_pos_iff.mpr member
    omega
  subst noRest
  constructor
  · exact ⟨flushed.atPhase _, delivered, ledger.atPhase _⟩
  · simp only [exportMeasure, phaseWeight, phase]
    omega

theorem totalWeight_popping (n : Nat) : totalWeight (List.replicate n .popping) = n := by
  simp [totalWeight, FetchTask.weight]

theorem readBlocks_popping (n : Nat) : readBlocks (List.replicate n .popping) = [] := by
  induction n with
  | zero => rfl
  | succ n ih => exact ih

theorem nextBatch_advances (ready : start.Ready) (inv : BlocksInvariant store start s)
    (phase : s.phase = .nextBatch) (some : s.getNextBatchOfBlocks ≠ []) :
    Advances store start s { s with
      batch := s.getNextBatchOfBlocks
      consecutiveStoreUnavailableErrors := 0 }.startTasks := by
  simp only [BlocksInvariant, phase] at inv
  obtain ⟨flushed, delivered, rest, ledger⟩ := inv
  have noBlock := readBlocks_popping blockDataExportParallelism
  have newLedger : BlocksLedger store start { s with
      batch := s.getNextBatchOfBlocks
      consecutiveStoreUnavailableErrors := 0 }.startTasks
      (List.replicate blockDataExportParallelism .popping) delivered []
      (s.missing.drop blockMetadataExportBatchSize) := by
    constructor
    · exact ledger.block
    · exact ledger.rows
    · intro block
      have count := ledger.count block
      have split : (s.missing.take blockMetadataExportBatchSize).count block +
          (s.missing.drop blockMetadataExportBatchSize).count block = rest.count block := by
        rw [← List.count_append, List.take_append_drop, ledger.missing_count ready flushed]
      rw [flushed.batch] at count
      simp only [noBlock, BlocksExport.startTasks, BlocksExport.getNextBatchOfBlocks]
      simp only [readBlocks, List.flatMap_nil, List.count_nil] at count ⊢
      omega
    · exact ledger.reads
    · exact ledger.answers
    · exact ledger.noFailure
    · exact ledger.served
    · exact ledger.inserting
  constructor
  · refine ⟨delivered, [], _, newLedger, ?_, ?_, ?_, ?_⟩
    · exact List.cons_ne_nil _ _
    · intro job next member
      cases List.eq_of_mem_replicate member
    · simp [List.mem_replicate]
    · intro member
      cases List.eq_of_mem_replicate member
  · have old := ledger.blocksToRead
    have new := newLedger.blocksToRead
    have lengths := newLedger.length
    have oldLengths := ledger.length
    have isSome : 0 < s.getNextBatchOfBlocks.length := List.length_pos_iff.mpr some
    have tasks := totalWeight_popping blockDataExportParallelism
    simp only [noBlock, BlocksExport.startTasks, List.length_nil] at lengths
    simp only [readBlocks, flushed.batch, List.flatMap_nil, List.length_nil] at oldLengths
    simp only [exportMeasure, phaseWeight, phase, BlocksExport.startTasks, if_true] at new ⊢
    rw [old, new, tasks, flushed.batch, List.length_nil]
    simp only [blockDataExportParallelism]
    omega

end Batches

section Group
variable {before after : List FetchTask} {task next : FetchTask}

theorem FetchingAt.replace (fetching : FetchingAt s (before ++ task :: after) errors failed)
    {failed' : List (SequentialID × BlockID)} (batch : s.batch = [] → s'.batch = [])
    (asked : s.sqlite.asked ≤ s'.sqlite.asked) (ended : next = .ended → s'.batch = [])
    (waits : ∀ job then_, next = .flushing job then_ → job < s'.sqlite.asked)
    (quiet : ∀ job, task ≠ .flushing job .raiseStoreUnavailable)
    (fails : failed' ≠ [] ↔ failed ≠ [] ∨ ∃ job, next = .flushing job .raiseStoreUnavailable) :
    FetchingAt s' (before ++ next :: after) errors failed' := by
  constructor
  · exact List.append_ne_nil_of_right_ne_nil before (List.cons_ne_nil next after)
  · intro job then_ member
    rcases List.mem_append.mp member with isBefore | isAfter
    · exact Nat.lt_of_lt_of_le (fetching.waits job then_ (List.mem_append_left _ isBefore)) asked
    · rcases List.mem_cons.mp isAfter with isNext | isAfter
      · exact waits job then_ isNext.symm
      · exact Nat.lt_of_lt_of_le (fetching.waits job then_
          (List.mem_append_right _ (List.mem_cons_of_mem task isAfter))) asked
  · rw [fails, fetching.failed]
    simp only [List.mem_append, List.mem_cons]
    constructor
    · intro some
      rcases some with (some | ⟨job, isBefore | isTask | isAfter⟩) | ⟨job, isNext⟩
      · exact .inl some
      · exact .inr ⟨job, .inl isBefore⟩
      · exact absurd isTask.symm (quiet job)
      · exact .inr ⟨job, .inr (.inr isAfter)⟩
      · exact .inr ⟨job, .inr (.inl isNext.symm)⟩
    · intro some
      rcases some with some | ⟨job, isBefore | isNext | isAfter⟩
      · exact .inl (.inl some)
      · exact .inl (.inr ⟨job, .inl isBefore⟩)
      · exact .inr ⟨job, isNext.symm⟩
      · exact .inl (.inr ⟨job, .inr (.inr isAfter)⟩)
  · intro member
    rcases List.mem_append.mp member with isBefore | isAfter
    · exact (fetching.ended (List.mem_append_left _ isBefore)).imp_left batch
    · rcases List.mem_cons.mp isAfter with isNext | isAfter
      · exact .inl (ended isNext.symm)
      · exact (fetching.ended
          (List.mem_append_right _ (List.mem_cons_of_mem task isAfter))).imp_left batch

theorem FetchingAt.goesOn (fetching : FetchingAt s (before ++ task :: after) errors failed)
    (batch : s.batch = [] → s'.batch = []) (asked : s.sqlite.asked ≤ s'.sqlite.asked)
    (running : next ≠ .ended) (wasQuiet : ∀ job, task ≠ .flushing job .raiseStoreUnavailable)
    (isQuiet : ∀ job then_, next ≠ .flushing job then_) :
    FetchingAt s' (before ++ next :: after) errors failed := by
  apply fetching.replace batch asked
  · intro isEnded
    exact absurd isEnded running
  · intro job then_ isFlushing
    exact absurd isFlushing (isQuiet job then_)
  · exact wasQuiet
  · simp [isQuiet]

theorem FetchingAt.flushes (fetching : FetchingAt s (before ++ task :: after) errors failed)
    {failed' : List (SequentialID × BlockID)} {then_ : AfterFlush}
    (batch : s.batch = [] → s'.batch = []) (asked : s'.sqlite.asked = s.sqlite.asked + 1)
    (wasQuiet : ∀ job, task ≠ .flushing job .raiseStoreUnavailable)
    (fails : failed' ≠ [] ↔ failed ≠ [] ∨ then_ = .raiseStoreUnavailable) :
    FetchingAt s' (before ++ .flushing s.sqlite.asked then_ :: after) errors failed' := by
  apply fetching.replace batch
  · omega
  · intro isEnded
    cases isEnded
  · intro job next isFlushing
    cases isFlushing
    omega
  · exact wasQuiet
  · rw [fails]
    simp

theorem exportMeasure_fetching (ledger : BlocksLedger store start s tasks delivered failed rest)
    (phase : s.phase = .fetching tasks errors) :
    exportMeasure start s = (if errors = [] then 24 * rest.length else 0) + totalWeight tasks + 7 +
      5 * s.batch.length + s.sqlite.jobsLeft := by
  simp only [exportMeasure, phaseWeight, phase, ledger.blocksToRead]

theorem advances_of_task {rest : List (SequentialID × BlockID)}
    {delivered' failed' : List (SequentialID × BlockID)}
    (phase : s.phase = .fetching (before ++ task :: after) errors)
    (ledger : BlocksLedger store start s (before ++ task :: after) delivered failed rest)
    (newLedger : BlocksLedger store start s' (before ++ next :: after) delivered' failed' rest)
    (fetching : FetchingAt s' (before ++ next :: after) errors failed')
    (lower : next.weight + 5 * s'.batch.length + s'.sqlite.jobsLeft <
      task.weight + 5 * s.batch.length + s.sqlite.jobsLeft) :
    Advances store start s { s' with phase := .fetching (before ++ next :: after) errors } := by
  have atPhase := newLedger.atPhase (.fetching (before ++ next :: after) errors)
  constructor
  · exact ⟨delivered', failed', rest, atPhase, fetching.some, fetching.waits, fetching.failed,
      fetching.ended⟩
  · rw [exportMeasure_fetching ledger phase, exportMeasure_fetching atPhase rfl, totalWeight_middle,
      totalWeight_middle]
    dsimp only
    omega

theorem askFlush_jobsLeft (ledger : BlocksLedger store start s tasks delivered failed rest) :
    s.askFlush.sqlite.jobsLeft = s.sqlite.jobsLeft + 2 := by
  have served := ledger.served
  have inserting := ledger.inserting
  simp only [SqliteWorker.jobsLeft, BlocksExport.askFlush]
  by_cases busy : s.sqlite.inserting.isSome = true
  · have left := inserting busy
    simp only [busy, if_true]
    omega
  · simp only [busy, Bool.false_eq_true, if_false]
    omega

theorem pops_advances {block : SequentialID × BlockID} {batch : List (SequentialID × BlockID)}
    (phase : s.phase = .fetching (before ++ .popping :: after) errors)
    (ledger : BlocksLedger store start s (before ++ .popping :: after) delivered failed rest)
    (fetching : FetchingAt s (before ++ .popping :: after) errors failed)
    (isBatch : s.batch = block :: batch) :
    Advances store start s { s with
      batch := batch, phase := .fetching (before ++ .reading block :: after) errors } := by
  have newLedger : BlocksLedger store start { s with batch := batch }
      (before ++ .reading block :: after) delivered failed rest := by
    constructor
    · exact ledger.block
    · exact ledger.rows
    · intro other
      have count := ledger.count other
      simp only [readBlocks_middle, FetchTask.blocks, isBatch, List.count_append,
        List.count_cons, List.count_nil] at count ⊢
      omega
    · exact ledger.reads
    · exact ledger.answers
    · exact ledger.noFailure
    · exact ledger.served
    · exact ledger.inserting
  apply advances_of_task phase ledger newLedger
  · have nonempty : s.batch ≠ [] := by simp [isBatch]
    exact fetching.goesOn (fun none => absurd none nonempty) (Nat.le_refl _) (by simp) (by simp)
      (by simp)
  · rw [isBatch]
    simp only [FetchTask.weight, List.length_cons]
    omega

theorem BlocksLedger.replace (ledger : BlocksLedger store start s (before ++ task :: after)
    delivered failed rest) (same : next.blocks = task.blocks) :
    BlocksLedger store start s (before ++ next :: after) delivered failed rest := by
  constructor
  · exact ledger.block
  · exact ledger.rows
  · intro other
    have count := ledger.count other
    rw [readBlocks_middle] at count ⊢
    rw [same]
    exact count
  · exact ledger.reads
  · exact ledger.answers
  · exact ledger.noFailure
  · exact ledger.served
  · exact ledger.inserting

theorem ends_advances (phase : s.phase = .fetching (before ++ .popping :: after) errors)
    (ledger : BlocksLedger store start s (before ++ .popping :: after) delivered failed rest)
    (fetching : FetchingAt s (before ++ .popping :: after) errors failed) (none : s.batch = []) :
    Advances store start s { s with
      phase := .fetching (before ++ .ended :: after) errors } := by
  have newLedger : BlocksLedger store start s (before ++ .ended :: after) delivered failed rest :=
    ledger.replace rfl
  apply advances_of_task phase ledger newLedger
  · apply fetching.replace
    · exact id
    · exact Nat.le_refl _
    · intro _
      exact none
    · intro job then_ isFlushing
      cases isFlushing
    · intro job isFlushing
      cases isFlushing
    · simp
  · simp only [FetchTask.weight]
    omega

/-- The data of a block waits for the next flush, which is asked for over the limit. -/
theorem addBlockData_cases (s : BlocksExport) (id : SequentialID) (data : List Byte) :
    (∃ exported, s.addBlockData id data = ({ s with
      toFlushData := s.toFlushData ++ [(id, data)]
      toFlushDataTotalSize := s.toFlushDataTotalSize + data.length
      exportedBytes := exported }, .popping)) ∨
    s.addBlockData id data = ({ s with
      toFlushData := s.toFlushData ++ [(id, data)]
      toFlushDataTotalSize := s.toFlushDataTotalSize + data.length }.askFlush,
      .flushing s.sqlite.asked (.report data.length)) := by
  unfold BlocksExport.addBlockData
  by_cases full : s.toFlushDataTotalSize + data.length ≥ blockDataExportRamLimit
  · right
    exact if_pos full
  · left
    exact ⟨s.exportedBytes + data.length, if_neg full⟩

theorem BlocksLedger.answered {block : SequentialID × BlockID} {delivered' failed' :
      List (SequentialID × BlockID)}
    (ledger : BlocksLedger store start s (before ++ .reading block :: after) delivered failed rest)
    (kept : s'.block = s.block ∧ s'.blockData = s.blockData ∧ s'.batch = s.batch ∧
      s'.sqlite.inserting = s.sqlite.inserting ∧ s'.sqlite.served = s.sqlite.served ∧
      s'.sqlite.failed = s.sqlite.failed ∧ s'.reads = s.reads + 1)
    (asked : s.sqlite.asked ≤ s'.sqlite.asked)
    (idle : next.blocks = [])
    (answer : store.unavailable s.reads = false ∧ delivered' = delivered ++ [block] ∧
        failed' = failed ∧ s'.toFlushData = s.toFlushData ++ [exportedRow store block] ∨
      store.unavailable s.reads = true ∧ delivered' = delivered ∧ failed' = failed ++ [block] ∧
        s'.toFlushData = s.toFlushData) :
    BlocksLedger store start s' (before ++ next :: after) delivered' failed' rest := by
  obtain ⟨isBlock, isData, isBatch, isInserting, isServed, isFailed, isReads⟩ := kept
  constructor
  · exact isBlock.trans ledger.block
  · have rows := ledger.rows
    rw [isData, isInserting]
    rcases answer with ⟨-, isDelivered, -, isToFlush⟩ | ⟨-, isDelivered, -, isToFlush⟩
    · rw [isToFlush, ← List.append_assoc, rows, isDelivered, List.map_append, List.append_assoc]
      rfl
    · rw [isToFlush, rows, isDelivered]
  · intro other
    have count := ledger.count other
    have reading : FetchTask.blocks (.reading block) = [block] := rfl
    rcases answer with ⟨-, isDelivered, isLost, -⟩ | ⟨-, isDelivered, isLost, -⟩
    · simp only [readBlocks_middle, reading, idle, isDelivered, isLost, isBatch,
        List.count_append, List.count_nil] at count ⊢
      omega
    · simp only [readBlocks_middle, reading, idle, isDelivered, isLost, isBatch,
        List.count_append, List.count_nil] at count ⊢
      omega
  · have reads := ledger.reads
    rcases answer with ⟨-, isDelivered, isLost, -⟩ | ⟨-, isDelivered, isLost, -⟩
    · rw [isReads, isDelivered, isLost, List.length_append, List.length_singleton]
      omega
    · rw [isReads, isDelivered, isLost, List.length_append, List.length_singleton]
      omega
  · have answers := ledger.answers
    rw [isReads]
    rcases answer with ⟨available, -, isLost, -⟩ | ⟨unavailable, -, isLost, -⟩
    · rw [isLost, answers]
      constructor
      · intro all n upTo
        by_cases last : n = s.reads
        · rw [last, available]
        · exact all n (by omega)
      · intro all n upTo
        exact all n (by omega)
    · rw [isLost]
      constructor
      · intro none
        simp at none
      · intro all
        have isAvailable := all s.reads (Nat.lt_succ_self s.reads)
        rw [unavailable] at isAvailable
        cases isAvailable
  · exact isFailed.trans ledger.noFailure
  · rw [isServed]
    exact Nat.le_trans ledger.served asked
  · rw [isServed, isInserting]
    intro some
    exact Nat.lt_of_lt_of_le (ledger.inserting some) asked

theorem read_advances {block : SequentialID × BlockID} {data : List Byte}
    (phase : s.phase = .fetching (before ++ .reading block :: after) errors)
    (ledger : BlocksLedger store start s (before ++ .reading block :: after) delivered failed rest)
    (fetching : FetchingAt s (before ++ .reading block :: after) errors failed)
    (available : store.unavailable s.reads = false) (content : store.content block.2 = some data)
    (added : { s with reads := s.reads + 1, consecutiveStoreUnavailableErrors := 0 }.addBlockData
      block.1 data = (s', next)) :
    Advances store start s { s' with phase := .fetching (before ++ next :: after) errors } := by
  have isRow : (block.1, data) = exportedRow store block := by
    rw [exportedRow, content, Option.getD_some]
  rcases addBlockData_cases { s with reads := s.reads + 1, consecutiveStoreUnavailableErrors := 0 }
    block.1 data with ⟨exported, popping⟩ | flushing
  · rw [added, Prod.mk.injEq] at popping
    obtain ⟨rfl, rfl⟩ := popping
    have newLedger : BlocksLedger store start { s with
        reads := s.reads + 1
        consecutiveStoreUnavailableErrors := 0
        toFlushData := s.toFlushData ++ [(block.1, data)]
        toFlushDataTotalSize := s.toFlushDataTotalSize + data.length
        exportedBytes := exported } (before ++ .popping :: after) (delivered ++ [block]) failed
          rest :=
      ledger.answered ⟨rfl, rfl, rfl, rfl, rfl, rfl, rfl⟩ (Nat.le_refl _) rfl
        (.inl ⟨available, rfl, rfl, by rw [isRow]⟩)
    apply advances_of_task phase ledger newLedger
    · exact fetching.goesOn id (Nat.le_refl _) (by simp) (by simp) (by simp)
    · simp only [FetchTask.weight]
      omega
  · rw [added, Prod.mk.injEq] at flushing
    obtain ⟨rfl, rfl⟩ := flushing
    have newLedger : BlocksLedger store start { s with
        reads := s.reads + 1
        consecutiveStoreUnavailableErrors := 0
        toFlushData := s.toFlushData ++ [(block.1, data)]
        toFlushDataTotalSize := s.toFlushDataTotalSize + data.length }.askFlush
        (before ++ .flushing s.sqlite.asked (.report data.length) :: after)
        (delivered ++ [block]) failed rest :=
      ledger.answered ⟨rfl, rfl, rfl, rfl, rfl, rfl, rfl⟩ (Nat.le_succ _) rfl
        (.inl ⟨available, rfl, rfl, by rw [isRow]; rfl⟩)
    apply advances_of_task phase ledger newLedger
    · exact fetching.flushes id rfl (by simp) (by simp)
    · have more : SqliteWorker.jobsLeft { s.sqlite with asked := s.sqlite.asked + 1 } =
          s.sqlite.jobsLeft + 2 := askFlush_jobsLeft ledger
      simp only [FetchTask.weight, BlocksExport.askFlush, more]
      omega

theorem unavailable_advances {block : SequentialID × BlockID}
    (phase : s.phase = .fetching (before ++ .reading block :: after) errors)
    (ledger : BlocksLedger store start s (before ++ .reading block :: after) delivered failed rest)
    (fetching : FetchingAt s (before ++ .reading block :: after) errors failed)
    (unavailable : store.unavailable s.reads = true) :
    Advances store start s { { s with reads := s.reads + 1 }.askFlush with
      phase := .fetching
        (before ++ .flushing s.sqlite.asked .raiseStoreUnavailable :: after) errors } := by
  have newLedger : BlocksLedger store start { s with reads := s.reads + 1 }.askFlush
      (before ++ .flushing s.sqlite.asked .raiseStoreUnavailable :: after) delivered
      (failed ++ [block]) rest :=
    ledger.answered ⟨rfl, rfl, rfl, rfl, rfl, rfl, rfl⟩ (Nat.le_succ _) rfl
      (.inr ⟨unavailable, rfl, rfl, rfl⟩)
  apply advances_of_task phase ledger newLedger
  · exact fetching.flushes id rfl (by simp) (by simp)
  · have more : SqliteWorker.jobsLeft { s.sqlite with asked := s.sqlite.asked + 1 } =
        s.sqlite.jobsLeft + 2 := askFlush_jobsLeft ledger
    simp only [FetchTask.weight, BlocksExport.askFlush, more]
    omega

theorem flushed_advances {job size exported : Nat}
    (phase : s.phase = .fetching (before ++ .flushing job (.report size) :: after) errors)
    (ledger : BlocksLedger store start s (before ++ .flushing job (.report size) :: after) delivered
      failed rest)
    (fetching : FetchingAt s (before ++ .flushing job (.report size) :: after) errors failed) :
    Advances store start s { s with
      exportedBytes := exported, phase := .fetching (before ++ .popping :: after) errors } := by
  have replaced : BlocksLedger store start s (before ++ .popping :: after) delivered failed rest :=
    ledger.replace rfl
  have newLedger : BlocksLedger store start { s with exportedBytes := exported }
      (before ++ .popping :: after) delivered failed rest :=
    ⟨replaced.block, replaced.rows, replaced.count, replaced.reads, replaced.answers,
      replaced.noFailure, replaced.served, replaced.inserting⟩
  apply advances_of_task phase ledger newLedger
  · exact fetching.goesOn id (Nat.le_refl _) (by simp) (by simp) (by simp)
  · simp only [FetchTask.weight]
    omega

def BlockStore.HasBlocks (store : BlockStore) (start : BlocksExport) : Prop :=
  ∀ block ∈ start.missing, (store.content block.2).isSome

theorem BlocksLedger.content {block : SequentialID × BlockID} (has : store.HasBlocks start)
    (ledger : BlocksLedger store start s (before ++ .reading block :: after) delivered failed rest) :
    ∃ data, store.content block.2 = some data := by
  apply Option.isSome_iff_exists.mp
  apply has block
  apply ledger.perm.mem_iff.mp
  rw [readBlocks_middle]
  simp [FetchTask.blocks]

theorem task_advances (has : store.HasBlocks start) (inv : BlocksInvariant store start s)
    (phase : s.phase = .fetching (before ++ task :: after) errors)
    (ran : s.runTask store task = some (s', .inl next)) :
    Advances store start s { s' with phase := .fetching (before ++ next :: after) errors } := by
  simp only [BlocksInvariant, phase] at inv
  obtain ⟨delivered, failed, rest, ledger, fetching⟩ := inv
  cases task with
  | popping =>
    cases isBatch : s.batch with
    | nil =>
      simp only [BlocksExport.runTask, isBatch, Option.some.injEq, Prod.mk.injEq,
        Sum.inl.injEq] at ran
      obtain ⟨rfl, rfl⟩ := ran
      exact ends_advances phase ledger fetching isBatch
    | cons block batch =>
      simp only [BlocksExport.runTask, isBatch, Option.some.injEq, Prod.mk.injEq,
        Sum.inl.injEq] at ran
      obtain ⟨rfl, rfl⟩ := ran
      exact pops_advances phase ledger fetching isBatch
  | reading block =>
    obtain ⟨data, content⟩ := ledger.content has
    cases answer : store.unavailable s.reads with
    | true =>
      simp only [BlocksExport.runTask, BlockStore.read, answer, if_true, Option.some.injEq,
        Prod.mk.injEq, Sum.inl.injEq] at ran
      obtain ⟨rfl, rfl⟩ := ran
      exact unavailable_advances phase ledger fetching answer
    | false =>
      simp only [BlocksExport.runTask, BlockStore.read, answer, content, Bool.false_eq_true,
        if_false, Option.some.injEq, Prod.mk.injEq, Sum.inl.injEq] at ran
      obtain ⟨rfl, rfl⟩ := ran
      exact read_advances phase ledger fetching answer content rfl
  | flushing job then_ =>
    have noFailure : job ∉ s.sqlite.failed := by
      rw [ledger.noFailure]
      exact List.not_mem_nil
    by_cases served : job < s.sqlite.served
    · cases then_ with
      | report size =>
        simp only [BlocksExport.runTask, served, noFailure, if_true, if_false, Option.some.injEq,
          Prod.mk.injEq, Sum.inl.injEq] at ran
        obtain ⟨rfl, rfl⟩ := ran
        exact flushed_advances phase ledger fetching
      | raiseStoreUnavailable =>
        simp [BlocksExport.runTask, served, noFailure] at ran
    · simp [BlocksExport.runTask, served] at ran
  | ended =>
    simp [BlocksExport.runTask] at ran

/-- Only an unavailable store makes a task raise. -/
theorem raises_advances {exception : ExportException} (has : store.HasBlocks start)
    (inv : BlocksInvariant store start s)
    (phase : s.phase = .fetching (before ++ task :: after) errors)
    (ran : s.runTask store task = some (s', .inr exception)) :
    Advances store start s { s' with
      phase := .fetching (before ++ .ended :: after) (errors ++ [exception]) } := by
  simp only [BlocksInvariant, phase] at inv
  obtain ⟨delivered, failed, rest, ledger, fetching⟩ := inv
  cases task with
  | popping =>
    cases isBatch : s.batch with
    | nil => simp [BlocksExport.runTask, isBatch] at ran
    | cons block batch => simp [BlocksExport.runTask, isBatch] at ran
  | reading block =>
    obtain ⟨data, content⟩ := ledger.content has
    cases answer : store.unavailable s.reads with
    | true => simp [BlocksExport.runTask, BlockStore.read, answer] at ran
    | false => simp [BlocksExport.runTask, BlockStore.read, answer, content] at ran
  | flushing job then_ =>
    have noFailure : job ∉ s.sqlite.failed := by
      rw [ledger.noFailure]
      exact List.not_mem_nil
    by_cases served : job < s.sqlite.served
    · cases then_ with
      | report size => simp [BlocksExport.runTask, served, noFailure] at ran
      | raiseStoreUnavailable =>
        simp only [BlocksExport.runTask, served, noFailure, if_true, if_false, Option.some.injEq,
          Prod.mk.injEq, Sum.inr.injEq] at ran
        obtain ⟨rfl, rfl⟩ := ran
        have someError : errors ++ [.storeUnavailable] ≠ [] := List.concat_ne_nil _ errors
        have lost : failed ≠ [] := fetching.failed.mpr (.inr ⟨job, by simp⟩)
        have replaced : BlocksLedger store start s (before ++ .ended :: after) delivered failed
            rest := ledger.replace rfl
        have newLedger := replaced.atPhase
          (.fetching (before ++ .ended :: after) (errors ++ [.storeUnavailable]))
        constructor
        · refine ⟨delivered, failed, rest, newLedger, ?_, ?_, ?_, ?_⟩
          · exact List.append_ne_nil_of_right_ne_nil before (List.cons_ne_nil _ after)
          · intro other then_ member
            apply fetching.waits other then_
            simp only [List.mem_append, List.mem_cons, reduceCtorEq, false_or] at member ⊢
            exact member.imp_right Or.inr
          · exact ⟨fun _ => .inl someError, fun _ => lost⟩
          · intro _
            exact .inr someError
        · rw [exportMeasure_fetching ledger phase, exportMeasure_fetching newLedger rfl,
            totalWeight_middle, totalWeight_middle, if_neg someError]
          simp only [FetchTask.weight]
          omega
    · simp [BlocksExport.runTask, served] at ran
  | ended =>
    simp [BlocksExport.runTask] at ran

theorem cancel_advances (inv : BlocksInvariant store start s)
    (phase : s.phase = .fetching tasks errors) (some : errors ≠ [])
    (running : ∃ task ∈ tasks, task ≠ .ended) :
    Advances store start s { s with phase := .fetching (tasks.map fun _ => .ended) errors } := by
  simp only [BlocksInvariant, phase] at inv
  obtain ⟨delivered, failed, rest, ledger, fetching⟩ := inv
  have lost : failed ≠ [] := fetching.failed.mpr (.inl some)
  have allEnded : ∀ task ∈ tasks.map fun _ => FetchTask.ended, task = .ended := by
    intro task member
    obtain ⟨_, _, isEnded⟩ := List.mem_map.mp member
    exact isEnded.symm
  have newLedger : BlocksLedger store start
      { s with phase := .fetching (tasks.map fun _ => .ended) errors }
      (tasks.map fun _ => .ended) delivered failed (readBlocks tasks ++ rest) := by
    constructor
    · exact ledger.block
    · exact ledger.rows
    · intro other
      have count := ledger.count other
      rw [readBlocks_ended allEnded, List.count_append, List.count_nil]
      dsimp only
      omega
    · exact ledger.reads
    · exact ledger.answers
    · exact ledger.noFailure
    · exact ledger.served
    · exact ledger.inserting
  constructor
  · refine ⟨delivered, failed, _, newLedger, ?_, ?_, ?_, ?_⟩
    · intro none
      exact fetching.some (List.map_eq_nil_iff.mp none)
    · intro job then_ member
      cases allEnded _ member
    · exact ⟨fun _ => .inl some, fun _ => lost⟩
    · intro _
      exact .inr some
  · rw [exportMeasure_fetching ledger phase, exportMeasure_fetching newLedger rfl, if_neg some,
      if_neg some]
    have lower := totalWeight_cancelled running
    dsimp only
    omega

theorem BlocksLedger.leave (ledger : BlocksLedger store start s tasks delivered failed rest)
    (ended : ∀ task ∈ tasks, task = .ended) :
    BlocksLedger store start s [] delivered failed rest := by
  constructor
  · exact ledger.block
  · exact ledger.rows
  · intro other
    have count := ledger.count other
    rw [readBlocks_ended ended] at count
    exact count
  · exact ledger.reads
  · exact ledger.answers
  · exact ledger.noFailure
  · exact ledger.served
  · exact ledger.inserting

theorem BlocksLedger.askFlush (ledger : BlocksLedger store start s tasks delivered failed rest) :
    BlocksLedger store start s.askFlush tasks delivered failed rest :=
  ⟨ledger.block, ledger.rows, ledger.count, ledger.reads, ledger.answers, ledger.noFailure,
    Nat.le_succ_of_le ledger.served, fun some => Nat.lt_succ_of_lt (ledger.inserting some)⟩

theorem leave_advances (inv : BlocksInvariant store start s)
    (phase : s.phase = .fetching tasks errors) (ended : ∀ task ∈ tasks, task = .ended) :
    Advances store start s (s.leaveGroup errors) := by
  simp only [BlocksInvariant, phase] at inv
  obtain ⟨delivered, failed, rest, ledger, fetching⟩ := inv
  have measure := exportMeasure_fetching ledger phase
  have left := ledger.leave ended
  by_cases none : errors = []
  · have noneLost : failed = [] := by
      by_contra some
      rcases fetching.failed.mp some with someError | ⟨job, member⟩
      · exact someError none
      · cases ended _ member
    have noBatch : s.batch = [] := by
      obtain ⟨task, member⟩ := List.exists_mem_of_ne_nil tasks fetching.some
      have isEnded := ended task member
      rw [isEnded] at member
      rcases fetching.ended member with isNil | someError
      · exact isNil
      · exact absurd none someError
    subst noneLost
    rw [BlocksExport.leaveGroup, if_pos none]
    have newLedger := left.askFlush.atPhase (.lastFlush s.sqlite.asked)
    constructor
    · refine ⟨noBatch, rfl, ?_, delivered, rest, newLedger⟩
      intro taken
      have served := ledger.served
      rcases taken with isServed | ⟨isServed, some⟩
      · have isLess : s.sqlite.asked < s.sqlite.served := isServed
        omega
      · have isAll : s.sqlite.served = s.sqlite.asked := isServed
        have busy := ledger.inserting some
        omega
    · have more : SqliteWorker.jobsLeft { s.sqlite with asked := s.sqlite.asked + 1 } =
          s.sqlite.jobsLeft + 2 := askFlush_jobsLeft ledger
      rw [measure, if_pos none]
      have new := newLedger.blocksToRead
      simp only [BlocksExport.askFlush] at new
      simp only [exportMeasure, phaseWeight, BlocksExport.askFlush, more, new]
      omega
  · have lost : failed ≠ [] := fetching.failed.mpr (.inl none)
    have notCaught : (Propagated.exceptionGroup errors).isStoreUnavailable = false := rfl
    rw [BlocksExport.leaveGroup, if_neg none, notCaught, if_neg Bool.false_ne_true]
    constructor
    · exact ⟨delivered, failed, rest, errors, left.atPhase _, lost, rfl⟩
    · rw [measure, if_neg none]
      simp only [exportMeasure, phaseWeight]
      omega

end Group

section Ends

theorem flushed_batch_advances {job : Nat} (inv : BlocksInvariant store start s)
    (phase : s.phase = .lastFlush job) (served : job < s.sqlite.served) :
    Advances store start s { s with
      phase := if job ∈ s.sqlite.failed then .raised (.alone .integrityError) else .nextBatch } := by
  simp only [BlocksInvariant, phase] at inv
  obtain ⟨noBatch, isLast, taken, delivered, rest, ledger⟩ := inv
  have noFailure : job ∉ s.sqlite.failed := by
    rw [ledger.noFailure]
    exact List.not_mem_nil
  have isIdle : s.sqliteIdle := by
    have upTo := ledger.served
    unfold BlocksExport.sqliteIdle
    omega
  have flushed : Flushed s := ⟨noBatch, taken (.inl served), isIdle⟩
  rw [if_neg noFailure]
  constructor
  · exact ⟨flushed.atPhase _, delivered, rest, ledger.atPhase _⟩
  · simp only [exportMeasure, phaseWeight, phase, Server.blocksToRead]
    omega

theorem markDone_advances (ready : start.Ready) (inv : BlocksInvariant store start s)
    (phase : s.phase = .markDone) :
    Advances store start s (if s.missing = [] then
        { s with blocksDataExportDone := true, phase := .completed }
      else { s with phase := .raised (.alone .assertionError) }) := by
  simp only [BlocksInvariant, phase] at inv
  obtain ⟨flushed, delivered, ledger⟩ := inv
  have none : s.missing = [] := by
    apply List.eq_nil_iff_forall_not_mem.mpr
    intro block member
    have count := ledger.missing_count ready flushed block
    rw [List.count_nil] at count
    have some := List.count_pos_iff.mpr member
    omega
  rw [if_pos none]
  constructor
  · exact ⟨rfl, ⟨flushed.batch, flushed.toFlush, flushed.idle⟩, delivered,
      ⟨ledger.block, ledger.rows, ledger.count, ledger.reads, ledger.answers, ledger.noFailure,
        ledger.served, ledger.inserting⟩⟩
  · simp only [exportMeasure, phaseWeight, phase]
    omega

/-- Every step keeps the invariant and lowers the measure. -/
theorem step_advances (ready : start.Ready) (has : store.HasBlocks start)
    (inv : BlocksInvariant store start s) (step : BlocksExport.Step store s s') :
    Advances store start s s' := by
  cases step with
  | steal free busy => exact ⟨steal_keeps inv free busy, steal_lowers free busy⟩
  | insert isInserting =>
    obtain ⟨tasks, delivered, failed, rest, ledger⟩ := inv.ledger
    have busy := ledger.inserting (by rw [isInserting]; rfl)
    exact ⟨insert_keeps ready inv isInserting, insert_lowers isInserting busy⟩
  | begin phase => exact begin_advances inv phase
  | lastBatch phase _ none => exact lastBatch_advances ready inv phase none
  | nextBatch phase _ some => exact nextBatch_advances ready inv phase some
  | task phase ran => exact task_advances has inv phase ran
  | raises phase ran => exact raises_advances has inv phase ran
  | cancel phase some running => exact cancel_advances inv phase some running
  | leave phase ended => exact leave_advances inv phase ended
  | flushed phase served => exact flushed_batch_advances inv phase served
  | markDone phase _ => exact markDone_advances ready inv phase

end Ends

end ParsecCloud.Server

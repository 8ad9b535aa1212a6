import ParsecCloud.Server.BlocksExportRuns

/- How the exports of the data of the blocks end. The store decides: with no unavailable answer the
   data is exported, and the first one ends the export with an error that is not the documented
   one, however short the failure is. -/
namespace ParsecCloud.Server
open Inevitable

variable {store : BlockStore} {start s s' : BlocksExport}

def BlocksExportPhase.isEnd : BlocksExportPhase → Bool
  | .completed => true
  | .raised _ => true
  | _ => false

section Progress

theorem runTask_isSome (store : BlockStore) {tasks : List FetchTask} {errors : List ExportException}
    {failed : List (SequentialID × BlockID)} {task : FetchTask}
    (fetching : FetchingAt s tasks errors failed) (idle : s.sqliteIdle) (member : task ∈ tasks)
    (running : task ≠ .ended) : ∃ ran, s.runTask store task = some ran := by
  cases task with
  | popping =>
    cases isBatch : s.batch with
    | nil => exact ⟨_, by simp only [BlocksExport.runTask, isBatch]; rfl⟩
    | cons block batch => exact ⟨_, by simp only [BlocksExport.runTask, isBatch]; rfl⟩
  | reading block =>
    cases answer : store.read s.reads block.2 with
    | data bytes => exact ⟨_, by simp only [BlocksExport.runTask, answer]; rfl⟩
    | blockNotFound => exact ⟨_, by simp only [BlocksExport.runTask, answer]; rfl⟩
    | storeUnavailable => exact ⟨_, by simp only [BlocksExport.runTask, answer]; rfl⟩
  | flushing job then_ =>
    have served : job < s.sqlite.served := idle ▸ fetching.waits job then_ member
    by_cases lost : job ∈ s.sqlite.failed
    · exact ⟨_, by simp only [BlocksExport.runTask, served, lost, if_true]; rfl⟩
    · cases then_ with
      | report size => exact ⟨_, by simp only [BlocksExport.runTask, served, lost, if_true]; rfl⟩
      | raiseStoreUnavailable =>
        exact ⟨_, by simp only [BlocksExport.runTask, served, lost, if_true]; rfl⟩
  | ended => exact absurd rfl running

theorem export_progress (inv : BlocksInvariant store start s) :
    s.phase.isEnd = true ∨ ∃ s', BlocksExport.Step store s s' := by
  obtain ⟨_, _, _, _, ledger⟩ := inv.ledger
  by_cases idle : s.sqliteIdle
  · cases phase : s.phase with
    | begin => exact .inr ⟨_, .begin phase⟩
    | nextBatch =>
      right
      by_cases none : s.getNextBatchOfBlocks = []
      · exact ⟨_, .lastBatch phase idle none⟩
      · exact ⟨_, .nextBatch phase idle none⟩
    | fetching tasks errors =>
      right
      simp only [BlocksInvariant, phase] at inv
      obtain ⟨_, _, _, _, fetching⟩ := inv
      by_cases ended : ∀ task ∈ tasks, task = .ended
      · exact ⟨_, .leave phase ended⟩
      · push Not at ended
        obtain ⟨task, member, running⟩ := ended
        obtain ⟨⟨next, outcome⟩, ran⟩ := runTask_isSome store fetching idle member running
        obtain ⟨before, after, rfl⟩ := List.append_of_mem member
        cases outcome with
        | inl follows => exact ⟨_, .task phase ran⟩
        | inr exception => exact ⟨_, .raises phase ran⟩
    | lastFlush job =>
      right
      simp only [BlocksInvariant, phase] at inv
      have isLast := inv.2.1
      unfold BlocksExport.sqliteIdle at idle
      exact ⟨_, .flushed phase (by omega)⟩
    | markDone => exact .inr ⟨_, .markDone phase idle⟩
    | completed => exact .inl rfl
    | raised exception => exact .inl rfl
  · right
    have served := ledger.served
    unfold BlocksExport.sqliteIdle at idle
    cases inserting : s.sqlite.inserting with
    | none => exact ⟨_, .steal inserting (by omega)⟩
    | some rows => exact ⟨_, .insert inserting⟩

theorem start_invariant (ready : start.Ready) : BlocksInvariant store start start := by
  have sqlite := ready.sqlite
  have idle : start.sqliteIdle := by
    unfold BlocksExport.sqliteIdle
    rw [sqlite]
  simp only [BlocksInvariant, ready.phase]
  refine ⟨⟨ready.batch, ready.toFlush, idle⟩, [], start.missing, ?_, ready.done⟩
  constructor
  · rfl
  · simp [sqlite, ready.toFlush]
  · intro block
    simp [readBlocks, ready.batch]
  · exact ready.reads
  · simp [ready.reads]
  · rw [sqlite]
  · simp [sqlite]
  · simp [sqlite]

theorem export_ends (ready : start.Ready) (has : store.HasBlocks start) :
    Inevitably (BlocksExport.Step store)
      (fun s => BlocksInvariant store start s ∧ s.phase.isEnd = true) start := by
  apply inevitably_of_measure (exportMeasure start)
  · intro s inv
    exact export_progress inv
  · intro s s' inv step
    have advances := step_advances ready has inv step
    exact ⟨advances.kept, advances.lower⟩
  · exact start_invariant ready

theorem ended_kept (ended : s.phase.isEnd = true) (step : BlocksExport.Step store s s') :
    s'.phase = s.phase := by
  cases step with
  | steal _ _ => rfl
  | insert _ => rfl
  | begin phase => rw [phase] at ended; cases ended
  | lastBatch phase _ _ => rw [phase] at ended; cases ended
  | nextBatch phase _ _ => rw [phase] at ended; cases ended
  | task phase _ => rw [phase] at ended; cases ended
  | raises phase _ => rw [phase] at ended; cases ended
  | cancel phase _ _ => rw [phase] at ended; cases ended
  | leave phase _ => rw [phase] at ended; cases ended
  | flushed phase _ => rw [phase] at ended; cases ended
  | markDone phase _ => rw [phase] at ended; cases ended

end Progress

/-- Each block that had no data has it, once, and nothing else has changed in the data. -/
def Completed (store : BlockStore) (start s : BlocksExport) : Prop :=
  s.phase = .completed ∧ s.blocksDataExportDone = true ∧ ∃ stored,
    s.blockData = start.blockData ++ stored ∧
      stored.Perm (start.missing.map (exportedRow store))

def StopsWithInputDbError (s : BlocksExport) : Prop :=
  ∃ error, s.phase = .raised (.alone (.inputDbError error))

/-- No more unavailable answers in a row than what is tolerated. -/
def BlockStore.Flaky (store : BlockStore) : Prop :=
  ∀ n, ∃ k, n ≤ k ∧ k ≤ n + maxConsecutiveStoreUnavailableErrors ∧ store.unavailable k = false

def BlockStore.Dead (store : BlockStore) : Prop :=
  ∃ n, ∀ k, n ≤ k → store.unavailable k = true

def ExportTolerates (store : BlockStore) (start : BlocksExport) : Prop :=
  (store.Flaky → Inevitably (BlocksExport.Step store) (Completed store start) start) ∧
  (store.Dead → Inevitably (BlocksExport.Step store)
    (fun s => Completed store start s ∨ StopsWithInputDbError s) start)

section Ends

theorem completed_of_phase (inv : BlocksInvariant store start s)
    (phase : s.phase = .completed) :
    Completed store start s ∧ ∀ k < start.missing.length, store.unavailable k = false := by
  simp only [BlocksInvariant, phase] at inv
  obtain ⟨done, flushed, delivered, ledger⟩ := inv
  have written := ledger.written flushed
  have all := ledger.perm
  have reads := ledger.reads
  rw [readBlocks, List.flatMap_nil, flushed.batch] at all
  simp only [List.append_nil] at all
  refine ⟨⟨phase, done, _, written, all.map (exportedRow store)⟩, ?_⟩
  intro k below
  apply ledger.answers.mp rfl
  rw [reads, all.length_eq]
  exact below

theorem group_of_phase (inv : BlocksInvariant store start s)
    {exception : Propagated} (phase : s.phase = .raised exception) :
    (∃ errors, exception = .exceptionGroup errors) ∧
      ¬ ∀ k < start.missing.length, store.unavailable k = false := by
  simp only [BlocksInvariant, phase] at inv
  obtain ⟨delivered, failed, rest, errors, ledger, lost, isGroup⟩ := inv
  refine ⟨⟨errors, isGroup⟩, ?_⟩
  intro available
  apply lost
  apply ledger.answers.mpr
  intro n below
  have lengths := ledger.length
  have reads := ledger.reads
  exact available n (by omega)

theorem export_completes (ready : start.Ready) (has : store.HasBlocks start)
    (available : ∀ k < start.missing.length, store.unavailable k = false) :
    Inevitably (BlocksExport.Step store) (Completed store start) start := by
  apply (export_ends ready has).mono
  intro s reached
  obtain ⟨inv, ended⟩ := reached
  cases phase : s.phase with
  | completed => exact (completed_of_phase inv phase).1
  | raised exception => exact absurd available (group_of_phase inv phase).2
  | begin => rw [phase] at ended; cases ended
  | nextBatch => rw [phase] at ended; cases ended
  | fetching tasks errors => rw [phase] at ended; cases ended
  | lastFlush job => rw [phase] at ended; cases ended
  | markDone => rw [phase] at ended; cases ended

/-- The first unavailable answer ends the export with the group of the errors of the tasks. -/
theorem export_fails (ready : start.Ready) (has : store.HasBlocks start)
    (unavailable : ¬ ∀ k < start.missing.length, store.unavailable k = false) :
    Inevitably (BlocksExport.Step store)
      (fun s => ∃ errors, s.phase = .raised (.exceptionGroup errors)) start := by
  apply (export_ends ready has).mono
  intro s reached
  obtain ⟨inv, ended⟩ := reached
  cases phase : s.phase with
  | completed => exact absurd (completed_of_phase inv phase).2 unavailable
  | raised exception =>
    obtain ⟨errors, rfl⟩ := (group_of_phase inv phase).1
    exact ⟨errors, rfl⟩
  | begin => rw [phase] at ended; cases ended
  | nextBatch => rw [phase] at ended; cases ended
  | fetching tasks errors => rw [phase] at ended; cases ended
  | lastFlush job => rw [phase] at ended; cases ended
  | markDone => rw [phase] at ended; cases ended

/-- A run that ends with the group of the errors ends in no other way. -/
theorem not_tolerated (ready : start.Ready) (has : store.HasBlocks start)
    (unavailable : ¬ ∀ k < start.missing.length, store.unavailable k = false) :
    ¬ Inevitably (BlocksExport.Step store)
      (fun s => Completed store start s ∨ StopsWithInputDbError s) start := by
  intro inevitable
  have byPhase : Inevitably (BlocksExport.Step store)
      (fun s => s.phase = .completed ∨ StopsWithInputDbError s) start := by
    apply inevitable.mono
    intro s reached
    exact reached.imp_left And.left
  have groupLasts (s s' : BlocksExport) (isGroup : ∃ errors, s.phase = .raised (.exceptionGroup errors))
      (step : BlocksExport.Step store s s') :
      ∃ errors, s'.phase = .raised (.exceptionGroup errors) := by
    obtain ⟨errors, phase⟩ := isGroup
    exact ⟨errors, (ended_kept (by rw [phase]; rfl) step).trans phase⟩
  have otherLasts (s s' : BlocksExport) (isOther : s.phase = .completed ∨ StopsWithInputDbError s)
      (step : BlocksExport.Step store s s') : s'.phase = .completed ∨ StopsWithInputDbError s' := by
    rcases isOther with completed | ⟨error, stopped⟩
    · exact .inl ((ended_kept (by rw [completed]; rfl) step).trans completed)
    · exact .inr ⟨error, (ended_kept (by rw [stopped]; rfl) step).trans stopped⟩
  obtain ⟨s, ⟨errors, phase⟩, isOther⟩ :=
    (export_fails ready has unavailable).both byPhase groupLasts otherLasts
  rcases isOther with completed | ⟨error, stopped⟩
  · rw [phase] at completed
    cases completed
  · rw [phase] at stopped
    cases stopped

end Ends

/-- The export tolerates no unavailable answer: it does what it says when it gets none, and for a
    store of neither kind. -/
theorem export_tolerates_iff (ready : start.Ready) (has : store.HasBlocks start) :
    ExportTolerates store start ↔ (∀ k < start.missing.length, store.unavailable k = false) ∨
      ¬ store.Flaky ∧ ¬ store.Dead := by
  constructor
  · intro tolerates
    by_cases available : ∀ k < start.missing.length, store.unavailable k = false
    · exact .inl available
    · right
      constructor
      · intro flaky
        exact not_tolerated ready has available ((tolerates.1 flaky).mono fun _ => Or.inl)
      · intro dead
        exact not_tolerated ready has available (tolerates.2 dead)
  · intro quiet
    rcases quiet with available | ⟨notFlaky, notDead⟩
    · have completes := export_completes ready has available
      exact ⟨fun _ => completes, fun _ => completes.mono fun _ => Or.inl⟩
    · exact ⟨fun flaky => absurd flaky notFlaky, fun dead => absurd dead notDead⟩

/-- An export with one block left. -/
def oneBlockExport : BlocksExport where
  block := [(1, ⟨7⟩)]
  blockData := []
  blocksDataExportDone := false
  toFlushData := []
  toFlushDataTotalSize := 0
  exportedBytes := 0
  batch := []
  consecutiveStoreUnavailableErrors := 0
  reads := 0
  sqlite := ⟨0, 0, none, []⟩
  phase := .begin

def steadyStore : BlockStore := ⟨fun _ => false, fun _ => some [97]⟩

/-- The first answer only is that the store is unavailable. -/
def oneFailureStore : BlockStore := ⟨fun n => n == 0, fun _ => some [97]⟩

theorem oneBlockExport_ready : oneBlockExport.Ready := by
  constructor <;> simp [oneBlockExport]

theorem steady_export_tolerates : ExportTolerates steadyStore oneBlockExport :=
  (export_tolerates_iff oneBlockExport_ready fun _ _ => rfl).mpr (.inl fun _ _ => rfl)

theorem one_failure_not_tolerated :
    oneFailureStore.Flaky ∧ ¬ ExportTolerates oneFailureStore oneBlockExport := by
  have flaky : oneFailureStore.Flaky := by
    intro n
    refine ⟨n + 1, Nat.le_succ n, ?_, rfl⟩
    simp only [maxConsecutiveStoreUnavailableErrors]
    omega
  have unavailable : ¬ ∀ k < oneBlockExport.missing.length,
      oneFailureStore.unavailable k = false := by
    intro available
    have first := available 0 (by decide)
    cases first
  refine ⟨flaky, ?_⟩
  intro tolerates
  apply not_tolerated oneBlockExport_ready (fun _ _ => rfl) unavailable
  exact (tolerates.1 flaky).mono fun _ => Or.inl

end ParsecCloud.Server

import ParsecCloud.File.Runs
import ParsecCloud.Workspace.Closing

/- The opened files of a workspace as a state machine: what holds in every state that any order of
   opens, writes, resizes, flushes and closes can reach. -/
namespace ParsecCloud
open Rust HashMap Runs

/-- The entry that the task is about, when it has no opened file yet. -/
def Task.entry : Task → Option VlobID
  | opening entryId _ => some entryId
  | locked entryId _ _ => some entryId
  | wouldBlock entryId _ => some entryId
  | joining _ entryId _ _ _ => some entryId
  | updating entryId _ _ => some entryId
  | syncing entryId _ _ => some entryId
  | _ => none

namespace State

/-- Some operation on the entry is not finished. -/
def Pending (s : State) (entryId : VlobID) : Prop :=
  ∃ t task, s.tasks.lookup t = some task ∧ (task.entry = some entryId ∨
    ∃ handle ∈ task.handles, ∃ f, s.files.lookup handle = some f ∧ f.entryId = entryId)

structure Consistent (s : State) : Prop where
  updaters : ∀ handle f, s.files.lookup handle = some f → s.MutexFree handle →
    (f.flushNeeded = true ∨ ∃ cursor ∈ f.cursors, cursor.writeMode = .allowed) →
    f.updater.isSome = true
  unmodified : ∀ handle f, s.files.lookup handle = some f → f.flushNeeded = false →
    f.manifest = f.flushed
  noPanic : s.panicked = false
  released : ∀ entryId, (∀ fd, s.fileDescriptors.lookup fd ≠ some entryId) →
    ¬ s.Pending entryId → s.locks.lookup entryId = none

theorem start_served (manifests : HashMap VlobID LocalFileManifest) (chunks : ChunkStore)
    (uploaded : Finset ChunkID) : (start manifests chunks uploaded).Served := by
  refine ⟨⟨?_, ?_, ?_, ?_, ?_⟩, ⟨?_, ?_⟩, ⟨?_, ?_, ?_⟩, ?_, ?_, rfl⟩
  · intro fd entryId found
    cases found
  · intro entryId handle found
    cases found
  · intro entryId handle found
    cases found
  · intro fd entryId found
    cases found
  · intro t
    trivial
  · intro entryId holder
    cases holder <;> exact ⟨nofun, nofun⟩
  · intro handle f updater found
    cases found
  · intro t t' handle held
    cases held
  · intro t handle held
    cases held
  · intro handle f found
    cases found
  · intro handle f found
    cases found
  · intro handle f found
    cases found

theorem guard_entry {s : State} (table : s.TableSound) {t : TaskId} {task : Task} {entryId : VlobID}
    (found : s.tasks.lookup t = some task) (guarded : task.guard = some entryId) :
    task.entry = some entryId := by
  have joins := table.joins t
  rw [found] at joins
  cases task with
  | locked => exact guarded
  | updating => exact guarded
  | joining handle entry updater cursor truncate =>
    obtain ⟨u, given, rfl⟩ := Option.map_eq_some_iff.mp guarded
    exact congrArg some (joins.2 u given).symm
  | _ => cases guarded

theorem served_released {s : State} (served : s.Served) {entryId : VlobID}
    (closed : ∀ fd, s.fileDescriptors.lookup fd ≠ some entryId) (finished : ¬ s.Pending entryId) :
    s.locks.lookup entryId = none := by
  cases taken : s.locks.lookup entryId with
  | none => rfl
  | some holder =>
    exfalso
    have guarded := (served.locks.assigned entryId holder).mp taken
    cases holder with
    | task t =>
      obtain ⟨task, found, guarded⟩ := Option.bind_eq_some_iff.mp guarded
      exact finished ⟨t, task, found, Or.inl (guard_entry served.table found guarded)⟩
    | file handle =>
      obtain ⟨f, found, guarded⟩ := Option.bind_eq_some_iff.mp guarded
      obtain ⟨updater, has, rfl⟩ := Option.map_eq_some_iff.mp guarded
      have entry := served.locks.updaters handle f updater found has
      rcases served.owned handle f found with listed | ⟨t, owned⟩
      · obtain ⟨fd, described⟩ := served.table.inUse _ handle listed
        exact closed fd (entry ▸ described)
      · cases task : s.tasks.lookup t with
        | none =>
          rw [task] at owned
          cases owned
        | some owner =>
          rw [task] at owned
          exact finished ⟨t, owner, task, Or.inr ⟨handle, owns_handles owned, f, found, entry.symm⟩⟩

theorem served_consistent {s : State} (served : s.Served) : s.Consistent :=
  ⟨fun handle f found _ writable => served.updaters handle f found writable, served.flushes.clean,
    served.calm, fun _ => served_released served⟩

end State

open State

/-- In every run whose steps meet the conditions, the opened files stay consistent. -/
theorem opened_files_stay_consistent (fromData : List Byte → HashDigest)
    (manifests : HashMap VlobID LocalFileManifest) (chunks : ChunkStore) (uploaded : Finset ChunkID)
    (s : State) (run : Run (Step fromData) Safe (start manifests chunks uploaded) s) :
    s.Consistent :=
  served_consistent (run.keeps (start_served manifests chunks uploaded)
    fun _ _ _ served safe step => served_keeps served safe step)

/-- Five zero bytes, and no chunk. -/
def sparseFile : LocalFileManifest :=
  { LocalFileManifest.new ⟨1⟩ ⟨2⟩ ⟨3⟩ 0 with size := 5 }

/-- A workspace with that file only. -/
def sparseWorkspace : State := .start (Finmap.singleton ⟨1⟩ sparseFile) ChunkStore.empty ∅

def truncating (write : Bool) : OpenOptions := { read := true, write := write, truncate := true }

/-- The file once it is opened and truncated. -/
def truncatedFile (write : Bool) : OpenedFile :=
  { updater := (truncating write).updater ⟨1⟩
    manifest := { sparseFile with size := 0, updated := 9 }
    cursors := [(truncating write).cursor 1], bytesWrittenSinceLastFlush := 0, removedChunks := ∅
    newChunks := ChunkStore.empty, flushNeeded := true, entryId := ⟨1⟩, flushed := sparseFile }

/-- The three steps of open_file_by_id on that file. -/
def sparseOpening (write : Bool) : State :=
  sparseWorkspace.setTask 0 (some (.opening ⟨1⟩ (truncating write)))

def sparseLocked (write : Bool) : State :=
  ((sparseOpening write).lock ⟨1⟩ (.task 0)).setTask 0
    (some (.locked ⟨1⟩ (truncating write) sparseFile))

def sparseOpened (write : Bool) : State :=
  ({ sparseLocked write with openedFiles := Finmap.insert ⟨1⟩ 0 ∅ }.addDescriptor ⟨1⟩
    |>.setFile 0 (truncatedFile write) |>.keepOrUnlock (truncating write) ⟨1⟩ (.file 0)).setTask 0 none

theorem sparse_opens (write : Bool) (admits : State → TaskId → Prop) (first : admits sparseWorkspace 0)
    (second : admits (sparseOpening write) 0) (third : admits (sparseLocked write) 0) :
    Run (Step noDigest) admits sparseWorkspace (sparseOpened write) := by
  have begun : Run (Step noDigest) admits sparseWorkspace (sparseOpening write) :=
    .step .start first (.task rfl (.openFile ⟨1⟩ (truncating write)))
  have locked : Run (Step noDigest) admits sparseWorkspace (sparseLocked write) :=
    .step begun second (.lockFile rfl rfl rfl)
  have opened : OpenedFile.opened ⟨1⟩ sparseFile ((truncating write).updater ⟨1⟩)
      ((truncating write).cursor 1) true 9 = .ok (truncatedFile write) := rfl
  exact .step locked third (.openNew rfl rfl rfl rfl opened)

theorem sparseOpened_idle (write : Bool) (t : TaskId) : (sparseOpened write).tasks.lookup t = none := by
  rw [sparseOpened, lookup_setTask]
  split
  · rfl
  rename_i other
  change (sparseLocked write).tasks.lookup t = none
  rw [sparseLocked, lookup_setTask, if_neg other]
  change (sparseOpening write).tasks.lookup t = none
  rw [sparseOpening, lookup_setTask, if_neg other]
  exact Finmap.lookup_empty t

/-- A file that is truncated by a first open in write mode has the updater for its flush. -/
theorem truncated_by_writer_consistent : Run (Step noDigest) Safe sparseWorkspace (sparseOpened true) ∧
    (sparseOpened true).files.lookup 0 = some (truncatedFile true) ∧ (sparseOpened true).Consistent := by
  have run : Run (Step noDigest) Safe sparseWorkspace (sparseOpened true) :=
    sparse_opens true Safe trivial trivial fun _ _ _ _ => rfl
  exact ⟨run, rfl, opened_files_stay_consistent noDigest _ _ _ _ run⟩

/-- Truncated by an open in read mode, it is to be flushed and has no updater. -/
theorem truncated_by_reader_inconsistent :
    ¬ ∀ s, Run (Step noDigest) (fun _ _ => True) sparseWorkspace s → s.Consistent := by
  intro always
  have run := sparse_opens false (fun _ _ => True) trivial trivial trivial
  have has := (always _ run).updaters 0 (truncatedFile false) rfl ?_ (Or.inl rfl)
  · cases has
  · intro t block after found
    rw [sparseOpened_idle] at found
    cases found

end ParsecCloud

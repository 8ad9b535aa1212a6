import ParsecCloud.Lib.Locks
import ParsecCloud.Workspace.Table

/- Every update lock that is taken has one guard: a task has it, or an opened file. -/
namespace ParsecCloud
open Rust HashMap Locks

namespace State

/-- The entry whose lock this holder has the guard of. -/
def guardOf (s : State) : Holder → Option VlobID
  | .task t => (s.tasks.lookup t).bind Task.guard
  | .file handle => (s.files.lookup handle).bind fun f => f.updater.map FileUpdater.entryId

theorem guardOf_setTask (s : State) (t : TaskId) (new : Option Task) (x : Holder) :
    (s.setTask t new).guardOf x = if x = .task t then new.bind Task.guard else s.guardOf x := by
  cases x with
  | task t' =>
    simp only [guardOf, lookup_setTask, Holder.task.injEq]
    split <;> rfl
  | file handle =>
    rw [if_neg (by simp)]
    rfl

theorem guardOf_setFile (s : State) (handle : Handle) (f : OpenedFile) (x : Holder) :
    (s.setFile handle f).guardOf x =
      if x = .file handle then f.updater.map FileUpdater.entryId else s.guardOf x := by
  cases x with
  | task t =>
    rw [if_neg (by simp)]
    rfl
  | file handle' =>
    simp only [guardOf, lookup_setFile, Holder.file.injEq]
    split <;> rfl

/-- Every lock has the guard where the table says, and the updater of an opened file is the one
    of its entry. -/
structure LocksSound (s : State) : Prop where
  assigned : Assigned s.locks.lookup s.guardOf
  updaters : ∀ handle f updater, s.files.lookup handle = some f → f.updater = some updater →
    updater.entryId = f.entryId

end State

open State

theorem after_guard {handle : Handle} {after : AfterFlush} :
    (after.task handle).bind Task.guard = none := by
  cases after <;> rfl

theorem flushOr_guard {f : OpenedFile} {handle : Handle} {after : AfterFlush} :
    (flushOr f handle after).bind Task.guard = none := by
  unfold flushOr
  split
  · rfl
  · exact after_guard

theorem next_guard {entryId : VlobID} {next : Option (LocalFileManifest × SyncPhase)} :
    (next.map fun (m, phase) => Task.syncing entryId m phase).bind Task.guard = none := by
  cases next <;> rfl

theorem taskStep_guard {s : State} {old new : Option Task} (step : TaskStep s old new) :
    new.bind Task.guard = old.bind Task.guard := by
  cases step with
  | flushError => exact after_guard
  | closeAllFlush => exact flushOr_guard
  | _ => rfl

section Steps
variable {s s' : State} {t : TaskId} {old new : Option Task} {entryId : VlobID}

theorem guardOf_task (found : s.tasks.lookup t = old) :
    s.guardOf (.task t) = old.bind Task.guard := by
  simp [guardOf, found]

theorem guardOf_file {handle : Handle} {f : OpenedFile} (found : s.files.lookup handle = some f) :
    s.guardOf (.file handle) = f.updater.map FileUpdater.entryId := by
  simp [guardOf, found]

theorem guards_kept (found : s.tasks.lookup t = old)
    (same : new.bind Task.guard = old.bind Task.guard) (x : Holder) :
    (s.setTask t new).guardOf x = s.guardOf x := by
  rw [guardOf_setTask]
  split
  · rename_i here
    rw [here, guardOf_task found, same]
  · rfl

theorem guards_file {handle : Handle} {f f' : OpenedFile} (found : s.files.lookup handle = some f)
    (same : f'.updater = f.updater) (x : Holder) : (s.setFile handle f').guardOf x = s.guardOf x := by
  rw [guardOf_setFile]
  split
  · rename_i here
    rw [here, guardOf_file found, same]
  · rfl

theorem locksSound_kept (sound : s.LocksSound) (locks : s'.locks = s.locks)
    (files : s'.files = s.files) (guards : ∀ x, s'.guardOf x = s.guardOf x) : s'.LocksSound := by
  refine ⟨sound.assigned.congr (fun k => by rw [locks]) guards, ?_⟩
  rw [files]
  exact sound.updaters

theorem locksSound_file {handle : Handle} {f f' : OpenedFile} (sound : s.LocksSound)
    (task : s.tasks.lookup t = old) (same : new.bind Task.guard = old.bind Task.guard)
    (found : s.files.lookup handle = some f) (updater : f'.updater = f.updater)
    (entry : f'.entryId = f.entryId) : ((s.setFile handle f').setTask t new).LocksSound := by
  refine ⟨sound.assigned.congr (fun k => rfl) fun x => ?_, ?_⟩
  · exact (guards_kept (s := s.setFile handle f') task same x).trans (guards_file found updater x)
  · intro other g u present own
    change (s.setFile handle f').files.lookup other = some g at present
    rw [lookup_setFile] at present
    split at present
    · cases present
      rw [entry]
      exact sound.updaters handle f u found (updater ▸ own)
    · exact sound.updaters other g u present own

theorem locksSound_take (sound : s.LocksSound) (free : s.locks.lookup entryId = none)
    (found : s.tasks.lookup t = old) (idle : old.bind Task.guard = none)
    (guarded : new.bind Task.guard = some entryId) :
    ((s.lock entryId (.task t)).setTask t new).LocksSound := by
  refine ⟨sound.assigned.take free (x := .task t) ?_ (fun k => lookup_insert_ite _ _ _ _) ?_,
    sound.updaters⟩
  · rw [guardOf_task found, idle]
  · intro x
    rw [guardOf_setTask, guarded]
    rfl

theorem locksSound_release (sound : s.LocksSound) (found : s.tasks.lookup t = old)
    (guarded : old.bind Task.guard = some entryId) (idle : new.bind Task.guard = none) :
    ((s.unlock entryId).setTask t new).LocksSound := by
  refine ⟨sound.assigned.release (x := .task t) (k := entryId) ?_
    (fun k => lookup_erase_ite _ _ _) ?_, sound.updaters⟩
  · rw [guardOf_task found, guarded]
  · intro x
    rw [guardOf_setTask, idle]
    rfl

theorem locksSound_destroy {handle : Handle} {f : OpenedFile} (sound : s.LocksSound)
    (found : s.files.lookup handle = some f) (task : s.tasks.lookup t = old)
    (idle : old.bind Task.guard = none) (idle' : new.bind Task.guard = none) :
    ((s.destroy handle f).setTask t new).LocksSound := by
  have guards : ∀ x, ((s.destroy handle f).setTask t new).guardOf x =
      if x = .file handle then none else s.guardOf x := by
    intro x
    rw [guards_kept (s := s.destroy handle f) task (idle'.trans idle.symm)]
    cases x with
    | task t' => rfl
    | file other =>
      change ((s.files.erase handle).lookup other).bind _ = _
      rw [lookup_erase_ite]
      simp only [Holder.file.injEq]
      split <;> rfl
  refine ⟨?_, ?_⟩
  · cases own : f.updater with
    | none =>
      refine sound.assigned.congr (fun k => ?_) (fun x => ?_)
      · simp only [State.setTask, State.destroy, own]
      · rw [guards]
        split
        · rename_i here
          rw [here, guardOf_file found, own]
          rfl
        · rfl
    | some updater =>
      refine sound.assigned.release (x := .file handle) (k := updater.entryId) ?_ (fun k => ?_) guards
      · rw [guardOf_file found, own]
        rfl
      · simp only [State.setTask, State.destroy, own]
        exact lookup_erase_ite _ _ _
  · intro other g u present
    change (s.files.erase handle).lookup other = some g at present
    rw [lookup_erase_ite] at present
    split at present
    · cases present
    · exact sound.updaters other g u present

/-- A file is opened for the first time: its updater, if any, goes into the opened file. -/
theorem locksSound_open {options : OpenOptions} {handle : Handle} {f : OpenedFile}
    (sound : s.LocksSound) (found : s.tasks.lookup t = old)
    (guarded : old.bind Task.guard = some entryId) (unused : s.files.lookup handle = none)
    (entry : f.entryId = entryId) (updater : f.updater = options.updater entryId)
    (files : s'.files = s.files.insert handle f)
    (locks : s'.locks =
      if options.write then s.locks.insert entryId (.file handle) else s.locks.erase entryId)
    (guards : ∀ x, s'.guardOf x = if x = .task t then none else
      if x = .file handle then f.updater.map FileUpdater.entryId else s.guardOf x) :
    s'.LocksSound := by
  have held : s.guardOf (.task t) = some entryId := (guardOf_task found).trans guarded
  have idle : s.guardOf (.file handle) = none := by simp [guardOf, unused]
  refine ⟨?_, ?_⟩
  · cases mode : options.write with
    | true =>
      refine sound.assigned.handOver (x := .task t) (y := .file handle) held idle ?_ ?_
      · intro k
        rw [locks, if_pos mode]
        exact lookup_insert_ite _ _ _ _
      · intro x
        rw [guards, updater, OpenOptions.updater, if_pos mode]
        by_cases first : x = .task t
        · subst first
          simp
        · simp [first]
    | false =>
      have none_ : f.updater = none := by simp [updater, OpenOptions.updater, mode]
      refine sound.assigned.release (x := .task t) held ?_ ?_
      · intro k
        rw [locks, if_neg (by simp [mode])]
        exact lookup_erase_ite _ _ _
      · intro x
        rw [guards, none_]
        by_cases second : x = .file handle
        · subst second
          simp [idle]
        · simp [second]
  · intro other g u present own
    rw [files, lookup_insert_ite] at present
    split at present
    · cases present
      rw [updater] at own
      exact (updater_entry own).trans entry.symm
    · exact sound.updaters other g u present own

/-- A file is opened once more: the task keeps the updater, if it asked for one. -/
theorem locksSound_openAgain {options : OpenOptions} {handle : Handle} {cursor : OpenedFileCursor}
    (sound : s.LocksSound) (found : s.tasks.lookup t = old)
    (guarded : old.bind Task.guard = some entryId) :
    (((s.addDescriptor entryId).keepOrUnlock options entryId (.task t)).setTask t
      (some (.joining handle entryId (options.updater entryId) cursor
        options.truncate))).LocksSound := by
  have held : s.guardOf (.task t) = some entryId := (guardOf_task found).trans guarded
  refine ⟨?_, sound.updaters⟩
  cases mode : options.write with
  | true =>
    have keeps : (options.updater entryId).map FileUpdater.entryId = some entryId := by
      simp [OpenOptions.updater, mode]
    refine sound.assigned.congr (fun k => ?_) (fun x => ?_)
    · change (if options.write then s.locks.insert entryId (.task t) else _ :
        HashMap VlobID Holder).lookup k = s.locks.lookup k
      rw [if_pos mode, lookup_insert_ite]
      split
      · rename_i here
        rw [here]
        exact ((sound.assigned entryId (.task t)).mpr held).symm
      · rfl
    · rw [guardOf_setTask]
      split
      · rename_i here
        rw [here, held]
        exact keeps
      · rfl
  | false =>
    refine sound.assigned.release (x := .task t) held (fun k => ?_) (fun x => ?_)
    · change (if options.write then _ else s.locks.erase entryId :
        HashMap VlobID Holder).lookup k = _
      rw [if_neg (by simp [mode])]
      exact lookup_erase_ite _ _ _
    · rw [guardOf_setTask]
      simp only [Option.bind_some, Task.guard, OpenOptions.updater, mode]
      rfl

/-- An open joins a file that was opened already, and brings the updater that the file lacks. -/
theorem locksSound_join {handle : Handle} {updater : Option FileUpdater} {f f' : OpenedFile}
    (sound : s.LocksSound) (task : s.tasks.lookup t = old)
    (guarded : old.bind Task.guard = updater.map FileUpdater.entryId)
    (own : ∀ u, updater = some u → u.entryId = entryId) (entry : f.entryId = entryId)
    (found : s.files.lookup handle = some f) (entry' : f'.entryId = f.entryId)
    (both : f'.updater = f.updater.or updater) (alone : f.updater.isSome = true → updater = none) :
    (((s.handOver updater entryId handle).setFile handle f').setTask t none).LocksSound := by
  cases given : updater with
  | none =>
    rw [given] at guarded both
    rw [Option.or_none] at both
    exact locksSound_file (s := s.handOver none entryId handle) ⟨sound.assigned, sound.updaters⟩
      task guarded.symm found both entry'
  | some u =>
    have mine : u.entryId = entryId := own u given
    have held : s.guardOf (.task t) = some entryId := by
      rw [guardOf_task task, guarded, given, ← mine]
      rfl
    have lacks : f.updater = none := by
      cases here : f.updater with
      | none => rfl
      | some v =>
        rw [alone (by simp [here])] at given
        cases given
    have idle : s.guardOf (.file handle) = none := by
      rw [guardOf_file found, lacks]
      rfl
    have gets : f'.updater = some u := by rw [both, lacks, given]; rfl
    refine ⟨?_, ?_⟩
    · refine sound.assigned.handOver (x := .task t) (y := .file handle) held idle
        (fun k => lookup_insert_ite _ _ _ _) (fun x => ?_)
      rw [guardOf_setTask, guardOf_setFile, gets, Option.map_some, mine]
      by_cases first : x = .task t
      · subst first
        simp
      · simp only [first, if_false]
        rfl
    · intro other g v present own'
      rw [show (((s.handOver (some u) entryId handle).setFile handle f').setTask t none).files =
        s.files.insert handle f' from rfl, lookup_insert_ite] at present
      split at present
      · cases present
        rw [gets] at own'
        cases own'
        rw [mine, entry', entry]
      · exact sound.updaters other g v present own'

/-- The assertion of open_file_by_id: an open brings an updater only if the file has none. -/
theorem join_alone {handle : Handle} {updater : Option FileUpdater} {cursor : OpenedFileCursor}
    {truncate : Bool} {f : OpenedFile} (table : s.TableSound) (sound : s.LocksSound)
    (task : s.tasks.lookup t = some (.joining handle entryId updater cursor truncate))
    (found : s.files.lookup handle = some f) (has : f.updater.isSome = true) : updater = none := by
  cases given : updater with
  | none => rfl
  | some u =>
    obtain ⟨v, has⟩ := Option.isSome_iff_exists.mp has
    have joins := table.joins t
    rw [task] at joins
    obtain ⟨⟨g, found', entry⟩, own⟩ := joins
    rw [found] at found'
    cases found'
    have mine : s.guardOf (.task t) = some entryId := by
      rw [guardOf_task task, ← own u given, given]
      rfl
    have theirs : s.guardOf (.file handle) = some entryId := by
      rw [guardOf_file found, has, Option.map_some, sound.updaters handle f v found has, entry]
    cases sound.assigned.unique mine theirs

theorem locksSound_step {fromData : List Byte → HashDigest} (table : s.TableSound)
    (sound : s.LocksSound) (step : Step fromData s t s') : s'.LocksSound := by
  cases step with
  | task found moved =>
    exact locksSound_kept sound rfl rfl (guards_kept found (taskStep_guard moved))
  | lockFile found free => exact locksSound_take sound free found rfl rfl
  | openAborts found => exact locksSound_release sound found rfl rfl
  | openNew found _ _ unused opened =>
    obtain ⟨entry, updater, -⟩ := OpenedFile.opened_spec opened
    refine locksSound_open sound found rfl unused entry updater rfl rfl fun x => ?_
    rw [guardOf_setTask]
    split
    · rfl
    · exact guardOf_setFile s _ _ x
  | openAgain found => exact locksSound_openAgain sound found rfl
  | openBlocked found => exact locksSound_kept sound rfl rfl (guards_kept found rfl)
  | join found _ file joined =>
    obtain ⟨entry', -, -, both, alone, -⟩ := OpenedFile.join_spec joined
    have joins := table.joins t
    rw [found] at joins
    obtain ⟨⟨g, file', entry⟩, own⟩ := joins
    rw [file] at file'
    cases file'
    exact locksSound_join sound found rfl own entry file entry' both alone
  | joinPanics found _ file has given =>
    rw [join_alone table sound found file has] at given
    cases given
  | perform found _ file _ _ _ performed =>
    have same := (OpenedFile.perform_spec performed).1
    refine locksSound_file sound found ?_ file same.updater same.entryId
    split
    · exact flushOr_guard
    · rfl
  | reshapeSlot _ found file _ _ _ reshaped =>
    have same := (OpenedFile.reshapeSlot_spec reshaped).1
    exact locksSound_file sound found rfl file same.updater same.entryId
  | flushStores found file =>
    exact locksSound_file (s := State.storeFile _ _ _ _) ⟨sound.assigned, sound.updaters⟩ found
      after_guard file rfl rfl
  | flushPanics found => exact locksSound_kept sound rfl rfl (guards_kept found rfl)
  | close found => exact locksSound_kept sound rfl rfl (guards_kept found rfl)
  | tablePanics => exact ⟨sound.assigned, sound.updaters⟩
  | removeCursor found _ file => exact locksSound_file sound found flushOr_guard file rfl rfl
  | destroy found _ file => exact locksSound_destroy sound file found rfl rfl
  | closeAll found => exact locksSound_kept sound rfl rfl (guards_kept found rfl)
  | closeAllDestroy found _ _ file => exact locksSound_destroy sound file found rfl rfl
  | stop => exact ⟨sound.assigned, sound.updaters⟩
  | lockEntry _ found free => exact locksSound_take sound free found rfl rfl
  | inbound found => exact locksSound_kept sound rfl rfl (guards_kept found rfl)
  | storeUpdate found =>
    exact locksSound_release (s := State.storeFile _ _ _ _) ⟨sound.assigned, sound.updaters⟩ found rfl
      next_guard
  | release found => exact locksSound_release sound found rfl next_guard
  | updateFails found => exact locksSound_release sound found rfl rfl
  | reshapeEntry found _ _ free => exact locksSound_take sound free found rfl rfl
  | sendBlock found => exact locksSound_kept sound rfl rfl (guards_kept found rfl)
  | promoteBlock found => exact locksSound_kept sound rfl rfl (guards_kept found rfl)
  | acknowledge found free => exact locksSound_take sound free found rfl rfl

end Steps
end ParsecCloud

import ParsecCloud.Lib.HashMap
import ParsecCloud.Lib.Runs
import ParsecCloud.Workspace.OpenedFile
import ParsecCloud.Workspace.Reshape

/- The files of a workspace: the table of file descriptors, the opened files, the store with its
   update locks, and the operations under way. An operation is a task that is cut at the points
   where it waits or lets go of a mutex; tasks are interleaved in any order. -/
namespace ParsecCloud
open Rust HashMap

/-- The address of an opened file, shared by the table and the tasks. -/
abbrev Handle := Nat

abbrev TaskId := Nat

/-- Where the guard of a taken update lock is. -/
inductive Holder where
  | task (t : TaskId)
  | file (handle : Handle)
  deriving DecidableEq

/-- The steps of outbound_sync_file, after the manifest has been retrieved. -/
inductive SyncPhase where
  | reshaping
  | uploading (rest : List (List ChunkView))
  | sending (v : ChunkView) (rest : List (List ChunkView))
  | promoting (v : ChunkView) (rest : List (List ChunkView))
  | reshapedAndUploaded
  | accepted (remote : FileManifest)

/-- What comes after force_reshape_and_flush. -/
inductive AfterFlush where
  | finish
  | destroy
  | closeAll (toFlush toDestroy : List Handle)

inductive Task where
  /-- about to call for_update_file -/
  | opening (entryId : VlobID) (options : OpenOptions)
  /-- for_update_file has returned an updater and the manifest -/
  | locked (entryId : VlobID) (options : OpenOptions) (manifest : LocalFileManifest)
  /-- for_update_file has returned WouldBlock -/
  | wouldBlock (entryId : VlobID) (options : OpenOptions)
  /-- the file was opened already, its mutex is to be taken -/
  | joining (handle : Handle) (entryId : VlobID) (updater : Option FileUpdater)
      (cursor : OpenedFileCursor) (truncate : Bool)
  | operating (handle : Handle) (fd : Nat) (operation : FdOperation)
  /-- in the reshape of a flush, holding the mutex of the file -/
  | flushing (handle : Handle) (block : Nat) (after : AfterFlush)
  /-- the file descriptor is out of the table -/
  | closing (handle : Handle) (fd : Nat) (stillOpened : Bool)
  /-- waiting for the last reference to the opened file -/
  | destroying (handle : Handle)
  | closingAll (toFlush toDestroy : List Handle)
  /-- any other operation that holds the update lock of the entry -/
  | updating (entryId : VlobID) (update : Option FileUpdate)
      (next : Option (LocalFileManifest × SyncPhase))
  | syncing (entryId : VlobID) (manifest : LocalFileManifest) (phase : SyncPhase)

structure State where
  newOpenAllowed : Bool
  nextFileDescriptor : Nat
  fileDescriptors : HashMap Nat VlobID
  openedFiles : HashMap VlobID Handle
  files : HashMap Handle OpenedFile
  manifests : HashMap VlobID LocalFileManifest
  locks : HashMap VlobID Holder
  /-- the chunks of the local storage that are not uploaded -/
  chunks : ChunkStore
  /-- the chunks whose block is on the server -/
  uploaded : Finset ChunkID
  tasks : HashMap TaskId Task
  panicked : Bool

/-- A workspace in which nothing is opened yet. -/
def State.start (manifests : HashMap VlobID LocalFileManifest) (chunks : ChunkStore)
    (uploaded : Finset ChunkID) : State :=
  { newOpenAllowed := true, nextFileDescriptor := 1, fileDescriptors := ∅, openedFiles := ∅
    files := ∅, manifests := manifests, locks := ∅, chunks := chunks, uploaded := uploaded
    tasks := ∅, panicked := false }

namespace Task

/-- The entry whose update lock the task holds. -/
def guard : Task → Option VlobID
  | locked entryId _ _ => some entryId
  | joining _ _ updater _ _ => updater.map FileUpdater.entryId
  | updating entryId _ _ => some entryId
  | _ => none

/-- The opened files that the task has a reference to. -/
def handles : Task → List Handle
  | joining handle _ _ _ _ => [handle]
  | operating handle _ _ => [handle]
  | flushing handle _ (.closeAll toFlush toDestroy) => handle :: toFlush ++ toDestroy
  | flushing handle _ _ => [handle]
  | closing handle _ _ => [handle]
  | destroying handle => [handle]
  | closingAll toFlush toDestroy => toFlush ++ toDestroy
  | _ => []

end Task

def AfterFlush.task (handle : Handle) : AfterFlush → Option Task
  | finish => none
  | destroy => some (.destroying handle)
  | closeAll toFlush toDestroy => some (.closingAll toFlush toDestroy)

/-- After the cursor is removed, the file is flushed if that is needed, and destroyed if it is no
    longer opened. -/
def afterClose (stillOpened : Bool) : AfterFlush := if stillOpened then .finish else .destroy

/-- force_reshape_and_flush does nothing unless the flush is needed. -/
def flushOr (f : OpenedFile) (handle : Handle) (after : AfterFlush) : Option Task :=
  if f.flushNeeded then some (.flushing handle 0 after) else after.task handle

namespace State

def setTask (s : State) (t : TaskId) (task : Option Task) : State :=
  { s with
    tasks := match task with
      | some task => s.tasks.insert t task
      | none => s.tasks.erase t }

def setFile (s : State) (handle : Handle) (f : OpenedFile) : State :=
  { s with files := s.files.insert handle f }

def lock (s : State) (entryId : VlobID) (holder : Holder) : State :=
  { s with locks := s.locks.insert entryId holder }

def unlock (s : State) (entryId : VlobID) : State := { s with locks := s.locks.erase entryId }

/-- The updater of an open goes with the write mode; else the lock is released at once. -/
def keepOrUnlock (s : State) (options : OpenOptions) (entryId : VlobID) (holder : Holder) : State :=
  { s with
    locks := if options.write then s.locks.insert entryId holder else s.locks.erase entryId }

/-- The updater that a task may have goes to the opened file. -/
def handOver (s : State) (updater : Option FileUpdater) (entryId : VlobID) (handle : Handle) : State :=
  { s with locks := if updater.isSome then s.locks.insert entryId (.file handle) else s.locks }

/-- A new file descriptor for the entry. -/
def addDescriptor (s : State) (entryId : VlobID) : State :=
  { s with
    fileDescriptors := s.fileDescriptors.insert s.nextFileDescriptor entryId
    nextFileDescriptor := s.nextFileDescriptor + 1 }

/-- The first part of fd_close: the last file descriptor of an entry takes the opened file out of
    the table. -/
def removeDescriptor (s : State) (fd : Nat) (entryId : VlobID) : State × Bool :=
  let fileDescriptors := s.fileDescriptors.erase fd
  let stillOpened : Bool := decide (Holds fileDescriptors entryId)
  ({ s with
    fileDescriptors := fileDescriptors
    openedFiles := if stillOpened then s.openedFiles else s.openedFiles.erase entryId },
   stillOpened)

/-- The opened file is destroyed and its updater is closed. -/
def destroy (s : State) (handle : Handle) (f : OpenedFile) : State :=
  { s with
    files := s.files.erase handle
    locks := match f.updater with
      | some updater => s.locks.erase updater.entryId
      | none => s.locks }

def storeFile (s : State) (entryId : VlobID) (m : LocalFileManifest) (chunks : ChunkStore) : State :=
  { s with manifests := s.manifests.insert entryId m, chunks := chunks }

/-- The mutex of an opened file is only held across steps by a flush. -/
def MutexFree (s : State) (handle : Handle) : Prop :=
  ∀ t block after, s.tasks.lookup t ≠ some (.flushing handle block after)

/-- The task has the only reference to the opened file. -/
def SoleOwner (s : State) (t : TaskId) (handle : Handle) : Prop :=
  (∀ entryId, s.openedFiles.lookup entryId ≠ some handle) ∧
    ∀ t' task, t' ≠ t → s.tasks.lookup t' = some task → handle ∉ task.handles

end State

def OpenOptions.updater (options : OpenOptions) (entryId : VlobID) : Option FileUpdater :=
  if options.write then some ⟨entryId⟩ else none

/-- Steps that only change the task: what it was, and what it becomes. -/
inductive TaskStep (s : State) : Option Task → Option Task → Prop where
  | openFile (entryId options) : TaskStep s none (some (.opening entryId options))
  | wouldBlock {entryId options holder} : s.locks.lookup entryId = some holder →
      TaskStep s (some (.opening entryId options)) (some (.wouldBlock entryId options))
  | openError {entryId options} : TaskStep s (some (.opening entryId options)) none
  | openStopped {entryId options} : s.newOpenAllowed = false →
      TaskStep s (some (.wouldBlock entryId options)) none
  | openRetry {entryId options} : s.newOpenAllowed = true → s.openedFiles.lookup entryId = none →
      TaskStep s (some (.wouldBlock entryId options)) (some (.opening entryId options))
  | useFile {fd entryId handle} (operation) : s.fileDescriptors.lookup fd = some entryId →
      s.openedFiles.lookup entryId = some handle →
      TaskStep s none (some (.operating handle fd operation))
  -- a bad file descriptor, no write mode, or nothing to do
  | useNothing {handle fd operation} : TaskStep s (some (.operating handle fd operation)) none
  | flushError {handle block after} :
      TaskStep s (some (.flushing handle block after)) (after.task handle)
  | cursorMissing {handle fd stillOpened f} : s.MutexFree handle →
      s.files.lookup handle = some f → f.cursorOf fd = none →
      TaskStep s (some (.closing handle fd stillOpened)) none
  | closeAllFlush {handle toFlush toDestroy f} : s.MutexFree handle →
      s.files.lookup handle = some f →
      TaskStep s (some (.closingAll (handle :: toFlush) toDestroy))
        (flushOr f handle (.closeAll toFlush toDestroy))
  | closeAllDone : TaskStep s (some (.closingAll [] [])) none
  -- move_entry_different_parents
  | reparent {entryId m} (dstParentId now) : s.manifests.lookup entryId = some m →
      TaskStep s (some (.updating entryId none none)) (some (.updating entryId
        (some ⟨{ m with parent := dstParentId, updated := now, needSync := true }, [], ∅⟩) none))
  -- outbound_sync_child: the snapshot, taken under the lock
  | retrieve {entryId m} : s.manifests.lookup entryId = some m → m.needSync = true →
      TaskStep s (some (.updating entryId none none))
        (some (.updating entryId none (some (m, .reshaping))))
  | reshaped {entryId m fromData found id} :
      doNextReshapeOperation fromData found id m = .ok none →
      TaskStep s (some (.syncing entryId m .reshaping))
        (some (.syncing entryId m (.uploading m.blocks)))
  -- upload_blocks: what is not in the local storage has been uploaded
  | blockUploaded {entryId m v access rest} : v.access = some access →
      access.id = BlockID.ofChunkID v.id → s.chunks v.id = none →
      TaskStep s (some (.syncing entryId m (.uploading ([v] :: rest))))
        (some (.syncing entryId m (.uploading rest)))
  | blockRead {entryId m v access rest data} : v.access = some access →
      access.id = BlockID.ofChunkID v.id → s.chunks v.id = some data →
      TaskStep s (some (.syncing entryId m (.uploading ([v] :: rest))))
        (some (.syncing entryId m (.sending v rest)))
  | blocksUploaded {entryId m} : TaskStep s (some (.syncing entryId m (.uploading [])))
      (some (.syncing entryId m .reshapedAndUploaded))
  -- upload_manifest may have to update the timestamp before the server accepts the manifest
  | manifestUploaded {entryId m author timestamp remote} (accepted : DateTime) :
      m.toRemote author timestamp = .ok (.ok remote) →
      TaskStep s (some (.syncing entryId m .reshapedAndUploaded))
        (some (.syncing entryId m (.accepted { remote with timestamp := accepted })))
  -- an error, a conflict, a failed sanity check, or the entry is busy
  | syncEnds {entryId m phase} : TaskStep s (some (.syncing entryId m phase)) none

/-- The steps of a task. -/
inductive Step (fromData : List Byte → HashDigest) : State → TaskId → State → Prop where
  | task {s t old new} : s.tasks.lookup t = old → TaskStep s old new →
      Step fromData s t (s.setTask t new)
  -- for_update_file
  | lockFile {s t entryId options m} : s.tasks.lookup t = some (.opening entryId options) →
      s.locks.lookup entryId = none → s.manifests.lookup entryId = some m →
      Step fromData s t
        ((s.lock entryId (.task t)).setTask t (some (.locked entryId options m)))
  -- the workspace has stopped, the manifest cannot be fetched or is not the one of a file
  | openAborts {s t entryId options m} : s.tasks.lookup t = some (.locked entryId options m) →
      Step fromData s t ((s.unlock entryId).setTask t none)
  | openNew {s t entryId options m handle now f} :
      s.tasks.lookup t = some (.locked entryId options m) → s.newOpenAllowed = true →
      s.openedFiles.lookup entryId = none → s.files.lookup handle = none →
      OpenedFile.opened entryId m (options.updater entryId) (options.cursor s.nextFileDescriptor)
        options.truncate now = .ok f →
      Step fromData s t (({ s with openedFiles := s.openedFiles.insert entryId handle }.addDescriptor
        entryId |>.setFile handle f |>.keepOrUnlock options entryId (.file handle)).setTask t none)
  | openAgain {s t entryId options m handle} :
      s.tasks.lookup t = some (.locked entryId options m) → s.newOpenAllowed = true →
      s.openedFiles.lookup entryId = some handle →
      Step fromData s t (((s.addDescriptor entryId).keepOrUnlock options entryId (.task t)).setTask t
        (some (.joining handle entryId (options.updater entryId)
          (options.cursor s.nextFileDescriptor) options.truncate)))
  | openBlocked {s t entryId options handle} :
      s.tasks.lookup t = some (.wouldBlock entryId options) → s.newOpenAllowed = true →
      s.openedFiles.lookup entryId = some handle →
      Step fromData s t ((s.addDescriptor entryId).setTask t (some (.joining handle entryId none
        (options.cursor s.nextFileDescriptor) options.truncate)))
  | join {s t handle entryId updater cursor truncate now f f'} :
      s.tasks.lookup t = some (.joining handle entryId updater cursor truncate) →
      s.MutexFree handle → s.files.lookup handle = some f →
      f.join updater cursor truncate now = .ok f' →
      Step fromData s t (((s.handOver updater entryId handle).setFile handle f').setTask t none)
  | joinPanics {s t handle entryId updater cursor truncate f} :
      s.tasks.lookup t = some (.joining handle entryId updater cursor truncate) →
      s.MutexFree handle → s.files.lookup handle = some f →
      f.updater.isSome = true → updater.isSome = true →
      Step fromData s t ({ s with panicked := true }.setTask t none)
  | perform {s t handle fd operation f cursor f' flush} :
      s.tasks.lookup t = some (.operating handle fd operation) →
      s.MutexFree handle → s.files.lookup handle = some f →
      f.cursorOf fd = some cursor → cursor.writeMode = .allowed → operation.Fresh f →
      f.perform operation = .ok (f', flush) →
      Step fromData s t ((s.setFile handle f').setTask t
        (if flush then flushOr f' handle .finish else none))
  | reshapeSlot {s t handle block after f f' id} (blocks : ChunkStore) :
      s.tasks.lookup t = some (.flushing handle block after) → s.files.lookup handle = some f →
      block < f.manifest.blocks.length → id ∉ chunkIds f.manifest → id ∉ f.removedChunks →
      f.reshapeSlot fromData (fun id => (s.chunks id).or (blocks id)) id block = .ok f' →
      Step fromData s t ((s.setFile handle f').setTask t
        (some (.flushing handle (block + 1) after)))
  | flushStores {s t handle block after f updater} :
      s.tasks.lookup t = some (.flushing handle block after) → s.files.lookup handle = some f →
      f.manifest.blocks.length ≤ block → f.updater = some updater →
      Step fromData s t (((s.storeFile updater.entryId f.manifest (f.transaction s.chunks)).setFile
        handle f.afterFlush).setTask t (after.task handle))
  | flushPanics {s t handle block after f} :
      s.tasks.lookup t = some (.flushing handle block after) → s.files.lookup handle = some f →
      f.manifest.blocks.length ≤ block → f.updater = none →
      Step fromData s t ({ s with panicked := true }.setTask t none)
  | close {s t fd entryId handle} : s.tasks.lookup t = none →
      s.fileDescriptors.lookup fd = some entryId → s.openedFiles.lookup entryId = some handle →
      Step fromData s t ((s.removeDescriptor fd entryId).1.setTask t
        (some (.closing handle fd (s.removeDescriptor fd entryId).2)))
  | tablePanics {s t fd entryId} : s.fileDescriptors.lookup fd = some entryId →
      s.openedFiles.lookup entryId = none → Step fromData s t { s with panicked := true }
  | removeCursor {s t handle fd stillOpened f cursor} :
      s.tasks.lookup t = some (.closing handle fd stillOpened) →
      s.MutexFree handle → s.files.lookup handle = some f → f.cursorOf fd = some cursor →
      Step fromData s t ((s.setFile handle (f.removeCursor fd)).setTask t
        (flushOr (f.removeCursor fd) handle (afterClose stillOpened)))
  | destroy {s t handle f} : s.tasks.lookup t = some (.destroying handle) →
      s.SoleOwner t handle → s.files.lookup handle = some f →
      Step fromData s t ((s.destroy handle f).setTask t none)
  | closeAll {s t handles} : s.tasks.lookup t = none →
      handles.toFinset = s.openedFiles.values → handles.Nodup →
      Step fromData s t ({ s with fileDescriptors := ∅, openedFiles := ∅ }.setTask t
        (some (.closingAll handles handles)))
  | closeAllDestroy {s t handle toDestroy f} :
      s.tasks.lookup t = some (.closingAll [] (handle :: toDestroy)) →
      s.SoleOwner t handle → handle ∉ toDestroy → s.files.lookup handle = some f →
      Step fromData s t ((s.destroy handle f).setTask t (some (.closingAll [] toDestroy)))
  | stop {s t} : Step fromData s t { s with newOpenAllowed := false }
  -- any updater but the one of a file to open
  | lockEntry {s t} (entryId) : s.tasks.lookup t = none → s.locks.lookup entryId = none →
      Step fromData s t
        ((s.lock entryId (.task t)).setTask t (some (.updating entryId none none)))
  | inbound {s t entryId m localAuthor now remote merged} :
      s.tasks.lookup t = some (.updating entryId none none) →
      s.openedFiles.lookup entryId = none → s.manifests.lookup entryId = some m →
      inboundFile localAuthor now m remote = .ok (some merged) →
      Step fromData s t ({ s with uploaded := s.uploaded ∪ blockIds remote }.setTask t
        (some (.updating entryId (some ⟨merged, [], ∅⟩) none)))
  | storeUpdate {s t entryId update next} :
      s.tasks.lookup t = some (.updating entryId (some update) next) →
      Step fromData s t (((s.storeFile entryId update.manifest
        (update.transaction s.chunks)).unlock entryId).setTask t
        (next.map fun (m, phase) => .syncing entryId m phase))
  | release {s t entryId next} : s.tasks.lookup t = some (.updating entryId none next) →
      Step fromData s t ((s.unlock entryId).setTask t
        (next.map fun (m, phase) => .syncing entryId m phase))
  | updateFails {s t entryId update next} :
      s.tasks.lookup t = some (.updating entryId update next) →
      Step fromData s t ((s.unlock entryId).setTask t none)
  -- do_next_reshape_operation: the manifest has not changed since it was retrieved
  | reshapeEntry {s t entryId m found id update} :
      s.tasks.lookup t = some (.syncing entryId m .reshaping) →
      doNextReshapeOperation fromData found id m = .ok (some update) → id ∉ chunkIds m →
      s.locks.lookup entryId = none → s.manifests.lookup entryId = some m →
      Step fromData s t ((s.lock entryId (.task t)).setTask t
        (some (.updating entryId (some update) (some (update.manifest, .reshaping)))))
  | sendBlock {s t entryId m v rest} :
      s.tasks.lookup t = some (.syncing entryId m (.sending v rest)) →
      Step fromData s t ({ s with uploaded := insert v.id s.uploaded }.setTask t
        (some (.syncing entryId m (.promoting v rest))))
  | promoteBlock {s t entryId m v rest} :
      s.tasks.lookup t = some (.syncing entryId m (.promoting v rest)) →
      Step fromData s t ({ s with chunks := s.chunks.removeAll {v.id} }.setTask t
        (some (.syncing entryId m (.uploading rest))))
  -- the last part of outbound_sync_file, again if the manifest has not changed
  | acknowledge {s t entryId m remote m'} :
      s.tasks.lookup t = some (.syncing entryId m (.accepted remote)) →
      s.locks.lookup entryId = none → s.manifests.lookup entryId = some m →
      LocalFileManifest.fromRemote remote = .ok m' →
      Step fromData s t ((s.lock entryId (.task t)).setTask t
        (some (.updating entryId (some ⟨m', [], ∅⟩) none)))

end ParsecCloud

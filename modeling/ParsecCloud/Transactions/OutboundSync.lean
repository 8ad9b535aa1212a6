import ParsecCloud.Folder.Acknowledged
import ParsecCloud.Store.UpdateLocks
import ParsecCloud.Transactions.InboundConflict
import ParsecCloud.Workspace.BlockUpload
import Mathlib.Logic.Function.Basic

/- The outbound sync of an entry (transactions/outbound_sync.rs) among the other operations on it.
   The update lock is not held while the manifest is uploaded: it is taken again each time the
   manifest is to be replaced, and the manifest is compared by its pointer with the one that the
   sync works on. An operation that updates the entry takes its lock, and stores manifests of its
   own in the storage and then in the cache. -/
namespace ParsecCloud
open Rust LocalFolderManifest

/-- Copies of an Arc have the same pointer. -/
structure Arc (α : Type) where
  pointer : Nat
  value : α

inductive ArcLocalChildManifest where
  | file (manifest : Arc LocalFileManifest)
  | folder (manifest : Arc LocalFolderManifest)

namespace ArcLocalChildManifest

def pointer : ArcLocalChildManifest → Nat
  | file manifest => manifest.pointer
  | folder manifest => manifest.pointer

def manifest : ArcLocalChildManifest → LocalChildManifest
  | file manifest => .file manifest.value
  | folder manifest => .folder manifest.value

/-- A manifest put at an address. -/
def new (pointer : Nat) : LocalChildManifest → ArcLocalChildManifest
  | .file manifest => file ⟨pointer, manifest⟩
  | .folder manifest => folder ⟨pointer, manifest⟩

@[simp] theorem pointer_new (pointer : Nat) (manifest : LocalChildManifest) :
    (new pointer manifest).pointer = pointer := by
  cases manifest with
  | file manifest => rfl
  | folder manifest => rfl

@[simp] theorem manifest_new (pointer : Nat) (manifest : LocalChildManifest) :
    (new pointer manifest).manifest = manifest := by
  cases manifest with
  | file manifest => rfl
  | folder manifest => rfl

end ArcLocalChildManifest

def fileHasChanged (original new : Arc LocalFileManifest) : Bool :=
  original.pointer != new.pointer || original.value != new.value

def folderHasChanged (original new : Arc LocalFolderManifest) : Bool :=
  original.pointer != new.pointer || original.value != new.value

/-- A manifest is only written, and only read back, when it passes its checks. -/
def LocalChildManifest.Dumps : LocalChildManifest → Prop
  | file manifest => manifest.checkDataIntegrity = .ok (.ok ())
  | folder _ => True

def LocalChildManifest.needSync : LocalChildManifest → Bool
  | file manifest => manifest.needSync
  | folder manifest => manifest.needSync

inductive OutboundSyncOutcome where
  | done
  | inboundSyncNeeded
  | entryIsBusy
  | entryIsUnreachable
  | entryIsConfined (confinementPoint : VlobID) (entryChain : List VlobID)

inductive OutboundSyncFailure where
  | sync (error : WorkspaceSyncError)
  | upload (error : UploadError)
  | panicked (panic : Panic)

/-- A local manifest and what is uploaded of it. A folder goes with the clock at which it has been
    made a remote one, which may not be the timestamp it is accepted with. -/
inductive ManifestUpload where
  | file (localManifest : Arc LocalFileManifest) (remote : FileManifest)
  | folder (localManifest : Arc LocalFolderManifest) (remote : FolderManifest) (timestamp : DateTime)

/-- The device, its pattern and the digest of its blocks. -/
structure OutboundContext where
  deviceId : DeviceID
  preventSyncPattern : PreventSyncPattern
  fromData : List Byte → HashDigest

namespace ManifestUpload

def localManifest : ManifestUpload → ArcLocalChildManifest
  | file localManifest _ => .file localManifest
  | folder localManifest _ _ => .folder localManifest

def remote : ManifestUpload → ChildManifest
  | file _ remote => .file remote
  | folder _ remote _ => .folder remote

def updateTimestamp (timestamp : DateTime) : ManifestUpload → ManifestUpload
  | file localManifest remote => file localManifest { remote with timestamp := timestamp }
  | folder localManifest remote now => folder localManifest { remote with timestamp := timestamp } now

/-- The manifest that takes the place of the local one, once the server has accepted the remote. -/
def localFromRemote (context : OutboundContext) (orders : FolderOrders) :
    ManifestUpload → Checked LocalChildManifest
  | file _ remote => do return .file (← LocalFileManifest.fromRemote remote)
  | folder localManifest remote timestamp => do
    return .folder (← fromRemoteWithRestoredLocalConfinementPoints orders remote
      context.preventSyncPattern localManifest.value timestamp)

/-- The upload is what to_remote gives, but for the timestamp. -/
def IsToRemote (context : OutboundContext) : ManifestUpload → Prop
  | file localManifest remote => ∃ timestamp upload,
      localManifest.value.toRemote context.deviceId timestamp = .ok (.ok upload) ∧
        remote = { upload with timestamp := remote.timestamp }
  | folder localManifest remote timestamp => ∃ orders,
      remote = { localManifest.value.toRemote orders context.deviceId timestamp with
        timestamp := remote.timestamp }

end ManifestUpload

/-- Where a sync stands. It holds the update lock of the entry while it retrieves, and from the time
    a phase is locked until what it has stored is in the cache. -/
inductive OutboundPhase where
  | retrieving (entry : Except OutboundSyncOutcome ArcLocalChildManifest)
  | retrieved (localManifest : ArcLocalChildManifest)
  | reshaping (manifest : Arc LocalFileManifest)
  | reshaped (original : Arc LocalFileManifest) (update : FileUpdate)
  | reshapeLocked (original : Arc LocalFileManifest) (update : FileUpdate)
  | reshapeStored (manifest : Arc LocalFileManifest)
  | uploadingBlocks (manifest : Arc LocalFileManifest) (blocks : List (List ChunkView))
  | uploadingManifest (upload : ManifestUpload)
  | acknowledging (upload : ManifestUpload)
  | acknowledgeLocked (upload : ManifestUpload)
  | acknowledgeStored (localFromRemote : ArcLocalChildManifest)
  | finished (outcome : Except OutboundSyncFailure OutboundSyncOutcome)

/-- A task is one call: an outbound sync, or another operation that updates the entry, with the
    manifest it has stored and not put in the cache yet. -/
inductive OutboundTask where
  | idle
  | sync (phase : OutboundPhase)
  | updating (pending : Option ArcLocalChildManifest)

inductive OutboundEvent where
  | snapshot (localManifest : ArcLocalChildManifest)
  | accepted (remote : ChildManifest)
  | wrote (manifest : LocalChildManifest)
  | acknowledged (seen : Option ArcLocalChildManifest) (replaced : Option LocalChildManifest)
      (manifest : LocalChildManifest)
  | other

/-- The event stores a manifest of the entry. -/
def OutboundEvent.Stores : OutboundEvent → Prop
  | wrote _ => True
  | acknowledged _ _ _ => True
  | _ => False

namespace OutboundPhase

/-- What the sync holds of the entry at an await point, where an error may end it. -/
def awaits : OutboundPhase → Bool
  | retrieved _ => true
  | reshaping _ => true
  | uploadingBlocks _ _ => true
  | uploadingManifest _ => true
  | _ => false

/-- The lock is to be taken again, and the manifest to be compared. -/
def relocks : OutboundPhase → Bool
  | reshaped _ _ => true
  | acknowledging _ => true
  | _ => false

/-- The phase once the lock is taken again, unless the manifest has changed. -/
def relocked (cached : Option ArcLocalChildManifest) : OutboundPhase → Option OutboundPhase
  | reshaped original update =>
    match cached with
    | some (.file refreshed) =>
      if fileHasChanged original refreshed then none else some (reshapeLocked original update)
    | _ => none
  | acknowledging (.file original remote) =>
    match cached with
    | some (.file refreshed) =>
      if fileHasChanged original refreshed then none
      else some (acknowledgeLocked (.file original remote))
    | _ => none
  | acknowledging (.folder original remote timestamp) =>
    match cached with
    | some (.folder refreshed) =>
      if folderHasChanged original refreshed then none
      else some (acknowledgeLocked (.folder original remote timestamp))
    | _ => none
  | _ => none

/-- The lock that is taken again is held, and nothing is stored yet. -/
def holdsUnstored : OutboundPhase → Bool
  | reshapeLocked _ _ => true
  | acknowledgeLocked _ => true
  | _ => false

/-- The steps of a sync on its own: without the lock, and with nothing changed in the entry. -/
inductive Moves (context : OutboundContext) :
    UploadStorage → OutboundPhase → OutboundEvent → UploadStorage → OutboundPhase → Prop where
  | failed {s phase} (error : WorkspaceSyncError) : phase.awaits = true →
      Moves context s phase .other s (.finished (.error (.sync error)))
  | notNeeded {s m} : m.manifest.needSync = false →
      Moves context s (.retrieved m) .other s (.finished (.ok .done))
  | syncFile {s m} : m.value.needSync = true →
      Moves context s (.retrieved (.file m)) .other s (.reshaping m)
  | syncFolder {s m} (orders : FolderOrders) (timestamp : DateTime) : m.value.needSync = true →
      Moves context s (.retrieved (.folder m)) .other s (.uploadingManifest
        (.folder m (m.value.toRemote orders context.deviceId timestamp) timestamp))
  | reshape {s m found id update} : s.ReadAs found → id ∉ chunkIds m.value →
      doNextReshapeOperation context.fromData found id m.value = .ok (some update) →
      Moves context s (.reshaping m) .other s (.reshaped m update)
  | reshapePanics {s m found id panic} :
      doNextReshapeOperation context.fromData found id m.value = .error panic →
      Moves context s (.reshaping m) .other s (.finished (.error (.panicked panic)))
  | alreadyReshaped {s m found id} :
      doNextReshapeOperation context.fromData found id m.value = .ok none →
      Moves context s (.reshaping m) .other s (.uploadingBlocks m m.value.blocks)
  | uploadBlock {s s' m block rest} (answer : BlockID → Except UploadError BlockCreateRep) :
      uploadBlock answer s block = .ok (.ok s') →
      Moves context s (.uploadingBlocks m (block :: rest)) .other s' (.uploadingBlocks m rest)
  | blockRefused {s m block rest error} (answer : BlockID → Except UploadError BlockCreateRep) :
      uploadBlock answer s block = .ok (.error error) →
      Moves context s (.uploadingBlocks m (block :: rest)) .other s
        (.finished (.error (.upload error)))
  | blockPanics {s m block rest panic} (answer : BlockID → Except UploadError BlockCreateRep) :
      uploadBlock answer s block = .error panic →
      Moves context s (.uploadingBlocks m (block :: rest)) .other s
        (.finished (.error (.panicked panic)))
  | blocksUploaded {s m timestamp remote} :
      m.value.toRemote context.deviceId timestamp = .ok (.ok remote) →
      Moves context s (.uploadingBlocks m []) .other s (.uploadingManifest (.file m remote))
  | toRemotePanics {s m timestamp panic} :
      (m.value.toRemote context.deviceId timestamp >>= fun remote => expectSome "Already reshaped"
        (Except.toOption remote)) = .error panic →
      Moves context s (.uploadingBlocks m []) .other s (.finished (.error (.panicked panic)))
  | tryAgain {s upload} (timestamp : DateTime) :
      Moves context s (.uploadingManifest upload) .other s
        (.uploadingManifest (upload.updateTimestamp timestamp))
  | versionConflict {s upload} :
      Moves context s (.uploadingManifest upload) .other s (.finished (.ok .inboundSyncNeeded))
  | accepted {s upload} :
      Moves context s (.uploadingManifest upload) (.accepted upload.remote) s (.acknowledging upload)

end OutboundPhase

/-- What a sync finds of the entry, whose lock it has just taken. -/
inductive Retrieves (cached : Option ArcLocalChildManifest) :
    OutboundEvent → Except OutboundSyncOutcome ArcLocalChildManifest → Prop where
  | missing : cached = none → Retrieves cached .other (.error .done)
  | unreachable {m} : cached = some m → Retrieves cached .other (.error .entryIsUnreachable)
  | confined {m} (point : VlobID) (entryChain : List VlobID) : cached = some m →
      Retrieves cached .other (.error (.entryIsConfined point entryChain))
  | reachable {m} : cached = some m → Retrieves cached (.snapshot m) (.ok m)

def afterRetrieval : Except OutboundSyncOutcome ArcLocalChildManifest → OutboundPhase
  | .error outcome => .finished (.ok outcome)
  | .ok localManifest => .retrieved localManifest

namespace OutboundTask

/-- The task holds the update lock. -/
def locks : OutboundTask → Bool
  | sync (.retrieving _) => true
  | sync (.reshapeLocked _ _) => true
  | sync (.reshapeStored _) => true
  | sync (.acknowledgeLocked _) => true
  | sync (.acknowledgeStored _) => true
  | updating _ => true
  | _ => false

/-- The manifest that the task has stored and not put in the cache yet. -/
def pending : OutboundTask → Option ArcLocalChildManifest
  | sync (.reshapeStored manifest) => some (.file manifest)
  | sync (.acknowledgeStored localFromRemote) => some localFromRemote
  | updating pending => pending
  | _ => none

/-- The manifest that the sync works on, and keeps alive. -/
def snapshot : OutboundTask → Option ArcLocalChildManifest
  | sync (.retrieving (.ok localManifest)) => some localManifest
  | sync (.retrieved localManifest) => some localManifest
  | sync (.reshaping manifest) => some (.file manifest)
  | sync (.reshaped original _) => some (.file original)
  | sync (.reshapeLocked original _) => some (.file original)
  | sync (.uploadingBlocks manifest _) => some (.file manifest)
  | sync (.uploadingManifest upload) => some upload.localManifest
  | sync (.acknowledging upload) => some upload.localManifest
  | sync (.acknowledgeLocked upload) => some upload.localManifest
  | _ => none

end OutboundTask

/-- One entry of a workspace with its update lock, and who works on it. -/
structure OutboundSystem where
  entryId : VlobID
  locks : UpdateLocks
  cached : Option ArcLocalChildManifest
  stored : Option LocalChildManifest
  storage : UploadStorage
  tasks : Nat → OutboundTask

namespace OutboundSystem

def setTask (s : OutboundSystem) (t : Nat) (task : OutboundTask) : OutboundSystem :=
  { s with tasks := Function.update s.tasks t task }

/-- The address is in use: nothing else is put there. -/
def Live (s : OutboundSystem) (pointer : Nat) : Prop :=
  (∃ manifest, s.cached = some manifest ∧ manifest.pointer = pointer) ∨
    ∃ t manifest, ((s.tasks t).pending = some manifest ∨ (s.tasks t).snapshot = some manifest) ∧
      manifest.pointer = pointer

end OutboundSystem

/-- The steps of the tasks. An operation that updates the entry stores what it likes, any number of
    times, with the chunks it likes: a file that is opened, a folder whose children change, a
    reparenting, an inbound sync or another outbound sync. A manifest that is stored is at an address
    of its own, as it has been made by Arc::new or by Arc::make_mut. -/
inductive OutboundStep (context : OutboundContext) :
    OutboundSystem → Nat × OutboundEvent → OutboundSystem → Prop where
  -- for_update_sync, which does not wait
  | retrieve {s t guard locks event entry} : s.tasks t = .idle →
      s.locks.take s.entryId = (.taken guard, locks) → Retrieves s.cached event entry →
      OutboundStep context s (t, event) ({ s with locks := locks }.setTask t
        (.sync (.retrieving entry)))
  | retrieveBusy {s t event locks} : s.tasks t = .idle →
      s.locks.take s.entryId = (.needWait event, locks) →
      OutboundStep context s (t, .other) ({ s with locks := locks }.setTask t
        (.sync (.finished (.ok .entryIsBusy))))
  | retrieveFailed {s t} (error : WorkspaceSyncError) : s.tasks t = .idle →
      OutboundStep context s (t, .other) (s.setTask t (.sync (.finished (.error (.sync error)))))
  | retrieved {s t entry locks} : s.tasks t = .sync (.retrieving entry) →
      s.locks.release ⟨s.entryId⟩ = .ok locks →
      OutboundStep context s (t, .other) ({ s with locks := locks }.setTask t
        (.sync (afterRetrieval entry)))
  | move {s t phase event storage phase'} : s.tasks t = .sync phase →
      phase.Moves context s.storage event storage phase' →
      OutboundStep context s (t, event) ({ s with storage := storage }.setTask t (.sync phase'))
  -- for_update_sync_local_only
  | relock {s t phase phase' guard locks} : s.tasks t = .sync phase →
      s.locks.tryTake s.entryId = (some guard, locks) → phase.relocked s.cached = some phase' →
      OutboundStep context s (t, .other) ({ s with locks := locks }.setTask t (.sync phase'))
  | relockChanged {s t phase guard locks locks'} : s.tasks t = .sync phase → phase.relocks = true →
      s.locks.tryTake s.entryId = (some guard, locks) → phase.relocked s.cached = none →
      locks.release guard = .ok locks' →
      OutboundStep context s (t, .other) ({ s with locks := locks' }.setTask t
        (.sync (.finished (.ok .entryIsBusy))))
  | relockBusy {s t phase locks} : s.tasks t = .sync phase → phase.relocks = true →
      s.locks.tryTake s.entryId = (none, locks) →
      OutboundStep context s (t, .other) ({ s with locks := locks }.setTask t
        (.sync (.finished (.ok .entryIsBusy))))
  | relockFailed {s t phase guard locks locks'} (error : WorkspaceSyncError) :
      s.tasks t = .sync phase → phase.relocks = true → s.cached = none →
      s.locks.tryTake s.entryId = (some guard, locks) → locks.release guard = .ok locks' →
      OutboundStep context s (t, .other) ({ s with locks := locks' }.setTask t
        (.sync (.finished (.error (.sync error)))))
  -- the storage, then the cache
  | storeReshaped {s t original update pointer} : s.tasks t = .sync (.reshapeLocked original update) →
      (LocalChildManifest.file update.manifest).Dumps → ¬ s.Live pointer →
      OutboundStep context s (t, .wrote (.file update.manifest))
        ({ s with
          stored := some (.file update.manifest)
          storage := { s.storage with chunks := update.transaction s.storage.chunks } }.setTask t
            (.sync (.reshapeStored ⟨pointer, update.manifest⟩)))
  | storeAcknowledged {s t upload orders manifest pointer} :
      s.tasks t = .sync (.acknowledgeLocked upload) →
      upload.localFromRemote context orders = .ok manifest → manifest.Dumps → ¬ s.Live pointer →
      OutboundStep context s (t, .acknowledged s.cached s.stored manifest)
        ({ s with stored := some manifest }.setTask t
          (.sync (.acknowledgeStored (.new pointer manifest))))
  | storeFailed {s t phase locks} (failure : OutboundSyncFailure) : s.tasks t = .sync phase →
      phase.holdsUnstored = true → s.locks.release ⟨s.entryId⟩ = .ok locks →
      OutboundStep context s (t, .other) ({ s with locks := locks }.setTask t
        (.sync (.finished (.error failure))))
  | cacheReshaped {s t manifest locks} : s.tasks t = .sync (.reshapeStored manifest) →
      s.locks.release ⟨s.entryId⟩ = .ok locks →
      OutboundStep context s (t, .snapshot (.file manifest))
        ({ s with locks := locks, cached := some (.file manifest) }.setTask t
          (.sync (.reshaping manifest)))
  | cacheAcknowledged {s t manifest locks} : s.tasks t = .sync (.acknowledgeStored manifest) →
      s.locks.release ⟨s.entryId⟩ = .ok locks →
      OutboundStep context s (t, .other)
        ({ s with locks := locks, cached := some manifest }.setTask t
          (.sync (.finished (.ok .done))))
  -- the other operations
  | lock {s t guard locks} : s.tasks t = .idle →
      s.locks.take s.entryId = (.taken guard, locks) →
      OutboundStep context s (t, .other) ({ s with locks := locks }.setTask t (.updating none))
  | wait {s t event locks} : s.tasks t = .idle →
      s.locks.take s.entryId = (.needWait event, locks) →
      OutboundStep context s (t, .other) { s with locks := locks }
  | update {s t pointer} (manifest : LocalChildManifest) (storage : UploadStorage) :
      s.tasks t = .updating none → manifest.id = s.entryId → manifest.Dumps → ¬ s.Live pointer →
      OutboundStep context s (t, .wrote manifest)
        ({ s with stored := some manifest, storage := storage }.setTask t
          (.updating (some (.new pointer manifest))))
  | updated {s t manifest} : s.tasks t = .updating (some manifest) →
      OutboundStep context s (t, .other)
        ({ s with cached := some manifest }.setTask t (.updating none))
  | unlock {s t locks} : s.tasks t = .updating none → s.locks.release ⟨s.entryId⟩ = .ok locks →
      OutboundStep context s (t, .other) ({ s with locks := locks }.setTask t .idle)
  -- a manifest that is read for the first time, from the storage or from the server
  | populate {s t pointer} (manifest : LocalChildManifest) : s.cached = none →
      s.stored = none ∨ s.stored = some manifest → manifest.Dumps → ¬ s.Live pointer →
      OutboundStep context s (t, .other)
        { s with cached := some (.new pointer manifest), stored := some manifest }

end ParsecCloud

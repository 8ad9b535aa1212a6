import ParsecCloud.Certif.CacheRuns
import ParsecCloud.Certif.KeyRotations

/- poll_server_for_new_certificates (client, certif/poll.rs) among other users of the store. A
   task is cut where it waits: for the update lock, for the store, for the server. for_read and
   for_write both hold the storage for the time of their callback. -/
namespace ParsecCloud.Certif
open Rust HashMap Storage Runs Samples

abbrev TaskId := Nat

inductive PollPhase where
  /-- waiting for the update lock -/
  | starting
  /-- at the head of the loop, waiting for the store -/
  | toRead
  /-- in the callback of for_read -/
  | reading
  | requesting (lastStoredTimestamps : PerTopicLastTimestamps)
  /-- the server has answered, waiting for the store -/
  | toWrite (newCertificates : Batch)
  /-- in the callback of for_write -/
  | writing (newCertificates : Batch)

inductive Task where
  | poll (requirements : Option PerTopicLastTimestamps) (phase : PollPhase)
  /-- any other for_read, waiting for the store -/
  | toRead
  | reading

structure PollState where
  store : Store
  /-- the task in a callback of for_read or for_write -/
  storeLock : Option TaskId
  updateLock : Option TaskId
  tasks : TaskId → Option Task

namespace PollState

def start (store : Store) : PollState := ⟨store, none, none, fun _ => none⟩

def setTask (s : PollState) (t : TaskId) (task : Option Task) : PollState :=
  { s with tasks := Function.update s.tasks t task }

def finish (s : PollState) (t : TaskId) : PollState :=
  { s.setTask t none with updateLock := none }

/-- The callback of the task is over. -/
def leave (s : PollState) (store : Store) : PollState := { s with store := store, storeLock := none }

end PollState

section
variable (device : LocalDevice) (decryptsCanary : KeyDerivation → List Byte → Bool)

inductive TaskStep : PollState → TaskId → PollState → Prop where
  | spawn {s : PollState} {t : TaskId} (requirements : Option PerTopicLastTimestamps) :
      s.tasks t = none → TaskStep s t (s.setTask t (some (.poll requirements .starting)))
  | spawnReader {s : PollState} {t : TaskId} :
      s.tasks t = none → TaskStep s t (s.setTask t (some .toRead))
  | lockUpdate {s : PollState} {t : TaskId} {requirements : Option PerTopicLastTimestamps} :
      s.tasks t = some (.poll requirements .starting) → s.updateLock = none →
      TaskStep s t { s.setTask t (some (.poll requirements .toRead)) with updateLock := some t }
  | enterRead {s : PollState} {t : TaskId} {requirements : Option PerTopicLastTimestamps} :
      s.tasks t = some (.poll requirements .toRead) → s.storeLock = none →
      TaskStep s t { s.setTask t (some (.poll requirements .reading)) with storeLock := some t }
  | upToDate {s : PollState} {t : TaskId} {requirements : PerTopicLastTimestamps} :
      s.tasks t = some (.poll (some requirements) .reading) →
      s.store.getLastTimestamps.1.isUpToDate requirements = true →
      TaskStep s t ((s.finish t).leave s.store.getLastTimestamps.2)
  | request {s : PollState} {t : TaskId} {requirements : Option PerTopicLastTimestamps} :
      s.tasks t = some (.poll requirements .reading) →
      (∀ needed, requirements = some needed →
        s.store.getLastTimestamps.1.isUpToDate needed = false) →
      TaskStep s t ((s.setTask t
        (some (.poll requirements (.requesting s.store.getLastTimestamps.1)))).leave
        s.store.getLastTimestamps.2)
  | answer {s : PollState} {t : TaskId} {requirements : Option PerTopicLastTimestamps}
      {last : PerTopicLastTimestamps} (batch : Batch) :
      s.tasks t = some (.poll requirements (.requesting last)) →
      TaskStep s t (s.setTask t (some (.poll requirements (.toWrite batch))))
  | offline {s : PollState} {t : TaskId} {requirements : Option PerTopicLastTimestamps}
      {last : PerTopicLastTimestamps} :
      s.tasks t = some (.poll requirements (.requesting last)) → TaskStep s t (s.finish t)
  | enterWrite {s : PollState} {t : TaskId} {requirements : Option PerTopicLastTimestamps}
      {batch : Batch} :
      s.tasks t = some (.poll requirements (.toWrite batch)) → s.storeLock = none →
      TaskStep s t
        { s.setTask t (some (.poll requirements (.writing batch))) with storeLock := some t }
  | added {s : PollState} {t : TaskId} {requirements : Option PerTopicLastTimestamps}
      {batch : Batch} {count : Nat} {store : Store} :
      s.tasks t = some (.poll requirements (.writing batch)) →
      addCertificatesBatch device batch s.store = .ok (.noSwitch count, store) →
      TaskStep s t ((s.finish t).leave store)
  -- the update lock is kept for the next turn of the loop, the store is not
  | switched {s : PollState} {t : TaskId} {requirements : Option PerTopicLastTimestamps}
      {batch : Batch} {store : Store} :
      s.tasks t = some (.poll requirements (.writing batch)) →
      addCertificatesBatch device batch s.store = .ok (.switched, store) →
      TaskStep s t ((s.setTask t (some (.poll requirements .toRead))).leave store)
  -- a batch is refused or cannot be committed
  | rolledBack {s : PollState} {t : TaskId} {requirements : Option PerTopicLastTimestamps}
      {batch : Batch} :
      s.tasks t = some (.poll requirements (.writing batch)) →
      TaskStep s t ((s.finish t).leave ⟨s.store.storage, .empty⟩)
  | readerEnters {s : PollState} {t : TaskId} : s.tasks t = some .toRead → s.storeLock = none →
      TaskStep s t { s.setTask t (some .reading) with storeLock := some t }
  | readerReads {s : PollState} {t : TaskId} (op : ReaderOp) : s.tasks t = some .reading →
      TaskStep s t { s with store := s.store.readWith device decryptsCanary op }
  | readerLeaves {s : PollState} {t : TaskId} : s.tasks t = some .reading →
      TaskStep s t ((s.setTask t none).leave s.store)

end

/-- The task is in the callback of for_read. -/
def Observes (s : PollState) (t : TaskId) : Prop :=
  s.tasks t = some .reading ∨ ∃ requirements, s.tasks t = some (.poll requirements .reading)

def NeverEmpty (s : PollState) : Prop := ∀ t, Observes s t → s.store.storage ≠ []

/-- A batch about to be written does not change our own profile from or to Outsider. -/
def NoSwitch (device : LocalDevice) (s : PollState) (t : TaskId) : Prop :=
  ∀ requirements batch, s.tasks t = some (.poll requirements (.writing batch)) →
    KeepsRedaction device s.store batch

section Storage
variable {device : LocalDevice} {decryptsCanary : KeyDerivation → List Byte → Bool} {store : Store}

theorem keepStore_storage {ε α : Type} {result : Except ε (α × Store)}
    (same : ∀ a store', result = .ok (a, store') → store'.storage = store.storage) :
    (keepStore store result).storage = store.storage := by
  unfold keepStore
  split
  · exact same _ _ rfl
  · rfl

theorem read_storage (op : ReadOp) : (store.read device op).storage = store.storage := by
  cases op with
  | lastTimestamps => exact getLastTimestamps_storage store
  | selfProfile => exact keepStore_storage fun _ _ read => (getCurrentSelfProfile_read read).1
  | deviceKey upTo id =>
    exact keepStore_storage fun _ _ read => (getDeviceVerifyKeyAndUserId_seen read).storage
  | selfRole id =>
    apply keepStore_storage
    intro role store' read
    unfold Store.getSelfUserRealmRole at read
    split at read
    · cases read
      rfl
    · obtain ⟨certif, _, read⟩ := bind_eq_ok.mp read
      cases certif <;> cases read <;> rfl
  | bootstrapState id =>
    apply keepStore_storage
    intro state store' read
    unfold Store.getRealmBootstrapState at read
    split at read
    · cases read
      rfl
    · obtain ⟨known, _, read⟩ := bind_eq_ok.mp read
      cases read
      rfl

theorem validateKeysBundle_storage {id : VlobID} {keysBundle : EncryptedKeysBundle}
    {access : EncryptedKeysBundleAccess} {certif : RealmKeyRotationCertificate}
    {keyRotations : List RealmKeyRotationCertificate}
    {result : Except LoadLastKeysBundleError RealmKeys} {store' : Store}
    (run : validateKeysBundle decryptsCanary device id keysBundle access certif keyRotations store
      = (result, store')) : store'.storage = store.storage := by
  unfold validateKeysBundle at run
  split at run
  · cases run
    rfl
  · cases run
    rfl
  · split at run
    · cases run
      rfl
    · split at run
      · cases run
        rfl
      · split at run
        · cases run
          rfl
        · cases run
          rfl
        · rename_i lookup
          have same := (getDeviceVerifyKeyAndUserId_seen lookup).storage
          split at run <;> cases run <;> exact same

theorem updateCacheForRealmKeys_storage {id : VlobID} {info : RealmKeys} :
    (store.updateCacheForRealmKeys id info).2.storage = store.storage := by
  unfold Store.updateCacheForRealmKeys
  dsimp only
  split
  · rfl
  · split <;> rfl

theorem loadLastRealmKeysBundle_storage {id : VlobID} {server : VlobID → Nat → KeysBundleRep} :
    (loadLastRealmKeysBundle decryptsCanary device server id store).2.storage = store.storage := by
  unfold loadLastRealmKeysBundle
  split
  · rfl
  · split
    · rfl
    · split
      · rfl
      · split
        · rfl
        · split
          · rfl
          · rfl
          · rfl
          · rfl
          · rfl
          · split
            · rename_i run
              exact validateKeysBundle_storage run
            · rename_i run
              exact updateCacheForRealmKeys_storage.trans (validateKeysBundle_storage run)

theorem readWith_storage (op : ReaderOp) :
    (store.readWith device decryptsCanary op).storage = store.storage := by
  cases op with
  | read op => exact read_storage op
  | realmKeys id server => exact loadLastRealmKeysBundle_storage

end Storage

def NotEmpty (s : PollState) : Prop := s.store.storage ≠ []

theorem step_notEmpty {device : LocalDevice} {decryptsCanary : KeyDerivation → List Byte → Bool}
    {s s' : PollState} {t : TaskId} (keeps : NoSwitch device s t)
    (step : TaskStep device decryptsCanary s t s') (some : NotEmpty s) : NotEmpty s' := by
  unfold NotEmpty at some ⊢
  cases step with
  | upToDate _ _ =>
    rw [PollState.leave, getLastTimestamps_storage]
    exact some
  | request _ _ =>
    rw [PollState.leave, getLastTimestamps_storage]
    exact some
  | added writing run =>
    rw [PollState.leave, addCertificatesBatch_appends (keeps _ _ writing) run]
    exact List.append_ne_nil_of_left_ne_nil some _
  | switched writing run =>
    rw [PollState.leave, addCertificatesBatch_appends (keeps _ _ writing) run]
    exact List.append_ne_nil_of_left_ne_nil some _
  | readerReads op _ =>
    rw [readWith_storage]
    exact some
  | _ => exact some

/-- As long as no batch changes our own profile from or to Outsider, nobody sees an empty
    store. -/
theorem readers_never_see_empty_store {device : LocalDevice}
    {decryptsCanary : KeyDerivation → List Byte → Bool} {store : Store} {s : PollState}
    (some : store.storage ≠ [])
    (run : Run (TaskStep device decryptsCanary) (NoSwitch device) (.start store) s) :
    NeverEmpty s := by
  have kept : NotEmpty s := by
    apply run.keeps
    · exact some
    · intro _ _ _ notEmpty keeps step
      exact step_notEmpty keeps step notEmpty
  exact fun _ _ => kept

namespace Samples

def admins : Storage :=
  [.common (.user aliceUser), .common (.device aliceDevice),
    .common (.user ⟨.user alice1, 2, bob, .admin⟩), .common (.device bobDevice)]

def profileChange (profile : UserProfile) : Batch :=
  batch [.certificate (.userUpdate ⟨bob1, 3, alice, profile⟩) ⟨21⟩] []

end Samples

abbrev AdminsRun (admits : PollState → TaskId → Prop) : PollState → Prop :=
  Run (TaskStep self fun _ _ => true) admits (.start (.start admins))

/-- A poll up to the write of the certificates that the server has sent. -/
theorem writing_run (profile : UserProfile) {admits : PollState → TaskId → Prop}
    (met : ∀ s t, (∀ requirements batch, s.tasks t ≠ some (.poll requirements (.writing batch))) →
      admits s t) :
    ∃ s, AdminsRun admits s ∧
      s.tasks 0 = some (.poll none (.writing (profileChange profile))) ∧
      s.store = (Store.start admins).getLastTimestamps.2 ∧ s.tasks 1 = none := by
  have idle : AdminsRun admits _ := .start
  have spawned := idle.step (met _ 0 nofun) (.spawn none rfl)
  have locked := spawned.step (met _ 0 nofun) (.lockUpdate rfl rfl)
  have reading := locked.step (met _ 0 nofun) (.enterRead rfl rfl)
  have requesting := reading.step (met _ 0 nofun) (.request rfl fun _ impossible => nomatch impossible)
  have answered := requesting.step (met _ 0 nofun) (.answer (profileChange profile) rfl)
  exact ⟨_, answered.step (met _ 0 nofun) (.enterWrite rfl rfl), rfl, rfl, rfl⟩

set_option maxRecDepth 10000 in
/-- Bob makes us a standard user: a for_read sees the certificates and the new one. -/
theorem reader_sees_profile_change : ∃ s, AdminsRun (NoSwitch self) s ∧ Observes s 1 ∧
    s.store.storage = admins ++ (profileChange .standard).arrivals ∧ NeverEmpty s := by
  have elsewhere : ∀ s t, (∀ requirements batch,
      s.tasks t ≠ some (.poll requirements (.writing batch))) → NoSwitch self s t :=
    fun _ _ other requirements batch here => absurd here (other requirements batch)
  obtain ⟨s, writing, task, stored, idle⟩ := writing_run .standard elsewhere
  have keeps : NoSwitch self s 0 := by
    intro requirements batch here
    cases task.symm.trans here
    rw [stored]
    intro profile read
    cases read
    rfl
  obtain ⟨count, store, adds⟩ : ∃ count store, addCertificatesBatch self (profileChange .standard)
      s.store = .ok (.noSwitch count, store) := by
    rw [stored]
    exact ⟨_, _, rfl⟩
  have appended : store.storage = admins ++ (profileChange .standard).arrivals := by
    rw [addCertificatesBatch_appends (keeps _ _ task) adds, stored]
    rfl
  have done := writing.step keeps (.added task adds)
  have waiting := done.step (elsewhere _ 1 fun _ _ here => nomatch idle.symm.trans here)
    (.spawnReader idle)
  have entered := waiting.step (elsewhere _ 1 nofun) (.readerEnters rfl rfl)
  exact ⟨_, entered, .inl rfl, appended, readers_never_see_empty_store (by decide) entered⟩

set_option maxRecDepth 10000 in
/-- Bob makes us an Outsider: a for_read that starts while the poll asks again for all the
    certificates sees none. -/
theorem reader_sees_empty_store : ∃ s, AdminsRun (fun _ _ => True) s ∧ ¬ NeverEmpty s := by
  obtain ⟨s, writing, task, stored, idle⟩ := writing_run .outsider fun _ _ _ => trivial
  have switches : addCertificatesBatch self (profileChange .outsider) s.store
      = .ok (.switched, ⟨[], .empty⟩) := by
    rw [stored]
    rfl
  have emptied := writing.step trivial (.switched task switches)
  have waiting := emptied.step trivial (.spawnReader (t := 1) idle)
  have entered := waiting.step trivial (.readerEnters (t := 1) rfl rfl)
  exact ⟨_, entered, fun never => never 1 (.inl rfl) rfl⟩

end ParsecCloud.Certif

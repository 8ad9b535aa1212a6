import ParsecCloud.Certif.Insertion
import ParsecCloud.Lib.Runs

/- Sequences of for_write and for_read calls on the certificates store. Both hold the storage
   from their start to their end, so that each call is one step. -/
namespace ParsecCloud.Certif
open Rust HashMap GetCertificateQuery Storage

/-- The read methods that use the cache. -/
inductive ReadOp where
  | lastTimestamps
  | selfProfile
  | deviceKey (upTo : UpTo) (id : DeviceID)
  | selfRole (id : VlobID)
  | bootstrapState (id : VlobID)

inductive WriteOp where
  | addCommon (certif : CommonCertificate)
  | addRealm (certif : RealmCertificate)
  | addShamirRecovery (certif : ShamirRecoveryCertificate)
  | addSequester (certif : SequesterCertificate)
  | forgetAll
  | read (op : ReadOp)

/-- What can be done under for_read. The keys of a realm come from the server. -/
inductive ReaderOp where
  | read (op : ReadOp)
  | realmKeys (id : VlobID) (server : VlobID → Nat → KeysBundleRep)

inductive WriteOutcome where
  | success
  | callbackError
  | commitError

inductive Call where
  | forWrite (ops : List WriteOp) (outcome : WriteOutcome)
  | forRead (ops : List ReaderOp)
  | restart

def keepStore (store : Store) (result : Except ε (α × Store)) : Store :=
  match result with
  | .ok (_, store) => store
  | .error _ => store

namespace Store
variable (device : LocalDevice)

def read (store : Store) : ReadOp → Store
  | .lastTimestamps => store.getLastTimestamps.2
  | .selfProfile => keepStore store (store.getCurrentSelfProfile device)
  | .deviceKey upTo id => keepStore store (store.getDeviceVerifyKeyAndUserId upTo id)
  | .selfRole id => keepStore store (store.getSelfUserRealmRole device id)
  | .bootstrapState id => keepStore store (store.getRealmBootstrapState id)

def write (store : Store) : WriteOp → Store
  | .addCommon certif => store.addNextCommonCertificate device certif
  | .addRealm certif => store.addNextRealmXCertificate certif
  | .addShamirRecovery certif => store.addNextShamirRecoveryCertificate certif
  | .addSequester certif => store.addNextSequesterCertificate certif
  | .forgetAll => store.forgetAllCertificates
  | .read op => store.read device op

/-- The storage is rolled back and the cache cleared unless the callback and the commit
    succeed. -/
def forWrite (store : Store) (ops : List WriteOp) : WriteOutcome → Store
  | .success => ops.foldl (write device) store
  | .callbackError => ⟨store.storage, .empty⟩
  | .commitError => ⟨store.storage, .empty⟩

variable (decryptsCanary : KeyDerivation → List Byte → Bool)

def readWith (store : Store) : ReaderOp → Store
  | .read op => store.read device op
  | .realmKeys id server => (loadLastRealmKeysBundle decryptsCanary device server id store).2

def call (store : Store) : Call → Store
  | .forWrite ops outcome => store.forWrite device ops outcome
  | .forRead ops => ops.foldl (readWith device decryptsCanary) store
  | .restart => .start store.storage

end Store

/-- The condition for an insertion to keep the cache coherent. -/
def Next (device : LocalDevice) (store : Store) : WriteOp → Prop
  | .addCommon certif => NextCommon device store certif
  | .addRealm certif => NextRealm store certif
  | .addShamirRecovery certif => NextShamirRecovery store certif
  | .addSequester certif => NextSequester store certif
  | _ => True

def AllNext (device : LocalDevice) : Store → List WriteOp → Prop
  | _, [] => True
  | store, op :: rest => Next device store op ∧ AllNext device (store.write device op) rest

def CallInOrder (device : LocalDevice) (store : Store) : Call → Prop
  | .forWrite ops .success => AllNext device store ops
  | _ => True

def StoreRun (device : LocalDevice) (decryptsCanary : KeyDerivation → List Byte → Bool)
    (admits : Store → Call → Prop) : Store → Prop :=
  Runs.Run (fun store call store' => store' = store.call device decryptsCanary call) admits
    (Store.start [])

/-- Every entry of the cache is what its read method returns on an empty cache. -/
structure CacheAgrees (device : LocalDevice) (store : Store) : Prop where
  perTopicLastTimestamps : ∀ last, store.cache.perTopicLastTimestamps = some last →
    (Store.start store.storage).getLastTimestamps.1 = last
  selfProfile : ∀ profile, store.cache.selfProfile = some profile →
    ((Store.start store.storage).getCurrentSelfProfile device).map Prod.fst = .ok profile
  perUserProfile : ∀ id profile, store.cache.perUserProfile.lookup id = some profile →
    store.storage.currentProfile id = .ok profile
  perDevice : ∀ id key date user,
    store.cache.perDeviceVerifyKeyAndUserId.lookup id = some (key, date, user) →
    ∀ upTo, ((Store.start store.storage).getDeviceVerifyKeyAndUserId upTo id).map Prod.fst =
      if upTo.covers date then .ok (key, user) else .error (.existButTooRecent date)
  perRealmBootstrapState : ∀ id state, store.cache.perRealmBootstrapState.lookup id = some state →
    ((Store.start store.storage).getRealmBootstrapState id).map Prod.fst = .ok state
  perRealmSelfRole : ∀ id role, store.cache.perRealmSelfRole.lookup id = some role →
    ((Store.start store.storage).getSelfUserRealmRole device id).map Prod.fst = .ok (some role)
  perRealmKeys : ∀ id realmKeys, store.cache.perRealmKeys.lookup id = some realmKeys →
    realmKeys.keys.length = (store.storage.keyRotations id).length

variable {device : LocalDevice} {store : Store} {storage : Storage}
variable {decryptsCanary : KeyDerivation → List Byte → Bool}

theorem getDeviceCertificate_eq (distinct : DistinctDevices storage) {certif : DeviceCertificate}
    (stored : .common (.device certif) ∈ storage) (upTo : UpTo) :
    storage.getDeviceCertificate upTo certif.deviceId =
      if upTo.covers certif.timestamp then .ok certif
      else .error (.existButTooRecent certif.timestamp) := by
  have selects := selects_device certif.deviceId
  cases read : storage.getDeviceCertificate upTo certif.deviceId with
  | ok other =>
    obtain ⟨stored', same, covered, _⟩ := selects.getOne_ok read
    have equal := distinct other certif stored' stored same
    subst equal
    exact (if_pos covered).symm
  | error e =>
    have missing := selects.getOne_error read
    have uncovered : ¬ upTo.covers certif.timestamp = true := by
      intro covered
      have : Certificate.common (.device certif) ∈ storage.select _ upTo :=
        selects.mem_select.mpr ⟨stored, rfl, covered⟩
      rw [(getCertificate_error missing).1] at this
      cases this
    rw [if_neg uncovered]
    cases e with
    | nonExisting => exact absurd rfl (selects.getOne_nonExisting read stored)
    | internal message => exact absurd missing (getCertificate_internal message)
    | existButTooRecent date =>
      obtain ⟨_, _, _, row, member, same⟩ := getCertificate_tooRecent missing
      obtain ⟨other, rfl, met⟩ := selects.exists_wrap member
      have equal := distinct other certif (Storage.mem_select.mp member).1 stored met
      rw [← same, equal]
      rfl

theorem Coherent.agrees (coherent : Coherent device store)
    (distinct : DistinctDevices store.storage) : CacheAgrees device store where
  perTopicLastTimestamps last cached := (coherent.lastTimestamps last cached).symm
  selfProfile profile cached := by
    have found := coherent.selfProfile profile cached
    simp only [Store.getCurrentSelfProfile, Store.start, CurrentViewCache.empty, found]
    rfl
  perUserProfile := coherent.userProfile
  perDevice id key date user cached upTo := by
    obtain ⟨certif, stored, same, entry⟩ := coherent.deviceKey id _ cached
    cases entry
    subst same
    have read := getDeviceCertificate_eq distinct stored upTo
    simp only [Store.getDeviceVerifyKeyAndUserId, Store.start, CurrentViewCache.empty,
      Finmap.lookup_empty, read]
    split <;> rfl
  perRealmBootstrapState id state cached := by
    have found := coherent.bootstrapState id state cached
    simp only [Store.getRealmBootstrapState, Store.start, CurrentViewCache.empty,
      Finmap.lookup_empty, found]
    rfl
  perRealmSelfRole id role cached := by
    obtain ⟨certif, found, same⟩ := coherent.selfRole id role cached
    simp only [Store.getSelfUserRealmRole, Store.start, CurrentViewCache.empty,
      Finmap.lookup_empty, found, ← same]
    rfl
  perRealmKeys := coherent.realmKeys

/-- What every call keeps. -/
structure Sound (device : LocalDevice) (store : Store) : Prop where
  coherent : Coherent device store
  distinct : DistinctDevices store.storage

theorem Sound.keepStore (sound : Sound device store) {ε α : Type}
    {result : Except ε (α × Store)}
    (spec : ∀ a store', result = .ok (a, store') →
      store'.storage = store.storage ∧ Coherent device store') :
    Sound device (keepStore store result) := by
  cases result with
  | error e => exact sound
  | ok found =>
    obtain ⟨same, coherent⟩ := spec found.1 found.2 rfl
    exact ⟨coherent, by rw [Certif.keepStore, same]; exact sound.distinct⟩

theorem read_sound (sound : Sound device store) (op : ReadOp) :
    Sound device (store.read device op) := by
  cases op with
  | lastTimestamps =>
    exact ⟨getLastTimestamps_coherent sound.coherent,
      by rw [Store.read, getLastTimestamps_storage]; exact sound.distinct⟩
  | selfProfile =>
    exact sound.keepStore fun _ _ read => (getCurrentSelfProfile_spec sound.coherent read).2
  | deviceKey upTo id =>
    refine sound.keepStore fun _ _ read => ?_
    obtain ⟨_, same, _, keeps⟩ := getDeviceVerifyKeyAndUserId_trusted sound.coherent.toTrusted read
    exact ⟨same, keeps device sound.coherent⟩
  | selfRole id =>
    exact sound.keepStore fun _ _ read => getSelfUserRealmRole_spec sound.coherent read
  | bootstrapState id =>
    exact sound.keepStore fun _ _ read => getRealmBootstrapState_spec sound.coherent read

theorem distinct_append {added : Certificate} (distinct : DistinctDevices storage)
    (fresh : ∀ c, added = .common (.device c) →
      ∀ k, .common (.device k) ∈ storage → k.deviceId ≠ c.deviceId) :
    DistinctDevices (storage ++ [added]) := by
  intro a b storedA storedB same
  rcases List.mem_append.mp storedA with storedA | storedA <;>
    rcases List.mem_append.mp storedB with storedB | storedB
  · exact distinct a b storedA storedB same
  · exact absurd same (fresh b (List.mem_singleton.mp storedB).symm a storedA)
  · exact absurd same.symm (fresh a (List.mem_singleton.mp storedA).symm b storedB)
  · have equal := (List.mem_singleton.mp storedA).trans (List.mem_singleton.mp storedB).symm
    cases equal
    rfl

theorem write_sound (sound : Sound device store) {op : WriteOp} (next : Next device store op) :
    Sound device (store.write device op) := by
  cases op with
  | addCommon certif =>
    exact ⟨addNextCommon_coherent sound.coherent next,
      distinct_append sound.distinct fun c same => next.newDevice c (by cases same; rfl)⟩
  | addRealm certif =>
    exact ⟨addNextRealmX_coherent sound.coherent next,
      distinct_append sound.distinct fun c same => by cases same⟩
  | addShamirRecovery certif =>
    exact ⟨addNextShamirRecovery_coherent sound.coherent next,
      distinct_append sound.distinct fun c same => by cases same⟩
  | addSequester certif =>
    exact ⟨addNextSequester_coherent sound.coherent next,
      distinct_append sound.distinct fun c same => by cases same⟩
  | forgetAll => exact ⟨coherent_empty [], fun a b stored => by cases stored⟩
  | read op => exact read_sound sound op

theorem writes_sound {ops : List WriteOp} (sound : Sound device store)
    (next : AllNext device store ops) : Sound device (ops.foldl (Store.write device) store) := by
  induction ops generalizing store with
  | nil => exact sound
  | cons op rest ih => exact ih (write_sound sound next.1) next.2

theorem readWith_sound (sound : Sound device store) (op : ReaderOp) :
    Sound device (store.readWith device decryptsCanary op) := by
  cases op with
  | read op => exact read_sound sound op
  | realmKeys id server =>
    obtain ⟨same, coherent⟩ := loadLastRealmKeysBundle_spec decryptsCanary id sound.coherent server
    exact ⟨coherent, by rw [Store.readWith, same]; exact sound.distinct⟩

theorem reads_sound {ops : List ReaderOp} (sound : Sound device store) :
    Sound device (ops.foldl (Store.readWith device decryptsCanary) store) := by
  induction ops generalizing store with
  | nil => exact sound
  | cons op rest ih => exact ih (readWith_sound sound op)

theorem call_sound (sound : Sound device store) {call : Call}
    (inOrder : CallInOrder device store call) :
    Sound device (store.call device decryptsCanary call) := by
  cases call with
  | forWrite ops outcome =>
    cases outcome with
    | success => exact writes_sound sound inOrder
    | callbackError => exact ⟨coherent_empty store.storage, sound.distinct⟩
    | commitError => exact ⟨coherent_empty store.storage, sound.distinct⟩
  | forRead ops => exact reads_sound sound
  | restart => exact ⟨coherent_empty store.storage, sound.distinct⟩

/-- After calls that add the certificates in order and with the last timestamps in the cache,
    the cache shows what the storage holds. -/
theorem cache_agrees_with_storage
    (run : StoreRun device decryptsCanary (CallInOrder device) store) :
    CacheAgrees device store := by
  have sound : Sound device store := by
    refine Runs.Run.keeps ⟨coherent_empty [], fun a b stored => by cases stored⟩ ?_ run
    rintro s call s' sound inOrder rfl
    exact call_sound sound inOrder
  exact sound.coherent.agrees sound.distinct

/-- The user certificate of the device's own user carries its initial profile. -/
def OwnProfile (device : LocalDevice) (_ : Store) : Call → Prop
  | .forWrite ops _ => ∀ certif, .addCommon (.user certif) ∈ ops →
    certif.userId = device.userId → certif.profile = device.initialProfile
  | _ => True

namespace Sequestered

def ownDevice : LocalDevice := ⟨⟨1⟩, .admin, ⟨0⟩⟩
def authority : SequesterCertificate := .authority ⟨1, ⟨7⟩⟩
def alice : UserCertificate := ⟨.root, 1, ⟨1⟩, .admin⟩
def bob : UserCertificate := ⟨.user ⟨11⟩, 2, ⟨2⟩, .standard⟩

def bootstrap : Call := .forWrite [.addSequester authority, .addCommon (.user alice)] .success

def addBob (before : List WriteOp) : Call :=
  .forWrite (before ++ [.addCommon (.user bob)]) .success

def bobAdded (before : List WriteOp) : Store :=
  (((Store.start []).call ownDevice (fun _ _ => true) bootstrap).call ownDevice (fun _ _ => true)
    .restart).call ownDevice (fun _ _ => true) (addBob before)

theorem bobAdded_run (before : List WriteOp) {admits : Store → Call → Prop}
    (first : admits (Store.start []) bootstrap)
    (second : admits ((Store.start []).call ownDevice (fun _ _ => true) bootstrap) .restart)
    (third : admits (Store.start [.sequester authority, .common (.user alice)]) (addBob before)) :
    StoreRun ownDevice (fun _ _ => true) admits (bobAdded before) :=
  .step (.step (.step .start first rfl) second rfl) third rfl

end Sequestered
open Sequestered

/-- Without the last timestamps in the cache, bob's certificate makes it say that the
    organization has no sequester certificate. -/
theorem cache_disagrees_after_restart :
    ¬ ∀ device decryptsCanary store, StoreRun device decryptsCanary (OwnProfile device) store →
      CacheAgrees device store := by
  intro agrees
  have own : ∀ ops : List WriteOp, ops = [.addSequester authority, .addCommon (.user alice)] ∨
      ops = [.addCommon (.user bob)] → ∀ certif, .addCommon (.user certif) ∈ ops →
        certif.userId = ownDevice.userId → certif.profile = ownDevice.initialProfile := by
    rintro ops (rfl | rfl) certif member ours
    · simp only [List.mem_cons, List.not_mem_nil, or_false, reduceCtorEq, false_or,
        WriteOp.addCommon.injEq, CommonCertificate.user.injEq] at member
      subst member
      rfl
    · simp only [List.mem_cons, List.not_mem_nil, or_false, WriteOp.addCommon.injEq,
        CommonCertificate.user.injEq] at member
      subst member
      cases ours
  have run : StoreRun ownDevice (fun _ _ => true) (OwnProfile ownDevice) (bobAdded []) :=
    bobAdded_run [] (own _ (.inl rfl)) trivial (own _ (.inr rfl))
  have same := (agrees _ _ _ run).perTopicLastTimestamps _ rfl
  have impossible := congrArg PerTopicLastTimestamps.sequester same
  cases impossible

/-- With the last timestamps read first, as add_certificates_batch does, it agrees. -/
theorem cache_agrees_after_restart :
    CacheAgrees ownDevice (bobAdded [.read .lastTimestamps]) := by
  apply cache_agrees_with_storage (bobAdded_run [.read .lastTimestamps] ?_ ?_ ?_)
  · refine ⟨⟨.inr (by simp [Store.start]), by simp [Store.start]⟩, ⟨.inl rfl, ?_, ?_, ?_, ?_⟩, trivial⟩
    · simp [Store.write, Store.addNextSequesterCertificate, Store.start]
    · rintro c ⟨⟩
      refine ⟨?_, ?_, fun _ => rfl⟩ <;>
        simp [Store.write, Store.addNextSequesterCertificate, Store.start]
    · rintro c ⟨⟩
    · rintro c ⟨⟩
  · trivial
  · refine ⟨trivial, ⟨.inl rfl, ?_, ?_, ?_, ?_⟩, trivial⟩
    · intro k stored
      obtain rfl : k = .user alice := by
        simpa [Store.write, Store.read, Store.getLastTimestamps, Store.start, CurrentViewCache.empty]
          using stored
      decide
    · rintro c ⟨⟩
      refine ⟨?_, ?_, fun ours => by cases ours⟩
      · intro k stored
        obtain rfl : k = alice := by
          simpa [Store.write, Store.read, Store.getLastTimestamps, Store.start,
            CurrentViewCache.empty] using stored
        decide
      · simp [Store.write, Store.read, Store.getLastTimestamps, Store.start, CurrentViewCache.empty]
    · rintro c ⟨⟩
    · rintro c ⟨⟩

end ParsecCloud.Certif

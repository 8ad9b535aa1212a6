import ParsecCloud.Certif.KeysBundle
import ParsecCloud.Certif.LastTimestamps

/- The cache of the current view against the storage: what each method of the store keeps. -/
namespace ParsecCloud.Certif
open Rust HashMap GetCertificateQuery Storage

def Storage.keyRotations (storage : Storage) (id : VlobID) : List RealmKeyRotationCertificate :=
  (storage.filterMap isRealmKeyRotation).filter fun certif => certif.realmId = id

/-- The profile that per_user_profile stands for: get_user_profile without a limit. -/
def Storage.currentProfile (storage : Storage) (id : UserID) :
    Except GetCertificateError UserProfile :=
  match storage.getLastUserUpdateCertificate .current id with
  | .ok (some update) => .ok update.newProfile
  | .ok none => do return (← storage.getUserCertificate .current id).profile
  | .error message => .error (.internal message)

def DistinctDevices (storage : Storage) : Prop :=
  ∀ a b, .common (.device a) ∈ storage → .common (.device b) ∈ storage →
    a.deviceId = b.deviceId → a = b

/-- The entries of the cache that the validation of certificates relies on. -/
structure Trusted (store : Store) : Prop where
  lastTimestamps : ∀ last, store.cache.perTopicLastTimestamps = some last →
    last = store.storage.getLastTimestamps
  deviceKey : ∀ id entry, store.cache.perDeviceVerifyKeyAndUserId.lookup id = some entry →
    ∃ certif, .common (.device certif) ∈ store.storage ∧ certif.deviceId = id ∧
      entry = (certif.verifyKey, certif.timestamp, certif.userId)

/-- Every entry of the cache is what the storage says. -/
structure Coherent (device : LocalDevice) (store : Store) : Prop extends Trusted store where
  selfProfile : ∀ profile, store.cache.selfProfile = some profile →
    store.storage.lastProfile device.userId device.initialProfile = .ok profile
  userProfile : ∀ id profile, store.cache.perUserProfile.lookup id = some profile →
    store.storage.currentProfile id = .ok profile
  bootstrapState : ∀ id state, store.cache.perRealmBootstrapState.lookup id = some state →
    Store.realmBootstrapState store.storage id = .ok state
  selfRole : ∀ id role, store.cache.perRealmSelfRole.lookup id = some role →
    ∃ certif, store.storage.getMaybe (realmRoleCertificate id device.userId) .current isRealmRole
      = .ok (some certif) ∧ certif.role = role
  realmKeys : ∀ id realmKeys, store.cache.perRealmKeys.lookup id = some realmKeys →
    realmKeys.keys.length = (store.storage.keyRotations id).length

variable {device : LocalDevice} {store : Store} {storage : Storage}

theorem trusted_empty (storage : Storage) : Trusted ⟨storage, .empty⟩ where
  lastTimestamps _ found := by cases found
  deviceKey _ _ found := by cases found

theorem coherent_empty (storage : Storage) : Coherent device ⟨storage, .empty⟩ where
  toTrusted := trusted_empty storage
  selfProfile _ found := by cases found
  userProfile _ _ found := by cases found
  bootstrapState _ _ found := by cases found
  selfRole _ _ found := by cases found
  realmKeys _ _ found := by cases found

section Validation
variable (trusted : Trusted store)

include trusted

theorem getLastTimestamps_eq : store.getLastTimestamps.1 = store.storage.getLastTimestamps := by
  unfold Store.getLastTimestamps
  split
  · rename_i last cached
    exact trusted.lastTimestamps last cached
  · rfl

theorem getLastTimestamps_trusted : Trusted store.getLastTimestamps.2 := by
  unfold Store.getLastTimestamps
  split
  · exact trusted
  · refine { trusted with lastTimestamps := ?_ }
    intro last found
    exact (Option.some.inj found).symm

theorem getDeviceVerifyKeyAndUserId_trusted {upTo : UpTo} {id : DeviceID} {key : VerifyKey}
    {user : UserID} {store' : Store}
    (read : store.getDeviceVerifyKeyAndUserId upTo id = .ok ((key, user), store')) :
    (∃ certif, .common (.device certif) ∈ store.storage ∧ certif.deviceId = id ∧
      certif.verifyKey = key ∧ certif.userId = user ∧ upTo.covers certif.timestamp = true) ∧
      store'.storage = store.storage ∧ Trusted store' ∧
      ∀ device, Coherent device store → Coherent device store' := by
  unfold Store.getDeviceVerifyKeyAndUserId at read
  split at read
  · rename_i verifyKey timestamp userId cached
    obtain ⟨certif, stored, same, entry⟩ := trusted.deviceKey _ _ cached
    cases entry
    split at read
    · split at read
      · cases read
      · rename_i early
        cases read
        exact ⟨⟨certif, stored, same, rfl, rfl, covers_timestamp.mpr (not_lt.mp early)⟩, rfl,
          trusted, fun _ coherent => coherent⟩
    · cases read
      exact ⟨⟨certif, stored, same, rfl, rfl, rfl⟩, rfl, trusted, fun _ coherent => coherent⟩
  · cases found : store.storage.getDeviceCertificate upTo id with
    | error e =>
      rw [found] at read
      cases read
    | ok certif =>
      rw [found] at read
      cases read
      obtain ⟨stored, same, covered, _⟩ := (selects_device id).getOne_ok found
      have deviceKey : ∀ other entry, (store.cache.perDeviceVerifyKeyAndUserId.insert id
          (certif.verifyKey, certif.timestamp, certif.userId)).lookup other = some entry →
          ∃ certif, .common (.device certif) ∈ store.storage ∧ certif.deviceId = other ∧
            entry = (certif.verifyKey, certif.timestamp, certif.userId) := by
        intro other entry cached
        rw [lookup_insert_ite] at cached
        split at cached
        · rename_i equal
          cases cached
          exact ⟨certif, stored, same.trans equal.symm, rfl⟩
        · exact trusted.deviceKey other entry cached
      exact ⟨⟨certif, stored, same, rfl, rfl, covered⟩, rfl, { trusted with deviceKey := deviceKey },
        fun _ coherent => { coherent with deviceKey := deviceKey }⟩

end Validation

section Reads
variable (coherent : Coherent device store)

include coherent

theorem getLastTimestamps_coherent : Coherent device store.getLastTimestamps.2 := by
  have trusted := getLastTimestamps_trusted coherent.toTrusted
  unfold Store.getLastTimestamps at trusted ⊢
  split at trusted
  · exact coherent
  · exact { coherent with toTrusted := trusted }

theorem getCurrentSelfProfile_spec {profile : UserProfile} {store' : Store}
    (read : store.getCurrentSelfProfile device = .ok (profile, store')) :
    store.storage.lastProfile device.userId device.initialProfile = .ok profile ∧
      store'.storage = store.storage ∧ Coherent device store' := by
  unfold Store.getCurrentSelfProfile at read
  split at read
  · rename_i cached
    cases read
    exact ⟨coherent.selfProfile _ cached, rfl, coherent⟩
  · cases found : store.storage.lastProfile device.userId device.initialProfile with
    | error e =>
      rw [found] at read
      cases read
    | ok known =>
      rw [found] at read
      cases read
      refine ⟨rfl, rfl, { coherent with selfProfile := ?_ }⟩
      intro other same
      cases same
      exact found

theorem getSelfUserRealmRole_spec {id : VlobID} {role : Option (Option RealmRole)} {store' : Store}
    (read : store.getSelfUserRealmRole device id = .ok (role, store')) :
    store'.storage = store.storage ∧ Coherent device store' := by
  unfold Store.getSelfUserRealmRole at read
  split at read
  · cases read
    exact ⟨rfl, coherent⟩
  · cases found : store.storage.getMaybe (realmRoleCertificate id device.userId) .current
        isRealmRole with
    | error e =>
      rw [found] at read
      cases read
    | ok certif =>
      rw [found] at read
      cases certif with
      | none =>
        cases read
        exact ⟨rfl, coherent⟩
      | some certif =>
        cases read
        refine ⟨rfl, { coherent with selfRole := ?_ }⟩
        intro other known cached
        rw [lookup_insert_ite] at cached
        split at cached
        · rename_i equal
          cases cached
          subst equal
          exact ⟨certif, found, rfl⟩
        · exact coherent.selfRole other known cached

theorem getRealmBootstrapState_spec {id : VlobID} {state : RealmBootstrapState} {store' : Store}
    (read : store.getRealmBootstrapState id = .ok (state, store')) :
    store'.storage = store.storage ∧ Coherent device store' := by
  unfold Store.getRealmBootstrapState at read
  split at read
  · cases read
    exact ⟨rfl, coherent⟩
  · cases found : Store.realmBootstrapState store.storage id with
    | error e =>
      rw [found] at read
      cases read
    | ok known =>
      rw [found] at read
      cases read
      refine ⟨rfl, { coherent with bootstrapState := ?_ }⟩
      intro other known cached
      rw [lookup_insert_ite] at cached
      split at cached
      · rename_i equal
        cases cached
        subst equal
        exact found
      · exact coherent.bootstrapState other known cached

end Reads

section KeysBundle
variable {decryptsCanary : KeyDerivation → List Byte → Bool} {id : VlobID}

theorem getRealmKeyRotationCertificates_length {certifs : List RealmKeyRotationCertificate}
    (read : storage.getRealmKeyRotationCertificates .current id = .ok certifs) :
    certifs.length = (storage.keyRotations id).length := by
  unfold getRealmKeyRotationCertificates at read
  obtain ⟨found, several, read⟩ := bind_eq_ok.mp read
  split at read
  · cases read
    unfold getMultiple getMultipleCertificates at several
    rw [mapM_length several, List.length_insertionSort, keyRotations]
    have selected : (storage.select (realmKeyRotationCertificates id) .current).filterMap
        isRealmKeyRotation = (storage.filterMap isRealmKeyRotation).filter (·.realmId = id) := by
      simpa using (selects_keyRotations id).filterMap_select storage .current
    rw [← selected]
    have all : ∀ certif ∈ storage.select (realmKeyRotationCertificates id) .current,
        (isRealmKeyRotation certif).isSome := by
      intro certif member
      obtain ⟨a, rfl, _⟩ := (selects_keyRotations id).exists_wrap member
      rfl
    exact (List.filterMap_length_eq_length.mpr all).symm
  · cases read

theorem checkKeysBundle_length {realmKeys : RealmKeys} {accessKey : SecretKey}
    {bundle : RealmKeysBundle} {certif : RealmKeyRotationCertificate}
    {keyRotations : List RealmKeyRotationCertificate}
    (checked : checkKeysBundle decryptsCanary id accessKey bundle certif keyRotations
      = .ok realmKeys) : realmKeys.keys.length = certif.keyIndex := by
  unfold checkKeysBundle at checked
  split at checked
  · cases checked
  · split at checked
    · cases checked
    · rename_i index
      split at checked
      · cases checked
      · dsimp only at checked
        split at checked
        · rename_i length
          cases checked
          exact length.trans (not_not.mp index)
        · cases checked

theorem validateKeysBundle_spec (coherent : Coherent device store)
    {keysBundle : EncryptedKeysBundle} {access : EncryptedKeysBundleAccess}
    {certif : RealmKeyRotationCertificate} {keyRotations : List RealmKeyRotationCertificate}
    {result : Except LoadLastKeysBundleError RealmKeys} {store' : Store}
    (run : validateKeysBundle decryptsCanary device id keysBundle access certif keyRotations store
      = (result, store')) :
    store'.storage = store.storage ∧ Coherent device store' ∧
      ∀ realmKeys, result = .ok realmKeys → realmKeys.keys.length = certif.keyIndex := by
  have refused : ∀ error, (Except.error error, store) = (result, store') →
      store'.storage = store.storage ∧ Coherent device store' ∧
        ∀ realmKeys, result = .ok realmKeys → realmKeys.keys.length = certif.keyIndex := by
    intro error same
    cases same
    exact ⟨rfl, coherent, fun _ impossible => by cases impossible⟩
  unfold validateKeysBundle at run
  split at run
  · exact refused _ run
  · exact refused _ run
  · split at run
    · exact refused _ run
    · split at run
      · exact refused _ run
      · split at run
        · exact refused _ run
        · exact refused _ run
        · rename_i read
          obtain ⟨_, storage_eq, _, keeps⟩ :=
            getDeviceVerifyKeyAndUserId_trusted coherent.toTrusted read
          have coherent' := keeps device coherent
          split at run
          · cases run
            exact ⟨storage_eq, coherent', fun _ impossible => by cases impossible⟩
          · cases run
            exact ⟨storage_eq, coherent', fun _ checked => checkKeysBundle_length checked⟩

theorem updateCacheForRealmKeys_coherent (coherent : Coherent device store) {info : RealmKeys}
    (length : info.keys.length = (store.storage.keyRotations id).length) :
    (store.updateCacheForRealmKeys id info).2.storage = store.storage ∧
      Coherent device (store.updateCacheForRealmKeys id info).2 := by
  have inserted : Coherent device { store with
      cache := { store.cache with perRealmKeys := store.cache.perRealmKeys.insert id info } } := by
    refine { coherent with realmKeys := ?_ }
    intro other keys cached
    rw [lookup_insert_ite] at cached
    split at cached
    · rename_i same
      cases cached
      rw [same]
      exact length
    · exact coherent.realmKeys other keys cached
  unfold Store.updateCacheForRealmKeys
  dsimp only
  split
  · exact ⟨rfl, inserted⟩
  · split
    · exact ⟨rfl, inserted⟩
    · exact ⟨rfl, coherent⟩

variable (decryptsCanary id) in
theorem loadLastRealmKeysBundle_spec (coherent : Coherent device store)
    (server : VlobID → Nat → KeysBundleRep) :
    (loadLastRealmKeysBundle decryptsCanary device server id store).2.storage = store.storage ∧
      Coherent device (loadLastRealmKeysBundle decryptsCanary device server id store).2 := by
  have same : store.storage = store.storage ∧ Coherent device store := ⟨rfl, coherent⟩
  unfold loadLastRealmKeysBundle
  split
  · exact same
  · split
    · exact same
    · rename_i keyRotations read
      split
      · exact same
      · rename_i certif last
        split
        · exact same
        · rename_i index
          split
          · exact same
          · exact same
          · exact same
          · exact same
          · exact same
          · split
            · rename_i run
              obtain ⟨storage_eq, coherent', _⟩ := validateKeysBundle_spec coherent run
              exact ⟨storage_eq, coherent'⟩
            · rename_i realmKeys _ run
              obtain ⟨storage_eq, coherent', length⟩ := validateKeysBundle_spec coherent run
              have counted : realmKeys.keys.length = (store.storage.keyRotations id).length := by
                rw [length realmKeys rfl, not_not.mp index,
                  getRealmKeyRotationCertificates_length read]
              rw [← storage_eq] at counted ⊢
              exact updateCacheForRealmKeys_coherent coherent' counted

end KeysBundle

theorem getLastTimestamps_storage (store : Store) :
    store.getLastTimestamps.2.storage = store.storage := by
  unfold Store.getLastTimestamps
  split <;> rfl

end ParsecCloud.Certif

import ParsecCloud.Certif.Storage

/- The certificates store (client, certif/store.rs): the storage and the cache of the current
   view. A read method that fails leaves the store as it was. -/
namespace ParsecCloud.Certif
open Rust HashMap GetCertificateQuery

structure LocalDevice where
  userId : UserID
  initialProfile : UserProfile
  rootVerifyKey : VerifyKey

inductive RealmBootstrapState where
  | localOnly
  | createdInServer
  | initialKeyRotationDone
  | workspaceBootstrapped
  deriving DecidableEq

structure KeyDerivation where
  key : Nat
  deriving DecidableEq

structure SecretKey where
  key : Nat
  deriving DecidableEq

inductive ValidatedKey where
  | valid (key : KeyDerivation) (timestamp : DateTime)
  | corrupted (corruptedKeyDontUseMe : KeyDerivation)

structure RealmKeys where
  realmId : VlobID
  keys : List ValidatedKey
  keysBundleAccessKey : SecretKey

def RealmKeys.keyIndex (realmKeys : RealmKeys) : Nat := realmKeys.keys.length

/-- An entry that is missing is a cache miss. -/
structure CurrentViewCache where
  perTopicLastTimestamps : Option PerTopicLastTimestamps
  selfProfile : Option UserProfile
  perUserProfile : HashMap UserID UserProfile
  perDeviceVerifyKeyAndUserId : HashMap DeviceID (VerifyKey × DateTime × UserID)
  perRealmKeys : HashMap VlobID RealmKeys
  perRealmBootstrapState : HashMap VlobID RealmBootstrapState
  perRealmSelfRole : HashMap VlobID (Option RealmRole)

def CurrentViewCache.empty : CurrentViewCache := ⟨none, none, ∅, ∅, ∅, ∅, ∅⟩

structure Store where
  storage : Storage
  cache : CurrentViewCache

namespace Store

/-- The store when the component starts, on a storage written earlier. -/
def start (storage : Storage) : Store := ⟨storage, .empty⟩

def getCurrentSelfProfile (device : LocalDevice) (store : Store) :
    Except String (UserProfile × Store) :=
  match store.cache.selfProfile with
  | some selfProfile => .ok (selfProfile, store)
  | none => do
    let selfProfile ← store.storage.lastProfile device.userId device.initialProfile
    return (selfProfile, { store with
      cache := { store.cache with selfProfile := some selfProfile } })

def getLastTimestamps (store : Store) : PerTopicLastTimestamps × Store :=
  match store.cache.perTopicLastTimestamps with
  | some lastTimestamps => (lastTimestamps, store)
  | none =>
    let lastTimestamps := store.storage.getLastTimestamps
    (lastTimestamps, { store with
      cache := { store.cache with perTopicLastTimestamps := some lastTimestamps } })

def getDeviceVerifyKeyAndUserId (upTo : UpTo) (deviceId : DeviceID) (store : Store) :
    Except GetCertificateError ((VerifyKey × UserID) × Store) :=
  match store.cache.perDeviceVerifyKeyAndUserId.lookup deviceId with
  | some (verifyKey, timestamp, userId) =>
    match upTo with
    | .timestamp limit =>
      if timestamp > limit then .error (.existButTooRecent timestamp)
      else .ok ((verifyKey, userId), store)
    | .current => .ok ((verifyKey, userId), store)
  | none => do
    let certif ← store.storage.getDeviceCertificate upTo deviceId
    let entry := (certif.verifyKey, certif.timestamp, certif.userId)
    return ((certif.verifyKey, certif.userId), { store with
      cache := { store.cache with
        perDeviceVerifyKeyAndUserId :=
          store.cache.perDeviceVerifyKeyAndUserId.insert deviceId entry } })

/-- Nothing is kept in the cache for a realm of which the user never was part. -/
def getSelfUserRealmRole (device : LocalDevice) (realmId : VlobID) (store : Store) :
    Except String (Option (Option RealmRole) × Store) :=
  match store.cache.perRealmSelfRole.lookup realmId with
  | some role => .ok (some role, store)
  | none => do
    match ← store.storage.getMaybe (realmRoleCertificate realmId device.userId) .current
        Storage.isRealmRole with
    | none => return (none, store)
    | some certif =>
      return (some certif.role, { store with
        cache := { store.cache with
          perRealmSelfRole := store.cache.perRealmSelfRole.insert realmId certif.role } })

def isStored (storage : Storage) (query : GetCertificateQuery) : Except String Bool :=
  match storage.getCertificate query .current with
  | .ok _ => .ok true
  | .error (.internal message) => .error message
  | .error _ => .ok false

/-- What get_realm_bootstrap_state reads from the storage. -/
def realmBootstrapState (storage : Storage) (realmId : VlobID) :
    Except String RealmBootstrapState := do
  if ← isStored storage (realmNameCertificates realmId) then return .workspaceBootstrapped
  else if ← isStored storage (realmKeyRotationCertificates realmId) then
    return .initialKeyRotationDone
  else if ← isStored storage (realmRoleCertificates realmId) then return .createdInServer
  else return .localOnly

def getRealmBootstrapState (realmId : VlobID) (store : Store) :
    Except String (RealmBootstrapState × Store) :=
  match store.cache.perRealmBootstrapState.lookup realmId with
  | some state => .ok (state, store)
  | none => do
    let state ← realmBootstrapState store.storage realmId
    return (state, { store with
      cache := { store.cache with
        perRealmBootstrapState := store.cache.perRealmBootstrapState.insert realmId state } })

def getRealmKeys (realmId : VlobID) (store : Store) : Option RealmKeys :=
  store.cache.perRealmKeys.lookup realmId

def updateCacheForRealmKeys (realmId : VlobID) (info : RealmKeys) (store : Store) :
    RealmKeys × Store :=
  let updated := { store with
    cache := { store.cache with perRealmKeys := store.cache.perRealmKeys.insert realmId info } }
  match store.cache.perRealmKeys.lookup realmId with
  | none => (info, updated)
  | some known => if known.keyIndex < info.keyIndex then (info, updated) else (known, store)

def forgetAllCertificates (_ : Store) : Store := ⟨[], .empty⟩

/-- The last timestamps after an insertion in the topic that the update is about. -/
def updateTimestampCache (cache : CurrentViewCache)
    (update : PerTopicLastTimestamps → PerTopicLastTimestamps) : CurrentViewCache :=
  match cache.perTopicLastTimestamps with
  | some lastTimestamps => { cache with perTopicLastTimestamps := some (update lastTimestamps) }
  | none => { cache with perTopicLastTimestamps := some (update .empty) }

def setProfile (device : LocalDevice) (userId : UserID) (profile : UserProfile)
    (cache : CurrentViewCache) : CurrentViewCache :=
  let cache := { cache with perUserProfile := cache.perUserProfile.insert userId profile }
  if userId = device.userId then { cache with selfProfile := some profile } else cache

def addNextCommonCertificate (device : LocalDevice) (certif : CommonCertificate)
    (store : Store) : Store :=
  let cache := updateTimestampCache store.cache fun last =>
    { last with common := some certif.timestamp }
  let cache :=
    match certif with
    | .user certif => setProfile device certif.userId certif.profile cache
    | .device certif =>
      let entry := (certif.verifyKey, certif.timestamp, certif.userId)
      { cache with
        perDeviceVerifyKeyAndUserId :=
          cache.perDeviceVerifyKeyAndUserId.insert certif.deviceId entry }
    | .userUpdate certif => setProfile device certif.userId certif.newProfile cache
    | .revokedUser _ => cache
  ⟨store.storage ++ [.common certif], cache⟩

def addNextRealmXCertificate (certif : RealmCertificate) (store : Store) : Store :=
  let newKeysBundle :=
    match certif with
    | .keyRotation _ => true
    | _ => false
  let cache := updateTimestampCache store.cache fun last =>
    { last with realm := last.realm.insert certif.realmId certif.timestamp }
  let cache := { cache with
    perRealmSelfRole := cache.perRealmSelfRole.erase certif.realmId
    perRealmBootstrapState := cache.perRealmBootstrapState.erase certif.realmId }
  let cache :=
    if newKeysBundle then { cache with perRealmKeys := cache.perRealmKeys.erase certif.realmId }
    else cache
  ⟨store.storage ++ [.realm certif], cache⟩

def addNextShamirRecoveryCertificate (certif : ShamirRecoveryCertificate) (store : Store) : Store :=
  let cache := updateTimestampCache store.cache fun last =>
    { last with shamirRecovery := some certif.timestamp }
  ⟨store.storage ++ [.shamirRecovery certif], cache⟩

def addNextSequesterCertificate (certif : SequesterCertificate) (store : Store) : Store :=
  let cache := updateTimestampCache store.cache fun last =>
    { last with sequester := some certif.timestamp }
  ⟨store.storage ++ [.sequester certif], cache⟩

end Store

end ParsecCloud.Certif

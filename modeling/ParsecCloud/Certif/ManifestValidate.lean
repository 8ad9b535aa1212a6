import ParsecCloud.Certif.Batch
import ParsecCloud.Certif.KeysBundle
import ParsecCloud.Types.LocalFolder

/- Validation of the manifests sent by the server (client, certif/manifest_validate.rs, with
   decrypt_for_realm of certif/realm_keys_bundle.rs). Data is decrypted by the key it was
   encrypted with and by no other; how a key is derived from another one is a parameter. -/
namespace ParsecCloud
open Rust Certif

structure UserManifest where
  author : DeviceID
  timestamp : DateTime
  id : VlobID
  version : Nat
  created : DateTime
  updated : DateTime

structure WorkspaceManifest where
  folder : FolderManifest

/-- What a serialized manifest holds. -/
inductive ManifestData where
  | file (manifest : FileManifest)
  | folder (manifest : FolderManifest)
  | user (manifest : UserManifest)

/-- The fields of a manifest that the server announces too. -/
structure ManifestHeader where
  author : DeviceID
  timestamp : DateTime
  id : VlobID
  version : Nat
  deriving DecidableEq

/-- impl_manifest_verify -/
def ManifestHeader.verify (header : ManifestHeader) (expectedAuthor : DeviceID)
    (expectedTimestamp : DateTime) (expectedId : Option VlobID) (expectedVersion : Option Nat) :
    Except LoadError Unit := do
  if header.author ≠ expectedAuthor then
    throw (.unexpectedAuthor expectedAuthor header.author)
  if header.timestamp ≠ expectedTimestamp then
    throw (.unexpectedTimestamp expectedTimestamp header.timestamp)
  if let some expected := expectedId then
    if header.id ≠ expected then throw (.unexpectedId expected header.id)
  if let some expected := expectedVersion then
    if header.version ≠ expected then throw (.unexpectedVersion expected header.version)

def FileManifest.header (m : FileManifest) : ManifestHeader :=
  ⟨m.author, m.timestamp, m.id, m.version⟩

def FolderManifest.header (m : FolderManifest) : ManifestHeader :=
  ⟨m.author, m.timestamp, m.id, m.version⟩

def UserManifest.header (m : UserManifest) : ManifestHeader :=
  ⟨m.author, m.timestamp, m.id, m.version⟩

def ChildManifest.header : ChildManifest → ManifestHeader
  | .file m => m.header
  | .folder m => m.header

def WorkspaceManifest.header (m : WorkspaceManifest) : ManifestHeader :=
  m.folder.header

namespace FolderManifest

def checkDataIntegrity (_ : FolderManifest) : Except DataError Unit := .ok ()

def checkDataIntegrityAsChild (m : FolderManifest) : Except DataError Unit := do
  m.checkDataIntegrity
  if m.id = m.parent then
    throw ⟨"FolderManifest", "id and parent are different for child manifest"⟩

def checkDataIntegrityAsRoot (m : FolderManifest) : Except DataError Unit := do
  m.checkDataIntegrity
  if m.id ≠ m.parent then
    throw ⟨"FolderManifest", "id and parent are the same for root manifest"⟩

end FolderManifest

/-- What impl_manifest_load is given for each type of manifest. -/
structure ManifestKind (M : Type) where
  load : ManifestData → Option M
  checkDataIntegrity : M → Checked (Except DataError Unit)
  header : M → ManifestHeader

/-- impl_manifest_load -/
def ManifestKind.verifyAndLoad (kind : ManifestKind M) (signed : Signed ManifestData)
    (authorVerifyKey : VerifyKey) (expectedAuthor : DeviceID) (expectedTimestamp : DateTime)
    (expectedId : Option VlobID) (expectedVersion : Option Nat) : Checked (Except LoadError M) :=
  match signed with
  | .malformed error => .ok (.error error)
  | .certificate content signedBy =>
    if signedBy ≠ authorVerifyKey then .ok (.error .signature)
    else
      match kind.load content with
      | none => .ok (.error .badSerialization)
      | some manifest => do
        match ← kind.checkDataIntegrity manifest with
        | .error error => return .error (.integrity error)
        | .ok () =>
          return (kind.header manifest).verify expectedAuthor expectedTimestamp expectedId
            expectedVersion |>.map fun _ => manifest

def userManifest : ManifestKind UserManifest where
  load data := match data with
    | .user manifest => some manifest
    | _ => none
  checkDataIntegrity _ := .ok (.ok ())
  header := UserManifest.header

/-- A child manifest is not tagged: it is what the data can be read as. -/
def childManifest : ManifestKind ChildManifest where
  load data := match data with
    | .file manifest => some (.file manifest)
    | .folder manifest => some (.folder manifest)
    | .user _ => none
  checkDataIntegrity manifest := match manifest with
    | .file manifest => manifest.checkDataIntegrity
    | .folder manifest => .ok manifest.checkDataIntegrityAsChild
  header := ChildManifest.header

def workspaceManifest : ManifestKind WorkspaceManifest where
  load data := match data with
    | .folder manifest => some ⟨manifest⟩
    | _ => none
  checkDataIntegrity manifest := .ok manifest.folder.checkDataIntegrityAsRoot
  header := WorkspaceManifest.header

namespace Certif
open HashMap GetCertificateQuery

def RealmRole.canWrite : RealmRole → Bool
  | .owner => true
  | .manager => true
  | .contributor => true
  | .reader => false

def Storage.getLastUserRealmRole (storage : Storage) (upTo : UpTo) (userId : UserID)
    (realmId : VlobID) : Except String (Option RealmRoleCertificate) :=
  storage.getMaybe (realmRoleCertificate realmId userId) upTo Storage.isRealmRole

inductive EncrytionUsage where
  | canary
  | pathUrl
  | realmRename
  | vlob (id : VlobID)
  | block (id : BlockID)

def EncrytionUsage.keyDerivationUuid : EncrytionUsage → Nat
  | .canary => 1
  | .realmRename => 2
  | .pathUrl => 3
  | .vlob id => id.uuid
  | .block id => id.uuid

inductive KeyFromIndexError where
  | corruptedKey
  | keyNotFound

def RealmKeys.keyFromIndex (realmKeys : RealmKeys) (keyIndex : Nat) (upTo : Option DateTime) :
    Except KeyFromIndexError KeyDerivation :=
  match keyIndex with
  | 0 => .error .keyNotFound
  | index + 1 =>
    match realmKeys.keys[index]? with
    | none => .error .keyNotFound
    | some (.corrupted _) => .error .corruptedKey
    | some (.valid key timestamp) =>
      match upTo with
      | none => .ok key
      | some limit => if timestamp ≤ limit then .ok key else .error .keyNotFound

structure Encrypted (α : Type) where
  encryptedWith : SecretKey
  content : α

def SecretKey.decrypt (key : SecretKey) (encrypted : Encrypted α) : Option α :=
  if encrypted.encryptedWith = key then some encrypted.content else none

inductive CertifDecryptForRealmError where
  | offline
  | notAllowed
  | keyNotFound
  | corruptedKey
  | corruptedData
  | invalidKeysBundle (error : InvalidKeysBundleError)
  | internal (message : String)
  | panicked (panic : Panic)

def LoadLastKeysBundleError.forDecrypt : LoadLastKeysBundleError → CertifDecryptForRealmError
  | .offline => .offline
  | .notAllowed => .notAllowed
  | .noKey => .keyNotFound
  | .invalidKeysBundle error => .invalidKeysBundle error
  | .internal message => .internal message
  | .panicked panic => .panicked panic

/-- What is announced of a manifest along with its data. -/
structure Announced where
  realm : VlobID
  vlob : VlobID
  version : Nat
  author : DeviceID
  timestamp : DateTime

inductive InvalidManifestError where
  | cannotDecrypt (announced : Announced) (keyIndex : Nat)
  | cleartextCorrupted (announced : Announced) (error : LoadError)
  | nonExistentKeyIndex (announced : Announced) (keyIndex : Nat)
  | corruptedKey (announced : Announced) (keyIndex : Nat)
  | nonExistentAuthor (announced : Announced)
  | revokedAuthor (announced : Announced)
  | authorRealmRoleCannotWrite (announced : Announced) (authorRole : RealmRole)
  | authorNoAccessToRealm (announced : Announced)

inductive CertifValidateManifestError where
  | offline
  | notAllowed
  | invalidManifest (error : InvalidManifestError)
  | invalidCertificate (error : InvalidCertificateError)
  | invalidKeysBundle (error : InvalidKeysBundleError)
  | internal (message : String)
  | panicked (panic : Panic)

def validateManifest (kind : ManifestKind M) (announced : Announced)
    (cleartext : Signed ManifestData) (storage : Storage) : Except CertifValidateManifestError M :=
  let upTo := .timestamp announced.timestamp
  match storage.getDeviceCertificate upTo announced.author with
  | .error (.internal message) => .error (.internal message)
  | .error _ => .error (.invalidManifest (.nonExistentAuthor announced))
  | .ok authorCertif =>
    match storage.getRevokedUserCertificate upTo authorCertif.userId with
    | .error message => .error (.internal message)
    | .ok (some _) => .error (.invalidManifest (.revokedAuthor announced))
    | .ok none =>
      match kind.verifyAndLoad cleartext authorCertif.verifyKey announced.author
          announced.timestamp (some announced.vlob) (some announced.version) with
      | .error panic => .error (.panicked panic)
      | .ok (.error error) => .error (.invalidManifest (.cleartextCorrupted announced error))
      | .ok (.ok manifest) =>
        match storage.getLastUserRealmRole upTo authorCertif.userId announced.realm with
        | .error message => .error (.internal message)
        | .ok found =>
          match found.bind (·.role) with
          | none => .error (.invalidManifest (.authorNoAccessToRealm announced))
          | some role =>
            if role.canWrite then .ok manifest
            else .error (.invalidManifest (.authorRealmRoleCannotWrite announced role))

inductive CertifForReadWithRequirementsError where
  | offline
  | invalidCertificate (error : InvalidCertificateError)
  | invalidRequirements
  | internal (message : String)
  | panicked (panic : Panic)

def AddError.forRead : AddError → CertifForReadWithRequirementsError
  | .invalidCertificate error => .invalidCertificate error
  | .internal message => .internal message
  | .panicked panic => .panicked panic

section
variable (device : LocalDevice)

/-- The answers of the server come one after the other; without one more we are offline. A batch
    that is refused is rolled back, and the cache cleared. -/
def pollServerForNewCertificates (requirements : PerTopicLastTimestamps)
    (answers : List (Option Batch)) (store : Store) :
    Except CertifForReadWithRequirementsError Nat × Store :=
  let (last, store) := store.getLastTimestamps
  if last.isUpToDate requirements then (.ok 0, store)
  else
    match answers with
    | [] => (.error .offline, store)
    | none :: _ => (.error .offline, store)
    | some batch :: rest =>
      match addCertificatesBatch device batch store with
      | .error error => (.error error.forRead, ⟨store.storage, .empty⟩)
      | .ok (.noSwitch newCertificates, store) => (.ok newCertificates, store)
      | .ok (.switched, store) => pollServerForNewCertificates requirements rest store

/-- The callback, if the requirements are met. -/
def tryWithRequirements (needed : PerTopicLastTimestamps) (callback : Store → α × Store)
    (store : Store) : Option α × Store :=
  let (last, store) := store.getLastTimestamps
  if last.isUpToDate needed then
    let (result, store) := callback store
    (some result, store)
  else (none, store)

def forReadWithRequirements (needed : PerTopicLastTimestamps) (answers : List (Option Batch))
    (callback : Store → α × Store) (store : Store) :
    Except CertifForReadWithRequirementsError α × Store :=
  match tryWithRequirements needed callback store with
  | (some result, store) => (.ok result, store)
  | (none, store) =>
    match pollServerForNewCertificates device needed answers store with
    | (.error error, store) => (.error error, store)
    | (.ok _, store) =>
      match tryWithRequirements needed callback store with
      | (some result, store) => (.ok result, store)
      | (none, store) => (.error .invalidRequirements, store)

end

def CertifForReadWithRequirementsError.forManifest :
    CertifForReadWithRequirementsError → CertifValidateManifestError
  | .offline => .offline
  | .invalidCertificate error => .invalidCertificate error
  | .invalidRequirements => .internal "Unexpected invalid requirements"
  | .internal message => .internal message
  | .panicked panic => .panicked panic

def CertifDecryptForRealmError.forManifest (announced : Announced) (keyIndex : Nat) :
    CertifDecryptForRealmError → CertifValidateManifestError
  | .offline => .offline
  | .notAllowed => .notAllowed
  | .keyNotFound => .invalidManifest (.nonExistentKeyIndex announced keyIndex)
  | .corruptedKey => .invalidManifest (.corruptedKey announced keyIndex)
  | .corruptedData => .invalidManifest (.cannotDecrypt announced keyIndex)
  | .invalidKeysBundle error => .invalidKeysBundle error
  | .internal message => .internal message
  | .panicked panic => .panicked panic

/-- PerTopicLastTimestamps::new_for_common_and_realm -/
def newForCommonAndRealm (commonTimestamp : DateTime) (realmId : VlobID)
    (realmTimestamp : DateTime) : PerTopicLastTimestamps :=
  ⟨some commonTimestamp, none, (∅ : HashMap VlobID DateTime).insert realmId realmTimestamp, none⟩

/-- Two errors in one: that of the callback, and that of what surrounds it. -/
def flatten (result : Except CertifForReadWithRequirementsError
    (Except CertifValidateManifestError M)) : Except CertifValidateManifestError M :=
  match result with
  | .ok result => result
  | .error error => .error error.forManifest

/-- What the device keeps of its user realm. -/
structure UserRealm where
  id : VlobID
  key : SecretKey

section
variable (device : LocalDevice) (decryptsCanary : KeyDerivation → List Byte → Bool)
variable (deriveSecretKeyFromUuid : KeyDerivation → Nat → SecretKey)
variable (server : VlobID → Nat → KeysBundleRep) (answers : List (Option Batch))
variable (neededRealm neededCommon : DateTime)

/-- The date of the data is not known here, so the key is looked up without a limit. -/
def decryptForRealm (usage : EncrytionUsage) (realmId : VlobID) (keyIndex : Nat)
    (encrypted : Encrypted α) (store : Store) : Except CertifDecryptForRealmError α × Store :=
  match loadLastRealmKeysBundle decryptsCanary device server realmId store with
  | (.error error, store) => (.error error.forDecrypt, store)
  | (.ok realmKeys, store) =>
    match realmKeys.keyFromIndex keyIndex none with
    | .error .corruptedKey => (.error .corruptedKey, store)
    | .error .keyNotFound => (.error .keyNotFound, store)
    | .ok keyDerivation =>
      match (deriveSecretKeyFromUuid keyDerivation usage.keyDerivationUuid).decrypt encrypted with
      | some cleartext => (.ok cleartext, store)
      | none => (.error .corruptedData, store)

def validateUserManifest (userRealm : UserRealm) (author : DeviceID) (version : Nat)
    (timestamp : DateTime) (encrypted : Encrypted (Signed ManifestData)) (store : Store) :
    Except CertifValidateManifestError UserManifest × Store :=
  let announced := ⟨userRealm.id, userRealm.id, version, author, timestamp⟩
  let needed := newForCommonAndRealm neededCommon userRealm.id neededRealm
  let (result, store) := forReadWithRequirements device needed answers (fun store =>
    match userRealm.key.decrypt encrypted with
    -- the user realm never uses key rotation
    | none => (.error (.invalidManifest (.cannotDecrypt announced 0)), store)
    | some cleartext => (validateManifest userManifest announced cleartext store.storage, store))
    store
  (flatten result, store)

/-- What validate_workspace_manifest and validate_child_manifest have in common. -/
def validateRealmManifest (kind : ManifestKind M) (announced : Announced) (keyIndex : Nat)
    (encrypted : Encrypted (Signed ManifestData)) (store : Store) :
    Except CertifValidateManifestError M × Store :=
  let needed := newForCommonAndRealm neededCommon announced.realm neededRealm
  let (result, store) := forReadWithRequirements device needed answers (fun store =>
    match decryptForRealm device decryptsCanary deriveSecretKeyFromUuid server
        (.vlob announced.vlob) announced.realm keyIndex encrypted store with
    | (.error error, store) => (.error (error.forManifest announced keyIndex), store)
    | (.ok cleartext, store) =>
      (validateManifest kind announced cleartext store.storage, store))
    store
  (flatten result, store)

def validateWorkspaceManifest (realmId : VlobID) (keyIndex : Nat) (author : DeviceID)
    (version : Nat) (timestamp : DateTime) (encrypted : Encrypted (Signed ManifestData))
    (store : Store) : Except CertifValidateManifestError FolderManifest × Store :=
  let (result, store) := validateRealmManifest device decryptsCanary deriveSecretKeyFromUuid server
    answers neededRealm neededCommon workspaceManifest
    ⟨realmId, realmId, version, author, timestamp⟩ keyIndex encrypted store
  (result.map (·.folder), store)

def validateChildManifest (realmId : VlobID) (keyIndex : Nat) (vlobId : VlobID)
    (author : DeviceID) (version : Nat) (timestamp : DateTime)
    (encrypted : Encrypted (Signed ManifestData)) (store : Store) :
    Except CertifValidateManifestError ChildManifest × Store :=
  validateRealmManifest device decryptsCanary deriveSecretKeyFromUuid server answers neededRealm
    neededCommon childManifest ⟨realmId, vlobId, version, author, timestamp⟩ keyIndex encrypted
    store

end

end Certif

end ParsecCloud

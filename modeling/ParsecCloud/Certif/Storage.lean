import ParsecCloud.Certif.Certificate
import ParsecCloud.Lib.HashMap
import Mathlib.Data.List.Sort

/- The local storage of certificates (platform_storage, certificates.rs and
   native/certificates.rs). It is the table of the certificates in the order they were inserted;
   that a certificate is encrypted and serialized there is left out. Among certificates of one
   timestamp a query for the last one may return any: here it is the one inserted first. -/
namespace ParsecCloud.Certif
open Rust HashMap

abbrev Storage := List Certificate

/-- Values of the certificate_type column. -/
inductive CertificateType where
  | user | device | revokedUser | userUpdate
  | realmRole | realmName | realmKeyRotation | realmArchiving
  | sequesterAuthority | sequesterService | sequesterRevokedService
  | shamirRecoveryBrief | shamirRecoveryShare | shamirRecoveryDeletion
  deriving DecidableEq

/-- The bytes of an identifier are those of its UUID. -/
inductive FilterKind where
  | null
  | bytes (uuid : Nat)
  | u64 (value : Nat)
  deriving DecidableEq

def Certificate.type : Certificate → CertificateType
  | .common (.user _) => .user
  | .common (.device _) => .device
  | .common (.userUpdate _) => .userUpdate
  | .common (.revokedUser _) => .revokedUser
  | .realm (.role _) => .realmRole
  | .realm (.name _) => .realmName
  | .realm (.keyRotation _) => .realmKeyRotation
  | .realm (.archiving _) => .realmArchiving
  | .shamirRecovery (.brief _) => .shamirRecoveryBrief
  | .shamirRecovery (.share _) => .shamirRecoveryShare
  | .shamirRecovery (.deletion _) => .shamirRecoveryDeletion
  | .sequester (.authority _) => .sequesterAuthority
  | .sequester (.service _) => .sequesterService
  | .sequester (.revokedService _) => .sequesterRevokedService

def Certificate.filters : Certificate → FilterKind × FilterKind
  | .common (.user certif) => (.bytes certif.userId.uuid, .null)
  | .common (.device certif) => (.bytes certif.deviceId.uuid, .bytes certif.userId.uuid)
  | .common (.userUpdate certif) => (.bytes certif.userId.uuid, .null)
  | .common (.revokedUser certif) => (.bytes certif.userId.uuid, .null)
  | .realm (.role certif) => (.bytes certif.realmId.uuid, .bytes certif.userId.uuid)
  | .realm (.name certif) => (.bytes certif.realmId.uuid, .null)
  | .realm (.keyRotation certif) => (.bytes certif.realmId.uuid, .u64 certif.keyIndex)
  | .realm (.archiving certif) => (.bytes certif.realmId.uuid, .null)
  | .shamirRecovery (.brief certif) => (.bytes certif.userId.uuid, .null)
  | .shamirRecovery (.share certif) => (.bytes certif.userId.uuid, .bytes certif.recipient.uuid)
  | .shamirRecovery (.deletion certif) => (.bytes certif.setupToDeleteUserId.uuid, .null)
  | .sequester (.authority _) => (.null, .null)
  | .sequester (.service certif) => (.bytes certif.serviceId.uuid, .null)
  | .sequester (.revokedService certif) => (.bytes certif.serviceId.uuid, .null)

inductive UpTo where
  | current
  | timestamp (limit : DateTime)

def UpTo.covers : UpTo → DateTime → Bool
  | .current, _ => true
  | .timestamp limit, date => date ≤ limit

inductive GetCertificateError where
  | nonExisting
  | existButTooRecent (certificateTimestamp : DateTime)
  | internal (message : String)
  deriving DecidableEq

inductive GetCertificateQuery where
  | noFilter (type : CertificateType)
  | filter1 (type : CertificateType) (filter1 : FilterKind)
  | bothFilters (type : CertificateType) (filter1 filter2 : FilterKind)

namespace GetCertificateQuery

def userCertificate (id : UserID) := filter1 .user (.bytes id.uuid)
def deviceCertificate (id : DeviceID) := filter1 .device (.bytes id.uuid)
def revokedUserCertificate (id : UserID) := filter1 .revokedUser (.bytes id.uuid)
def userUpdateCertificates (id : UserID) := filter1 .userUpdate (.bytes id.uuid)
def realmRoleCertificates (id : VlobID) := filter1 .realmRole (.bytes id.uuid)
def realmRoleCertificate (id : VlobID) (user : UserID) :=
  bothFilters .realmRole (.bytes id.uuid) (.bytes user.uuid)
def realmNameCertificates (id : VlobID) := filter1 .realmName (.bytes id.uuid)
def realmKeyRotationCertificates (id : VlobID) := filter1 .realmKeyRotation (.bytes id.uuid)
def shamirRecoveryBriefCertificates := noFilter .shamirRecoveryBrief
def userShamirRecoveryBriefCertificates (id : UserID) :=
  filter1 .shamirRecoveryBrief (.bytes id.uuid)
def userRecipientShamirRecoveryShareCertificates (user recipient : UserID) :=
  bothFilters .shamirRecoveryShare (.bytes user.uuid) (.bytes recipient.uuid)
def userShamirRecoveryDeletionCertificates (id : UserID) :=
  filter1 .shamirRecoveryDeletion (.bytes id.uuid)
def sequesterAuthorityCertificate := noFilter .sequesterAuthority
def sequesterServiceCertificates := noFilter .sequesterService
def sequesterRevokedServiceCertificate (id : SequesterServiceID) :=
  filter1 .sequesterRevokedService (.bytes id.uuid)

/-- In SQL nothing equals NULL. -/
def sqlEq (column value : FilterKind) : Bool := column ≠ .null && column = value

def selects : GetCertificateQuery → Certificate → Bool
  | noFilter type, certif => certif.type = type
  | filter1 type value, certif => certif.type = type && sqlEq certif.filters.1 value
  | bothFilters type value1 value2, certif =>
    certif.type = type && sqlEq certif.filters.1 value1 && sqlEq certif.filters.2 value2

end GetCertificateQuery

namespace Storage

def select (storage : Storage) (query : GetCertificateQuery) (upTo : UpTo) : List Certificate :=
  storage.filter fun certif => query.selects certif && upTo.covers certif.timestamp

/-- ORDER BY certificate_timestamp DESC LIMIT 1 -/
def newest : List Certificate → Option Certificate
  | [] => none
  | certif :: rest =>
    match newest rest with
    | some other => if certif.timestamp < other.timestamp then some other else some certif
    | none => some certif

/-- get_certificate_encrypted -/
def getCertificate (storage : Storage) (query : GetCertificateQuery) (upTo : UpTo) :
    Except GetCertificateError Certificate :=
  match newest (storage.select query upTo) with
  | some certif => .ok certif
  | none =>
    match upTo with
    | .current => .error .nonExisting
    | .timestamp limit =>
      match (storage.select query .current).head? with
      | none => .error .nonExisting
      | some certif =>
        if certif.timestamp > limit then .error (.existButTooRecent certif.timestamp)
        else .ok certif

/-- get_multiple_certificates_encrypted -/
def getMultipleCertificates (storage : Storage) (query : GetCertificateQuery) (upTo : UpTo) :
    List Certificate :=
  (storage.select query upTo).insertionSort fun a b => a.timestamp ≤ b.timestamp

end Storage

structure PerTopicLastTimestamps where
  common : Option DateTime
  sequester : Option DateTime
  realm : HashMap VlobID DateTime
  shamirRecovery : Option DateTime

namespace PerTopicLastTimestamps

def empty : PerTopicLastTimestamps := ⟨none, none, ∅, none⟩

def isEmpty (last : PerTopicLastTimestamps) : Bool :=
  last.common.isNone && last.sequester.isNone && last.realm.keys = ∅ && last.shamirRecovery.isNone

/-- The order of Option<DateTime>: None comes before everything else. -/
def older : Option DateTime → Option DateTime → Bool
  | _, none => false
  | none, some _ => true
  | some a, some b => a < b

def isUpToDate (last other : PerTopicLastTimestamps) : Bool :=
  !older last.common other.common && !older last.sequester other.sequester &&
    !older last.shamirRecovery other.shamirRecovery &&
    decide (∀ id ∈ other.realm.keys,
      (last.realm.lookup id).isSome ∧ older (last.realm.lookup id) (other.realm.lookup id) = false)

def latest : Option DateTime → DateTime → DateTime
  | none, timestamp => timestamp
  | some last, timestamp => max last timestamp

def record (last : PerTopicLastTimestamps) : Certificate → PerTopicLastTimestamps
  | .common certif => { last with common := some (latest last.common certif.timestamp) }
  | .realm certif =>
    let known := last.realm.lookup certif.realmId
    { last with realm := last.realm.insert certif.realmId (latest known certif.timestamp) }
  | .shamirRecovery certif =>
    { last with shamirRecovery := some (latest last.shamirRecovery certif.timestamp) }
  | .sequester certif => { last with sequester := some (latest last.sequester certif.timestamp) }

end PerTopicLastTimestamps

/-- The last timestamp of each topic. -/
def Storage.getLastTimestamps (storage : Storage) : PerTopicLastTimestamps :=
  storage.foldl PerTopicLastTimestamps.record PerTopicLastTimestamps.empty

namespace Storage
open GetCertificateQuery

def invalidData : String := "Local database contains invalid data"

/-- A row read back as a certificate of the expected type. -/
def load (expected : Certificate → Option α) (certif : Certificate) :
    Except GetCertificateError α :=
  match expected certif with
  | some certif => .ok certif
  | none => .error (.internal invalidData)

def isUser : Certificate → Option UserCertificate
  | .common (.user certif) => some certif
  | _ => none

def isDevice : Certificate → Option DeviceCertificate
  | .common (.device certif) => some certif
  | _ => none

def isUserUpdate : Certificate → Option UserUpdateCertificate
  | .common (.userUpdate certif) => some certif
  | _ => none

def isRevokedUser : Certificate → Option RevokedUserCertificate
  | .common (.revokedUser certif) => some certif
  | _ => none

def isRealmRole : Certificate → Option RealmRoleCertificate
  | .realm (.role certif) => some certif
  | _ => none

def isRealmKeyRotation : Certificate → Option RealmKeyRotationCertificate
  | .realm (.keyRotation certif) => some certif
  | _ => none

def isShamirRecoveryBrief : Certificate → Option ShamirRecoveryBriefCertificate
  | .shamirRecovery (.brief certif) => some certif
  | _ => none

def isShamirRecoveryShare : Certificate → Option ShamirRecoveryShareCertificate
  | .shamirRecovery (.share certif) => some certif
  | _ => none

def isShamirRecoveryDeletion : Certificate → Option ShamirRecoveryDeletionCertificate
  | .shamirRecovery (.deletion certif) => some certif
  | _ => none

def isSequesterAuthority : Certificate → Option SequesterAuthorityCertificate
  | .sequester (.authority certif) => some certif
  | _ => none

def isSequesterService : Certificate → Option SequesterServiceCertificate
  | .sequester (.service certif) => some certif
  | _ => none

def isSequesterRevokedService : Certificate → Option SequesterRevokedServiceCertificate
  | .sequester (.revokedService certif) => some certif
  | _ => none

def getOne (storage : Storage) (query : GetCertificateQuery) (upTo : UpTo)
    (expected : Certificate → Option α) : Except GetCertificateError α := do
  load expected (← storage.getCertificate query upTo)

/-- A certificate that may not exist, or not yet. -/
def getMaybe (storage : Storage) (query : GetCertificateQuery) (upTo : UpTo)
    (expected : Certificate → Option α) : Except String (Option α) :=
  match storage.getOne query upTo expected with
  | .ok certif => .ok (some certif)
  | .error .nonExisting => .ok none
  | .error (.existButTooRecent _) => .ok none
  | .error (.internal message) => .error message

def getMultiple (storage : Storage) (query : GetCertificateQuery) (upTo : UpTo)
    (expected : Certificate → Option α) : Except String (List α) :=
  (storage.getMultipleCertificates query upTo).mapM fun certif =>
    match expected certif with
    | some certif => .ok certif
    | none => .error invalidData

def getUserCertificate (storage : Storage) (upTo : UpTo) (id : UserID) :=
  storage.getOne (userCertificate id) upTo isUser

def getDeviceCertificate (storage : Storage) (upTo : UpTo) (id : DeviceID) :=
  storage.getOne (deviceCertificate id) upTo isDevice

def getRevokedUserCertificate (storage : Storage) (upTo : UpTo) (id : UserID) :=
  storage.getMaybe (revokedUserCertificate id) upTo isRevokedUser

def getLastUserUpdateCertificate (storage : Storage) (upTo : UpTo) (id : UserID) :=
  storage.getMaybe (userUpdateCertificates id) upTo isUserUpdate

def lastProfile (storage : Storage) (id : UserID) (initial : UserProfile) :
    Except String UserProfile := do
  match ← storage.getLastUserUpdateCertificate .current id with
  | some update => return update.newProfile
  | none => return initial

def getRealmRoles (storage : Storage) (upTo : UpTo) (id : VlobID) :=
  storage.getMultiple (realmRoleCertificates id) upTo isRealmRole

def getSequesterAuthorityCertificate (storage : Storage) :=
  storage.getMaybe sequesterAuthorityCertificate .current isSequesterAuthority

def getSequesterServiceCertificates (storage : Storage) (upTo : UpTo) :
    Except String (List SequesterServiceCertificate) := do
  match ← storage.getSequesterAuthorityCertificate with
  | none => return []
  | some _ => storage.getMultiple sequesterServiceCertificates upTo isSequesterService

def getSequesterRevokedServiceCertificate (storage : Storage) (upTo : UpTo)
    (id : SequesterServiceID) : Except String (Option SequesterRevokedServiceCertificate) := do
  match ← storage.getMaybe (sequesterRevokedServiceCertificate id) upTo
      isSequesterRevokedService with
  | none => return none
  | some certif =>
    match ← storage.getSequesterAuthorityCertificate with
    | none => return none
    | some _ => return some certif

def getLastShamirRecoveryBriefCertificate (storage : Storage) (upTo : UpTo) :=
  storage.getMaybe shamirRecoveryBriefCertificates upTo isShamirRecoveryBrief

def getLastShamirRecoveryBriefCertificateForAuthor (storage : Storage) (upTo : UpTo)
    (author : UserID) :=
  storage.getMaybe (userShamirRecoveryBriefCertificates author) upTo isShamirRecoveryBrief

def getLastShamirRecoveryShareCertificateForRecipient (storage : Storage) (upTo : UpTo)
    (author recipient : UserID) :=
  storage.getMaybe (userRecipientShamirRecoveryShareCertificates author recipient) upTo
    isShamirRecoveryShare

def getLastShamirRecoveryDeletionCertificateForAuthor (storage : Storage) (upTo : UpTo)
    (author : UserID) :=
  storage.getMaybe (userShamirRecoveryDeletionCertificates author) upTo isShamirRecoveryDeletion

end Storage

inductive LastShamirRecovery where
  | neverSetup
  | valid (brief : ShamirRecoveryBriefCertificate)
  | deleted (brief : ShamirRecoveryBriefCertificate) (deletion : ShamirRecoveryDeletionCertificate)

def Storage.getLastShamirRecoveryForAuthor (storage : Storage) (upTo : UpTo) (user : UserID) :
    Except String LastShamirRecovery := do
  match ← storage.getLastShamirRecoveryBriefCertificateForAuthor upTo user with
  | none => return .neverSetup
  | some brief =>
    match ← storage.getLastShamirRecoveryDeletionCertificateForAuthor upTo user with
    | none => return .valid brief
    | some deletion =>
      if deletion.setupToDeleteTimestamp = brief.timestamp then return .deleted brief deletion
      else return .valid brief

end ParsecCloud.Certif

import ParsecCloud.Types.Manifest
import Mathlib.Data.Finset.Basic

/- Certificates (libparsec_types, certif.rs), with the fields that the certificate ops read.
   A key stands for its pair: a signature made with a key verifies against that key only. -/
namespace ParsecCloud.Certif
open Rust

structure UserID where
  uuid : Nat
  deriving DecidableEq

structure SequesterServiceID where
  uuid : Nat
  deriving DecidableEq

structure VerifyKey where
  key : Nat
  deriving DecidableEq

structure SequesterVerifyKeyDer where
  key : Nat
  deriving DecidableEq

inductive UserProfile where
  | admin
  | standard
  | outsider
  deriving DecidableEq

inductive RealmRole where
  | owner
  | manager
  | contributor
  | reader
  deriving DecidableEq

inductive CertificateSigner where
  | user (device : DeviceID)
  | root
  deriving DecidableEq

structure UserCertificate where
  author : CertificateSigner
  timestamp : DateTime
  userId : UserID
  profile : UserProfile

structure DeviceCertificate where
  author : CertificateSigner
  timestamp : DateTime
  userId : UserID
  deviceId : DeviceID
  verifyKey : VerifyKey

structure UserUpdateCertificate where
  author : DeviceID
  timestamp : DateTime
  userId : UserID
  newProfile : UserProfile

structure RevokedUserCertificate where
  author : DeviceID
  timestamp : DateTime
  userId : UserID

inductive CommonCertificate where
  | user (certif : UserCertificate)
  | device (certif : DeviceCertificate)
  | userUpdate (certif : UserUpdateCertificate)
  | revokedUser (certif : RevokedUserCertificate)

structure RealmRoleCertificate where
  author : DeviceID
  timestamp : DateTime
  realmId : VlobID
  userId : UserID
  role : Option RealmRole

structure RealmNameCertificate where
  author : DeviceID
  timestamp : DateTime
  realmId : VlobID
  keyIndex : Nat

structure RealmKeyRotationCertificate where
  author : DeviceID
  timestamp : DateTime
  realmId : VlobID
  keyIndex : Nat
  keyCanary : List Byte

structure RealmArchivingCertificate where
  author : DeviceID
  timestamp : DateTime
  realmId : VlobID

inductive RealmCertificate where
  | role (certif : RealmRoleCertificate)
  | name (certif : RealmNameCertificate)
  | keyRotation (certif : RealmKeyRotationCertificate)
  | archiving (certif : RealmArchivingCertificate)

/-- The shares are those of the hash map, in the order it is walked through. -/
structure ShamirRecoveryBriefCertificate where
  author : DeviceID
  timestamp : DateTime
  userId : UserID
  threshold : Nat
  perRecipientShares : List (UserID × Nat)

structure ShamirRecoveryShareCertificate where
  author : DeviceID
  timestamp : DateTime
  userId : UserID
  recipient : UserID

structure ShamirRecoveryDeletionCertificate where
  author : DeviceID
  timestamp : DateTime
  setupToDeleteTimestamp : DateTime
  setupToDeleteUserId : UserID
  shareRecipients : Finset UserID

inductive ShamirRecoveryCertificate where
  | brief (certif : ShamirRecoveryBriefCertificate)
  | share (certif : ShamirRecoveryShareCertificate)
  | deletion (certif : ShamirRecoveryDeletionCertificate)

structure SequesterAuthorityCertificate where
  timestamp : DateTime
  verifyKeyDer : SequesterVerifyKeyDer

structure SequesterServiceCertificate where
  timestamp : DateTime
  serviceId : SequesterServiceID

structure SequesterRevokedServiceCertificate where
  timestamp : DateTime
  serviceId : SequesterServiceID

inductive SequesterCertificate where
  | authority (certif : SequesterAuthorityCertificate)
  | service (certif : SequesterServiceCertificate)
  | revokedService (certif : SequesterRevokedServiceCertificate)

inductive Certificate where
  | common (certif : CommonCertificate)
  | realm (certif : RealmCertificate)
  | shamirRecovery (certif : ShamirRecoveryCertificate)
  | sequester (certif : SequesterCertificate)

def CommonCertificate.timestamp : CommonCertificate → DateTime
  | .user certif => certif.timestamp
  | .device certif => certif.timestamp
  | .userUpdate certif => certif.timestamp
  | .revokedUser certif => certif.timestamp

def RealmCertificate.timestamp : RealmCertificate → DateTime
  | .role certif => certif.timestamp
  | .name certif => certif.timestamp
  | .keyRotation certif => certif.timestamp
  | .archiving certif => certif.timestamp

def RealmCertificate.realmId : RealmCertificate → VlobID
  | .role certif => certif.realmId
  | .name certif => certif.realmId
  | .keyRotation certif => certif.realmId
  | .archiving certif => certif.realmId

def ShamirRecoveryCertificate.timestamp : ShamirRecoveryCertificate → DateTime
  | .brief certif => certif.timestamp
  | .share certif => certif.timestamp
  | .deletion certif => certif.timestamp

def SequesterCertificate.timestamp : SequesterCertificate → DateTime
  | .authority certif => certif.timestamp
  | .service certif => certif.timestamp
  | .revokedService certif => certif.timestamp

def Certificate.timestamp : Certificate → DateTime
  | .common certif => certif.timestamp
  | .realm certif => certif.timestamp
  | .shamirRecovery certif => certif.timestamp
  | .sequester certif => certif.timestamp

/-- The author of a certificate; those of the sequester topic are signed by other keys. -/
def Certificate.author : Certificate → Option CertificateSigner
  | .common (.user certif) => some certif.author
  | .common (.device certif) => some certif.author
  | .common (.userUpdate certif) => some (.user certif.author)
  | .common (.revokedUser certif) => some (.user certif.author)
  | .realm (.role certif) => some (.user certif.author)
  | .realm (.name certif) => some (.user certif.author)
  | .realm (.keyRotation certif) => some (.user certif.author)
  | .realm (.archiving certif) => some (.user certif.author)
  | .shamirRecovery (.brief certif) => some (.user certif.author)
  | .shamirRecovery (.share certif) => some (.user certif.author)
  | .shamirRecovery (.deletion certif) => some (.user certif.author)
  | .sequester _ => none

/-- Why signed data is not what is expected. -/
inductive LoadError where
  | badSerialization
  | signature
  | integrity (error : DataError)
  | unexpectedAuthor (expected got : DeviceID)
  | unexpectedTimestamp (expected got : DateTime)
  | unexpectedId (expected got : VlobID)
  | unexpectedRealmID (expected got : VlobID)
  | unexpectedVersion (expected got : Nat)

def ShamirRecoveryBriefCertificate.checkDataIntegrity (certif : ShamirRecoveryBriefCertificate) :
    Except LoadError Unit :=
  let totalShares := certif.perRecipientShares.foldl (fun total share => total + share.2) 0
  if totalShares > 255 then
    .error (.integrity ⟨"ShamirRecoveryBriefCertificate", "total_shares <= 255"⟩)
  else if certif.threshold > totalShares then
    .error (.integrity ⟨"ShamirRecoveryBriefCertificate", "threshold <= total_shares"⟩)
  else .ok ()

/-- Signed data received from the server. -/
inductive Signed (α : Type) where
  | malformed (error : LoadError)
  | certificate (content : α) (signedBy : VerifyKey)

/-- The certificates of the sequester topic are signed with two kinds of keys. -/
inductive SignedSequester where
  | malformed (error : LoadError)
  | authority (content : SequesterAuthorityCertificate) (signedBy : VerifyKey)
  | service (content : SequesterServiceCertificate) (signedBy : SequesterVerifyKeyDer)
  | revokedService (content : SequesterRevokedServiceCertificate)
      (signedBy : SequesterVerifyKeyDer)

/-- unsecure_load for the common and the realm topics, whose certificates have no integrity
    check of their own -/
def Signed.unsecureLoad : Signed α → Except LoadError (α × VerifyKey)
  | .malformed error => .error error
  | .certificate content signedBy => .ok (content, signedBy)

/-- unsecure_load for the shamir recovery topic -/
def unsecureLoadShamirRecovery (signed : Signed ShamirRecoveryCertificate) :
    Except LoadError (ShamirRecoveryCertificate × VerifyKey) := do
  let (content, signedBy) ← signed.unsecureLoad
  match content with
  | .brief certif =>
    certif.checkDataIntegrity
    return (content, signedBy)
  | _ => return (content, signedBy)

end ParsecCloud.Certif

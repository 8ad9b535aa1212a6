import ParsecCloud.Server.Operations
import ParsecCloud.Lib.DatedLog
import Mathlib.Data.List.Lex
import Mathlib.Data.Prod.Lex

/- The certificates that a device may read (memory/user.py, get_certificates). -/
namespace ParsecCloud.Server
open Certif DatedLog

/-- A certificate with what it is sorted by and what its bytes contain. -/
structure CertificateEntry where
  timestamp : DateTime
  priority : Nat
  certificate : List Byte
  content : Certificate

namespace CertificateEntry

/-- The tuple that is sorted: the date, the priority, then the bytes. -/
def key (entry : CertificateEntry) : DateTime ×ₗ ℕ ×ₗ List ℕ :=
  toLex (entry.timestamp, toLex (entry.priority, entry.certificate.map UInt8.toNat))

end CertificateEntry

def userEntries (redacted : Bool) (user : MemoryUser) : List CertificateEntry :=
  let userCertificate :=
    if redacted then user.redactedUserCertificate else user.userCertificate
  let revoked := user.revoked.toList.map fun revoked =>
    CertificateEntry.mk revoked.1.timestamp 1 revoked.2 (.common (.revokedUser revoked.1))
  let updates := user.profileUpdates.map fun update =>
    CertificateEntry.mk update.1.timestamp 1 update.2 (.common (.userUpdate update.1))
  ⟨user.cooked.timestamp, 0, userCertificate, .common (.user user.cooked)⟩ :: (revoked ++ updates)

def deviceEntry (redacted : Bool) (device : MemoryDevice) : CertificateEntry :=
  ⟨device.cooked.timestamp, 1,
    if redacted then device.redactedDeviceCertificate else device.deviceCertificate,
    .common (.device device.cooked)⟩

def serviceEntries (service : MemorySequesterService) : List CertificateEntry :=
  ⟨service.cooked.timestamp, 0, service.sequesterServiceCertificate,
    .sequester (.service service.cooked)⟩ :: service.revoked.toList.map fun revoked =>
      ⟨revoked.1.timestamp, 0, revoked.2, .sequester (.revokedService revoked.1)⟩

def roleEntry (role : RealmRoleCertificate × List Byte) : CertificateEntry :=
  ⟨role.1.timestamp, 0, role.2, .realm (.role role.1)⟩

def rotationEntry (rotation : MemoryRealmKeyRotation) : CertificateEntry :=
  ⟨rotation.cooked.timestamp, 0, rotation.realmKeyRotationCertificate,
    .realm (.keyRotation rotation.cooked)⟩

def nameEntry (name : RealmNameCertificate × List Byte) : CertificateEntry :=
  ⟨name.1.timestamp, 0, name.2, .realm (.name name.1)⟩

/-- All the certificates of a realm, unordered. -/
def MemoryRealm.entries (realm : MemoryRealm) : List CertificateEntry :=
  realm.roles.map roleEntry ++ realm.keyRotations.map rotationEntry ++ realm.renames.map nameEntry

/-- The certificates of a realm for a user: none when it never had access, and those of before when
    it has lost it. -/
def MemoryRealm.certificates (realm : MemoryRealm) (userId : UserID) : List CertificateEntry :=
  match realm.roles.reverse.find? fun role => role.1.userId = userId with
  | none => []
  | some (lastRole, _) =>
    match lastRole.role with
    | none => sortBy (·.key) (realm.entries.filter fun entry => entry.timestamp ≤ lastRole.timestamp)
    | some _ => sortBy (·.key) realm.entries

def MemoryShamirRecovery.entries (userId : UserID) (recovery : MemoryShamirRecovery) :
    List CertificateEntry :=
  let brief : CertificateEntry := ⟨recovery.cookedBrief.timestamp, 0,
    recovery.shamirRecoveryBriefCertificate, .shamirRecovery (.brief recovery.cookedBrief)⟩
  let deletion := recovery.deletion.toList.map fun deletion =>
    CertificateEntry.mk deletion.1.timestamp 0 deletion.2 (.shamirRecovery (.deletion deletion.1))
  if recovery.cookedBrief.userId = userId then brief :: deletion
  else
    match recovery.shares.get? userId with
    | none => []
    | some share =>
      brief :: ⟨recovery.cookedBrief.timestamp, 1, share.2,
        .shamirRecovery (.share share.1)⟩ :: deletion

structure CertificatesBundle where
  common : List CertificateEntry
  sequester : List CertificateEntry
  shamirRecovery : List CertificateEntry
  realm : Dict VlobID (List CertificateEntry)

/-- The certificates of a topic; a realm without new certificates is omitted. -/
def CertificatesBundle.of (bundle : CertificatesBundle) :
    TopicAndDiscriminant → List CertificateEntry
  | .common => bundle.common
  | .sequester => bundle.sequester
  | .realm realmId => (bundle.realm.get? realmId).getD []
  | .shamirRecovery => bundle.shamirRecovery

namespace MemoryOrganization
variable (org : MemoryOrganization)

def commonEntries (redacted : Bool) : List CertificateEntry :=
  org.users.values.flatMap (userEntries redacted) ++ org.devices.values.map (deviceEntry redacted)

def commonCertificates (redacted : Bool) : List CertificateEntry :=
  sortBy (·.key) (org.commonEntries redacted)

/-- The authority, then each service with its revocation: they are not sorted. -/
def sequesterCertificates : List CertificateEntry :=
  match org.sequesterAuthority with
  | none => []
  | some (authority, certificate) =>
    match org.sequesterServices with
    | none => []
    | some services => ⟨authority.timestamp, 0, certificate, .sequester (.authority authority)⟩ ::
        services.values.flatMap serviceEntries

def shamirEntries (userId : UserID) : List CertificateEntry :=
  org.shamirRecoveries.values.flatMap fun recoveries =>
    recoveries.flatMap (MemoryShamirRecovery.entries userId)

def shamirCertificates (userId : UserID) : List CertificateEntry :=
  sortBy (·.key) (org.shamirEntries userId)

/-- The realms with new certificates for the user. -/
def realmCertificates (userId : UserID) (realmAfter : VlobID → Option DateTime) :
    Dict VlobID (List CertificateEntry) :=
  org.realms.values.foldl (fun bundle realm =>
    match since (·.timestamp) (realmAfter realm.realmId) (realm.certificates userId) with
    | [] => bundle
    | new :: rest => bundle.set realm.realmId (new :: rest)) .empty

def getCertificates (author : DeviceID)
    (commonAfter sequesterAfter shamirRecoveryAfter : Option DateTime)
    (realmAfter : VlobID → Option DateTime) : Except BadOutcome CertificatesBundle := do
  refuse org.isExpired .organizationExpired
  match org.devices.get? author with
  | none => .error .authorNotFound
  | some device =>
    match org.users.get? device.cooked.userId with
    | none => .error .authorNotFound
    | some user =>
      let redacted := decide (user.currentProfile = .outsider)
      refuse (org.sequesterAuthority.isSome && org.sequesterServices.isNone)
        (.raised .assertionError)
      return {
        common := since (·.timestamp) commonAfter (org.commonCertificates redacted)
        sequester := since (·.timestamp) sequesterAfter org.sequesterCertificates
        shamirRecovery := since (·.timestamp) shamirRecoveryAfter
          (org.shamirCertificates device.cooked.userId)
        realm := org.realmCertificates device.cooked.userId realmAfter }

end MemoryOrganization

end ParsecCloud.Server

import ParsecCloud.Server.Operations

/- The operations on the shamir recoveries (memory/shamir.py) and on the sequester services
   (memory/sequester.py). -/
namespace ParsecCloud.Server
open Certif

/-- The shares by recipient, each for a recipient of the brief and with its date. -/
def collectShares (brief : ShamirRecoveryBriefCertificate) (expectedAuthor : DeviceID)
    (expectedAuthorUserId : UserID) (authorVerifyKey : VerifyKey) :
    List (Uploaded ShamirRecoveryShareCertificate) →
      Dict UserID (ShamirRecoveryShareCertificate × List Byte) →
      Except BadOutcome (Dict UserID (ShamirRecoveryShareCertificate × List Byte))
  | [], shares => .ok shares
  | uploaded :: rest, shares => do
    let share ← uploaded.verifyAndLoad (.user ·.author) expectedAuthor authorVerifyKey
    refuse (share.timestamp ≠ brief.timestamp) .shareInconsistentTimestamp
    refuse (share.recipient ∉ brief.perRecipientShares.map Prod.fst) .shareRecipientNotInBrief
    refuse (shares.get? share.recipient).isSome .duplicateShareForRecipient
    refuse (share.recipient = expectedAuthorUserId) .authorIncludedAsRecipient
    collectShares brief expectedAuthor expectedAuthorUserId authorVerifyKey rest
      (shares.set share.recipient (share, uploaded.raw))

def checkBriefIntegrity (brief : ShamirRecoveryBriefCertificate) : Except BadOutcome Unit :=
  match brief.checkDataIntegrity with
  | .error _ => .error .invalidCertificate
  | .ok () => .ok ()

def shamirSetupValidate (now : DateTime) (expectedAuthor : DeviceID)
    (expectedAuthorUserId : UserID) (authorVerifyKey : VerifyKey)
    (briefCertificate : Uploaded ShamirRecoveryBriefCertificate)
    (shareCertificates : List (Uploaded ShamirRecoveryShareCertificate)) :
    Except BadOutcome (ShamirRecoveryBriefCertificate ×
      Dict UserID (ShamirRecoveryShareCertificate × List Byte)) := do
  let brief ← briefCertificate.verifyAndLoad (.user ·.author) expectedAuthor authorVerifyKey
  checkBriefIntegrity brief
  checkBallpark brief.timestamp now
  refuse (brief.userId ≠ expectedAuthorUserId) .userIdMustBeSelf
  refuse (brief.perRecipientShares.length ≠ shareCertificates.length) .missingShareForRecipient
  let shares ← collectShares brief expectedAuthor expectedAuthorUserId authorVerifyKey
    shareCertificates .empty
  return (brief, shares)

def shamirDeleteValidate (now : DateTime) (expectedAuthor : DeviceID)
    (expectedAuthorUserId : UserID) (authorVerifyKey : VerifyKey)
    (deletionCertificate : Uploaded ShamirRecoveryDeletionCertificate) :
    Except BadOutcome ShamirRecoveryDeletionCertificate := do
  let deletion ← deletionCertificate.verifyAndLoad (.user ·.author) expectedAuthor authorVerifyKey
  checkBallpark deletion.timestamp now
  refuse (deletion.setupToDeleteUserId ≠ expectedAuthorUserId) .userIdMustBeSelf
  return deletion

namespace MemoryOrganization
variable (org : MemoryOrganization)

/-- The author of a recovery operation, who may be revoked. -/
def checkShamirAuthor (author : DeviceID) : Except BadOutcome UserID := do
  refuse org.isExpired .organizationExpired
  match org.devices.get? author with
  | none => .error .authorNotFound
  | some device =>
    refuse (org.users.get? device.cooked.userId).isNone .authorNotFound
    return device.cooked.userId

/-- All the recipients exist and are not revoked. -/
def checkRecipients : List UserID → Except BadOutcome Unit
  | [] => .ok ()
  | recipient :: rest =>
    match org.users.get? recipient with
    | none => .error .recipientNotFound
    | some user => do
      refuse user.isRevoked .recipientRevoked
      checkRecipients rest

def recoveriesOf (userId : UserID) : List MemoryShamirRecovery :=
  (org.shamirRecoveries.get? userId).getD []

def setupShamir (now : DateTime) (author : DeviceID) (authorVerifyKey : VerifyKey)
    (briefCertificate : Uploaded ShamirRecoveryBriefCertificate)
    (shareCertificates : List (Uploaded ShamirRecoveryShareCertificate)) :
    Except BadOutcome MemoryOrganization := do
  let authorUserId ← org.checkShamirAuthor author
  let (brief, shares) ← shamirSetupValidate now author authorUserId authorVerifyKey
    briefCertificate shareCertificates
  org.checkRecipients shares.keys
  let recoveries := org.recoveriesOf authorUserId
  refuse (recoveries.getLast?.any fun previous => !previous.isDeleted)
    (.setupAlreadyExists (org.lastTimestamp .shamirRecovery))
  checkCausality (max (org.lastTimestamp .common) (org.lastTimestamp .shamirRecovery))
    brief.timestamp
  let org := org.withLastTimestamp .shamirRecovery brief.timestamp
  return { org with
    shamirRecoveries := org.shamirRecoveries.set authorUserId
      (recoveries ++ [⟨brief, briefCertificate.raw, shares, none⟩]) }

def deleteShamir (now : DateTime) (author : DeviceID) (authorVerifyKey : VerifyKey)
    (deletionCertificate : Uploaded ShamirRecoveryDeletionCertificate) :
    Except BadOutcome MemoryOrganization := do
  let authorUserId ← org.checkShamirAuthor author
  let deletion ← shamirDeleteValidate now author authorUserId authorVerifyKey deletionCertificate
  checkCausality (max (org.lastTimestamp .common) (org.lastTimestamp .shamirRecovery))
    deletion.timestamp
  let recoveries := org.recoveriesOf authorUserId
  let isSetup := fun setup : MemoryShamirRecovery =>
    decide (setup.cookedBrief.timestamp = deletion.setupToDeleteTimestamp)
  match recoveries[recoveries.findIdx isSetup]? with
  | none => .error .setupNotFound
  | some setup =>
    refuse (setup.shares.keys.toFinset ≠ deletion.shareRecipients) .recipientsMismatch
    refuse setup.isDeleted (.setupAlreadyDeleted (org.lastTimestamp .shamirRecovery))
    let org := org.withLastTimestamp .shamirRecovery deletion.timestamp
    return { org with
      shamirRecoveries := org.shamirRecoveries.set authorUserId
        (recoveries.set (recoveries.findIdx isSetup)
          { setup with deletion := some (deletion, deletionCertificate.raw) }) }

/-- The services and the key of the authority of a sequestered organization. -/
def checkSequestered :
    Except BadOutcome (Dict SequesterServiceID MemorySequesterService × SequesterVerifyKeyDer) :=
  match org.sequesterServices with
  | none => .error .sequesterDisabled
  | some services =>
    match org.sequesterAuthority with
    | none => .error (.raised .assertionError)
    | some (authority, _) => .ok (services, authority.verifyKeyDer)

def createService (certificate : List Byte × SignedSequester) (serviceType : SequesterServiceType) :
    Except BadOutcome MemoryOrganization := do
  let (services, key) ← org.checkSequestered
  match certificate.2 with
  | .service certif signedBy =>
    refuse (signedBy ≠ key) .invalidCertificate
    checkCausality (org.lastTimestamp .sequester) certif.timestamp
    refuse (services.get? certif.serviceId).isSome .sequesterServiceAlreadyExists
    let org := org.withLastTimestamp .sequester certif.timestamp
    return { org with
      sequesterServices := some (services.set certif.serviceId
        ⟨certif, certificate.1, serviceType, none⟩) }
  | _ => .error .invalidCertificate

def revokeService (certificate : List Byte × SignedSequester) :
    Except BadOutcome MemoryOrganization := do
  let (services, key) ← org.checkSequestered
  match certificate.2 with
  | .revokedService certif signedBy =>
    refuse (signedBy ≠ key) .invalidCertificate
    match services.get? certif.serviceId with
    | none => .error .sequesterServiceNotFound
    | some service =>
      checkCausality (org.lastTimestamp .sequester) certif.timestamp
      refuse service.isRevoked .sequesterServiceAlreadyRevoked
      let org := org.withLastTimestamp .sequester certif.timestamp
      return { org with
        sequesterServices := some (services.set certif.serviceId
          { service with revoked := some (certif, certificate.1) }) }
  | _ => .error .invalidCertificate

end MemoryOrganization

end ParsecCloud.Server

import ParsecCloud.Server.Datamodel

/- What the operations of the server share, and those of the common topic (memory/user.py and the
   validation of components/user.py). An uploaded certificate is given with its bytes. -/
namespace ParsecCloud.Server
open Certif

deriving instance DecidableEq for UserCertificate
deriving instance DecidableEq for DeviceCertificate

inductive BadOutcome where
  | organizationExpired
  | authorNotFound
  | authorRevoked
  | authorNotAllowed
  | invalidCertificate
  | timestampMismatch
  | timestampOutOfBallpark
  | userIdMismatch
  | invalidRedacted
  | redactedMismatch
  | invalidRole
  | cannotSelfShare
  | cannotSelfUnshare
  | cannotSelfRevoke
  | activeUsersLimitReached
  | userAlreadyExists
  | deviceAlreadyExists
  | humanHandleAlreadyTaken
  | userNotFound
  | userRevoked
  | userNoChanges
  | recipientNotFound
  | recipientRevoked
  | roleIncompatibleWithOutsider
  | realmNotFound
  | badKeyIndex (lastRealmCertificateTimestamp : DateTime)
  | participantMismatch (lastRealmCertificateTimestamp : DateTime)
  | sequesterServiceMismatch (lastSequesterCertificateTimestamp : DateTime)
  | organizationNotSequestered
  | sequesterDisabled
  | sequesterServiceNotFound
  | sequesterServiceAlreadyExists
  | sequesterServiceAlreadyRevoked
  | rejectedBySequesterService
  | userIdMustBeSelf
  | missingShareForRecipient
  | shareInconsistentTimestamp
  | shareRecipientNotInBrief
  | duplicateShareForRecipient
  | authorIncludedAsRecipient
  | setupAlreadyExists (lastShamirCertificateTimestamp : DateTime)
  | setupNotFound
  | recipientsMismatch
  | setupAlreadyDeleted (lastShamirCertificateTimestamp : DateTime)
  | vlobAlreadyExists
  | vlobNotFound
  | badVlobVersion
  | badRequestedKeyIndex
  | accessNotAvailableForAuthor
  | requireGreaterTimestamp (strictlyGreaterThan : DateTime)
  | idempotent (certificateTimestamp : DateTime)
  | raised (error : Raised)
  deriving DecidableEq

/-- A certificate that a client uploads. -/
structure Uploaded (α : Type) where
  raw : List Byte
  signed : Signed α

def Uploaded.content? {α : Type} (uploaded : Uploaded α) : Option α :=
  match uploaded.signed with
  | .malformed _ => none
  | .certificate content _ => some content

def Uploaded.verifyAndLoad {α : Type} (uploaded : Uploaded α) (authorOf : α → CertificateSigner)
    (expectedAuthor : DeviceID) (authorVerifyKey : VerifyKey) : Except BadOutcome α :=
  match uploaded.signed with
  | .malformed _ => .error .invalidCertificate
  | .certificate content signedBy =>
    if signedBy = authorVerifyKey ∧ authorOf content = .user expectedAuthor then .ok content
    else .error .invalidCertificate

def ballparkClientEarlyOffset : Int := 300 * 1000000

def ballparkClientLateOffset : Int := 320 * 1000000

def timestampsInTheBallpark (client server : DateTime) : Bool :=
  decide (-ballparkClientEarlyOffset < server - client) &&
    decide (server - client < ballparkClientLateOffset)

def checkBallpark (client server : DateTime) : Except BadOutcome Unit :=
  refuse (!timestampsInTheBallpark client server) .timestampOutOfBallpark

/-- A user certificate with the handle it gives to the user. -/
structure UserPayload where
  certif : UserCertificate
  humanHandle : EmailAddress
  isRedacted : Bool

structure DevicePayload where
  certif : DeviceCertificate
  isRedacted : Bool

namespace MemoryOrganization
variable (org : MemoryOrganization)

/-- The epoch when the topic has no certificate. -/
def lastTimestamp (topic : TopicAndDiscriminant) : DateTime :=
  (org.perTopicLastTimestamp topic).getD 0

def withLastTimestamp (topic : TopicAndDiscriminant) (timestamp : DateTime) : MemoryOrganization :=
  { org with
    perTopicLastTimestamp := Function.update org.perTopicLastTimestamp topic (some timestamp) }

/-- A certificate comes strictly after those of the topics. -/
def checkCausality (lastTimestamp timestamp : DateTime) : Except BadOutcome Unit :=
  refuse (lastTimestamp ≥ timestamp) (.requireGreaterTimestamp lastTimestamp)

/-- The device and the user of the author, who is not revoked. -/
def checkAuthor (author : DeviceID) : Except BadOutcome (MemoryDevice × MemoryUser) := do
  refuse org.isExpired .organizationExpired
  match org.devices.get? author with
  | none => .error .authorNotFound
  | some device =>
    match org.users.get? device.cooked.userId with
    | none => .error (.raised .keyError)
    | some user =>
      refuse user.isRevoked .authorRevoked
      return (device, user)

def activeUserLimitReached : Bool :=
  match org.activeUsersLimit with
  | none => false
  | some limit => limit ≤ (org.users.values.filter fun user => !user.isRevoked).length

end MemoryOrganization

def userCreateUserValidate (now : DateTime) (expectedAuthor : DeviceID)
    (authorVerifyKey : VerifyKey) (userCertificate redactedUserCertificate : Uploaded UserPayload)
    (deviceCertificate redactedDeviceCertificate : Uploaded DevicePayload) :
    Except BadOutcome (UserPayload × DeviceCertificate) := do
  let d ← deviceCertificate.verifyAndLoad (·.certif.author) expectedAuthor authorVerifyKey
  let u ← userCertificate.verifyAndLoad (·.certif.author) expectedAuthor authorVerifyKey
  let ru ← redactedUserCertificate.verifyAndLoad (·.certif.author) expectedAuthor authorVerifyKey
  let rd ← redactedDeviceCertificate.verifyAndLoad (·.certif.author) expectedAuthor authorVerifyKey
  refuse (u.certif.timestamp ≠ d.certif.timestamp) .timestampMismatch
  checkBallpark u.certif.timestamp now
  refuse (u.certif.userId ≠ d.certif.userId) .userIdMismatch
  refuse (!ru.isRedacted) .invalidRedacted
  refuse (!rd.isRedacted) .invalidRedacted
  refuse (u.certif ≠ ru.certif) .redactedMismatch
  refuse (d.certif ≠ rd.certif) .redactedMismatch
  return (u, d.certif)

def userCreateDeviceValidate (now : DateTime) (expectedAuthorUserId : UserID)
    (expectedAuthor : DeviceID) (authorVerifyKey : VerifyKey)
    (deviceCertificate redactedDeviceCertificate : Uploaded DevicePayload) :
    Except BadOutcome DeviceCertificate := do
  let d ← deviceCertificate.verifyAndLoad (·.certif.author) expectedAuthor authorVerifyKey
  let rd ← redactedDeviceCertificate.verifyAndLoad (·.certif.author) expectedAuthor authorVerifyKey
  checkBallpark d.certif.timestamp now
  refuse (d.certif.userId ≠ expectedAuthorUserId) .userIdMismatch
  refuse (!rd.isRedacted) .invalidRedacted
  refuse (d.certif ≠ rd.certif) .redactedMismatch
  return d.certif

def userRevokeUserValidate (now : DateTime) (expectedAuthorUserId : UserID)
    (expectedAuthor : DeviceID) (authorVerifyKey : VerifyKey)
    (revokedUserCertificate : Uploaded RevokedUserCertificate) :
    Except BadOutcome RevokedUserCertificate := do
  let certif ← revokedUserCertificate.verifyAndLoad (.user ·.author) expectedAuthor authorVerifyKey
  checkBallpark certif.timestamp now
  refuse (expectedAuthorUserId = certif.userId) .cannotSelfRevoke
  return certif

def userUpdateUserValidate (now : DateTime) (expectedAuthorUserId : UserID)
    (expectedAuthor : DeviceID) (authorVerifyKey : VerifyKey)
    (userUpdateCertificate : Uploaded UserUpdateCertificate) :
    Except BadOutcome UserUpdateCertificate := do
  let certif ← userUpdateCertificate.verifyAndLoad (.user ·.author) expectedAuthor authorVerifyKey
  checkBallpark certif.timestamp now
  refuse (expectedAuthorUserId = certif.userId) .cannotSelfRevoke
  return certif

namespace MemoryOrganization
variable (org : MemoryOrganization)

def createUser (now : DateTime) (author : DeviceID) (authorVerifyKey : VerifyKey)
    (userCertificate redactedUserCertificate : Uploaded UserPayload)
    (deviceCertificate redactedDeviceCertificate : Uploaded DevicePayload) :
    Except BadOutcome MemoryOrganization := do
  let (_, authorUser) ← org.checkAuthor author
  refuse (authorUser.currentProfile ≠ .admin) .authorNotAllowed
  let (u, d) ← userCreateUserValidate now author authorVerifyKey userCertificate
    redactedUserCertificate deviceCertificate redactedDeviceCertificate
  refuse org.activeUserLimitReached .activeUsersLimitReached
  refuse (org.users.get? u.certif.userId).isSome .userAlreadyExists
  refuse (org.devices.get? d.deviceId).isSome .userAlreadyExists
  refuse (org.users.values.any fun user => !user.isRevoked && user.email = u.humanHandle)
    .humanHandleAlreadyTaken
  checkCausality (org.lastTimestamp .common) u.certif.timestamp
  let org := org.withLastTimestamp .common u.certif.timestamp
  return { org with
    users := org.users.set u.certif.userId
      ⟨u.certif, u.humanHandle, userCertificate.raw, redactedUserCertificate.raw, [], none⟩
    devices := org.devices.set d.deviceId
      ⟨d, deviceCertificate.raw, redactedDeviceCertificate.raw⟩ }

def createDevice (now : DateTime) (author : DeviceID) (authorVerifyKey : VerifyKey)
    (deviceCertificate redactedDeviceCertificate : Uploaded DevicePayload) :
    Except BadOutcome MemoryOrganization := do
  let (authorDevice, _) ← org.checkAuthor author
  let certif ← userCreateDeviceValidate now authorDevice.cooked.userId author authorVerifyKey
    deviceCertificate redactedDeviceCertificate
  refuse (org.devices.get? certif.deviceId).isSome .deviceAlreadyExists
  checkCausality (org.lastTimestamp .common) certif.timestamp
  let org := org.withLastTimestamp .common certif.timestamp
  return { org with
    devices := org.devices.set certif.deviceId
      ⟨certif, deviceCertificate.raw, redactedDeviceCertificate.raw⟩ }

/-- The realms in which the user has a role now. -/
def realmsUserIsPartOf (userId : UserID) : List MemoryRealm :=
  org.realms.values.filter fun realm => (realm.getCurrentRoleFor userId).isSome

/-- The common topic, and the topics and the last vlobs of the realms the user is part of. -/
def lastTimestampForRevocation (userId : UserID) : DateTime :=
  let realms := org.realmsUserIsPartOf userId
  (realms.map fun realm => org.lastTimestamp (.realm realm.realmId)).foldl max
    ((realms.filterMap (·.lastVlobTimestamp)).foldl max (org.lastTimestamp .common))

def revokeUser (now : DateTime) (author : DeviceID) (authorVerifyKey : VerifyKey)
    (revokedUserCertificate : Uploaded RevokedUserCertificate) :
    Except BadOutcome MemoryOrganization := do
  let (authorDevice, authorUser) ← org.checkAuthor author
  refuse (authorUser.currentProfile ≠ .admin) .authorNotAllowed
  let certif ← userRevokeUserValidate now authorDevice.cooked.userId author authorVerifyKey
    revokedUserCertificate
  match org.users.get? certif.userId with
  | none => .error .userNotFound
  | some targetUser =>
    match targetUser.revoked with
    | some (revoked, _) => .error (.idempotent revoked.timestamp)
    | none =>
      checkCausality (org.lastTimestampForRevocation certif.userId) certif.timestamp
      let org := org.withLastTimestamp .common certif.timestamp
      return { org with
        users := org.users.set certif.userId
          { targetUser with revoked := some (certif, revokedUserCertificate.raw) } }

def updateUser (now : DateTime) (author : DeviceID) (authorVerifyKey : VerifyKey)
    (userUpdateCertificate : Uploaded UserUpdateCertificate) :
    Except BadOutcome MemoryOrganization := do
  let (authorDevice, authorUser) ← org.checkAuthor author
  refuse (authorUser.currentProfile ≠ .admin) .authorNotAllowed
  let certif ← userUpdateUserValidate now authorDevice.cooked.userId author authorVerifyKey
    userUpdateCertificate
  match org.users.get? certif.userId with
  | none => .error .userNotFound
  | some targetUser =>
    refuse targetUser.isRevoked .userRevoked
    refuse (targetUser.currentProfile = certif.newProfile) .userNoChanges
    checkCausality (org.lastTimestamp .common) certif.timestamp
    let org := org.withLastTimestamp .common certif.timestamp
    return { org with
      users := org.users.set certif.userId { targetUser with
        profileUpdates := targetUser.profileUpdates ++ [(certif, userUpdateCertificate.raw)] } }

end MemoryOrganization

end ParsecCloud.Server

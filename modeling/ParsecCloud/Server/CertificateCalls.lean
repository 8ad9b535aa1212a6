import ParsecCloud.Server.Calls

/- The calls that add certificates: those of memory/user.py, memory/realm.py, memory/vlob.py,
   memory/shamir.py and memory/sequester.py. -/
namespace ParsecCloud.Server.OrganizationCall
open Certif Call MemoryOrganization

/-- The answer of the webhooks of the sequester services, when there are some to call. -/
def checkWebhooks (org : MemoryOrganization) (rejected : Bool) : Except BadOutcome Unit :=
  refuse (org.callsWebhooks && rejected) .rejectedBySequesterService

section User
variable (now : DateTime) (author : DeviceID) (authorVerifyKey : VerifyKey)

def createUser (userCertificate redactedUserCertificate : Uploaded UserPayload)
    (deviceCertificate redactedDeviceCertificate : Uploaded DevicePayload) :
    OrganizationCall Unit := do
  let org ← get
  let (u, d) ← checkOutcome do
    let (_, authorUser) ← org.checkAuthor author
    refuse (authorUser.currentProfile ≠ .admin) .authorNotAllowed
    let (u, d) ← userCreateUserValidate now author authorVerifyKey userCertificate
      redactedUserCertificate deviceCertificate redactedDeviceCertificate
    refuse org.activeUserLimitReached .activeUsersLimitReached
    refuse (org.users.get? u.certif.userId).isSome .userAlreadyExists
    refuse (org.devices.get? d.deviceId).isSome .userAlreadyExists
    refuse (org.users.values.any fun user => !user.isRevoked && user.email = u.humanHandle)
      .humanHandleAlreadyTaken
    checkCausality (org.lastTimestamp .common) u.certif.timestamp
    return (u, d)
  setLastTimestamp .common u.certif.timestamp
  setUser u.certif.userId
    ⟨u.certif, u.humanHandle, userCertificate.raw, redactedUserCertificate.raw, [], none⟩
  setDevice d.deviceId ⟨d, deviceCertificate.raw, redactedDeviceCertificate.raw⟩

def createDevice (deviceCertificate redactedDeviceCertificate : Uploaded DevicePayload) :
    OrganizationCall Unit := do
  let org ← get
  let certif ← checkOutcome do
    let (authorDevice, _) ← org.checkAuthor author
    let certif ← userCreateDeviceValidate now authorDevice.cooked.userId author authorVerifyKey
      deviceCertificate redactedDeviceCertificate
    refuse (org.devices.get? certif.deviceId).isSome .deviceAlreadyExists
    checkCausality (org.lastTimestamp .common) certif.timestamp
    return certif
  setLastTimestamp .common certif.timestamp
  setDevice certif.deviceId ⟨certif, deviceCertificate.raw, redactedDeviceCertificate.raw⟩

def revokeUser (revokedUserCertificate : Uploaded RevokedUserCertificate) :
    OrganizationCall Unit := do
  let org ← get
  let (certif, targetUser) ← checkOutcome do
    let (authorDevice, authorUser) ← org.checkAuthor author
    refuse (authorUser.currentProfile ≠ .admin) .authorNotAllowed
    let certif ← userRevokeUserValidate now authorDevice.cooked.userId author authorVerifyKey
      revokedUserCertificate
    match org.users.get? certif.userId with
    | none => .error .userNotFound
    | some targetUser =>
      match targetUser.revoked with
      | some (revoked, _) => .error (.idempotent revoked.timestamp)
      | none =>
        checkCausality (org.lastTimestampForRevocation certif.userId) certif.timestamp
        return (certif, targetUser)
  setLastTimestamp .common certif.timestamp
  setUser certif.userId { targetUser with revoked := some (certif, revokedUserCertificate.raw) }

def updateUser (userUpdateCertificate : Uploaded UserUpdateCertificate) :
    OrganizationCall Unit := do
  let org ← get
  let (certif, targetUser) ← checkOutcome do
    let (authorDevice, authorUser) ← org.checkAuthor author
    refuse (authorUser.currentProfile ≠ .admin) .authorNotAllowed
    let certif ← userUpdateUserValidate now authorDevice.cooked.userId author authorVerifyKey
      userUpdateCertificate
    match org.users.get? certif.userId with
    | none => .error .userNotFound
    | some targetUser =>
      refuse targetUser.isRevoked .userRevoked
      refuse (targetUser.currentProfile = certif.newProfile) .userNoChanges
      checkCausality (org.lastTimestamp .common) certif.timestamp
      return (certif, targetUser)
  setLastTimestamp .common certif.timestamp
  setUser certif.userId { targetUser with
    profileUpdates := targetUser.profileUpdates ++ [(certif, userUpdateCertificate.raw)] }

end User

/-- The user that an administration request names, by its identifier or by its address. -/
def findUser (org : MemoryOrganization) :
    Option UserID → Option EmailAddress → Except Refusal UserID
  | none, none => .error .noUserIdNorEmail
  | some userId, none =>
    match org.users.get? userId with
    | none => .error (.outcome .userNotFound)
    | some _ => .ok userId
  | none, some email =>
    match org.users.items.find? fun item => item.2.email = email with
    | none => .error (.outcome .userNotFound)
    | some (userId, _) => .ok userId
  | some _, some _ => .error .bothUserIdAndEmail

def freezeUser (userId : Option UserID) (userEmail : Option EmailAddress) (frozen : Bool) :
    OrganizationCall Unit := do
  let org ← get
  let userId ← check (findUser org.toMemoryOrganization userId userEmail)
  modify fun org => { org with frozen := Function.update org.frozen userId frozen }

def acceptTos (now : DateTime) (author : DeviceID) (tosUpdatedOn : DateTime) :
    OrganizationCall Unit := do
  let org ← get
  let userId ← check do
    let userId ← asRefusal (org.checkShamirAuthor author)
    refuse org.tosUpdatedOn.isNone .noTos
    refuse (org.tosUpdatedOn ≠ some tosUpdatedOn) .tosMismatch
    return userId
  modify fun org => { org with tosAcceptedOn := Function.update org.tosAcceptedOn userId (some now) }

section Realm
variable (now : DateTime) (author : DeviceID) (authorVerifyKey : VerifyKey)

def createRealm (realmRoleCertificate : Uploaded RealmRoleCertificate) :
    OrganizationCall Unit := do
  let org ← get
  let certif ← checkOutcome do
    let (authorDevice, authorUser) ← org.checkAuthor author
    refuse (authorUser.currentProfile = .outsider) .authorNotAllowed
    refuse (authorVerifyKey ≠ authorDevice.cooked.verifyKey) (.raised .assertionError)
    let certif ← realmCreateValidate now authorDevice.cooked.userId author authorVerifyKey
      realmRoleCertificate
    match org.realms.get? certif.realmId with
    | some _ =>
      match org.perTopicLastTimestamp (.realm certif.realmId) with
      | none => .error (.raised .keyError)
      | some timestamp => .error (.idempotent timestamp)
    | none =>
      checkCausality (max (org.lastTimestamp .common) (org.lastTimestamp (.realm certif.realmId)))
        certif.timestamp
      return certif
  setLastTimestamp (.realm certif.realmId) certif.timestamp
  setRealm certif.realmId
    ⟨certif.realmId, now, [(certif, realmRoleCertificate.raw)], [], [], [], none, .empty⟩

def shareRealm (realmRoleCertificate : Uploaded RealmRoleCertificate)
    (recipientKeysBundleAccess : List Byte) (keyIndex : Nat) : OrganizationCall Unit := do
  let org ← get
  let (certif, realm, lastKeyRotation) ← checkOutcome do
    let (authorDevice, _) ← org.checkRealmAuthor author authorVerifyKey
    let certif ← realmShareValidate now authorDevice.cooked.userId author authorVerifyKey
      realmRoleCertificate
    match org.users.get? certif.userId with
    | none => .error .recipientNotFound
    | some user =>
      refuse user.isRevoked .recipientRevoked
      let realm ← org.findRealm certif.realmId
      let existingUserRole := realm.getCurrentRoleFor certif.userId
      refuse ((neededRoles existingUserRole certif.role).all fun role =>
        realm.getCurrentRoleFor authorDevice.cooked.userId ≠ some role) .authorNotAllowed
      refuse (user.currentProfile = .outsider ∧
        (certif.role = some .manager ∨ certif.role = some .owner)) .roleIncompatibleWithOutsider
      refuse (existingUserRole = certif.role)
        (.idempotent (org.lastTimestamp (.realm certif.realmId)))
      checkCausality (org.lastTimestampForRole certif.realmId realm) certif.timestamp
      match realm.keyRotations.getLast? with
      | none => .error (.badKeyIndex (org.lastTimestamp (.realm certif.realmId)))
      | some lastKeyRotation =>
        refuse (keyIndex ≠ lastKeyRotation.cooked.keyIndex)
          (.badKeyIndex (org.lastTimestamp (.realm certif.realmId)))
        return (certif, realm, lastKeyRotation)
  setLastTimestamp (.realm certif.realmId) certif.timestamp
  let realm := { realm with roles := realm.roles ++ [(certif, realmRoleCertificate.raw)] }
  setRealm certif.realmId realm
  setRealm certif.realmId { realm with
    keyRotations := realm.keyRotations.dropLast ++
      [addAccess lastKeyRotation certif.userId certif.timestamp recipientKeysBundleAccess] }

def unshareRealm (realmRoleCertificate : Uploaded RealmRoleCertificate) :
    OrganizationCall Unit := do
  let org ← get
  let (certif, realm) ← checkOutcome do
    let (authorDevice, _) ← org.checkRealmAuthor author authorVerifyKey
    let certif ← realmUnshareValidate now authorDevice.cooked.userId author authorVerifyKey
      realmRoleCertificate
    refuse (org.users.get? certif.userId).isNone .recipientNotFound
    let realm ← org.findRealm certif.realmId
    let existingUserRole := realm.getCurrentRoleFor certif.userId
    refuse ((neededRoles existingUserRole certif.role).all fun role =>
      realm.getCurrentRoleFor authorDevice.cooked.userId ≠ some role) .authorNotAllowed
    refuse (existingUserRole = certif.role)
      (.idempotent (org.lastTimestamp (.realm certif.realmId)))
    checkCausality (org.lastTimestampForRole certif.realmId realm) certif.timestamp
    return (certif, realm)
  setLastTimestamp (.realm certif.realmId) certif.timestamp
  setRealm certif.realmId
    { realm with roles := realm.roles ++ [(certif, realmRoleCertificate.raw)] }

def renameRealm (realmNameCertificate : Uploaded RealmNameCertificate) (initialNameOrFail : Bool) :
    OrganizationCall Unit := do
  let org ← get
  let (certif, realm) ← checkOutcome do
    let (authorDevice, _) ← org.checkRealmAuthor author authorVerifyKey
    let certif ← realmRenameValidate now author authorVerifyKey realmNameCertificate
    let realm ← org.findRealm certif.realmId
    refuse (realm.getCurrentRoleFor authorDevice.cooked.userId ≠ some .owner) .authorNotAllowed
    refuse (realm.keyRotations.length ≠ certif.keyIndex)
      (.badKeyIndex (org.lastTimestamp (.realm certif.realmId)))
    refuse (initialNameOrFail && !realm.renames.isEmpty)
      (.idempotent (org.lastTimestamp (.realm certif.realmId)))
    checkCausality (max (org.lastTimestamp .common) (org.lastTimestamp (.realm certif.realmId)))
      certif.timestamp
    return (certif, realm)
  setLastTimestamp (.realm certif.realmId) certif.timestamp
  setRealm certif.realmId
    { realm with renames := realm.renames ++ [(certif, realmNameCertificate.raw)] }

def rotateKey (realmKeyRotationCertificate : Uploaded RealmKeyRotationCertificate)
    (perParticipantKeysBundleAccess : Dict UserID (List Byte)) (keysBundle : List Byte)
    (perSequesterServiceKeysBundleAccess : Option (Dict SequesterServiceID (List Byte)))
    (rejected : Bool) : OrganizationCall Unit := do
  let org ← get
  let (certif, realm) ← checkOutcome do
    let rotation ← org.rotateKeyCheck now author authorVerifyKey realmKeyRotationCertificate
      perParticipantKeysBundleAccess keysBundle perSequesterServiceKeysBundleAccess
    checkWebhooks org.toMemoryOrganization rejected
    checkCausality (max rotation.commonLastTimestamp rotation.realmLastTimestamp)
      rotation.certif.timestamp
    let realm ← org.findRealm rotation.certif.realmId
    return (rotation.certif, realm)
  setLastTimestamp (.realm certif.realmId) certif.timestamp
  setRealm certif.realmId { realm with
    keyRotations := realm.keyRotations ++ [⟨certif, realmKeyRotationCertificate.raw,
      rotationAccesses certif.timestamp perParticipantKeysBundleAccess, keysBundle,
      perSequesterServiceKeysBundleAccess⟩] }

end Realm

section Vlob
variable (now : DateTime) (write : VlobWrite)

def createVlob (rejected : Bool) : OrganizationCall Unit := do
  let org ← get
  let realm ← checkOutcome do
    org.createVlobCheck now write
    checkWebhooks org.toMemoryOrganization rejected
    org.findRealm write.realmId
  setRealm write.realmId
    { realm with lastVlobTimestamp := bumpVlobTimestamp realm write.timestamp }
  modify fun org => { org with atomLists := org.atomLists ++ [[write.atom]] }
  setRealm write.realmId { recordWrite realm write with
    vlobs := realm.vlobs.set write.vlobId org.atomLists.length }

def updateVlob (rejected : Bool) : OrganizationCall Unit := do
  let org ← get
  let (realm, place) ← checkOutcome do
    let place ← org.updateVlobCheck now write
    checkWebhooks org.toMemoryOrganization rejected
    refuse (write.version ≠ (org.atomLists.getD place []).length + 1) .badVlobVersion
    let realm ← org.findRealm write.realmId
    return (realm, place)
  setRealm write.realmId
    { realm with lastVlobTimestamp := bumpVlobTimestamp realm write.timestamp }
  modify fun org => { org with
    atomLists := org.atomLists.set place (org.atomLists.getD place [] ++ [write.atom]) }
  setRealm write.realmId (recordWrite realm write)

end Vlob

section Shamir
variable (now : DateTime) (author : DeviceID) (authorVerifyKey : VerifyKey)

def setupShamir (briefCertificate : Uploaded ShamirRecoveryBriefCertificate)
    (shareCertificates : List (Uploaded ShamirRecoveryShareCertificate)) :
    OrganizationCall Unit := do
  let org ← get
  let (authorUserId, brief, shares) ← checkOutcome do
    let authorUserId ← org.checkShamirAuthor author
    let (brief, shares) ← shamirSetupValidate now author authorUserId authorVerifyKey
      briefCertificate shareCertificates
    org.checkRecipients shares.keys
    return (authorUserId, brief, shares)
  let recoveries ← shamirRecoveriesOf authorUserId
  checkOutcome do
    refuse (recoveries.getLast?.any fun previous => !previous.isDeleted)
      (.setupAlreadyExists (org.lastTimestamp .shamirRecovery))
    checkCausality (max (org.lastTimestamp .common) (org.lastTimestamp .shamirRecovery))
      brief.timestamp
  setLastTimestamp .shamirRecovery brief.timestamp
  setShamirRecoveries authorUserId (recoveries ++ [⟨brief, briefCertificate.raw, shares, none⟩])

def deleteShamir (deletionCertificate : Uploaded ShamirRecoveryDeletionCertificate) :
    OrganizationCall Unit := do
  let org ← get
  let (authorUserId, deletion) ← checkOutcome do
    let authorUserId ← org.checkShamirAuthor author
    let deletion ← shamirDeleteValidate now author authorUserId authorVerifyKey deletionCertificate
    checkCausality (max (org.lastTimestamp .common) (org.lastTimestamp .shamirRecovery))
      deletion.timestamp
    return (authorUserId, deletion)
  let recoveries ← shamirRecoveriesOf authorUserId
  let place := recoveries.findIdx fun setup =>
    setup.cookedBrief.timestamp = deletion.setupToDeleteTimestamp
  let setup ← checkOutcome do
    match recoveries[place]? with
    | none => .error .setupNotFound
    | some setup =>
      refuse (setup.shares.keys.toFinset ≠ deletion.shareRecipients) .recipientsMismatch
      refuse setup.isDeleted (.setupAlreadyDeleted (org.lastTimestamp .shamirRecovery))
      return setup
  setLastTimestamp .shamirRecovery deletion.timestamp
  setShamirRecoveries authorUserId
    (recoveries.set place { setup with deletion := some (deletion, deletionCertificate.raw) })

end Shamir

section Sequester

def setServices (services : Dict SequesterServiceID MemorySequesterService) :
    OrganizationCall Unit :=
  modify fun org => { org with sequesterServices := some services }

def createService (certificate : List Byte × SignedSequester) (serviceType : SequesterServiceType) :
    OrganizationCall Unit := do
  let org ← get
  let (services, certif) ← checkOutcome do
    let (services, key) ← org.checkSequestered
    match certificate.2 with
    | .service certif signedBy =>
      refuse (signedBy ≠ key) .invalidCertificate
      checkCausality (org.lastTimestamp .sequester) certif.timestamp
      refuse (services.get? certif.serviceId).isSome .sequesterServiceAlreadyExists
      return (services, certif)
    | _ => .error .invalidCertificate
  setServices (services.set certif.serviceId ⟨certif, certificate.1, serviceType, none⟩)
  setLastTimestamp .sequester certif.timestamp

def updateConfigForService (serviceId : SequesterServiceID) (serviceType : SequesterServiceType) :
    OrganizationCall Unit := do
  let org ← get
  let (services, service) ← checkOutcome do
    match org.sequesterServices with
    | none => .error .sequesterDisabled
    | some services =>
      match services.get? serviceId with
      | none => .error .sequesterServiceNotFound
      | some service => return (services, service)
  setServices (services.set serviceId { service with serviceType := serviceType })

def revokeService (certificate : List Byte × SignedSequester) : OrganizationCall Unit := do
  let org ← get
  let (services, service, certif) ← checkOutcome do
    let (services, key) ← org.checkSequestered
    match certificate.2 with
    | .revokedService certif signedBy =>
      refuse (signedBy ≠ key) .invalidCertificate
      match services.get? certif.serviceId with
      | none => .error .sequesterServiceNotFound
      | some service =>
        checkCausality (org.lastTimestamp .sequester) certif.timestamp
        refuse service.isRevoked .sequesterServiceAlreadyRevoked
        return (services, service, certif)
    | _ => .error .invalidCertificate
  setServices (services.set certif.serviceId
    { service with revoked := some (certif, certificate.1) })
  setLastTimestamp .sequester certif.timestamp

end Sequester

end ParsecCloud.Server.OrganizationCall

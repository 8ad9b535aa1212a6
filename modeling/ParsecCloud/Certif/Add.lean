import ParsecCloud.Certif.Store

/- Validation of the certificates sent by the server (client, certif/add.rs). A check that reads
   the last timestamps may fill the cache, so it returns the store. The events sent on the way
   are left out. -/
namespace ParsecCloud.Certif
open Rust

/-- What an error says of the certificate that was refused. -/
inductive Hint where
  | unknown
  | noMoreCertificates
  | certificate (certif : Certificate)

inductive InvalidCertificateError where
  | corrupted (hint : Hint) (error : LoadError)
  | nonExistingAuthor (hint : Hint)
  | olderThanAuthor (hint : Hint) (authorCreatedOn : DateTime)
  | selfSigned (hint : Hint)
  | revokedAuthor (hint : Hint) (authorRevokedOn : DateTime)
  | authorNotAdmin (hint : Hint) (authorProfile : UserProfile)
  | contentAlreadyExists (hint : Hint)
  | invalidTimestamp (hint : Hint) (lastCertificateTimestamp : DateTime)
  | rootSignatureOutOfBootstrap (hint : Hint)
  | rootSignatureTimestampMismatch (hint : Hint) (lastRootSignatureTimestamp : DateTime)
  | notASequesteredOrganization (hint : Hint)
  | sequesterAuthorityMustBeFirst (hint : Hint)
  | nonExistingRelatedUser (hint : Hint)
  | olderThanRelatedUser (hint : Hint) (userCreatedOn : DateTime)
  | relatedUserAlreadyRevoked (hint : Hint) (userRevokedOn : DateTime)
  | relatedSequesterServiceAlreadyRevoked (hint : Hint) (serviceRevokedOn : DateTime)
  | userFirstDeviceAuthorMismatch (hint : Hint) (userAuthor : CertificateSigner)
  | userFirstDeviceTimestampMismatch (hint : Hint) (userTimestamp : DateTime)
  | realmFirstRoleMustBeSelfSigned (hint : Hint)
  | realmFirstCertificateMustBeRole (hint : Hint)
  | realmCannotChangeOwnRole (hint : Hint)
  | realmFirstRoleMustBeOwner (hint : Hint)
  | realmAuthorHasNoRole (hint : Hint)
  | realmAuthorNotOwner (hint : Hint) (authorRole : RealmRole)
  | realmAuthorNotOwnerOrManager (hint : Hint) (authorRole : RealmRole)
  | realmOutsiderCannotBeOwnerOrManager (hint : Hint)
  | shamirRecoveryAlreadySetup (hint : Hint)
  | shamirRecoverySelfAmongRecipients (hint : Hint)
  | shamirRecoveryMissingShare (hint briefHint : Hint) (allowedRecipient : UserID)
  | shamirRecoveryUnrelatedToUs (hint : Hint)
  | shamirRecoveryDeletionMustReferenceLastSetup (hint : Hint)
  | shamirRecoveryDeletionRecipientsMismatch (hint : Hint) (setupRecipients : Finset UserID)
  | shamirRecoveryAlreadyDeleted (hint : Hint) (deletedOn : DateTime)
  | shamirRecoveryMissingBriefCertificate (hint : Hint)
  | shamirRecoveryNotAboutSelf (hint : Hint) (userId authorUserId : UserID)

inductive AddError where
  | invalidCertificate (error : InvalidCertificateError)
  | internal (message : String)
  | panicked (panic : Panic)

abbrev Adding := Except AddError

def invalid (error : InvalidCertificateError) : Adding α := .error (.invalidCertificate error)

/-- The conversion of an internal error by the operator ?. -/
def internal : Except String α → Adding α
  | .ok a => .ok a
  | .error message => .error (.internal message)

def refuseIf (condition : Bool) (error : InvalidCertificateError) : Adding Unit :=
  if condition then invalid error else .ok ()

def onlyIf (condition : Bool) (check : Adding Unit) : Adding Unit :=
  if condition then check else .ok ()

/-- A certificate not newer than the last one of its topic is refused. -/
def checkNewest (last : Option DateTime) (timestamp : DateTime) (hint : Hint) : Adding Unit :=
  match last with
  | some last => refuseIf (timestamp ≤ last) (.invalidTimestamp hint last)
  | none => .ok ()

/-- verify_certificate_signature for a certificate signed by a device -/
def verifySignature (hint : Hint) (author : DeviceID) (timestamp : DateTime) (signedBy : VerifyKey)
    (store : Store) : Adding (UserID × Store) :=
  match store.getDeviceVerifyKeyAndUserId (.timestamp timestamp) author with
  | .ok ((verifyKey, userId), store) =>
    if signedBy = verifyKey then .ok (userId, store) else invalid (.corrupted hint .signature)
  | .error (.existButTooRecent createdOn) => invalid (.olderThanAuthor hint createdOn)
  | .error .nonExisting => invalid (.nonExistingAuthor hint)
  | .error (.internal message) => .error (.internal message)

/-- verify_certificate_signature for a certificate that the root key may have signed -/
def verifySignatureOrRoot (device : LocalDevice) (hint : Hint) (author : CertificateSigner)
    (timestamp : DateTime) (signedBy : VerifyKey) (store : Store) :
    Adding (Option UserID × Store) :=
  match author with
  | .root =>
    if signedBy = device.rootVerifyKey then .ok (none, store)
    else invalid (.corrupted hint .signature)
  | .user author => do
    let (userId, store) ← verifySignature hint author timestamp signedBy store
    return (some userId, store)

def checkUserExists (storage : Storage) (upTo : DateTime) (userId : UserID) (hint : Hint) :
    Adding UserCertificate :=
  match storage.getUserCertificate (.timestamp upTo) userId with
  | .ok certif => .ok certif
  | .error .nonExisting => invalid (.nonExistingRelatedUser hint)
  | .error (.existButTooRecent createdOn) => invalid (.olderThanRelatedUser hint createdOn)
  | .error (.internal message) => .error (.internal message)

def checkUserNotRevoked (storage : Storage) (upTo : DateTime) (userId : UserID) (hint : Hint) :
    Adding Unit := do
  match ← internal (storage.getRevokedUserCertificate (.timestamp upTo) userId) with
  | none => return ()
  | some revoked => invalid (.relatedUserAlreadyRevoked hint revoked.timestamp)

def getUserProfile (storage : Storage) (upTo : DateTime) (userId : UserID) (hint : Hint)
    (alreadyFetched : Option UserCertificate) : Adding UserProfile := do
  match ← internal (storage.getLastUserUpdateCertificate (.timestamp upTo) userId) with
  | some lastUpdate => return lastUpdate.newProfile
  | none =>
    match alreadyFetched with
    | some certif => return certif.profile
    | none => return (← checkUserExists storage upTo userId hint).profile

def authorWithoutUser : String := "Got author device, but fail to get corresponding user"

def checkAuthorNotRevokedAndProfile (storage : Storage) (upTo : DateTime) (author : UserID)
    (authorMustBeAdmin : Bool) (hint : Hint) : Adding Unit := do
  match ← internal (storage.getRevokedUserCertificate (.timestamp upTo) author) with
  | some revoked => invalid (.revokedAuthor hint revoked.timestamp)
  | none =>
    if authorMustBeAdmin then
      match getUserProfile storage upTo author hint none with
      | .ok profile => refuseIf (profile ≠ .admin) (.authorNotAdmin hint profile)
      | .error (.invalidCertificate _) => .error (.internal authorWithoutUser)
      | .error error => .error error
    else return ()

def alreadyChecked : String := "already checked timestamp, but now storage says it is too recent"

/-- The certificate must not be there already. -/
def checkMissing (found : Except GetCertificateError α) (hint : Hint) : Adding Unit :=
  match found with
  | .error .nonExisting => .ok ()
  | .ok _ => invalid (.contentAlreadyExists hint)
  | .error (.existButTooRecent _) => .error (.internal alreadyChecked)
  | .error (.internal message) => .error (.internal message)

/-- The root key signs the first user of the organization only, at the same timestamp as the
    sequester authority. -/
def checkBootstrap (storage : Storage) (lastCommon : Option DateTime) (timestamp : DateTime)
    (hint : Hint) : Adding Unit := do
  refuseIf lastCommon.isSome (.rootSignatureOutOfBootstrap hint)
  match ← internal storage.getSequesterAuthorityCertificate with
  | some authority =>
    refuseIf (authority.timestamp ≠ timestamp)
      (.rootSignatureTimestampMismatch hint authority.timestamp)
  | none => return ()

def checkUserAuthor (storage : Storage) (lastCommon : Option DateTime) (timestamp : DateTime)
    (authorUserId : Option UserID) (hint : Hint) : Adding Unit :=
  match authorUserId with
  | some author => checkAuthorNotRevokedAndProfile storage timestamp author true hint
  | none => checkBootstrap storage lastCommon timestamp hint

def checkUserCertificateConsistency (cooked : UserCertificate) (authorUserId : Option UserID)
    (store : Store) : Adding Store := do
  let hint := .certificate (.common (.user cooked))
  let (last, store) := store.getLastTimestamps
  checkNewest last.common cooked.timestamp hint
  checkUserAuthor store.storage last.common cooked.timestamp authorUserId hint
  checkMissing (store.storage.getUserCertificate (.timestamp cooked.timestamp) cooked.userId) hint
  return store

/-- The first device of a user comes with the user certificate, at the same timestamp. -/
def checkDeviceTimestamp (last : Option DateTime) (timestamp : DateTime)
    (isFirstUserDevice : Bool) (hint : Hint) : Adding Unit :=
  match last with
  | some last =>
    refuseIf (timestamp < last || timestamp = last && !isFirstUserDevice)
      (.invalidTimestamp hint last)
  | none => .ok ()

def checkDeviceAuthor (storage : Storage) (timestamp : DateTime) (userId : UserID)
    (authorUserId : Option UserID) (hint : Hint) : Adding Unit :=
  match authorUserId with
  | some author =>
    checkAuthorNotRevokedAndProfile storage timestamp author (author ≠ userId) hint
  | none => .ok ()

def checkFirstDevice (userCertif : UserCertificate) (cooked : DeviceCertificate) (hint : Hint) :
    Adding Unit := do
  refuseIf (userCertif.author ≠ cooked.author)
    (.userFirstDeviceAuthorMismatch hint userCertif.author)
  refuseIf (userCertif.timestamp ≠ cooked.timestamp)
    (.userFirstDeviceTimestampMismatch hint userCertif.timestamp)

def checkDeviceCertificateConsistency (cooked : DeviceCertificate) (authorUserId : Option UserID)
    (store : Store) : Adding Store := do
  let hint := .certificate (.common (.device cooked))
  let isFirstUserDevice : Bool := authorUserId ≠ some cooked.userId
  let (last, store) := store.getLastTimestamps
  checkDeviceTimestamp last.common cooked.timestamp isFirstUserDevice hint
  checkDeviceAuthor store.storage cooked.timestamp cooked.userId authorUserId hint
  let userCertif ← checkUserExists store.storage cooked.timestamp cooked.userId hint
  onlyIf isFirstUserDevice (checkFirstDevice userCertif cooked hint)
  checkUserNotRevoked store.storage cooked.timestamp cooked.userId hint
  checkMissing (store.storage.getDeviceCertificate (.timestamp cooked.timestamp) cooked.deviceId)
    hint
  return store

def checkUserUpdateCertificateConsistency (cooked : UserUpdateCertificate) (authorUserId : UserID)
    (store : Store) : Adding Store := do
  let hint := .certificate (.common (.userUpdate cooked))
  let (last, store) := store.getLastTimestamps
  checkNewest last.common cooked.timestamp hint
  refuseIf (authorUserId = cooked.userId) (.selfSigned hint)
  checkAuthorNotRevokedAndProfile store.storage cooked.timestamp authorUserId true hint
  let userCertif ← checkUserExists store.storage cooked.timestamp cooked.userId hint
  checkUserNotRevoked store.storage cooked.timestamp cooked.userId hint
  let current ← getUserProfile store.storage cooked.timestamp cooked.userId hint (some userCertif)
  refuseIf (current = cooked.newProfile) (.contentAlreadyExists hint)
  return store

def checkRevokedUserCertificateConsistency (cooked : RevokedUserCertificate)
    (authorUserId : UserID) (store : Store) : Adding Store := do
  let hint := .certificate (.common (.revokedUser cooked))
  let (last, store) := store.getLastTimestamps
  checkNewest last.common cooked.timestamp hint
  refuseIf (authorUserId = cooked.userId) (.selfSigned hint)
  checkAuthorNotRevokedAndProfile store.storage cooked.timestamp authorUserId true hint
  let _ ← checkUserExists store.storage cooked.timestamp cooked.userId hint
  checkUserNotRevoked store.storage cooked.timestamp cooked.userId hint
  return store

/-- The role given to a user by the last of the certificates about this user. -/
def currentRole (realmRoles : List RealmRoleCertificate) (userId : UserID) : Option RealmRole :=
  (realmRoles.reverse.find? fun role => role.userId = userId).bind (·.role)

def authorRole (realmRoles : List RealmRoleCertificate) (author : UserID) (hint : Hint) :
    Adding RealmRole :=
  match currentRole realmRoles author with
  | some role => .ok role
  | none => invalid (.realmAuthorHasNoRole hint)

/-- Step 2.b of check_realm_role_certificate_consistency. -/
def checkRoleChange (authorRole : RealmRole) (current new : Option RealmRole) (hint : Hint) :
    Adding Unit :=
  match current, new with
  | none, none => invalid (.contentAlreadyExists hint)
  | current, new =>
    if current = new then invalid (.contentAlreadyExists hint)
    else if current = some .owner ∨ current = some .manager ∨ new = some .owner ∨
        new = some .manager then
      refuseIf (authorRole ≠ .owner) (.realmAuthorNotOwner hint authorRole)
    else refuseIf (authorRole ≠ .owner && authorRole ≠ .manager)
      (.realmAuthorNotOwnerOrManager hint authorRole)

/-- Steps 2.a and 2.b: the first role of a realm, and the others. -/
def checkRoleAuthor (realmRoles : List RealmRoleCertificate) (cooked : RealmRoleCertificate)
    (authorUserId : UserID) (hint : Hint) : Adding Unit :=
  if realmRoles.isEmpty then do
    refuseIf (authorUserId ≠ cooked.userId) (.realmFirstRoleMustBeSelfSigned hint)
    refuseIf (cooked.role ≠ some .owner) (.realmFirstRoleMustBeOwner hint)
  else do
    let authorCurrentRole ← authorRole realmRoles authorUserId hint
    checkRoleChange authorCurrentRole (currentRole realmRoles cooked.userId) cooked.role hint

def checkRealmRoleCertificateConsistency (cooked : RealmRoleCertificate) (authorUserId : UserID)
    (store : Store) : Adding Store := do
  let hint := .certificate (.realm (.role cooked))
  let (last, store) := store.getLastTimestamps
  checkNewest (last.realm.lookup cooked.realmId) cooked.timestamp hint
  let realmRoles ←
    internal (store.storage.getRealmRoles (.timestamp cooked.timestamp) cooked.realmId)
  checkRoleAuthor realmRoles cooked authorUserId hint
  let userCertif ← checkUserExists store.storage cooked.timestamp cooked.userId hint
  onlyIf cooked.role.isSome
    (checkUserNotRevoked store.storage cooked.timestamp cooked.userId hint)
  let profile ← getUserProfile store.storage cooked.timestamp cooked.userId hint (some userCertif)
  refuseIf (profile = .outsider && (cooked.role = some .manager || cooked.role = some .owner))
    (.realmOutsiderCannotBeOwnerOrManager hint)
  return store

def checkOwner (realmRoles : List RealmRoleCertificate) (authorUserId : UserID) (hint : Hint) :
    Adding Unit :=
  if realmRoles.isEmpty then invalid (.realmFirstCertificateMustBeRole hint)
  else do
    let authorCurrentRole ← authorRole realmRoles authorUserId hint
    refuseIf (authorCurrentRole ≠ .owner) (.realmAuthorNotOwner hint authorCurrentRole)

/-- The checks shared by the certificates that only an owner of the realm can write. -/
def checkWrittenByOwner (realmId : VlobID) (timestamp : DateTime) (hint : Hint)
    (authorUserId : UserID) (store : Store) : Adding Store := do
  let (last, store) := store.getLastTimestamps
  checkNewest (last.realm.lookup realmId) timestamp hint
  let realmRoles ← internal (store.storage.getRealmRoles (.timestamp timestamp) realmId)
  checkOwner realmRoles authorUserId hint
  checkAuthorNotRevokedAndProfile store.storage timestamp authorUserId false hint
  return store

def checkRealmNameCertificateConsistency (cooked : RealmNameCertificate) :
    UserID → Store → Adding Store :=
  checkWrittenByOwner cooked.realmId cooked.timestamp (.certificate (.realm (.name cooked)))

def checkRealmKeyRotationCertificateConsistency (cooked : RealmKeyRotationCertificate) :
    UserID → Store → Adding Store :=
  checkWrittenByOwner cooked.realmId cooked.timestamp (.certificate (.realm (.keyRotation cooked)))

def checkRealmArchivingCertificateConsistency (cooked : RealmArchivingCertificate) :
    UserID → Store → Adding Store :=
  checkWrittenByOwner cooked.realmId cooked.timestamp (.certificate (.realm (.archiving cooked)))

def ShamirRecoveryBriefCertificate.recipients (brief : ShamirRecoveryBriefCertificate) :
    List UserID :=
  brief.perRecipientShares.map Prod.fst

def checkNotSetup (found : LastShamirRecovery) (hint : Hint) : Adding Unit :=
  match found with
  | .valid _ => invalid (.shamirRecoveryAlreadySetup hint)
  | _ => .ok ()

def checkShamirRecoveryBriefCertificateConsistency (device : LocalDevice)
    (cooked : ShamirRecoveryBriefCertificate) (authorUserId : UserID) (store : Store) :
    Adding Store := do
  let hint := .certificate (.shamirRecovery (.brief cooked))
  let (last, store) := store.getLastTimestamps
  checkNewest last.shamirRecovery cooked.timestamp hint
  refuseIf (cooked.userId ≠ authorUserId)
    (.shamirRecoveryNotAboutSelf hint cooked.userId authorUserId)
  refuseIf (authorUserId ∈ cooked.recipients) (.shamirRecoverySelfAmongRecipients hint)
  refuseIf (cooked.userId ≠ device.userId && device.userId ∉ cooked.recipients)
    (.shamirRecoveryUnrelatedToUs hint)
  let found ← internal (store.storage.getLastShamirRecoveryForAuthor
    (.timestamp cooked.timestamp) authorUserId)
  checkNotSetup found hint
  checkAuthorNotRevokedAndProfile store.storage cooked.timestamp authorUserId false hint
  cooked.recipients.forM fun recipient => do
    let _ ← checkUserExists store.storage cooked.timestamp recipient hint
    checkUserNotRevoked store.storage cooked.timestamp recipient hint
  return store

/-- Unlike the other certificates of its topic, a share has the timestamp of the last one. -/
def checkShareTimestamp (last : Option DateTime) (timestamp : DateTime) (hint : Hint) :
    Adding Unit :=
  match last with
  | some last => refuseIf (timestamp < last) (.invalidTimestamp hint last)
  | none => .ok ()

def checkBriefOfShare (brief : Option ShamirRecoveryBriefCertificate)
    (cooked : ShamirRecoveryShareCertificate) (hint : Hint) : Adding Unit :=
  match brief with
  | some brief =>
    refuseIf (!(brief.timestamp = cooked.timestamp && brief.author = cooked.author &&
      cooked.recipient ∈ brief.recipients)) (.shamirRecoveryMissingBriefCertificate hint)
  | none => invalid (.shamirRecoveryMissingBriefCertificate hint)

def checkOtherShare (other : Option ShamirRecoveryShareCertificate)
    (cooked : ShamirRecoveryShareCertificate) (hint : Hint) : Adding Unit :=
  match other with
  | some other =>
    refuseIf (other.author = cooked.author && other.timestamp = cooked.timestamp)
      (.contentAlreadyExists hint)
  | none => .ok ()

def checkShamirRecoveryShareCertificateConsistency (device : LocalDevice)
    (cooked : ShamirRecoveryShareCertificate) (authorUserId : UserID) (store : Store) :
    Adding Store := do
  let hint := .certificate (.shamirRecovery (.share cooked))
  let (last, store) := store.getLastTimestamps
  checkShareTimestamp last.shamirRecovery cooked.timestamp hint
  let brief ← internal (store.storage.getLastShamirRecoveryBriefCertificate
    (.timestamp cooked.timestamp))
  checkBriefOfShare brief cooked hint
  refuseIf (cooked.recipient ≠ device.userId) (.shamirRecoveryUnrelatedToUs hint)
  let other ← internal (store.storage.getLastShamirRecoveryShareCertificateForRecipient
    (.timestamp cooked.timestamp) authorUserId cooked.recipient)
  checkOtherShare other cooked hint
  refuseIf (cooked.userId ≠ authorUserId)
    (.shamirRecoveryNotAboutSelf hint cooked.userId authorUserId)
  checkAuthorNotRevokedAndProfile store.storage cooked.timestamp authorUserId false hint
  return store

def assertRelated (related : Bool) : Adding Unit :=
  if related then .ok () else .error (.panicked (.assert "we are related to the shamir recovery"))

/-- The recipients of the setup that a deletion is about. -/
def setupRecipients (found : LastShamirRecovery) (cooked : ShamirRecoveryDeletionCertificate)
    (hint : Hint) : Adding (Finset UserID) :=
  match found with
  | .neverSetup => invalid (.shamirRecoveryDeletionMustReferenceLastSetup hint)
  | .valid brief =>
    if brief.timestamp = cooked.setupToDeleteTimestamp then .ok brief.recipients.toFinset
    else invalid (.shamirRecoveryDeletionMustReferenceLastSetup hint)
  | .deleted brief deletion =>
    if brief.timestamp = cooked.setupToDeleteTimestamp then
      invalid (.shamirRecoveryAlreadyDeleted hint deletion.timestamp)
    else invalid (.shamirRecoveryDeletionMustReferenceLastSetup hint)

def checkShamirRecoveryDeletionCertificateConsistency (device : LocalDevice)
    (cooked : ShamirRecoveryDeletionCertificate) (authorUserId : UserID) (store : Store) :
    Adding Store := do
  let hint := .certificate (.shamirRecovery (.deletion cooked))
  let (last, store) := store.getLastTimestamps
  checkNewest last.shamirRecovery cooked.timestamp hint
  refuseIf (cooked.setupToDeleteUserId ≠ authorUserId)
    (.shamirRecoveryNotAboutSelf hint cooked.setupToDeleteUserId authorUserId)
  let found ← internal (store.storage.getLastShamirRecoveryForAuthor
    (.timestamp cooked.timestamp) authorUserId)
  let recipients ← setupRecipients found cooked hint
  refuseIf (cooked.shareRecipients ≠ recipients)
    (.shamirRecoveryDeletionRecipientsMismatch hint recipients)
  assertRelated (cooked.setupToDeleteUserId = device.userId ∨
    device.userId ∈ cooked.shareRecipients)
  checkAuthorNotRevokedAndProfile store.storage cooked.timestamp authorUserId false hint
  return store

def checkSequesterAuthorityCertificateConsistency (cooked : SequesterAuthorityCertificate)
    (store : Store) : Adding Store := do
  let (last, store) := store.getLastTimestamps
  refuseIf (!last.isEmpty)
    (.sequesterAuthorityMustBeFirst (.certificate (.sequester (.authority cooked))))
  return store

def checkSequesterServiceCertificateConsistency (lastSequesterTimestamp : DateTime)
    (cooked : SequesterServiceCertificate) (store : Store) : Adding Store := do
  let hint := .certificate (.sequester (.service cooked))
  checkNewest (some lastSequesterTimestamp) cooked.timestamp hint
  let existing ←
    internal (store.storage.getSequesterServiceCertificates (.timestamp cooked.timestamp))
  refuseIf (existing.any fun service => service.serviceId = cooked.serviceId)
    (.contentAlreadyExists hint)
  return store

def checkSequesterRevokedServiceCertificateConsistency (lastSequesterTimestamp : DateTime)
    (cooked : SequesterRevokedServiceCertificate) (store : Store) : Adding Store := do
  let hint := .certificate (.sequester (.revokedService cooked))
  checkNewest (some lastSequesterTimestamp) cooked.timestamp hint
  match ← internal (store.storage.getSequesterRevokedServiceCertificate
      (.timestamp cooked.timestamp) cooked.serviceId) with
  | some revoked => invalid (.relatedSequesterServiceAlreadyRevoked hint revoked.timestamp)
  | none => return store

end ParsecCloud.Certif

import ParsecCloud.Server.RealmOperations
import ParsecCloud.Server.TopicOperations

/- What each operation of the server does when it succeeds, and what it has checked. -/
namespace ParsecCloud.Server
open Certif Rust

section Checks
variable {org : MemoryOrganization} {author : DeviceID} {device : MemoryDevice} {user : MemoryUser}
  {realmId : VlobID} {realm : MemoryRealm}

theorem checkAuthor_ok (ok : org.checkAuthor author = .ok (device, user)) :
    org.isExpired = false ∧ org.devices.get? author = some device ∧
      org.users.get? device.cooked.userId = some user ∧ user.revoked = none := by
  unfold MemoryOrganization.checkAuthor at ok
  obtain ⟨_, notExpired, ok⟩ := bind_eq_ok.mp ok
  cases isDevice : org.devices.get? author with
  | none =>
    simp only [isDevice] at ok
    cases ok
  | some found =>
    cases isUser : org.users.get? found.cooked.userId with
    | none =>
      simp only [isDevice, isUser] at ok
      cases ok
    | some foundUser =>
      simp only [isDevice, isUser] at ok
      obtain ⟨_, active, ok⟩ := bind_eq_ok.mp ok
      cases ok
      rw [refuse_eq_ok] at notExpired active
      exact ⟨notExpired, rfl, isUser, by simpa [MemoryUser.isRevoked] using active⟩

theorem checkRealmAuthor_ok {key : VerifyKey}
    (ok : org.checkRealmAuthor author key = .ok (device, user)) :
    org.isExpired = false ∧ org.devices.get? author = some device ∧
      org.users.get? device.cooked.userId = some user ∧ user.revoked = none := by
  unfold MemoryOrganization.checkRealmAuthor at ok
  obtain ⟨⟨foundDevice, foundUser⟩, found, ok⟩ := bind_eq_ok.mp ok
  obtain ⟨_, -, ok⟩ := bind_eq_ok.mp ok
  cases ok
  exact checkAuthor_ok found

theorem findRealm_ok (ok : org.findRealm realmId = .ok realm) :
    org.realms.get? realmId = some realm := by
  unfold MemoryOrganization.findRealm at ok
  split at ok
  · cases ok
  · rename_i found
    cases ok
    exact found

theorem checkCausality_ok {last timestamp : DateTime} {done : Unit}
    (ok : MemoryOrganization.checkCausality last timestamp = .ok done) : last < timestamp := by
  simpa using refuse_eq_ok.mp ok

theorem verifyAndLoad_ok {α : Type} {uploaded : Uploaded α} {authorOf : α → CertificateSigner}
    {key : VerifyKey} {content : α}
    (ok : uploaded.verifyAndLoad authorOf author key = .ok content) :
    uploaded.signed = .certificate content key ∧ authorOf content = .user author := by
  unfold Uploaded.verifyAndLoad at ok
  split at ok
  · cases ok
  · rename_i found signedBy isSigned
    split at ok
    · rename_i valid
      cases ok
      exact ⟨valid.1 ▸ isSigned, valid.2⟩
    · cases ok

end Checks

namespace MemoryOrganization
variable (org : MemoryOrganization)

def withUser (u : UserPayload) (d : DeviceCertificate) (raw redacted deviceRaw deviceRedacted :
    List Byte) : MemoryOrganization :=
  { org.withLastTimestamp .common u.certif.timestamp with
    users := org.users.set u.certif.userId ⟨u.certif, u.humanHandle, raw, redacted, [], none⟩
    devices := org.devices.set d.deviceId ⟨d, deviceRaw, deviceRedacted⟩ }

def withDevice (d : DeviceCertificate) (raw redacted : List Byte) : MemoryOrganization :=
  { org.withLastTimestamp .common d.timestamp with
    devices := org.devices.set d.deviceId ⟨d, raw, redacted⟩ }

def withRevocation (target : MemoryUser) (certif : RevokedUserCertificate) (raw : List Byte) :
    MemoryOrganization :=
  { org.withLastTimestamp .common certif.timestamp with
    users := org.users.set certif.userId { target with revoked := some (certif, raw) } }

def withUpdate (target : MemoryUser) (certif : UserUpdateCertificate) (raw : List Byte) :
    MemoryOrganization :=
  { org.withLastTimestamp .common certif.timestamp with
    users := org.users.set certif.userId
      { target with profileUpdates := target.profileUpdates ++ [(certif, raw)] } }

def withNewRealm (now : DateTime) (certif : RealmRoleCertificate) (raw : List Byte) :
    MemoryOrganization :=
  { org.withLastTimestamp (.realm certif.realmId) certif.timestamp with
    realms := org.realms.set certif.realmId
      ⟨certif.realmId, now, [(certif, raw)], [], [], [], none, .empty⟩ }

def withName (realm : MemoryRealm) (certif : RealmNameCertificate) (raw : List Byte) :
    MemoryOrganization :=
  { org.withLastTimestamp (.realm certif.realmId) certif.timestamp with
    realms := org.realms.set certif.realmId
      { realm with renames := realm.renames ++ [(certif, raw)] } }

def withRotation (realm : MemoryRealm) (rotation : WaitingRotation) : MemoryOrganization :=
  { org.withLastTimestamp (.realm rotation.certif.realmId) rotation.certif.timestamp with
    realms := org.realms.set rotation.certif.realmId { realm with
      keyRotations := realm.keyRotations ++ [⟨rotation.certif, rotation.raw,
        rotationAccesses rotation.certif.timestamp rotation.accesses, rotation.keysBundle,
        rotation.sequesterAccesses⟩] } }

def withNewVlob (realm : MemoryRealm) (write : VlobWrite) : MemoryOrganization :=
  { org with
    atomLists := org.atomLists ++ [[write.atom]]
    realms := org.realms.set write.realmId { recordWrite realm write with
      vlobs := (recordWrite realm write).vlobs.set write.vlobId org.atomLists.length } }

def withAtom (realm : MemoryRealm) (write : VlobWrite) (place : Nat) : MemoryOrganization :=
  { org with
    atomLists := org.atomLists.set place (org.atomLists.getD place [] ++ [write.atom])
    realms := org.realms.set write.realmId (recordWrite realm write) }

def withSetup (userId : UserID) (recovery : MemoryShamirRecovery) : MemoryOrganization :=
  { org.withLastTimestamp .shamirRecovery recovery.cookedBrief.timestamp with
    shamirRecoveries := org.shamirRecoveries.set userId (org.recoveriesOf userId ++ [recovery]) }

def withDeletion (userId : UserID) (index : Nat) (setup : MemoryShamirRecovery)
    (deletion : ShamirRecoveryDeletionCertificate) (raw : List Byte) : MemoryOrganization :=
  { org.withLastTimestamp .shamirRecovery deletion.timestamp with
    shamirRecoveries := org.shamirRecoveries.set userId
      ((org.recoveriesOf userId).set index { setup with deletion := some (deletion, raw) }) }

def withService (services : Dict SequesterServiceID MemorySequesterService)
    (certif : SequesterServiceCertificate) (raw : List Byte) (serviceType : SequesterServiceType) :
    MemoryOrganization :=
  { org.withLastTimestamp .sequester certif.timestamp with
    sequesterServices := some (services.set certif.serviceId ⟨certif, raw, serviceType, none⟩) }

def withRevokedService (services : Dict SequesterServiceID MemorySequesterService)
    (service : MemorySequesterService) (certif : SequesterRevokedServiceCertificate)
    (raw : List Byte) : MemoryOrganization :=
  { org.withLastTimestamp .sequester certif.timestamp with
    sequesterServices := some (services.set certif.serviceId
      { service with revoked := some (certif, raw) }) }

/-- The author of a certificate, who is not revoked. -/
def HasAuthor (author : DeviceID) (userId : UserID) (user : MemoryUser) : Prop :=
  org.isExpired = false ∧ ∃ device, org.devices.get? author = some device ∧
    device.cooked.userId = userId ∧ org.users.get? userId = some user ∧ user.revoked = none

end MemoryOrganization

theorem hasAuthor_of {org : MemoryOrganization} {author : DeviceID} {device : MemoryDevice}
    {user : MemoryUser} (found : org.isExpired = false ∧ org.devices.get? author = some device ∧
      org.users.get? device.cooked.userId = some user ∧ user.revoked = none) :
    org.HasAuthor author device.cooked.userId user :=
  ⟨found.1, device, found.2.1, rfl, found.2.2.1, found.2.2.2⟩

/-- What an operation is, with what its certificate says. -/
inductive OperationKind where
  | createUser (payload : Option UserPayload)
  | createDevice
  | revokeUser (certif : Option RevokedUserCertificate)
  | updateUser (certif : Option UserUpdateCertificate)
  | createRealm (now : DateTime) (certif : Option RealmRoleCertificate)
  | shareRealm (certif : Option RealmRoleCertificate)
  | unshareRealm (certif : Option RealmRoleCertificate)
  | renameRealm
  | setupShamir
  | deleteShamir
  | createService
  | revokeService (certif : Option SequesterRevokedServiceCertificate)

/-- What an operation does, with the topic that it writes. -/
inductive Effect (org : MemoryOrganization) :
    OperationKind → TopicAndDiscriminant → MemoryOrganization → Prop where
  | user {u : UserPayload} {d : DeviceCertificate} {authorId : UserID} {authorUser : MemoryUser}
      {author : DeviceID} (raw redacted deviceRaw deviceRedacted : List Byte)
      (hasAuthor : org.HasAuthor author authorId authorUser)
      (admin : authorUser.currentProfile = .admin) (userAuthor : u.certif.author = .user author)
      (deviceAuthor : d.author = .user author) (sameUser : d.userId = u.certif.userId)
      (sameTime : d.timestamp = u.certif.timestamp)
      (newUser : org.users.get? u.certif.userId = none)
      (newDevice : org.devices.get? d.deviceId = none)
      (later : org.lastTimestamp .common < u.certif.timestamp) :
      Effect org (.createUser (some u)) .common (org.withUser u d raw redacted deviceRaw deviceRedacted)
  | device {d : DeviceCertificate} {author : DeviceID} {authorUser : MemoryUser}
      (raw redacted : List Byte) (hasAuthor : org.HasAuthor author d.userId authorUser)
      (deviceAuthor : d.author = .user author) (newDevice : org.devices.get? d.deviceId = none)
      (later : org.lastTimestamp .common < d.timestamp) :
      Effect org .createDevice .common (org.withDevice d raw redacted)
  | revocation {certif : RevokedUserCertificate} {target authorUser : MemoryUser}
      {authorId : UserID} (raw : List Byte) (hasAuthor : org.HasAuthor certif.author authorId authorUser)
      (admin : authorUser.currentProfile = .admin) (other : authorId ≠ certif.userId)
      (isTarget : org.users.get? certif.userId = some target) (active : target.revoked = none)
      (later : org.lastTimestampForRevocation certif.userId < certif.timestamp) :
      Effect org (.revokeUser (some certif)) .common (org.withRevocation target certif raw)
  | update {certif : UserUpdateCertificate} {target authorUser : MemoryUser} {authorId : UserID}
      (raw : List Byte) (hasAuthor : org.HasAuthor certif.author authorId authorUser)
      (admin : authorUser.currentProfile = .admin) (other : authorId ≠ certif.userId)
      (isTarget : org.users.get? certif.userId = some target) (active : target.revoked = none)
      (changes : target.currentProfile ≠ certif.newProfile)
      (later : org.lastTimestamp .common < certif.timestamp) :
      Effect org (.updateUser (some certif)) .common (org.withUpdate target certif raw)
  | newRealm {certif : RealmRoleCertificate} {authorUser : MemoryUser} (now : DateTime)
      (raw : List Byte) (hasAuthor : org.HasAuthor certif.author certif.userId authorUser)
      (notOutsider : authorUser.currentProfile ≠ .outsider) (owner : certif.role = some .owner)
      (isNew : org.realms.get? certif.realmId = none)
      (later : max (org.lastTimestamp .common) (org.lastTimestamp (.realm certif.realmId)) <
        certif.timestamp) :
      Effect org (.createRealm now (some certif)) (.realm certif.realmId)
        (org.withNewRealm now certif raw)
  | share {certif : RealmRoleCertificate} {authorUser user : MemoryUser} {authorId : UserID}
      {realm : MemoryRealm} {rotation : MemoryRealmKeyRotation} (raw access : List Byte)
      (hasAuthor : org.HasAuthor certif.author authorId authorUser) (other : authorId ≠ certif.userId)
      (role : certif.role.isSome) (isUser : org.users.get? certif.userId = some user)
      (active : user.revoked = none) (isRealm : org.realms.get? certif.realmId = some realm)
      (allowed : realm.getCurrentRoleFor authorId ∈
        (neededRoles (realm.getCurrentRoleFor certif.userId) certif.role).map some)
      (outsider : ¬ (user.currentProfile = .outsider ∧ certif.role ∈ [some .manager, some .owner]))
      (changes : realm.getCurrentRoleFor certif.userId ≠ certif.role)
      (later : org.lastTimestampForRole certif.realmId realm < certif.timestamp)
      (last : realm.keyRotations.getLast? = some rotation) :
      Effect org (.shareRealm (some certif)) (.realm certif.realmId) (org.addRole realm certif raw
        (realm.keyRotations.dropLast ++
          [MemoryOrganization.addAccess rotation certif.userId certif.timestamp access]))
  | unshare {certif : RealmRoleCertificate} {authorUser user : MemoryUser} {authorId : UserID}
      {realm : MemoryRealm} (raw : List Byte)
      (hasAuthor : org.HasAuthor certif.author authorId authorUser) (other : authorId ≠ certif.userId)
      (noRole : certif.role = none) (isUser : org.users.get? certif.userId = some user)
      (isRealm : org.realms.get? certif.realmId = some realm)
      (allowed : realm.getCurrentRoleFor authorId ∈
        (neededRoles (realm.getCurrentRoleFor certif.userId) certif.role).map some)
      (changes : realm.getCurrentRoleFor certif.userId ≠ none)
      (later : org.lastTimestampForRole certif.realmId realm < certif.timestamp) :
      Effect org (.unshareRealm (some certif)) (.realm certif.realmId)
        (org.addRole realm certif raw realm.keyRotations)
  | rename {certif : RealmNameCertificate} {authorUser : MemoryUser} {authorId : UserID}
      {realm : MemoryRealm} (raw : List Byte)
      (hasAuthor : org.HasAuthor certif.author authorId authorUser)
      (isRealm : org.realms.get? certif.realmId = some realm)
      (owner : realm.getCurrentRoleFor authorId = some .owner)
      (index : realm.keyRotations.length = certif.keyIndex)
      (later : max (org.lastTimestamp .common) (org.lastTimestamp (.realm certif.realmId)) <
        certif.timestamp) :
      Effect org .renameRealm (.realm certif.realmId) (org.withName realm certif raw)
  | setup {userId : UserID} {recovery : MemoryShamirRecovery}
      (noDeletion : recovery.deletion = none)
      (deleted : ∀ previous, (org.recoveriesOf userId).getLast? = some previous →
        previous.deletion ≠ none)
      (sharesDated : ∀ recipient share, recovery.shares.get? recipient = some share →
        share.1.timestamp = recovery.cookedBrief.timestamp ∧ share.1.recipient = recipient)
      (isUser : recovery.cookedBrief.userId = userId)
      (later : max (org.lastTimestamp .common) (org.lastTimestamp .shamirRecovery) <
        recovery.cookedBrief.timestamp) :
      Effect org .setupShamir .shamirRecovery (org.withSetup userId recovery)
  | deletion {userId : UserID} {index : Nat} {setup : MemoryShamirRecovery}
      {certif : ShamirRecoveryDeletionCertificate} (raw : List Byte)
      (isSetup : (org.recoveriesOf userId)[index]? = some setup)
      (notDeleted : setup.deletion = none)
      (later : max (org.lastTimestamp .common) (org.lastTimestamp .shamirRecovery) <
        certif.timestamp) :
      Effect org .deleteShamir .shamirRecovery (org.withDeletion userId index setup certif raw)
  | service {services : Dict SequesterServiceID MemorySequesterService}
      {certif : SequesterServiceCertificate} (raw : List Byte) (serviceType : SequesterServiceType)
      (isServices : org.sequesterServices = some services)
      (isNew : services.get? certif.serviceId = none)
      (later : org.lastTimestamp .sequester < certif.timestamp) :
      Effect org .createService .sequester (org.withService services certif raw serviceType)
  | revokedService {services : Dict SequesterServiceID MemorySequesterService}
      {service : MemorySequesterService} {certif : SequesterRevokedServiceCertificate}
      (raw : List Byte) (isServices : org.sequesterServices = some services)
      (isService : services.get? certif.serviceId = some service)
      (notRevoked : service.revoked = none)
      (later : org.lastTimestamp .sequester < certif.timestamp) :
      Effect org (.revokeService (some certif)) .sequester
        (org.withRevokedService services service certif raw)

section CommonTopic
variable {org org' : MemoryOrganization} {now : DateTime} {author : DeviceID} {key : VerifyKey}

theorem userCreateUserValidate_ok {userCertificate redactedUserCertificate : Uploaded UserPayload}
    {deviceCertificate redactedDeviceCertificate : Uploaded DevicePayload} {u : UserPayload}
    {d : DeviceCertificate}
    (ok : userCreateUserValidate now author key userCertificate redactedUserCertificate
      deviceCertificate redactedDeviceCertificate = .ok (u, d)) :
    userCertificate.signed = .certificate u key ∧ u.certif.author = .user author ∧
      d.author = .user author ∧ d.userId = u.certif.userId ∧ d.timestamp = u.certif.timestamp := by
  unfold userCreateUserValidate at ok
  obtain ⟨device, isDevice, ok⟩ := bind_eq_ok.mp ok
  obtain ⟨user, isUser, ok⟩ := bind_eq_ok.mp ok
  obtain ⟨_, -, ok⟩ := bind_eq_ok.mp ok
  obtain ⟨_, -, ok⟩ := bind_eq_ok.mp ok
  obtain ⟨_, sameTime, ok⟩ := bind_eq_ok.mp ok
  obtain ⟨_, -, ok⟩ := bind_eq_ok.mp ok
  obtain ⟨_, sameUser, ok⟩ := bind_eq_ok.mp ok
  obtain ⟨_, -, ok⟩ := bind_eq_ok.mp ok
  obtain ⟨_, -, ok⟩ := bind_eq_ok.mp ok
  obtain ⟨_, -, ok⟩ := bind_eq_ok.mp ok
  obtain ⟨_, -, ok⟩ := bind_eq_ok.mp ok
  cases ok
  rw [refuse_eq_ok, decide_eq_false_iff_not, not_not] at sameTime sameUser
  obtain ⟨isSigned, isAuthorOf⟩ := verifyAndLoad_ok isUser
  exact ⟨isSigned, isAuthorOf, (verifyAndLoad_ok isDevice).2, sameUser.symm, sameTime.symm⟩

theorem createUser_effect {userCertificate redactedUserCertificate : Uploaded UserPayload}
    {deviceCertificate redactedDeviceCertificate : Uploaded DevicePayload}
    (ok : org.createUser now author key userCertificate redactedUserCertificate deviceCertificate
      redactedDeviceCertificate = .ok org') :
    Effect org (.createUser userCertificate.content?) .common org' := by
  unfold MemoryOrganization.createUser at ok
  obtain ⟨⟨device, user⟩, isAuthor, ok⟩ := bind_eq_ok.mp ok
  obtain ⟨_, admin, ok⟩ := bind_eq_ok.mp ok
  obtain ⟨⟨u, d⟩, valid, ok⟩ := bind_eq_ok.mp ok
  obtain ⟨_, -, ok⟩ := bind_eq_ok.mp ok
  obtain ⟨_, newUser, ok⟩ := bind_eq_ok.mp ok
  obtain ⟨_, newDevice, ok⟩ := bind_eq_ok.mp ok
  obtain ⟨_, -, ok⟩ := bind_eq_ok.mp ok
  obtain ⟨_, later, ok⟩ := bind_eq_ok.mp ok
  cases ok
  rw [refuse_eq_ok, decide_eq_false_iff_not, not_not] at admin
  rw [refuse_eq_ok, Option.isSome_eq_false_iff, Option.isNone_iff_eq_none] at newUser newDevice
  obtain ⟨isSigned, userAuthor, deviceAuthor, sameUser, sameTime⟩ := userCreateUserValidate_ok valid
  rw [Uploaded.content?, isSigned]
  exact .user _ _ _ _ (hasAuthor_of (checkAuthor_ok isAuthor)) admin userAuthor deviceAuthor sameUser
    sameTime newUser newDevice (checkCausality_ok later)

theorem createDevice_effect {deviceCertificate redactedDeviceCertificate : Uploaded DevicePayload}
    (ok : org.createDevice now author key deviceCertificate redactedDeviceCertificate = .ok org') :
    Effect org .createDevice .common org' := by
  unfold MemoryOrganization.createDevice at ok
  obtain ⟨⟨device, user⟩, isAuthor, ok⟩ := bind_eq_ok.mp ok
  obtain ⟨d, valid, ok⟩ := bind_eq_ok.mp ok
  obtain ⟨_, newDevice, ok⟩ := bind_eq_ok.mp ok
  obtain ⟨_, later, ok⟩ := bind_eq_ok.mp ok
  cases ok
  unfold userCreateDeviceValidate at valid
  obtain ⟨payload, isPayload, valid⟩ := bind_eq_ok.mp valid
  obtain ⟨_, -, valid⟩ := bind_eq_ok.mp valid
  obtain ⟨_, -, valid⟩ := bind_eq_ok.mp valid
  obtain ⟨_, sameUser, valid⟩ := bind_eq_ok.mp valid
  obtain ⟨_, -, valid⟩ := bind_eq_ok.mp valid
  obtain ⟨_, -, valid⟩ := bind_eq_ok.mp valid
  cases valid
  rw [refuse_eq_ok, decide_eq_false_iff_not, not_not] at sameUser
  rw [refuse_eq_ok, Option.isSome_eq_false_iff, Option.isNone_iff_eq_none] at newDevice
  have hasAuthor := hasAuthor_of (checkAuthor_ok isAuthor)
  rw [← sameUser] at hasAuthor
  exact .device _ _ hasAuthor (verifyAndLoad_ok isPayload).2 newDevice (checkCausality_ok later)

theorem revokeUser_effect {revokedUserCertificate : Uploaded RevokedUserCertificate}
    (ok : org.revokeUser now author key revokedUserCertificate = .ok org') :
    Effect org (.revokeUser revokedUserCertificate.content?) .common org' := by
  unfold MemoryOrganization.revokeUser at ok
  obtain ⟨⟨device, user⟩, isAuthor, ok⟩ := bind_eq_ok.mp ok
  obtain ⟨_, admin, ok⟩ := bind_eq_ok.mp ok
  obtain ⟨certif, valid, ok⟩ := bind_eq_ok.mp ok
  cases isTarget : org.users.get? certif.userId with
  | none =>
    simp only [isTarget] at ok
    cases ok
  | some target =>
    cases active : target.revoked with
    | some revoked =>
      simp only [isTarget, active] at ok
      cases ok
    | none =>
      simp only [isTarget, active] at ok
      obtain ⟨_, later, ok⟩ := bind_eq_ok.mp ok
      cases ok
      unfold userRevokeUserValidate at valid
      obtain ⟨content, isContent, valid⟩ := bind_eq_ok.mp valid
      obtain ⟨_, -, valid⟩ := bind_eq_ok.mp valid
      obtain ⟨_, other, valid⟩ := bind_eq_ok.mp valid
      cases valid
      rw [refuse_eq_ok, decide_eq_false_iff_not] at admin other
      rw [not_not] at admin
      obtain ⟨isSigned, isAuthorOf⟩ := verifyAndLoad_ok isContent
      have hasAuthor := hasAuthor_of (checkAuthor_ok isAuthor)
      rw [← CertificateSigner.user.inj isAuthorOf] at hasAuthor
      rw [Uploaded.content?, isSigned]
      exact .revocation _ hasAuthor admin other isTarget active (checkCausality_ok later)

theorem updateUser_effect {userUpdateCertificate : Uploaded UserUpdateCertificate}
    (ok : org.updateUser now author key userUpdateCertificate = .ok org') :
    Effect org (.updateUser userUpdateCertificate.content?) .common org' := by
  unfold MemoryOrganization.updateUser at ok
  obtain ⟨⟨device, user⟩, isAuthor, ok⟩ := bind_eq_ok.mp ok
  obtain ⟨_, admin, ok⟩ := bind_eq_ok.mp ok
  obtain ⟨certif, valid, ok⟩ := bind_eq_ok.mp ok
  cases isTarget : org.users.get? certif.userId with
  | none =>
    simp only [isTarget] at ok
    cases ok
  | some target =>
    simp only [isTarget] at ok
    obtain ⟨_, active, ok⟩ := bind_eq_ok.mp ok
    obtain ⟨_, changes, ok⟩ := bind_eq_ok.mp ok
    obtain ⟨_, later, ok⟩ := bind_eq_ok.mp ok
    cases ok
    unfold userUpdateUserValidate at valid
    obtain ⟨content, isContent, valid⟩ := bind_eq_ok.mp valid
    obtain ⟨_, -, valid⟩ := bind_eq_ok.mp valid
    obtain ⟨_, other, valid⟩ := bind_eq_ok.mp valid
    cases valid
    rw [refuse_eq_ok] at active
    rw [refuse_eq_ok, decide_eq_false_iff_not] at admin other changes
    rw [not_not] at admin
    obtain ⟨isSigned, isAuthorOf⟩ := verifyAndLoad_ok isContent
    have hasAuthor := hasAuthor_of (checkAuthor_ok isAuthor)
    rw [← CertificateSigner.user.inj isAuthorOf] at hasAuthor
    rw [Uploaded.content?, isSigned]
    exact .update _ hasAuthor admin other isTarget (by simpa [MemoryUser.isRevoked] using active)
      changes (checkCausality_ok later)

end CommonTopic

section RealmTopic
variable {org org' : MemoryOrganization} {now : DateTime} {author : DeviceID} {key : VerifyKey}

theorem createRealm_effect {realmRoleCertificate : Uploaded RealmRoleCertificate}
    (ok : org.createRealm now author key realmRoleCertificate = .ok org') :
    ∃ certif, realmRoleCertificate.signed = .certificate certif key ∧
      Effect org (.createRealm now (some certif)) (.realm certif.realmId) org' := by
  unfold MemoryOrganization.createRealm at ok
  obtain ⟨⟨device, user⟩, isAuthor, ok⟩ := bind_eq_ok.mp ok
  obtain ⟨_, notOutsider, ok⟩ := bind_eq_ok.mp ok
  obtain ⟨_, -, ok⟩ := bind_eq_ok.mp ok
  obtain ⟨certif, valid, ok⟩ := bind_eq_ok.mp ok
  cases isNew : org.realms.get? certif.realmId with
  | some realm =>
    simp only [isNew] at ok
    split at ok
    · cases ok
    · cases ok
  | none =>
    simp only [isNew] at ok
    obtain ⟨_, later, ok⟩ := bind_eq_ok.mp ok
    cases ok
    unfold realmCreateValidate at valid
    obtain ⟨content, isContent, valid⟩ := bind_eq_ok.mp valid
    obtain ⟨_, -, valid⟩ := bind_eq_ok.mp valid
    obtain ⟨_, sameUser, valid⟩ := bind_eq_ok.mp valid
    obtain ⟨_, owner, valid⟩ := bind_eq_ok.mp valid
    cases valid
    rw [refuse_eq_ok, decide_eq_false_iff_not] at notOutsider sameUser owner
    rw [not_not] at sameUser owner
    obtain ⟨isSigned, isAuthorOf⟩ := verifyAndLoad_ok isContent
    have hasAuthor := hasAuthor_of (checkAuthor_ok isAuthor)
    rw [← CertificateSigner.user.inj isAuthorOf, sameUser] at hasAuthor
    exact ⟨_, isSigned, .newRealm _ _ hasAuthor notOutsider owner isNew (checkCausality_ok later)⟩

theorem shareRealm_effect {realmRoleCertificate : Uploaded RealmRoleCertificate}
    {access : List Byte} {keyIndex : Nat}
    (ok : org.shareRealm now author key realmRoleCertificate access keyIndex = .ok org') :
    ∃ certif, realmRoleCertificate.signed = .certificate certif key ∧
      Effect org (.shareRealm (some certif)) (.realm certif.realmId) org' := by
  unfold MemoryOrganization.shareRealm at ok
  obtain ⟨⟨device, authorUser⟩, isAuthor, ok⟩ := bind_eq_ok.mp ok
  obtain ⟨certif, valid, ok⟩ := bind_eq_ok.mp ok
  cases isUser : org.users.get? certif.userId with
  | none =>
    simp only [isUser] at ok
    cases ok
  | some user =>
    simp only [isUser] at ok
    obtain ⟨_, active, ok⟩ := bind_eq_ok.mp ok
    obtain ⟨realm, isRealm, ok⟩ := bind_eq_ok.mp ok
    obtain ⟨_, allowed, ok⟩ := bind_eq_ok.mp ok
    obtain ⟨_, outsider, ok⟩ := bind_eq_ok.mp ok
    obtain ⟨_, changes, ok⟩ := bind_eq_ok.mp ok
    obtain ⟨_, later, ok⟩ := bind_eq_ok.mp ok
    cases last : realm.keyRotations.getLast? with
    | none =>
      simp only [last] at ok
      cases ok
    | some rotation =>
      simp only [last] at ok
      obtain ⟨_, -, ok⟩ := bind_eq_ok.mp ok
      cases ok
      unfold realmShareValidate at valid
      obtain ⟨content, isContent, valid⟩ := bind_eq_ok.mp valid
      obtain ⟨_, -, valid⟩ := bind_eq_ok.mp valid
      obtain ⟨_, other, valid⟩ := bind_eq_ok.mp valid
      obtain ⟨_, role, valid⟩ := bind_eq_ok.mp valid
      cases valid
      rw [refuse_eq_ok] at active role
      rw [refuse_eq_ok, decide_eq_false_iff_not] at other allowed outsider changes
      rw [not_not] at allowed
      obtain ⟨isSigned, isAuthorOf⟩ := verifyAndLoad_ok isContent
      have hasAuthor := hasAuthor_of (checkRealmAuthor_ok isAuthor)
      rw [← CertificateSigner.user.inj isAuthorOf] at hasAuthor
      exact ⟨_, isSigned, .share _ _ hasAuthor other
        (by simpa [Option.isSome_iff_ne_none] using role) isUser
        (by simpa [MemoryUser.isRevoked] using active) (findRealm_ok isRealm) allowed outsider
        changes (checkCausality_ok later) last⟩

theorem unshareRealm_effect {realmRoleCertificate : Uploaded RealmRoleCertificate}
    (ok : org.unshareRealm now author key realmRoleCertificate = .ok org') :
    ∃ certif, realmRoleCertificate.signed = .certificate certif key ∧
      Effect org (.unshareRealm (some certif)) (.realm certif.realmId) org' := by
  unfold MemoryOrganization.unshareRealm at ok
  obtain ⟨⟨device, authorUser⟩, isAuthor, ok⟩ := bind_eq_ok.mp ok
  obtain ⟨certif, valid, ok⟩ := bind_eq_ok.mp ok
  obtain ⟨_, known, ok⟩ := bind_eq_ok.mp ok
  obtain ⟨realm, isRealm, ok⟩ := bind_eq_ok.mp ok
  obtain ⟨_, allowed, ok⟩ := bind_eq_ok.mp ok
  obtain ⟨_, changes, ok⟩ := bind_eq_ok.mp ok
  obtain ⟨_, later, ok⟩ := bind_eq_ok.mp ok
  cases ok
  unfold realmUnshareValidate at valid
  obtain ⟨content, isContent, valid⟩ := bind_eq_ok.mp valid
  obtain ⟨_, -, valid⟩ := bind_eq_ok.mp valid
  obtain ⟨_, other, valid⟩ := bind_eq_ok.mp valid
  obtain ⟨_, noRole, valid⟩ := bind_eq_ok.mp valid
  cases valid
  rw [refuse_eq_ok] at known noRole
  rw [refuse_eq_ok, decide_eq_false_iff_not] at other allowed changes
  rw [not_not] at allowed
  rw [Option.isSome_eq_false_iff, Option.isNone_iff_eq_none] at noRole
  obtain ⟨user, isUser⟩ := Option.isSome_iff_exists.mp (Option.isNone_eq_false_iff.mp known)
  rw [noRole] at changes
  obtain ⟨isSigned, isAuthorOf⟩ := verifyAndLoad_ok isContent
  have hasAuthor := hasAuthor_of (checkRealmAuthor_ok isAuthor)
  rw [← CertificateSigner.user.inj isAuthorOf] at hasAuthor
  exact ⟨_, isSigned, .unshare _ hasAuthor other noRole isUser (findRealm_ok isRealm) allowed changes
    (checkCausality_ok later)⟩

theorem renameRealm_effect {realmNameCertificate : Uploaded RealmNameCertificate} {initial : Bool}
    (ok : org.renameRealm now author key realmNameCertificate initial = .ok org') :
    ∃ certif, realmNameCertificate.signed = .certificate certif key ∧
      Effect org .renameRealm (.realm certif.realmId) org' := by
  unfold MemoryOrganization.renameRealm at ok
  obtain ⟨⟨device, authorUser⟩, isAuthor, ok⟩ := bind_eq_ok.mp ok
  obtain ⟨certif, valid, ok⟩ := bind_eq_ok.mp ok
  obtain ⟨realm, isRealm, ok⟩ := bind_eq_ok.mp ok
  obtain ⟨_, owner, ok⟩ := bind_eq_ok.mp ok
  obtain ⟨_, index, ok⟩ := bind_eq_ok.mp ok
  obtain ⟨_, -, ok⟩ := bind_eq_ok.mp ok
  obtain ⟨_, later, ok⟩ := bind_eq_ok.mp ok
  cases ok
  unfold realmRenameValidate at valid
  obtain ⟨content, isContent, valid⟩ := bind_eq_ok.mp valid
  obtain ⟨_, -, valid⟩ := bind_eq_ok.mp valid
  cases valid
  rw [refuse_eq_ok, decide_eq_false_iff_not, not_not] at owner index
  obtain ⟨isSigned, isAuthorOf⟩ := verifyAndLoad_ok isContent
  have hasAuthor := hasAuthor_of (checkRealmAuthor_ok isAuthor)
  rw [← CertificateSigner.user.inj isAuthorOf] at hasAuthor
  exact ⟨_, isSigned, .rename _ hasAuthor (findRealm_ok isRealm) owner index (checkCausality_ok later)⟩

end RealmTopic

section OtherTopics
variable {org org' : MemoryOrganization} {now : DateTime} {author : DeviceID} {key : VerifyKey}

theorem collectShares_ok {brief : ShamirRecoveryBriefCertificate} {userId : UserID}
    {uploaded : List (Uploaded ShamirRecoveryShareCertificate)}
    {shares shares' : Dict UserID (ShamirRecoveryShareCertificate × List Byte)}
    (dated : ∀ recipient share, shares.get? recipient = some share →
      share.1.timestamp = brief.timestamp ∧ share.1.recipient = recipient)
    (ok : collectShares brief author userId key uploaded shares = .ok shares') :
    ∀ recipient share, shares'.get? recipient = some share →
      share.1.timestamp = brief.timestamp ∧ share.1.recipient = recipient := by
  induction uploaded generalizing shares with
  | nil =>
    cases ok
    exact dated
  | cons first rest ih =>
    unfold collectShares at ok
    obtain ⟨share, -, ok⟩ := bind_eq_ok.mp ok
    obtain ⟨_, sameTime, ok⟩ := bind_eq_ok.mp ok
    obtain ⟨_, -, ok⟩ := bind_eq_ok.mp ok
    obtain ⟨_, -, ok⟩ := bind_eq_ok.mp ok
    obtain ⟨_, -, ok⟩ := bind_eq_ok.mp ok
    rw [refuse_eq_ok, decide_eq_false_iff_not, not_not] at sameTime
    refine ih ?_ ok
    intro recipient found isFound
    rcases Dict.found_set rfl isFound with ⟨same, rfl⟩ | ⟨-, isFound⟩
    · exact ⟨sameTime, same.symm⟩
    · exact dated recipient found isFound

theorem setupShamir_effect {briefCertificate : Uploaded ShamirRecoveryBriefCertificate}
    {shareCertificates : List (Uploaded ShamirRecoveryShareCertificate)}
    (ok : org.setupShamir now author key briefCertificate shareCertificates = .ok org') :
    Effect org .setupShamir .shamirRecovery org' := by
  unfold MemoryOrganization.setupShamir at ok
  obtain ⟨userId, -, ok⟩ := bind_eq_ok.mp ok
  obtain ⟨⟨brief, shares⟩, valid, ok⟩ := bind_eq_ok.mp ok
  obtain ⟨_, -, ok⟩ := bind_eq_ok.mp ok
  obtain ⟨_, deleted, ok⟩ := bind_eq_ok.mp ok
  obtain ⟨_, later, ok⟩ := bind_eq_ok.mp ok
  cases ok
  unfold shamirSetupValidate at valid
  obtain ⟨content, -, valid⟩ := bind_eq_ok.mp valid
  obtain ⟨_, -, valid⟩ := bind_eq_ok.mp valid
  obtain ⟨_, -, valid⟩ := bind_eq_ok.mp valid
  obtain ⟨_, isUser, valid⟩ := bind_eq_ok.mp valid
  obtain ⟨_, -, valid⟩ := bind_eq_ok.mp valid
  obtain ⟨collected, isCollected, valid⟩ := bind_eq_ok.mp valid
  cases valid
  rw [refuse_eq_ok] at deleted
  rw [refuse_eq_ok, decide_eq_false_iff_not, not_not] at isUser
  have dated := collectShares_ok (by simp) isCollected
  refine @Effect.setup org userId ⟨brief, briefCertificate.raw, shares, none⟩ rfl ?_ dated isUser
    (checkCausality_ok later)
  intro previous isLast notDeleted
  rw [isLast] at deleted
  simp [MemoryShamirRecovery.isDeleted, notDeleted] at deleted

theorem deleteShamir_effect {deletionCertificate : Uploaded ShamirRecoveryDeletionCertificate}
    (ok : org.deleteShamir now author key deletionCertificate = .ok org') :
    Effect org .deleteShamir .shamirRecovery org' := by
  unfold MemoryOrganization.deleteShamir at ok
  obtain ⟨userId, -, ok⟩ := bind_eq_ok.mp ok
  obtain ⟨deletion, -, ok⟩ := bind_eq_ok.mp ok
  obtain ⟨_, later, ok⟩ := bind_eq_ok.mp ok
  dsimp only at ok
  split at ok
  · cases ok
  · rename_i setup isSetup
    obtain ⟨_, -, ok⟩ := bind_eq_ok.mp ok
    obtain ⟨_, notDeleted, ok⟩ := bind_eq_ok.mp ok
    cases ok
    rw [refuse_eq_ok] at notDeleted
    exact .deletion _ isSetup (by simpa [MemoryShamirRecovery.isDeleted] using notDeleted)
      (checkCausality_ok later)

theorem checkSequestered_ok {services : Dict SequesterServiceID MemorySequesterService}
    {authorityKey : SequesterVerifyKeyDer}
    (ok : org.checkSequestered = .ok (services, authorityKey)) :
    org.sequesterServices = some services := by
  unfold MemoryOrganization.checkSequestered at ok
  split at ok
  · cases ok
  · rename_i found isFound
    split at ok
    · cases ok
    · cases ok
      exact isFound

theorem createService_ok {certificate : List Byte × SignedSequester}
    {serviceType : SequesterServiceType}
    (ok : org.createService certificate serviceType = .ok org') :
    ∃ services certif signedBy, certificate.2 = .service certif signedBy ∧
      org.sequesterServices = some services ∧ services.get? certif.serviceId = none ∧
      org.lastTimestamp .sequester < certif.timestamp ∧
      org' = org.withService services certif certificate.1 serviceType := by
  unfold MemoryOrganization.createService at ok
  obtain ⟨⟨services, authorityKey⟩, isServices, ok⟩ := bind_eq_ok.mp ok
  cases content : certificate.2 with
  | service certif signedBy =>
    simp only [content] at ok
    obtain ⟨_, -, ok⟩ := bind_eq_ok.mp ok
    obtain ⟨_, later, ok⟩ := bind_eq_ok.mp ok
    obtain ⟨_, isNew, ok⟩ := bind_eq_ok.mp ok
    cases ok
    rw [refuse_eq_ok, Option.isSome_eq_false_iff, Option.isNone_iff_eq_none] at isNew
    exact ⟨services, certif, signedBy, rfl, checkSequestered_ok isServices, isNew,
      checkCausality_ok later, rfl⟩
  | _ =>
    simp only [content] at ok
    cases ok

theorem createService_effect {certificate : List Byte × SignedSequester}
    {serviceType : SequesterServiceType}
    (ok : org.createService certificate serviceType = .ok org') :
    Effect org .createService .sequester org' := by
  obtain ⟨services, certif, signedBy, -, isServices, isNew, later, rfl⟩ := createService_ok ok
  exact .service _ _ isServices isNew later

/-- The certificate of a revoked service. -/
def revokedContent? : SignedSequester → Option SequesterRevokedServiceCertificate
  | .revokedService certif _ => some certif
  | _ => none

theorem revokeService_ok {certificate : List Byte × SignedSequester}
    (ok : org.revokeService certificate = .ok org') :
    ∃ services service certif signedBy, certificate.2 = .revokedService certif signedBy ∧
      org.sequesterServices = some services ∧ services.get? certif.serviceId = some service ∧
      service.revoked = none ∧ org.lastTimestamp .sequester < certif.timestamp ∧
      org' = org.withRevokedService services service certif certificate.1 := by
  unfold MemoryOrganization.revokeService at ok
  obtain ⟨⟨services, authorityKey⟩, isServices, ok⟩ := bind_eq_ok.mp ok
  cases content : certificate.2 with
  | revokedService certif signedBy =>
    simp only [content] at ok
    obtain ⟨_, -, ok⟩ := bind_eq_ok.mp ok
    cases isService : services.get? certif.serviceId with
    | none =>
      simp only [isService] at ok
      cases ok
    | some service =>
      simp only [isService] at ok
      obtain ⟨_, later, ok⟩ := bind_eq_ok.mp ok
      obtain ⟨_, notRevoked, ok⟩ := bind_eq_ok.mp ok
      cases ok
      rw [refuse_eq_ok] at notRevoked
      exact ⟨services, service, certif, signedBy, rfl, checkSequestered_ok isServices, isService,
        by simpa [MemorySequesterService.isRevoked] using notRevoked, checkCausality_ok later, rfl⟩
  | _ =>
    simp only [content] at ok
    cases ok

theorem revokeService_effect {certificate : List Byte × SignedSequester}
    (ok : org.revokeService certificate = .ok org') :
    Effect org (.revokeService (revokedContent? certificate.2)) .sequester org' := by
  obtain ⟨services, service, certif, signedBy, content, isServices, isService, notRevoked, later, rfl⟩ :=
    revokeService_ok ok
  rw [content, revokedContent?]
  exact .revokedService _ isServices isService notRevoked later

end OtherTopics

end ParsecCloud.Server

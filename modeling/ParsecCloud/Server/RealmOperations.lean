import ParsecCloud.Server.Operations
import Mathlib.Data.Finset.Basic

/- The operations on the realms (memory/realm.py) and on their vlobs (memory/vlob.py). The calls to
   the webhooks of the sequester services cut a key rotation and a vlob write in two: what is checked
   before, under the locks of the topics, and what is done when the webhooks have accepted. -/
namespace ParsecCloud.Server
open Certif

section Validate
variable (now : DateTime) (expectedAuthorUserId : UserID) (expectedAuthor : DeviceID)
  (authorVerifyKey : VerifyKey)

def realmCreateValidate (realmRoleCertificate : Uploaded RealmRoleCertificate) :
    Except BadOutcome RealmRoleCertificate := do
  let certif ← realmRoleCertificate.verifyAndLoad (.user ·.author) expectedAuthor authorVerifyKey
  checkBallpark certif.timestamp now
  refuse (expectedAuthorUserId ≠ certif.userId) .userIdMismatch
  refuse (certif.role ≠ some .owner) .invalidRole
  return certif

def realmShareValidate (realmRoleCertificate : Uploaded RealmRoleCertificate) :
    Except BadOutcome RealmRoleCertificate := do
  let certif ← realmRoleCertificate.verifyAndLoad (.user ·.author) expectedAuthor authorVerifyKey
  checkBallpark certif.timestamp now
  refuse (expectedAuthorUserId = certif.userId) .cannotSelfShare
  refuse certif.role.isNone .invalidRole
  return certif

def realmUnshareValidate (realmRoleCertificate : Uploaded RealmRoleCertificate) :
    Except BadOutcome RealmRoleCertificate := do
  let certif ← realmRoleCertificate.verifyAndLoad (.user ·.author) expectedAuthor authorVerifyKey
  checkBallpark certif.timestamp now
  refuse (expectedAuthorUserId = certif.userId) .cannotSelfUnshare
  refuse certif.role.isSome .invalidRole
  return certif

def realmRenameValidate (realmNameCertificate : Uploaded RealmNameCertificate) :
    Except BadOutcome RealmNameCertificate := do
  let certif ← realmNameCertificate.verifyAndLoad (.user ·.author) expectedAuthor authorVerifyKey
  checkBallpark certif.timestamp now
  return certif

def realmRotateKeyValidate (realmKeyRotationCertificate : Uploaded RealmKeyRotationCertificate) :
    Except BadOutcome RealmKeyRotationCertificate := do
  let certif ← realmKeyRotationCertificate.verifyAndLoad (.user ·.author) expectedAuthor
    authorVerifyKey
  checkBallpark certif.timestamp now
  return certif

end Validate

/-- The roles of an author who may change a role into another one. -/
def neededRoles (existingUserRole newUserRole : Option RealmRole) : List RealmRole :=
  let ownerOrManager := [some RealmRole.owner, some .manager]
  if existingUserRole ∈ ownerOrManager ∨ newUserRole ∈ ownerOrManager then [.owner]
  else [.owner, .manager]

/-- The users who have a role after the role certificates. -/
def participants (roles : List (RealmRoleCertificate × List Byte)) : Finset UserID :=
  roles.foldl (fun participants role =>
    if role.1.role.isNone then participants.erase role.1.userId
    else insert role.1.userId participants) ∅

namespace MemoryOrganization
variable (org : MemoryOrganization)

/-- The author of a change to a realm, whose key is that of its device. -/
def checkRealmAuthor (author : DeviceID) (authorVerifyKey : VerifyKey) :
    Except BadOutcome (MemoryDevice × MemoryUser) := do
  let (device, user) ← org.checkAuthor author
  refuse (authorVerifyKey ≠ device.cooked.verifyKey) (.raised .assertionError)
  return (device, user)

def findRealm (realmId : VlobID) : Except BadOutcome MemoryRealm :=
  match org.realms.get? realmId with
  | none => .error .realmNotFound
  | some realm => .ok realm

def createRealm (now : DateTime) (author : DeviceID) (authorVerifyKey : VerifyKey)
    (realmRoleCertificate : Uploaded RealmRoleCertificate) :
    Except BadOutcome MemoryOrganization := do
  let (authorDevice, authorUser) ← org.checkAuthor author
  refuse (authorUser.currentProfile = .outsider) .authorNotAllowed
  refuse (authorVerifyKey ≠ authorDevice.cooked.verifyKey) (.raised .assertionError)
  let certif ← realmCreateValidate now authorDevice.cooked.userId author authorVerifyKey
    realmRoleCertificate
  match org.realms.get? certif.realmId with
  | some _ =>
    match org.perTopicLastTimestamp (.realm certif.realmId) with
    | none => .error (.raised .keyError)
    | some timestamp => .error (.idempotent timestamp)
  | none =>
    checkCausality (max (org.lastTimestamp .common) (org.lastTimestamp (.realm certif.realmId)))
      certif.timestamp
    let org := org.withLastTimestamp (.realm certif.realmId) certif.timestamp
    return { org with
      realms := org.realms.set certif.realmId
        ⟨certif.realmId, now, [(certif, realmRoleCertificate.raw)], [], [], [], none, .empty⟩ }

/-- The last certificates of the two topics and the last vlob. -/
def lastTimestampForRole (realmId : VlobID) (realm : MemoryRealm) : DateTime :=
  let last := max (org.lastTimestamp .common) (org.lastTimestamp (.realm realmId))
  match realm.lastVlobTimestamp with
  | none => last
  | some lastVlobTimestamp => max last lastVlobTimestamp

/-- A new role, with what it makes of the realm. -/
def addRole (realm : MemoryRealm) (certif : RealmRoleCertificate) (raw : List Byte)
    (keyRotations : List MemoryRealmKeyRotation) : MemoryOrganization :=
  let org := org.withLastTimestamp (.realm certif.realmId) certif.timestamp
  { org with
    realms := org.realms.set certif.realmId
      { realm with roles := realm.roles ++ [(certif, raw)], keyRotations := keyRotations } }

/-- The access of a user is added to those it has. -/
def addAccess (rotation : MemoryRealmKeyRotation) (userId : UserID) (timestamp : DateTime)
    (access : List Byte) : MemoryRealmKeyRotation :=
  { rotation with
    perParticipantKeysBundleAccesses := rotation.perParticipantKeysBundleAccesses.set userId
      ((rotation.perParticipantKeysBundleAccesses.get? userId).getD [] ++ [(timestamp, access)]) }

def shareRealm (now : DateTime) (author : DeviceID) (authorVerifyKey : VerifyKey)
    (realmRoleCertificate : Uploaded RealmRoleCertificate) (recipientKeysBundleAccess : List Byte)
    (keyIndex : Nat) : Except BadOutcome MemoryOrganization := do
  let (authorDevice, _) ← org.checkRealmAuthor author authorVerifyKey
  let certif ← realmShareValidate now authorDevice.cooked.userId author authorVerifyKey
    realmRoleCertificate
  match org.users.get? certif.userId with
  | none => .error .recipientNotFound
  | some user =>
    refuse user.isRevoked .recipientRevoked
    let realm ← org.findRealm certif.realmId
    let existingUserRole := realm.getCurrentRoleFor certif.userId
    refuse (realm.getCurrentRoleFor authorDevice.cooked.userId ∉
      (neededRoles existingUserRole certif.role).map some) .authorNotAllowed
    refuse (user.currentProfile = .outsider ∧ certif.role ∈ [some .manager, some .owner])
      .roleIncompatibleWithOutsider
    refuse (existingUserRole = certif.role) (.idempotent (org.lastTimestamp (.realm certif.realmId)))
    checkCausality (org.lastTimestampForRole certif.realmId realm) certif.timestamp
    match realm.keyRotations.getLast? with
    | none => .error (.badKeyIndex (org.lastTimestamp (.realm certif.realmId)))
    | some lastKeyRotation =>
      refuse (keyIndex ≠ lastKeyRotation.cooked.keyIndex)
        (.badKeyIndex (org.lastTimestamp (.realm certif.realmId)))
      return org.addRole realm certif realmRoleCertificate.raw (realm.keyRotations.dropLast ++
        [addAccess lastKeyRotation certif.userId certif.timestamp recipientKeysBundleAccess])

def unshareRealm (now : DateTime) (author : DeviceID) (authorVerifyKey : VerifyKey)
    (realmRoleCertificate : Uploaded RealmRoleCertificate) :
    Except BadOutcome MemoryOrganization := do
  let (authorDevice, _) ← org.checkRealmAuthor author authorVerifyKey
  let certif ← realmUnshareValidate now authorDevice.cooked.userId author authorVerifyKey
    realmRoleCertificate
  refuse (org.users.get? certif.userId).isNone .recipientNotFound
  let realm ← org.findRealm certif.realmId
  let existingUserRole := realm.getCurrentRoleFor certif.userId
  refuse (realm.getCurrentRoleFor authorDevice.cooked.userId ∉
    (neededRoles existingUserRole certif.role).map some) .authorNotAllowed
  refuse (existingUserRole = certif.role) (.idempotent (org.lastTimestamp (.realm certif.realmId)))
  checkCausality (org.lastTimestampForRole certif.realmId realm) certif.timestamp
  return org.addRole realm certif realmRoleCertificate.raw realm.keyRotations

def renameRealm (now : DateTime) (author : DeviceID) (authorVerifyKey : VerifyKey)
    (realmNameCertificate : Uploaded RealmNameCertificate) (initialNameOrFail : Bool) :
    Except BadOutcome MemoryOrganization := do
  let (authorDevice, _) ← org.checkRealmAuthor author authorVerifyKey
  let certif ← realmRenameValidate now author authorVerifyKey realmNameCertificate
  let realm ← org.findRealm certif.realmId
  refuse (realm.getCurrentRoleFor authorDevice.cooked.userId ≠ some .owner) .authorNotAllowed
  refuse (realm.keyRotations.length ≠ certif.keyIndex)
    (.badKeyIndex (org.lastTimestamp (.realm certif.realmId)))
  refuse (initialNameOrFail && !realm.renames.isEmpty)
    (.idempotent (org.lastTimestamp (.realm certif.realmId)))
  checkCausality (max (org.lastTimestamp .common) (org.lastTimestamp (.realm certif.realmId)))
    certif.timestamp
  let org := org.withLastTimestamp (.realm certif.realmId) certif.timestamp
  return { org with
    realms := org.realms.set certif.realmId
      { realm with renames := realm.renames ++ [(certif, realmNameCertificate.raw)] } }

def activeSequesterServices : List MemorySequesterService :=
  match org.sequesterServices with
  | none => []
  | some services => services.values.filter fun service => !service.isRevoked

/-- The webhooks of these services are called and may refuse. -/
def callsWebhooks : Bool :=
  org.sequesterAuthority.isSome &&
    org.activeSequesterServices.any fun service => service.serviceType = .webhook

/-- A sequestered organization wants an access for each of its active services. -/
def checkSequesterAccesses (accesses : Option (Dict SequesterServiceID (List Byte))) :
    Except BadOutcome Unit :=
  if org.sequesterAuthority.isSome then
    match accesses with
    | none => .error (.sequesterServiceMismatch (org.lastTimestamp .sequester))
    | some accesses =>
      refuse ((org.activeSequesterServices.map (·.cooked.serviceId)).toFinset ≠
        accesses.keys.toFinset) (.sequesterServiceMismatch (org.lastTimestamp .sequester))
  else refuse accesses.isSome .organizationNotSequestered

/-- A key rotation that waits for the webhooks. -/
structure WaitingRotation where
  certif : RealmKeyRotationCertificate
  raw : List Byte
  accesses : Dict UserID (List Byte)
  keysBundle : List Byte
  sequesterAccesses : Option (Dict SequesterServiceID (List Byte))
  commonLastTimestamp : DateTime
  realmLastTimestamp : DateTime

def rotateKeyCheck (now : DateTime) (author : DeviceID) (authorVerifyKey : VerifyKey)
    (realmKeyRotationCertificate : Uploaded RealmKeyRotationCertificate)
    (perParticipantKeysBundleAccess : Dict UserID (List Byte)) (keysBundle : List Byte)
    (perSequesterServiceKeysBundleAccess : Option (Dict SequesterServiceID (List Byte))) :
    Except BadOutcome WaitingRotation := do
  let (authorDevice, _) ← org.checkRealmAuthor author authorVerifyKey
  let certif ← realmRotateKeyValidate now author authorVerifyKey realmKeyRotationCertificate
  let realm ← org.findRealm certif.realmId
  let realmLast := org.lastTimestamp (.realm certif.realmId)
  refuse (realm.getCurrentRoleFor authorDevice.cooked.userId ≠ some .owner) .authorNotAllowed
  refuse (certif.keyIndex ≠ realm.keyRotations.length + 1) (.badKeyIndex realmLast)
  refuse (perParticipantKeysBundleAccess.keys.toFinset ≠ participants realm.roles)
    (.participantMismatch realmLast)
  org.checkSequesterAccesses perSequesterServiceKeysBundleAccess
  return ⟨certif, realmKeyRotationCertificate.raw, perParticipantKeysBundleAccess, keysBundle,
    perSequesterServiceKeysBundleAccess, org.lastTimestamp .common, realmLast⟩

/-- The access that each participant gets with the rotation. -/
def rotationAccesses (timestamp : DateTime) (accesses : Dict UserID (List Byte)) :
    Dict UserID (List (DateTime × List Byte)) :=
  ⟨accesses.items.map fun item => (item.1, [(timestamp, item.2)]), by
    rw [List.map_map]
    exact accesses.unique⟩

def rotateKeyStore (rotation : WaitingRotation) : Except BadOutcome MemoryOrganization := do
  checkCausality (max rotation.commonLastTimestamp rotation.realmLastTimestamp)
    rotation.certif.timestamp
  let realm ← org.findRealm rotation.certif.realmId
  let org := org.withLastTimestamp (.realm rotation.certif.realmId) rotation.certif.timestamp
  return { org with
    realms := org.realms.set rotation.certif.realmId { realm with
      keyRotations := realm.keyRotations ++ [⟨rotation.certif, rotation.raw,
        rotationAccesses rotation.certif.timestamp rotation.accesses, rotation.keysBundle,
        rotation.sequesterAccesses⟩] } }

structure KeysBundle where
  keyIndex : Nat
  keysBundleAccess : List Byte
  keysBundle : List Byte

/-- The rotation of an index, from one on, or else the last one. -/
def keyRotationAt (realm : MemoryRealm) : Option Nat → Except BadOutcome MemoryRealmKeyRotation
  | some 0 => .error .badRequestedKeyIndex
  | none =>
    match realm.keyRotations.getLast? with
    | none => .error .badRequestedKeyIndex
    | some rotation => .ok rotation
  | some (index + 1) =>
    match realm.keyRotations[index]? with
    | none => .error .badRequestedKeyIndex
    | some rotation => .ok rotation

def getKeysBundle (author : DeviceID) (realmId : VlobID) (keyIndex : Option Nat) :
    Except BadOutcome KeysBundle := do
  let (authorDevice, _) ← org.checkAuthor author
  let realm ← org.findRealm realmId
  refuse (realm.getCurrentRoleFor authorDevice.cooked.userId).isNone .authorNotAllowed
  let keyRotation ← keyRotationAt realm keyIndex
  match keyRotation.perParticipantKeysBundleAccesses.get? authorDevice.cooked.userId with
  | none => .error .accessNotAvailableForAuthor
  | some accesses =>
    match accesses.getLast? with
    | none => .error (.raised .indexError)
    | some (_, keysBundleAccess) =>
      return ⟨keyRotation.cooked.keyIndex, keysBundleAccess, keyRotation.keysBundle⟩

/-- What a vlob operation writes. -/
structure VlobWrite where
  author : DeviceID
  realmId : VlobID
  vlobId : VlobID
  keyIndex : Nat
  version : Nat
  timestamp : DateTime
  blob : List Byte

def VlobWrite.atom (write : VlobWrite) : MemoryVlobAtom :=
  ⟨write.realmId, write.vlobId, write.keyIndex, write.version, write.blob, write.author,
    write.timestamp⟩

def mayWrite : Option RealmRole → Bool
  | none => false
  | some .reader => false
  | some _ => true

/-- The checks that the two operations make under the lock of the realm. -/
def checkWrite (userId : UserID) (realm : MemoryRealm) (write : VlobWrite) :
    Except BadOutcome Unit := do
  refuse (!mayWrite (realm.getCurrentRoleFor userId)) .authorNotAllowed
  refuse (realm.keyRotations.length ≠ write.keyIndex)
    (.badKeyIndex (org.lastTimestamp (.realm write.realmId)))

def checkWriteTimestamp (now : DateTime) (write : VlobWrite) : Except BadOutcome Unit := do
  checkBallpark write.timestamp now
  checkCausality (max (org.lastTimestamp .common) (org.lastTimestamp (.realm write.realmId)))
    write.timestamp

def createVlobCheck (now : DateTime) (write : VlobWrite) : Except BadOutcome Unit := do
  let (authorDevice, _) ← org.checkAuthor write.author
  let realm ← org.findRealm write.realmId
  org.checkWrite authorDevice.cooked.userId realm write
  refuse (realm.vlobs.get? write.vlobId).isSome .vlobAlreadyExists
  org.checkWriteTimestamp now write

/-- The list of atoms that the update is about is taken before the lock of the realm. -/
def updateVlobCheck (now : DateTime) (write : VlobWrite) : Except BadOutcome Nat := do
  let (authorDevice, _) ← org.checkAuthor write.author
  let realm ← org.findRealm write.realmId
  match realm.vlobs.get? write.vlobId with
  | none => .error .vlobNotFound
  | some place =>
    org.checkWrite authorDevice.cooked.userId realm write
    org.checkWriteTimestamp now write
    return place

def bumpVlobTimestamp (realm : MemoryRealm) (timestamp : DateTime) : Option DateTime :=
  match realm.lastVlobTimestamp with
  | none => some timestamp
  | some previous => some (max previous timestamp)

/-- The atom is the last update of the realm. -/
def recordWrite (realm : MemoryRealm) (write : VlobWrite) : MemoryRealm :=
  { realm with
    lastVlobTimestamp := bumpVlobTimestamp realm write.timestamp
    vlobUpdates := realm.vlobUpdates ++ [⟨realm.vlobUpdates.length + 1, write.atom⟩] }

/-- The vlob gets a new list of atoms, whatever it had. -/
def createVlobStore (write : VlobWrite) : Except BadOutcome MemoryOrganization := do
  let realm ← org.findRealm write.realmId
  let realm := recordWrite realm write
  return { org with
    atomLists := org.atomLists ++ [[write.atom]]
    realms := org.realms.set write.realmId
      { realm with vlobs := realm.vlobs.set write.vlobId org.atomLists.length } }

/-- The version is checked after the webhooks. -/
def updateVlobStore (write : VlobWrite) (place : Nat) : Except BadOutcome MemoryOrganization := do
  let realm ← org.findRealm write.realmId
  let atoms := org.atomLists.getD place []
  refuse (write.version ≠ atoms.length + 1) .badVlobVersion
  return { org with
    atomLists := org.atomLists.set place (atoms ++ [write.atom])
    realms := org.realms.set write.realmId (recordWrite realm write) }

end MemoryOrganization

end ParsecCloud.Server

import ParsecCloud.Certif.Certificate
import ParsecCloud.Lib.Dict

/- An organization of the in-memory server (memory/datamodel.py), with the fields that the
   components read. A list of vlob atoms is an object of its own, that a call may keep while
   another call replaces it in its realm. -/
namespace ParsecCloud.Server
open Certif

structure EmailAddress where
  text : String
  deriving DecidableEq

structure InvitationToken where
  uuid : Nat
  deriving DecidableEq

structure GreetingAttemptID where
  uuid : Nat
  deriving DecidableEq

structure MemoryUser where
  cooked : UserCertificate
  email : EmailAddress
  userCertificate : List Byte
  redactedUserCertificate : List Byte
  profileUpdates : List (UserUpdateCertificate × List Byte)
  revoked : Option (RevokedUserCertificate × List Byte)

namespace MemoryUser

def currentProfile (user : MemoryUser) : UserProfile :=
  match user.profileUpdates.getLast? with
  | some (certif, _) => certif.newProfile
  | none => user.cooked.profile

def isRevoked (user : MemoryUser) : Bool := user.revoked.isSome

end MemoryUser

structure MemoryDevice where
  cooked : DeviceCertificate
  deviceCertificate : List Byte
  redactedDeviceCertificate : List Byte

inductive SequesterServiceType where
  | storage
  | webhook
  deriving DecidableEq

structure MemorySequesterService where
  cooked : SequesterServiceCertificate
  sequesterServiceCertificate : List Byte
  serviceType : SequesterServiceType
  revoked : Option (SequesterRevokedServiceCertificate × List Byte)

def MemorySequesterService.isRevoked (service : MemorySequesterService) : Bool :=
  service.revoked.isSome

structure MemoryRealmKeyRotation where
  cooked : RealmKeyRotationCertificate
  realmKeyRotationCertificate : List Byte
  perParticipantKeysBundleAccesses : Dict UserID (List (DateTime × List Byte))
  keysBundle : List Byte
  perSequesterServiceKeysBundleAccess : Option (Dict SequesterServiceID (List Byte))

structure MemoryVlobAtom where
  realmId : VlobID
  vlobId : VlobID
  keyIndex : Nat
  version : Nat
  blob : List Byte
  author : DeviceID
  createdOn : DateTime
  deriving DecidableEq

structure MemoryRealmVlobUpdate where
  index : Nat
  vlobAtom : MemoryVlobAtom
  deriving DecidableEq

/-- The vlobs are given by the place of their list of atoms. -/
structure MemoryRealm where
  realmId : VlobID
  createdOn : DateTime
  roles : List (RealmRoleCertificate × List Byte)
  vlobUpdates : List MemoryRealmVlobUpdate
  keyRotations : List MemoryRealmKeyRotation
  renames : List (RealmNameCertificate × List Byte)
  lastVlobTimestamp : Option DateTime
  vlobs : Dict VlobID Nat

/-- The role of the last certificate of the user, if there is one. -/
def MemoryRealm.getCurrentRoleFor (realm : MemoryRealm) (userId : UserID) : Option RealmRole :=
  match realm.roles.reverse.find? fun role => role.1.userId = userId with
  | some (certif, _) => certif.role
  | none => none

structure MemoryShamirRecovery where
  cookedBrief : ShamirRecoveryBriefCertificate
  shamirRecoveryBriefCertificate : List Byte
  shares : Dict UserID (ShamirRecoveryShareCertificate × List Byte)
  deletion : Option (ShamirRecoveryDeletionCertificate × List Byte)

def MemoryShamirRecovery.isDeleted (recovery : MemoryShamirRecovery) : Bool :=
  recovery.deletion.isSome

inductive InvitationType where
  | user
  | device
  | shamirRecovery
  deriving DecidableEq

inductive MemoryInvitationDeletedReason where
  | finished
  | cancelled
  deriving DecidableEq

structure MemoryGreetingSession where
  token : InvitationToken
  greeterId : UserID
  greetingAttempts : List GreetingAttemptID

structure MemoryInvitation where
  token : InvitationToken
  type : InvitationType
  claimerEmail : Option EmailAddress
  claimerUserId : Option UserID
  shamirRecoveryIndex : Option Nat
  deletedReason : Option MemoryInvitationDeletedReason
  greetingSessions : Dict UserID MemoryGreetingSession

namespace MemoryInvitation

def isCompleted (invitation : MemoryInvitation) : Bool :=
  invitation.deletedReason = some .finished

def isCancelled (invitation : MemoryInvitation) : Bool :=
  invitation.deletedReason = some .cancelled

end MemoryInvitation

inductive GreeterOrClaimer where
  | greeter
  | claimer
  deriving DecidableEq

inductive CancelledGreetingAttemptReason where
  | manuallyCancelled
  | invalidNonceHash
  | invalidSasCode
  | undecipherablePayload
  | undeserializablePayload
  | inconsistentPayload
  | automaticallyCancelled
  deriving DecidableEq

structure MemoryGreetingAttempt where
  greetingAttempt : GreetingAttemptID
  token : InvitationToken
  greeterId : UserID
  claimerJoined : Option DateTime
  greeterJoined : Option DateTime
  cancelledReason : Option (GreeterOrClaimer × CancelledGreetingAttemptReason × DateTime)
  greeterSteps : List (List Byte)
  claimerSteps : List (List Byte)

inductive TopicAndDiscriminant where
  | common
  | sequester
  | realm (realmId : VlobID)
  | shamirRecovery
  deriving DecidableEq

structure MemoryOrganization where
  isExpired : Bool
  activeUsersLimit : Option Nat
  sequesterAuthority : Option (SequesterAuthorityCertificate × List Byte)
  sequesterServices : Option (Dict SequesterServiceID MemorySequesterService)
  users : Dict UserID MemoryUser
  devices : Dict DeviceID MemoryDevice
  invitations : Dict InvitationToken MemoryInvitation
  greetingAttempts : Dict GreetingAttemptID MemoryGreetingAttempt
  realms : Dict VlobID MemoryRealm
  atomLists : List (List MemoryVlobAtom)
  shamirRecoveries : Dict UserID (List MemoryShamirRecovery)
  perTopicLastTimestamp : TopicAndDiscriminant → Option DateTime

/-- What a call may raise. -/
inductive Raised where
  | assertionError
  | keyError
  | indexError
  deriving DecidableEq

/-- An early return. -/
def refuse {ε : Type} (condition : Bool) (error : ε) : Except ε Unit :=
  if condition then .error error else .ok ()

theorem refuse_eq_ok {ε : Type} {condition : Bool} {error : ε} {done : Unit} :
    refuse condition error = .ok done ↔ condition = false := by
  cases condition with
  | true => simp [refuse]
  | false => simp [refuse]

end ParsecCloud.Server

import ParsecCloud.Lib.Calls
import ParsecCloud.Server.RealmOperations
import ParsecCloud.Server.TopicOperations

/- The operations of the server as the components write them: each statement changes the organization
   in place, and an early return leaves the changes made so far. A call here is not interleaved with
   another one; the answers of the webhooks and of the block store are given with it. -/
namespace ParsecCloud.Server
open Certif

structure EnrollmentID where
  uuid : Nat
  deriving DecidableEq

structure BootstrapToken where
  uuid : Nat
  deriving DecidableEq

inductive MemoryPkiEnrollmentState where
  | submitted
  | accepted
  | rejected
  | cancelled
  deriving DecidableEq

structure MemoryPkiEnrollmentInfoAccepted where
  acceptedOn : DateTime
  accepterDerX509Certificate : List Byte
  acceptPayloadSignature : List Byte
  acceptPayload : List Byte

structure MemoryPkiEnrollment where
  enrollmentId : EnrollmentID
  submitterDerX509Certificate : List Byte
  submitPayloadSignature : List Byte
  submitPayload : List Byte
  submittedOn : DateTime
  accepter : Option DeviceID
  submitterAcceptedUserId : Option UserID
  submitterAcceptedDeviceId : Option DeviceID
  enrollmentState : MemoryPkiEnrollmentState
  infoAccepted : Option MemoryPkiEnrollmentInfoAccepted
  infoRejectedOn : Option DateTime
  infoCancelledOn : Option DateTime

structure MemoryBlock where
  realmId : VlobID
  blockId : BlockID
  keyIndex : Nat
  author : DeviceID
  blockSize : Nat
  createdOn : DateTime

/-- The organization with what the other components keep in it. -/
structure ServedOrganization extends MemoryOrganization where
  bootstrapToken : Option BootstrapToken
  bootstrappedOn : Option DateTime
  rootVerifyKey : Option VerifyKey
  tosUpdatedOn : Option DateTime
  frozen : UserID → Bool
  tosAcceptedOn : UserID → Option DateTime
  pkiEnrollments : Dict EnrollmentID MemoryPkiEnrollment
  blocks : Dict BlockID MemoryBlock
  blockStore : Dict BlockID (List Byte)

/-- An organization with nothing in it yet. -/
def bootstrappedOrganization : ServedOrganization where
  isExpired := false
  activeUsersLimit := none
  sequesterAuthority := none
  sequesterServices := none
  users := .empty
  devices := .empty
  invitations := .empty
  greetingAttempts := .empty
  realms := .empty
  atomLists := []
  shamirRecoveries := .empty
  perTopicLastTimestamp := fun _ => none
  bootstrapToken := none
  bootstrappedOn := some 0
  rootVerifyKey := some ⟨0⟩
  tosUpdatedOn := none
  frozen := fun _ => false
  tosAcceptedOn := fun _ => none
  pkiEnrollments := .empty
  blocks := .empty
  blockStore := .empty

/-- The outcomes of a call that is not done. -/
inductive Refusal where
  | outcome (outcome : BadOutcome)
  | organizationNotFound
  | invalidUserProfile
  | invalidBootstrapToken
  | organizationAlreadyBootstrapped
  | noUserIdNorEmail
  | bothUserIdAndEmail
  | noTos
  | tosMismatch
  | blockAlreadyExists
  | storeUnavailable
  | enrollmentIdAlreadyUsed
  | invalidSubmitPayload
  | x509CertificateAlreadySubmitted (submittedOn : DateTime)
  | x509CertificateAlreadyEnrolled
  | userEmailAlreadyEnrolled
  | enrollmentNotFound
  | enrollmentNoLongerAvailable
  | invalidAcceptPayload
  deriving DecidableEq

/-- An exception is not an outcome. -/
def Refusal.IsOutcome (refusal : Refusal) : Prop := ∀ error, refusal ≠ .outcome (.raised error)

def asRefusal {α : Type} : Except BadOutcome α → Except Refusal α
  | .error outcome => .error (.outcome outcome)
  | .ok a => .ok a

abbrev OrganizationCall := Call ServedOrganization Refusal

namespace OrganizationCall
open Call

def checkOutcome {α : Type} (outcome : Except BadOutcome α) : OrganizationCall α :=
  check (asRefusal outcome)

def setLastTimestamp (topic : TopicAndDiscriminant) (timestamp : DateTime) :
    OrganizationCall Unit :=
  modify fun org => { org with toMemoryOrganization := org.withLastTimestamp topic timestamp }

def setUser (userId : UserID) (user : MemoryUser) : OrganizationCall Unit :=
  modify fun org => { org with users := org.users.set userId user }

def setDevice (deviceId : DeviceID) (device : MemoryDevice) : OrganizationCall Unit :=
  modify fun org => { org with devices := org.devices.set deviceId device }

def setRealm (realmId : VlobID) (realm : MemoryRealm) : OrganizationCall Unit :=
  modify fun org => { org with realms := org.realms.set realmId realm }

def setEnrollment (enrollmentId : EnrollmentID) (enrollment : MemoryPkiEnrollment) :
    OrganizationCall Unit :=
  modify fun org => { org with pkiEnrollments := org.pkiEnrollments.set enrollmentId enrollment }

/-- The table of the recoveries is a defaultdict: to read it adds the missing list. -/
def shamirRecoveriesOf (userId : UserID) : OrganizationCall (List MemoryShamirRecovery) := do
  let org ← get
  modify fun org => { org with
    shamirRecoveries := org.shamirRecoveries.set userId (org.recoveriesOf userId) }
  return org.recoveriesOf userId

def setShamirRecoveries (userId : UserID) (recoveries : List MemoryShamirRecovery) :
    OrganizationCall Unit :=
  modify fun org => { org with shamirRecoveries := org.shamirRecoveries.set userId recoveries }

end OrganizationCall

end ParsecCloud.Server

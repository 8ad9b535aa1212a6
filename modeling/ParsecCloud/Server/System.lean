import ParsecCloud.Server.Effects
import ParsecCloud.Lib.Runs

/- The server as a system of concurrent calls. A call is a single step from the moment it has its
   locks, except that a key rotation and a vlob write wait for the webhooks with their locks held.
   All the calls lock the common topic in read mode before the topic of a realm, so that what a call
   has read of the common topic is still there when it gets the second lock. -/
namespace ParsecCloud.Server
open Certif Rust Runs MemoryOrganization

inductive Operation where
  | createUser (now : DateTime) (author : DeviceID) (key : VerifyKey)
      (userCertificate redactedUserCertificate : Uploaded UserPayload)
      (deviceCertificate redactedDeviceCertificate : Uploaded DevicePayload)
  | createDevice (now : DateTime) (author : DeviceID) (key : VerifyKey)
      (deviceCertificate redactedDeviceCertificate : Uploaded DevicePayload)
  | revokeUser (now : DateTime) (author : DeviceID) (key : VerifyKey)
      (certificate : Uploaded RevokedUserCertificate)
  | updateUser (now : DateTime) (author : DeviceID) (key : VerifyKey)
      (certificate : Uploaded UserUpdateCertificate)
  | createRealm (now : DateTime) (author : DeviceID) (key : VerifyKey)
      (certificate : Uploaded RealmRoleCertificate)
  | shareRealm (now : DateTime) (author : DeviceID) (key : VerifyKey)
      (certificate : Uploaded RealmRoleCertificate) (access : List Byte) (keyIndex : Nat)
  | unshareRealm (now : DateTime) (author : DeviceID) (key : VerifyKey)
      (certificate : Uploaded RealmRoleCertificate)
  | renameRealm (now : DateTime) (author : DeviceID) (key : VerifyKey)
      (certificate : Uploaded RealmNameCertificate) (initialNameOrFail : Bool)
  | setupShamir (now : DateTime) (author : DeviceID) (key : VerifyKey)
      (brief : Uploaded ShamirRecoveryBriefCertificate)
      (shares : List (Uploaded ShamirRecoveryShareCertificate))
  | deleteShamir (now : DateTime) (author : DeviceID) (key : VerifyKey)
      (certificate : Uploaded ShamirRecoveryDeletionCertificate)
  | createService (certificate : List Byte × SignedSequester) (serviceType : SequesterServiceType)
  | revokeService (certificate : List Byte × SignedSequester)

namespace Operation

def run (org : MemoryOrganization) : Operation → Except BadOutcome MemoryOrganization
  | .createUser now author key u ru d rd => org.createUser now author key u ru d rd
  | .createDevice now author key d rd => org.createDevice now author key d rd
  | .revokeUser now author key certificate => org.revokeUser now author key certificate
  | .updateUser now author key certificate => org.updateUser now author key certificate
  | .createRealm now author key certificate => org.createRealm now author key certificate
  | .shareRealm now author key certificate access keyIndex =>
    org.shareRealm now author key certificate access keyIndex
  | .unshareRealm now author key certificate => org.unshareRealm now author key certificate
  | .renameRealm now author key certificate initialNameOrFail =>
    org.renameRealm now author key certificate initialNameOrFail
  | .setupShamir now author key brief shares => org.setupShamir now author key brief shares
  | .deleteShamir now author key certificate => org.deleteShamir now author key certificate
  | .createService certificate serviceType => org.createService certificate serviceType
  | .revokeService certificate => org.revokeService certificate

/-- The realm of an uploaded certificate. -/
def realmTopic {α : Type} (realmOf : α → VlobID) (uploaded : Uploaded α) :
    Option TopicAndDiscriminant :=
  match uploaded.signed with
  | .malformed _ => none
  | .certificate content _ => some (.realm (realmOf content))

/-- The topic that the operation locks in write mode. -/
def topic : Operation → Option TopicAndDiscriminant
  | .createUser .. => some .common
  | .createDevice .. => some .common
  | .revokeUser .. => some .common
  | .updateUser .. => some .common
  | .createRealm _ _ _ certificate => realmTopic (·.realmId) certificate
  | .shareRealm _ _ _ certificate _ _ => realmTopic (·.realmId) certificate
  | .unshareRealm _ _ _ certificate => realmTopic (·.realmId) certificate
  | .renameRealm _ _ _ certificate _ => realmTopic (·.realmId) certificate
  | .setupShamir .. => some .shamirRecovery
  | .deleteShamir .. => some .shamirRecovery
  | .createService .. => some .sequester
  | .revokeService .. => some .sequester

def kind : Operation → OperationKind
  | .createUser _ _ _ u _ _ _ => .createUser u.content?
  | .createDevice .. => .createDevice
  | .revokeUser _ _ _ certificate => .revokeUser certificate.content?
  | .updateUser _ _ _ certificate => .updateUser certificate.content?
  | .createRealm now _ _ certificate => .createRealm now certificate.content?
  | .shareRealm _ _ _ certificate _ _ => .shareRealm certificate.content?
  | .unshareRealm _ _ _ certificate => .unshareRealm certificate.content?
  | .renameRealm .. => .renameRealm
  | .setupShamir .. => .setupShamir
  | .deleteShamir .. => .deleteShamir
  | .createService .. => .createService
  | .revokeService certificate => .revokeService (revokedContent? certificate.2)

theorem effect {org org' : MemoryOrganization} {op : Operation} (ok : op.run org = .ok org') :
    ∃ topic, op.topic = some topic ∧ Effect org op.kind topic org' := by
  cases op with
  | createUser => exact ⟨_, rfl, createUser_effect ok⟩
  | createDevice => exact ⟨_, rfl, createDevice_effect ok⟩
  | revokeUser => exact ⟨_, rfl, revokeUser_effect ok⟩
  | updateUser => exact ⟨_, rfl, updateUser_effect ok⟩
  | createRealm now author key certificate =>
    obtain ⟨certif, isSigned, effect⟩ := createRealm_effect ok
    exact ⟨_, by rw [topic, realmTopic, isSigned], by rwa [kind, Uploaded.content?, isSigned]⟩
  | shareRealm now author key certificate =>
    obtain ⟨certif, isSigned, effect⟩ := shareRealm_effect ok
    exact ⟨_, by rw [topic, realmTopic, isSigned], by rwa [kind, Uploaded.content?, isSigned]⟩
  | unshareRealm now author key certificate =>
    obtain ⟨certif, isSigned, effect⟩ := unshareRealm_effect ok
    exact ⟨_, by rw [topic, realmTopic, isSigned], by rwa [kind, Uploaded.content?, isSigned]⟩
  | renameRealm now author key certificate =>
    obtain ⟨certif, isSigned, effect⟩ := renameRealm_effect ok
    exact ⟨_, by rw [topic, realmTopic, isSigned], effect⟩
  | setupShamir => exact ⟨_, rfl, setupShamir_effect ok⟩
  | deleteShamir => exact ⟨_, rfl, deleteShamir_effect ok⟩
  | createService => exact ⟨_, rfl, createService_effect ok⟩
  | revokeService => exact ⟨_, rfl, revokeService_effect ok⟩

end Operation

/-- A call that waits for the webhooks. -/
inductive Waiting where
  | createVlob (write : VlobWrite)
  | updateVlob (write : VlobWrite) (place : Nat)
  | rotateKey (rotation : WaitingRotation)

namespace Waiting

def realmId : Waiting → VlobID
  | .createVlob write => write.realmId
  | .updateVlob write _ => write.realmId
  | .rotateKey rotation => rotation.certif.realmId

def isRotation : Waiting → Bool
  | .rotateKey _ => true
  | _ => false

/-- The topics that the call has locked, in one mode or the other. -/
def Holds (call : Waiting) (topic : TopicAndDiscriminant) : Prop :=
  topic = .common ∨ topic = .realm call.realmId ∨ call.isRotation = true ∧ topic = .sequester

def store (org : MemoryOrganization) : Waiting → Except BadOutcome MemoryOrganization
  | .createVlob write => org.createVlobStore write
  | .updateVlob write place => org.updateVlobStore write place
  | .rotateKey rotation => org.rotateKeyStore rotation

/-- The write of a vlob operation. -/
def written : Waiting → List VlobWrite
  | .createVlob write => [write]
  | .updateVlob write _ => [write]
  | .rotateKey _ => []

end Waiting

/-- A call that goes through the webhooks. -/
inductive Request where
  | createVlob (now : DateTime) (write : VlobWrite)
  | updateVlob (now : DateTime) (write : VlobWrite)
  | rotateKey (now : DateTime) (author : DeviceID) (key : VerifyKey)
      (certificate : Uploaded RealmKeyRotationCertificate) (accesses : Dict UserID (List Byte))
      (keysBundle : List Byte)
      (sequesterAccesses : Option (Dict SequesterServiceID (List Byte)))

/-- What a request is once its checks are passed; the version of a creation is one. -/
inductive Request.Checked (org : MemoryOrganization) : Request → Waiting → Prop where
  | createVlob {now : DateTime} {write : VlobWrite} (first : write.version = 1)
      (ok : org.createVlobCheck now write = .ok ()) :
      Checked org (.createVlob now write) (.createVlob write)
  | updateVlob {now : DateTime} {write : VlobWrite} {place : Nat}
      (ok : org.updateVlobCheck now write = .ok place) :
      Checked org (.updateVlob now write) (.updateVlob write place)
  | rotateKey {now : DateTime} {author : DeviceID} {key : VerifyKey}
      {certificate : Uploaded RealmKeyRotationCertificate} {accesses : Dict UserID (List Byte)}
      {keysBundle : List Byte} {sequesterAccesses : Option (Dict SequesterServiceID (List Byte))}
      {rotation : WaitingRotation}
      (ok : org.rotateKeyCheck now author key certificate accesses keysBundle sequesterAccesses =
        .ok rotation) :
      Checked org (.rotateKey now author key certificate accesses keysBundle sequesterAccesses)
        (.rotateKey rotation)

/-- The locks that a request needs: a key rotation is alone on its realm. -/
def CanLock (waiting : List Waiting) (call : Waiting) : Prop :=
  ∀ other ∈ waiting, other.realmId = call.realmId →
    other.isRotation = false ∧ call.isRotation = false

/-- The calls that wait, and the writes of the vlob calls that have succeeded. -/
structure State where
  org : MemoryOrganization
  waiting : List Waiting
  succeeded : List VlobWrite

inductive Event where
  | operation (operation : Operation)
  | request (request : Request) (call : Waiting)
  | accepted (call : Waiting)
  | rejected (call : Waiting)

/-- A request waits only when there are webhooks to call. -/
inductive Step : State → Event → State → Prop where
  | operation {org org' : MemoryOrganization} {waiting : List Waiting} {succeeded : List VlobWrite}
      {op : Operation}
      (free : ∀ topic, op.topic = some topic → ∀ call ∈ waiting, ¬ call.Holds topic)
      (ok : op.run org = .ok org') :
      Step ⟨org, waiting, succeeded⟩ (.operation op) ⟨org', waiting, succeeded⟩
  | waits {org : MemoryOrganization} {waiting : List Waiting} {succeeded : List VlobWrite}
      {request : Request} {call : Waiting} (checked : request.Checked org call)
      (free : CanLock waiting call) (webhooks : org.callsWebhooks = true) :
      Step ⟨org, waiting, succeeded⟩ (.request request call) ⟨org, waiting ++ [call], succeeded⟩
  | atOnce {org org' : MemoryOrganization} {waiting : List Waiting} {succeeded : List VlobWrite}
      {request : Request} {call : Waiting} (checked : request.Checked org call)
      (free : CanLock waiting call) (noWebhook : org.callsWebhooks = false)
      (ok : call.store org = .ok org') :
      Step ⟨org, waiting, succeeded⟩ (.request request call)
        ⟨org', waiting, succeeded ++ call.written⟩
  | accepted {org org' : MemoryOrganization} {before after : List Waiting}
      {succeeded : List VlobWrite} {call : Waiting} (ok : call.store org = .ok org') :
      Step ⟨org, before ++ call :: after, succeeded⟩ (.accepted call)
        ⟨org', before ++ after, succeeded ++ call.written⟩
  | rejected {org : MemoryOrganization} {before after : List Waiting} {succeeded : List VlobWrite}
      {call : Waiting} :
      Step ⟨org, before ++ call :: after, succeeded⟩ (.rejected call)
        ⟨org, before ++ after, succeeded⟩

end ParsecCloud.Server

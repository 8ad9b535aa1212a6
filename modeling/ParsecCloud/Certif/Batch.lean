import ParsecCloud.Certif.Add

/- add_certificates_batch (client, certif/add.rs): each certificate is validated against the
   store, then added to it, topic after topic. -/
namespace ParsecCloud.Certif
open Rust

/-- What the server sends. The realms are in the order the hash map is walked through. -/
structure Batch where
  common : List (Signed CommonCertificate)
  sequester : List SignedSequester
  shamirRecovery : List (Signed ShamirRecoveryCertificate)
  realm : List (VlobID × List (Signed RealmCertificate))
  distinct : (realm.map Prod.fst).Nodup

def loaded (result : Except LoadError α) : Adding α :=
  match result with
  | .ok a => .ok a
  | .error error => invalid (.corrupted .unknown error)

def validateCommonCertificate (device : LocalDevice) (signed : Signed CommonCertificate)
    (store : Store) : Adding (CommonCertificate × Store) := do
  let (content, signedBy) ← loaded signed.unsecureLoad
  let hint := .certificate (.common content)
  match content with
  | .user cooked => do
    let (author, store) ←
      verifySignatureOrRoot device hint cooked.author cooked.timestamp signedBy store
    return (content, ← checkUserCertificateConsistency cooked author store)
  | .device cooked => do
    let (author, store) ←
      verifySignatureOrRoot device hint cooked.author cooked.timestamp signedBy store
    return (content, ← checkDeviceCertificateConsistency cooked author store)
  | .userUpdate cooked => do
    let (author, store) ← verifySignature hint cooked.author cooked.timestamp signedBy store
    return (content, ← checkUserUpdateCertificateConsistency cooked author store)
  | .revokedUser cooked => do
    let (author, store) ← verifySignature hint cooked.author cooked.timestamp signedBy store
    return (content, ← checkRevokedUserCertificateConsistency cooked author store)

def checkRealm (expected got : VlobID) (hint : Hint) : Adding Unit :=
  refuseIf (got ≠ expected) (.corrupted hint (.unexpectedRealmID expected got))

def validateRealmCertificate (realmId : VlobID) (signed : Signed RealmCertificate)
    (store : Store) : Adding (RealmCertificate × Store) := do
  let (content, signedBy) ← loaded signed.unsecureLoad
  let hint := .certificate (.realm content)
  match content with
  | .role cooked => do
    let (author, store) ← verifySignature hint cooked.author cooked.timestamp signedBy store
    checkRealm realmId cooked.realmId hint
    return (content, ← checkRealmRoleCertificateConsistency cooked author store)
  | .name cooked => do
    let (author, store) ← verifySignature hint cooked.author cooked.timestamp signedBy store
    checkRealm realmId cooked.realmId hint
    return (content, ← checkRealmNameCertificateConsistency cooked author store)
  | .keyRotation cooked => do
    let (author, store) ← verifySignature hint cooked.author cooked.timestamp signedBy store
    checkRealm realmId cooked.realmId hint
    return (content, ← checkRealmKeyRotationCertificateConsistency cooked author store)
  | .archiving cooked => do
    let (author, store) ← verifySignature hint cooked.author cooked.timestamp signedBy store
    checkRealm realmId cooked.realmId hint
    return (content, ← checkRealmArchivingCertificateConsistency cooked author store)

def validateShamirRecoveryCertificate (device : LocalDevice)
    (signed : Signed ShamirRecoveryCertificate) (store : Store) :
    Adding (ShamirRecoveryCertificate × Store) := do
  let (content, signedBy) ← loaded (unsecureLoadShamirRecovery signed)
  let hint := .certificate (.shamirRecovery content)
  match content with
  | .brief cooked => do
    let (author, store) ← verifySignature hint cooked.author cooked.timestamp signedBy store
    return (content, ← checkShamirRecoveryBriefCertificateConsistency device cooked author store)
  | .share cooked => do
    let (author, store) ← verifySignature hint cooked.author cooked.timestamp signedBy store
    return (content, ← checkShamirRecoveryShareCertificateConsistency device cooked author store)
  | .deletion cooked => do
    let (author, store) ← verifySignature hint cooked.author cooked.timestamp signedBy store
    return (content, ← checkShamirRecoveryDeletionCertificateConsistency device cooked author store)

def validateSequesterAuthorityCertificate (device : LocalDevice) (signed : SignedSequester)
    (store : Store) : Adding (SequesterCertificate × Store) :=
  match signed with
  | .authority cooked signedBy =>
    if signedBy = device.rootVerifyKey then do
      return (.authority cooked, ← checkSequesterAuthorityCertificateConsistency cooked store)
    else invalid (.corrupted (.certificate (.sequester (.authority cooked))) .signature)
  | .malformed error => invalid (.corrupted .unknown error)
  | _ => invalid (.corrupted .unknown .badSerialization)

def validateSequesterNonAuthorityCertificate (lastSequesterTimestamp : DateTime)
    (signed : SignedSequester) (store : Store) : Adding (SequesterCertificate × Store) := do
  match ← internal store.storage.getSequesterAuthorityCertificate with
  | none => invalid (.notASequesteredOrganization .unknown)
  | some authority =>
    match signed with
    | .service cooked signedBy =>
      if signedBy = authority.verifyKeyDer then do
        return (.service cooked,
          ← checkSequesterServiceCertificateConsistency lastSequesterTimestamp cooked store)
      else invalid (.corrupted .unknown .signature)
    | .revokedService cooked signedBy =>
      if signedBy = authority.verifyKeyDer then do
        return (.revokedService cooked,
          ← checkSequesterRevokedServiceCertificateConsistency lastSequesterTimestamp cooked store)
      else invalid (.corrupted .unknown .signature)
    | .authority _ _ => invalid (.corrupted .unknown .signature)
    | .malformed error => invalid (.corrupted .unknown error)

def validateSequesterCertificate (device : LocalDevice) (signed : SignedSequester)
    (store : Store) : Adding (SequesterCertificate × Store) :=
  let (last, store) := store.getLastTimestamps
  match last.sequester with
  | none => validateSequesterAuthorityCertificate device signed store
  | some lastSequesterTimestamp =>
    validateSequesterNonAuthorityCertificate lastSequesterTimestamp signed store

def addSequester (device : LocalDevice) (store : Store) (signed : SignedSequester) :
    Adding Store := do
  let (cooked, store) ← validateSequesterCertificate device signed store
  return store.addNextSequesterCertificate cooked

def addCommon (device : LocalDevice) (store : Store) (signed : Signed CommonCertificate) :
    Adding Store := do
  let (cooked, store) ← validateCommonCertificate device signed store
  return store.addNextCommonCertificate device cooked

def addRealm (realmId : VlobID) (store : Store) (signed : Signed RealmCertificate) :
    Adding Store := do
  let (cooked, store) ← validateRealmCertificate realmId signed store
  return store.addNextRealmXCertificate cooked

def addRealms (store : Store) (entry : VlobID × List (Signed RealmCertificate)) : Adding Store :=
  entry.2.foldlM (addRealm entry.1) store

/-- The brief whose share has to come next, if there is one. -/
abbrev NextShamirCertifExpect := Option ShamirRecoveryBriefCertificate

def expectNext (device : LocalDevice) (expected : NextShamirCertifExpect)
    (cooked : ShamirRecoveryCertificate) : Adding NextShamirCertifExpect :=
  match expected, cooked with
  | none, .brief cooked =>
    if device.userId ∈ cooked.recipients then .ok (some cooked) else .ok none
  | none, _ => .ok none
  | some _, .share cooked =>
    if cooked.recipient = device.userId then .ok none
    else .error (.panicked (.assert "cooked.recipient == ops.device.user_id"))
  | some brief, unexpected =>
    invalid (.shamirRecoveryMissingShare (.certificate (.shamirRecovery unexpected))
      (.certificate (.shamirRecovery (.brief brief))) device.userId)

def addShamirRecovery (device : LocalDevice) (state : NextShamirCertifExpect × Store)
    (signed : Signed ShamirRecoveryCertificate) : Adding (NextShamirCertifExpect × Store) := do
  let (cooked, store) ← validateShamirRecoveryCertificate device signed state.2
  let expected ← expectNext device state.1 cooked
  return (expected, store.addNextShamirRecoveryCertificate cooked)

inductive MaybeRedactedSwitch where
  | switched
  | noSwitch (newCertificates : Nat)
  deriving DecidableEq

namespace Batch

def isEmpty (batch : Batch) : Bool :=
  batch.common.isEmpty && batch.sequester.isEmpty && batch.shamirRecovery.isEmpty &&
    batch.realm.isEmpty

def size (batch : Batch) : Nat :=
  batch.sequester.length + batch.common.length +
    batch.realm.foldl (fun total entry => total + entry.2.length) 0 + batch.shamirRecovery.length

end Batch

/-- The certificates of every topic, once the initial state of the store is read. -/
def addTopics (device : LocalDevice) (batch : Batch) (store : Store) : Adding Store := do
  let store ← batch.sequester.foldlM (addSequester device) store
  let store ← batch.common.foldlM (addCommon device) store
  let store ← batch.realm.foldlM addRealms store
  let (expected, store) ← batch.shamirRecovery.foldlM (addShamirRecovery device) (none, store)
  match expected with
  | some brief =>
    invalid (.shamirRecoveryMissingShare .noMoreCertificates
      (.certificate (.shamirRecovery (.brief brief))) device.userId)
  | none => return store

/-- Our certificates are of the wrong flavour once the profile goes from or to Outsider. -/
def switchesRedaction : UserProfile → UserProfile → Bool
  | .outsider, .outsider => false
  | .outsider, _ => true
  | _, .outsider => true
  | _, _ => false

def addCertificatesBatch (device : LocalDevice) (batch : Batch) (store : Store) :
    Adding (MaybeRedactedSwitch × Store) :=
  if batch.isEmpty then .ok (.noSwitch 0, store)
  else do
    let (initialLastTimestamps, store) := store.getLastTimestamps
    let (initialSelfProfile, store) ← internal (store.getCurrentSelfProfile device)
    let store ← addTopics device batch store
    if initialLastTimestamps.isEmpty then return (.noSwitch batch.size, store)
    else do
      let (newSelfProfile, store) ← internal (store.getCurrentSelfProfile device)
      if switchesRedaction initialSelfProfile newSelfProfile then
        return (.switched, store.forgetAllCertificates)
      else return (.noSwitch batch.size, store)

def Signed.certificates (wrap : α → Certificate) : Signed α → List Certificate
  | .malformed _ => []
  | .certificate content _ => [wrap content]

def SignedSequester.certificates : SignedSequester → List Certificate
  | .malformed _ => []
  | .authority content _ => [.sequester (.authority content)]
  | .service content _ => [.sequester (.service content)]
  | .revokedService content _ => [.sequester (.revokedService content)]

/-- The certificates of a batch in the order they are validated. -/
def Batch.arrivals (batch : Batch) : List Certificate :=
  batch.sequester.flatMap SignedSequester.certificates ++
    batch.common.flatMap (Signed.certificates .common) ++
    batch.realm.flatMap (fun entry => entry.2.flatMap (Signed.certificates .realm)) ++
    batch.shamirRecovery.flatMap (Signed.certificates .shamirRecovery)

end ParsecCloud.Certif

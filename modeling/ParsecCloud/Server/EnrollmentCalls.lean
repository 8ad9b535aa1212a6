import ParsecCloud.Server.Calls

/- The bootstrap of an organization (memory/organization.py), the creation of a block
   (memory/block.py) and the enrollments that an X509 certificate stands for (memory/pki.py). -/
namespace ParsecCloud.Server
open Certif

/-- Data that a client uploads, with whether it can be deserialized. -/
structure UploadedPayload where
  raw : List Byte
  loads : Bool

def Uploaded.verifyAndLoadAsRoot {α : Type} (uploaded : Uploaded α)
    (authorOf : α → CertificateSigner) (rootVerifyKey : VerifyKey) : Except BadOutcome α :=
  match uploaded.signed with
  | .malformed _ => .error .invalidCertificate
  | .certificate content signedBy =>
    if signedBy = rootVerifyKey ∧ authorOf content = .root then .ok content
    else .error .invalidCertificate

def bootstrapSequesterValidate (now : DateTime) (rootVerifyKey : VerifyKey) (timestamp : DateTime) :
    Option (Uploaded SequesterAuthorityCertificate) →
      Except BadOutcome (Option SequesterAuthorityCertificate)
  | none => .ok none
  | some uploaded => do
    let s ← uploaded.verifyAndLoadAsRoot (fun _ => .root) rootVerifyKey
    checkBallpark s.timestamp now
    refuse (s.timestamp ≠ timestamp) .timestampMismatch
    return some s

def organizationBootstrapValidate (now : DateTime) (rootVerifyKey : VerifyKey)
    (userCertificate redactedUserCertificate : Uploaded UserPayload)
    (deviceCertificate redactedDeviceCertificate : Uploaded DevicePayload)
    (sequesterAuthorityCertificate : Option (Uploaded SequesterAuthorityCertificate)) :
    Except Refusal
      (UserPayload × DeviceCertificate × Option SequesterAuthorityCertificate) := do
  let u ← asRefusal (userCertificate.verifyAndLoadAsRoot (·.certif.author) rootVerifyKey)
  let d ← asRefusal (deviceCertificate.verifyAndLoadAsRoot (·.certif.author) rootVerifyKey)
  let ru ← asRefusal (redactedUserCertificate.verifyAndLoadAsRoot (·.certif.author) rootVerifyKey)
  let rd ← asRefusal (redactedDeviceCertificate.verifyAndLoadAsRoot (·.certif.author) rootVerifyKey)
  refuse (u.certif.profile ≠ .admin) .invalidUserProfile
  asRefusal do
    refuse (u.certif.timestamp ≠ d.certif.timestamp) .timestampMismatch
    refuse (u.certif.userId ≠ d.certif.userId) .userIdMismatch
    checkBallpark u.certif.timestamp now
    refuse (!ru.isRedacted) .invalidRedacted
    refuse (u.certif ≠ ru.certif) .redactedMismatch
    refuse (!rd.isRedacted) .invalidRedacted
    refuse (d.certif ≠ rd.certif) .redactedMismatch
    let s ← bootstrapSequesterValidate now rootVerifyKey u.certif.timestamp
      sequesterAuthorityCertificate
    return (u, d.certif, s)

namespace OrganizationCall
open Call MemoryOrganization

/-- An assertion of the source on the organization as it is now. -/
def assertNow (holds : ServedOrganization → Bool) : OrganizationCall Unit := do
  let org ← get
  check (refuse (!holds org) (.outcome (.raised .assertionError)))

/-- A sequestered organization starts without any service. -/
def startSequester (raw : List Byte) : Option SequesterAuthorityCertificate → OrganizationCall Unit
  | none => pure ()
  | some s => do
    setLastTimestamp .sequester s.timestamp
    modify fun org => { org with
      sequesterAuthority := some (s, raw), sequesterServices := some .empty }

def bootstrap (now : DateTime) (bootstrapToken : Option BootstrapToken) (rootVerifyKey : VerifyKey)
    (userCertificate redactedUserCertificate : Uploaded UserPayload)
    (deviceCertificate redactedDeviceCertificate : Uploaded DevicePayload)
    (sequesterAuthorityCertificate : Option (Uploaded SequesterAuthorityCertificate)) :
    OrganizationCall Unit := do
  let org ← get
  let (u, d, s) ← check do
    refuse org.isExpired (.outcome .organizationExpired)
    refuse (org.bootstrapToken ≠ bootstrapToken) .invalidBootstrapToken
    refuse org.bootstrappedOn.isSome .organizationAlreadyBootstrapped
    organizationBootstrapValidate now rootVerifyKey userCertificate redactedUserCertificate
      deviceCertificate redactedDeviceCertificate sequesterAuthorityCertificate
  setLastTimestamp .common u.certif.timestamp
  modify fun org => { org with bootstrappedOn := some now }
  assertNow fun org => org.rootVerifyKey.isNone
  modify fun org => { org with rootVerifyKey := some rootVerifyKey }
  assertNow fun org => org.users.items.isEmpty
  setUser u.certif.userId
    ⟨u.certif, u.humanHandle, userCertificate.raw, redactedUserCertificate.raw, [], none⟩
  assertNow fun org => org.devices.items.isEmpty
  setDevice d.deviceId ⟨d, deviceCertificate.raw, redactedDeviceCertificate.raw⟩
  assertNow fun org => org.sequesterAuthority.isNone
  assertNow fun org => org.sequesterServices.isNone
  startSequester ((sequesterAuthorityCertificate.map (·.raw)).getD []) s

/-- The checks before the block store is asked. -/
def createBlockCheck (org : ServedOrganization) (author : DeviceID) (realmId : VlobID)
    (blockId : BlockID) (keyIndex : Nat) : Except Refusal Unit := do
  match org.devices.get? author with
  | none => .error (.outcome .authorNotFound)
  | some authorDevice =>
    let realm ← asRefusal (org.findRealm realmId)
    refuse (!mayWrite (realm.getCurrentRoleFor authorDevice.cooked.userId))
      (.outcome .authorNotAllowed)
    refuse (realm.keyRotations.length ≠ keyIndex)
      (.outcome (.badKeyIndex (org.lastTimestamp (.realm realmId))))
    refuse (org.blocks.get? blockId).isSome .blockAlreadyExists

def createBlock (now : DateTime) (author : DeviceID) (realmId : VlobID) (blockId : BlockID)
    (keyIndex : Nat) (block : List Byte) (unavailable : Bool) : OrganizationCall Unit := do
  let org ← get
  check do
    createBlockCheck org author realmId blockId keyIndex
    refuse unavailable .storeUnavailable
  modify fun org => { org with blockStore := org.blockStore.set blockId block }
  modify fun org => { org with
    blocks := org.blocks.set blockId ⟨realmId, blockId, keyIndex, author, block.length, now⟩ }

/-- The enrollment with the certificate that the loop of submit meets first. -/
def firstWithCertificate (org : ServedOrganization) (certificate : List Byte) :
    Option (EnrollmentID × MemoryPkiEnrollment) :=
  org.pkiEnrollments.items.find? fun item => item.2.submitterDerX509Certificate = certificate

/-- An accepted enrollment holds as long as its user is not revoked. -/
def checkAccepted (org : ServedOrganization) (enrollment : MemoryPkiEnrollment) :
    Except Refusal Unit :=
  match enrollment.submitterAcceptedUserId, enrollment.submitterAcceptedDeviceId with
  | some userId, some _ =>
    match org.users.get? userId with
    | none => .error (.outcome (.raised .keyError))
    | some user => refuse (!user.isRevoked) .x509CertificateAlreadyEnrolled
  | _, _ => .error (.outcome (.raised .assertionError))

/-- The previous attempt with the certificate: one that waits is overwritten by force only. -/
def overwritePrevious (now : DateTime) (force : Bool) (org : ServedOrganization) :
    Option (EnrollmentID × MemoryPkiEnrollment) → OrganizationCall Unit
  | none => pure ()
  | some (enrollmentId, enrollment) =>
    match enrollment.enrollmentState with
    | .submitted =>
      if force then
        setEnrollment enrollmentId
          { enrollment with enrollmentState := .cancelled, infoCancelledOn := some now }
      else check (.error (.x509CertificateAlreadySubmitted enrollment.submittedOn))
    | .rejected => pure ()
    | .cancelled => pure ()
    | .accepted => check (checkAccepted org enrollment)

/-- A user who is not revoked has the address. -/
def emailEnrolled (org : ServedOrganization) (email : EmailAddress) : Bool :=
  org.users.values.any fun user => !user.isRevoked && user.email = email

structure SubmitRequest where
  enrollmentId : EnrollmentID
  force : Bool
  certificate : List Byte
  email : EmailAddress
  submitPayloadSignature : List Byte
  submitPayload : UploadedPayload

def submitCheck (org : ServedOrganization) (request : SubmitRequest) : Except Refusal Unit := do
  refuse org.isExpired (.outcome .organizationExpired)
  refuse (org.pkiEnrollments.get? request.enrollmentId).isSome .enrollmentIdAlreadyUsed
  refuse (!request.submitPayload.loads) .invalidSubmitPayload

/-- The enrollment that a submission adds. -/
def submitted (now : DateTime) (request : SubmitRequest) : MemoryPkiEnrollment :=
  ⟨request.enrollmentId, request.certificate, request.submitPayloadSignature,
    request.submitPayload.raw, now, none, none, none, .submitted, none, none, none⟩

def submit (now : DateTime) (request : SubmitRequest) : OrganizationCall Unit := do
  let org ← get
  check (submitCheck org request)
  overwritePrevious now request.force org (firstWithCertificate org request.certificate)
  check (refuse (emailEnrolled org request.email) .userEmailAlreadyEnrolled)
  setEnrollment request.enrollmentId (submitted now request)

/-- An enrollment that still waits for an answer. -/
def findSubmitted (org : ServedOrganization) (enrollmentId : EnrollmentID) :
    Except Refusal MemoryPkiEnrollment :=
  match org.pkiEnrollments.get? enrollmentId with
  | none => .error .enrollmentNotFound
  | some enrollment => do
    refuse (enrollment.enrollmentState ≠ .submitted) .enrollmentNoLongerAvailable
    return enrollment

def reject (now : DateTime) (author : DeviceID) (enrollmentId : EnrollmentID) :
    OrganizationCall Unit := do
  let org ← get
  let enrollment ← check do
    let (_, authorUser) ← asRefusal (org.checkAuthor author)
    refuse (authorUser.currentProfile ≠ .admin) (.outcome .authorNotAllowed)
    findSubmitted org enrollmentId
  setEnrollment enrollmentId
    { enrollment with enrollmentState := .rejected, infoRejectedOn := some now }

structure AcceptRequest where
  author : DeviceID
  authorVerifyKey : VerifyKey
  enrollmentId : EnrollmentID
  acceptPayload : UploadedPayload
  acceptPayloadSignature : List Byte
  accepterDerX509Certificate : List Byte
  userCertificate : Uploaded UserPayload
  redactedUserCertificate : Uploaded UserPayload
  deviceCertificate : Uploaded DevicePayload
  redactedDeviceCertificate : Uploaded DevicePayload

/-- The validation is the one of the creation of a user. -/
def acceptCheck (now : DateTime) (org : ServedOrganization) (request : AcceptRequest) :
    Except Refusal (UserPayload × DeviceCertificate × MemoryPkiEnrollment) := do
  let (_, authorUser) ← asRefusal (org.checkAuthor request.author)
  refuse (authorUser.currentProfile ≠ .admin) (.outcome .authorNotAllowed)
  refuse (!request.acceptPayload.loads) .invalidAcceptPayload
  let (u, d) ← asRefusal (userCreateUserValidate now request.author request.authorVerifyKey
    request.userCertificate request.redactedUserCertificate request.deviceCertificate
    request.redactedDeviceCertificate)
  let enrollment ← findSubmitted org request.enrollmentId
  asRefusal do
    refuse org.activeUserLimitReached .activeUsersLimitReached
    refuse (org.users.get? u.certif.userId).isSome .userAlreadyExists
    refuse (org.devices.get? d.deviceId).isSome (.raised .assertionError)
    refuse (org.users.values.any fun user => !user.isRevoked && user.email = u.humanHandle)
      .humanHandleAlreadyTaken
    checkCausality (org.lastTimestamp .common) u.certif.timestamp
  return (u, d, enrollment)

def accept (now : DateTime) (request : AcceptRequest) : OrganizationCall Unit := do
  let org ← get
  let (u, d, enrollment) ← check (acceptCheck now org request)
  setLastTimestamp .common u.certif.timestamp
  setUser u.certif.userId ⟨u.certif, u.humanHandle, request.userCertificate.raw,
    request.redactedUserCertificate.raw, [], none⟩
  assertNow fun org => (org.devices.get? d.deviceId).isNone
  setDevice d.deviceId ⟨d, request.deviceCertificate.raw, request.redactedDeviceCertificate.raw⟩
  setEnrollment request.enrollmentId { enrollment with
    enrollmentState := .accepted
    accepter := some request.author
    submitterAcceptedUserId := some d.userId
    submitterAcceptedDeviceId := some d.deviceId
    infoAccepted := some ⟨now, request.accepterDerX509Certificate, request.acceptPayloadSignature,
      request.acceptPayload.raw⟩ }

section Submit
variable {now : DateTime} {org : ServedOrganization} {request : SubmitRequest}

theorem submitCheck_eq_ok :
    submitCheck org request = .ok () ↔ org.isExpired = false ∧
      org.pkiEnrollments.get? request.enrollmentId = none ∧
      request.submitPayload.loads = true := by
  unfold submitCheck refuse
  cases org.isExpired with
  | true => simp [bind, Except.bind]
  | false =>
    cases org.pkiEnrollments.get? request.enrollmentId with
    | some enrollment => simp [bind, Except.bind]
    | none =>
      cases request.submitPayload.loads with
      | false => simp [bind, Except.bind]
      | true => simp [bind, Except.bind]

/-- The organization once the previous attempt is cancelled. -/
def withCancelled (org : ServedOrganization) (now : DateTime)
    (previous : EnrollmentID × MemoryPkiEnrollment) : ServedOrganization :=
  { org with
    pkiEnrollments := org.pkiEnrollments.set previous.1
      { previous.2 with enrollmentState := .cancelled, infoCancelledOn := some now } }

/-- What becomes of the previous attempt. -/
inductive PreviousOutcome (now : DateTime) (force : Bool) (org : ServedOrganization)
    (previous : Option (EnrollmentID × MemoryPkiEnrollment)) :
    Except Refusal Unit × ServedOrganization → Prop where
  | waits {id : EnrollmentID} {enrollment : MemoryPkiEnrollment}
      (found : previous = some (id, enrollment)) (state : enrollment.enrollmentState = .submitted)
      (gentle : force = false) : PreviousOutcome now force org previous
        (.error (.x509CertificateAlreadySubmitted enrollment.submittedOn), org)
  | holds {id : EnrollmentID} {enrollment : MemoryPkiEnrollment} {error : Refusal}
      (found : previous = some (id, enrollment)) (state : enrollment.enrollmentState = .accepted)
      (refused : checkAccepted org enrollment = .error error) :
      PreviousOutcome now force org previous (.error error, org)
  | clear (closed : ∀ id enrollment, previous = some (id, enrollment) →
        enrollment.enrollmentState ≠ .submitted ∧
        (enrollment.enrollmentState = .accepted → checkAccepted org enrollment = .ok ())) :
      PreviousOutcome now force org previous (.ok (), org)
  | overwritten {item : EnrollmentID × MemoryPkiEnrollment} (found : previous = some item)
      (state : item.2.enrollmentState = .submitted) (forced : force = true) :
      PreviousOutcome now force org previous (.ok (), withCancelled org now item)

theorem overwritePrevious_outcome (force : Bool)
    (previous : Option (EnrollmentID × MemoryPkiEnrollment)) :
    PreviousOutcome now force org previous (overwritePrevious now force org previous org) := by
  cases previous with
  | none =>
    apply PreviousOutcome.clear
    intro id enrollment impossible
    cases impossible
  | some item =>
    obtain ⟨id, enrollment⟩ := item
    have fine : ∀ state, enrollment.enrollmentState = state → state = .rejected ∨ state = .cancelled →
        PreviousOutcome now force org (some (id, enrollment)) (.ok (), org) := by
      intro state isState closed
      apply PreviousOutcome.clear
      intro id' enrollment' same
      cases same
      rcases closed with rfl | rfl
      · rw [isState]
        simp
      · rw [isState]
        simp
    simp only [overwritePrevious]
    cases isState : enrollment.enrollmentState with
    | submitted =>
      cases force with
      | false => exact .waits rfl isState rfl
      | true => exact .overwritten rfl isState rfl
    | rejected => exact fine _ isState (Or.inl rfl)
    | cancelled => exact fine _ isState (Or.inr rfl)
    | accepted =>
      cases checked : checkAccepted org enrollment with
      | error error =>
        simp only [check_apply]
        exact .holds rfl isState checked
      | ok done =>
        apply PreviousOutcome.clear
        intro id' enrollment' same
        cases same
        exact ⟨by rw [isState]; simp, fun _ => checked⟩

/-- What a submission comes to. -/
inductive SubmitOutcome (now : DateTime) (request : SubmitRequest) (org : ServedOrganization) :
    Except Refusal Unit × ServedOrganization → Prop where
  | unchecked {error : Refusal} (stopped : submitCheck org request = .error error) :
      SubmitOutcome now request org (.error error, org)
  | refused {error : Refusal} {base : ServedOrganization} (checked : submitCheck org request = .ok ())
      (previous : PreviousOutcome now request.force org
        (firstWithCertificate org request.certificate) (.error error, base)) :
      SubmitOutcome now request org (.error error, base)
  | enrolled {base : ServedOrganization} (checked : submitCheck org request = .ok ())
      (previous : PreviousOutcome now request.force org
        (firstWithCertificate org request.certificate) (.ok (), base))
      (known : emailEnrolled org request.email = true) :
      SubmitOutcome now request org (.error .userEmailAlreadyEnrolled, base)
  | done {base : ServedOrganization} (checked : submitCheck org request = .ok ())
      (previous : PreviousOutcome now request.force org
        (firstWithCertificate org request.certificate) (.ok (), base))
      (fresh : emailEnrolled org request.email = false) :
      SubmitOutcome now request org (.ok (), { base with
        pkiEnrollments := base.pkiEnrollments.set request.enrollmentId (submitted now request) })

theorem submit_outcome : SubmitOutcome now request org (submit now request org) := by
  have first : submit now request org = _ := bind_of_ok (get_apply org)
  rw [first]
  cases checked : submitCheck org request with
  | error error =>
    rw [bind_of_error (check_apply _ org)]
    exact .unchecked checked
  | ok done =>
    rw [bind_of_ok (check_apply _ org)]
    have previous : PreviousOutcome now request.force org _ _ :=
      overwritePrevious_outcome request.force (firstWithCertificate org request.certificate)
    cases result : overwritePrevious now request.force org
      (firstWithCertificate org request.certificate) org with
    | mk outcome base =>
      rw [result] at previous
      cases outcome with
      | error error =>
        rw [bind_of_error result]
        exact .refused checked previous
      | ok done =>
        rw [bind_of_ok result]
        cases known : emailEnrolled org request.email with
        | true =>
          exact .enrolled checked previous known
        | false =>
          exact .done checked previous known

end Submit

end OrganizationCall

end ParsecCloud.Server

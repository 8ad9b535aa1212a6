import ParsecCloud.Server.CertificateCalls
import ParsecCloud.Server.Effects
import ParsecCloud.Server.EnrollmentCalls
import ParsecCloud.Lib.Runs

/- The enrollments of an organization over whole runs. A submission looks at the oldest enrollment
   with its certificate, and at no other one. -/
namespace ParsecCloud.Server
open Certif Rust Call OrganizationCall Runs

inductive EnrollmentRequest where
  | submit (now : DateTime) (request : SubmitRequest)
  | accept (now : DateTime) (request : AcceptRequest)
  | reject (now : DateTime) (author : DeviceID) (enrollmentId : EnrollmentID)
  | createUser (now : DateTime) (author : DeviceID) (key : VerifyKey)
      (userCertificate redactedUserCertificate : Uploaded UserPayload)
      (deviceCertificate redactedDeviceCertificate : Uploaded DevicePayload)
  | revokeUser (now : DateTime) (author : DeviceID) (key : VerifyKey)
      (certificate : Uploaded RevokedUserCertificate)

namespace EnrollmentRequest

def call : EnrollmentRequest → OrganizationCall Unit
  | submit now request => OrganizationCall.submit now request
  | accept now request => OrganizationCall.accept now request
  | reject now author enrollmentId => OrganizationCall.reject now author enrollmentId
  | createUser now author key u ru d rd => OrganizationCall.createUser now author key u ru d rd
  | revokeUser now author key certificate => OrganizationCall.revokeUser now author key certificate

/-- What the call leaves, whatever its outcome. -/
def Step (org : ServedOrganization) (request : EnrollmentRequest) (org' : ServedOrganization) :
    Prop :=
  (request.call org).2 = org'

end EnrollmentRequest

variable {org org' : ServedOrganization} {request : EnrollmentRequest}

/-- An enrollment accepted for a user who is not revoked. -/
def AcceptedForActive (org : ServedOrganization) (enrollment : MemoryPkiEnrollment) : Prop :=
  enrollment.enrollmentState = .accepted ∧ ∃ userId user,
    enrollment.submitterAcceptedUserId = some userId ∧ org.users.get? userId = some user ∧
    user.isRevoked = false

/-- An enrollment that waits or that holds. -/
def IsOpenEnrollment (org : ServedOrganization) (enrollment : MemoryPkiEnrollment) : Prop :=
  enrollment.enrollmentState = .submitted ∨ AcceptedForActive org enrollment

/-- The oldest enrollment with the certificate says all there is to know: none of the others is
    open, or else the submission is refused before or after it has looked at it. -/
def OldestDecides (org : ServedOrganization) : EnrollmentRequest → Prop
  | .submit _ request =>
    submitCheck org request ≠ .ok () ∨ emailEnrolled org request.email = true ∨
      ∀ id enrollment, org.pkiEnrollments.get? id = some enrollment →
        enrollment.submitterDerX509Certificate = request.certificate →
        firstWithCertificate org request.certificate ≠ some (id, enrollment) →
        ¬ IsOpenEnrollment org enrollment
  | _ => True

/-- Of the enrollments with a certificate, one at most waits. -/
def UniqueSubmitted (org : ServedOrganization) : Prop :=
  ∀ id id' enrollment enrollment', org.pkiEnrollments.get? id = some enrollment →
    org.pkiEnrollments.get? id' = some enrollment' →
    enrollment.submitterDerX509Certificate = enrollment'.submitterDerX509Certificate →
    enrollment.enrollmentState = .submitted → enrollment'.enrollmentState = .submitted → id = id'

/-- An enrollment that was accepted for a device of a user who exists. -/
def Named (org : ServedOrganization) (enrollment : MemoryPkiEnrollment) : Prop :=
  ∃ userId user, enrollment.submitterAcceptedUserId = some userId ∧
    enrollment.submitterAcceptedDeviceId.isSome ∧ org.users.get? userId = some user

def AcceptedNamed (org : ServedOrganization) : Prop :=
  ∀ id enrollment, org.pkiEnrollments.get? id = some enrollment →
    enrollment.enrollmentState = .accepted → Named org enrollment

/-- No user is forgotten. -/
def UsersKept (org org' : ServedOrganization) : Prop :=
  ∀ userId user, org.users.get? userId = some user → ∃ user', org'.users.get? userId = some user'

theorem usersKept_of_set {userId : UserID} {user : MemoryUser}
    (written : org'.users = org.users.set userId user) : UsersKept org org' := by
  intro other found isFound
  rw [written, Dict.get?_set]
  split
  · exact ⟨_, rfl⟩
  · exact ⟨_, isFound⟩

theorem usersKept_of_same (same : org'.users = org.users) : UsersKept org org' := by
  intro other found isFound
  rw [same]
  exact ⟨_, isFound⟩

theorem Named.kept {enrollment : MemoryPkiEnrollment} (named : Named org enrollment)
    (kept : UsersKept org org') : Named org' enrollment := by
  obtain ⟨userId, user, isUser, isDevice, found⟩ := named
  obtain ⟨user', found'⟩ := kept userId user found
  exact ⟨userId, user', isUser, isDevice, found'⟩

/-- A call closes an enrollment that waits, or none. -/
inductive Closing (org org' : ServedOrganization) : Prop where
  | nothing (same : org'.pkiEnrollments = org.pkiEnrollments)
  | closes (id : EnrollmentID) (enrollment closed : MemoryPkiEnrollment)
      (found : org.pkiEnrollments.get? id = some enrollment)
      (waits : enrollment.enrollmentState = .submitted)
      (isClosed : closed.enrollmentState ≠ .submitted)
      (certificate : closed.submitterDerX509Certificate = enrollment.submitterDerX509Certificate)
      (named : closed.enrollmentState = .accepted → Named org' closed)
      (written : org'.pkiEnrollments = org.pkiEnrollments.set id closed)

/-- A submission adds an enrollment, or none. -/
inductive Adding (org org' : ServedOrganization) : Prop where
  | nothing (same : org'.pkiEnrollments = org.pkiEnrollments)
  | submits (now : DateTime) (request : SubmitRequest)
      (unused : org.pkiEnrollments.get? request.enrollmentId = none)
      (written : org'.pkiEnrollments =
        org.pkiEnrollments.set request.enrollmentId (submitted now request))

theorem Closing.closed_stays (closing : Closing org org') {id : EnrollmentID}
    {enrollment : MemoryPkiEnrollment} (found : org.pkiEnrollments.get? id = some enrollment)
    (isClosed : enrollment.enrollmentState ≠ .submitted) :
    org'.pkiEnrollments.get? id = some enrollment := by
  cases closing with
  | nothing same =>
    rw [same]
    exact found
  | closes other waiting closed foundOther waits _ _ _ written =>
    have apart : id ≠ other := by
      intro same
      rw [same, foundOther] at found
      cases found
      exact isClosed waits
    rw [written, Dict.get?_set_of_ne apart]
    exact found

theorem Adding.stays (adding : Adding org org') {id : EnrollmentID}
    {enrollment : MemoryPkiEnrollment} (found : org.pkiEnrollments.get? id = some enrollment) :
    org'.pkiEnrollments.get? id = some enrollment := by
  cases adding with
  | nothing same =>
    rw [same]
    exact found
  | submits now request unused written =>
    have apart : id ≠ request.enrollmentId := by
      intro same
      rw [same, unused] at found
      cases found
    rw [written, Dict.get?_set_of_ne apart]
    exact found

theorem Closing.acceptedNamed (closing : Closing org org') (users : UsersKept org org')
    (named : AcceptedNamed org) : AcceptedNamed org' := by
  intro id enrollment found isAccepted
  cases closing with
  | nothing same =>
    rw [same] at found
    exact (named id enrollment found isAccepted).kept users
  | closes other waiting closed _ _ _ _ namedClosed written =>
    rcases Dict.found_set written found with ⟨-, rfl⟩ | ⟨-, found⟩
    · exact namedClosed isAccepted
    · exact (named id enrollment found isAccepted).kept users

theorem Adding.acceptedNamed (adding : Adding org org') (users : UsersKept org org')
    (named : AcceptedNamed org) : AcceptedNamed org' := by
  intro id enrollment found isAccepted
  cases adding with
  | nothing same =>
    rw [same] at found
    exact (named id enrollment found isAccepted).kept users
  | submits now request _ written =>
    rcases Dict.found_set written found with ⟨-, rfl⟩ | ⟨-, found⟩
    · cases isAccepted
    · exact (named id enrollment found isAccepted).kept users

theorem UniqueSubmitted.closed {id : EnrollmentID} {enrollment : MemoryPkiEnrollment}
    (written : org'.pkiEnrollments = org.pkiEnrollments.set id enrollment)
    (isClosed : enrollment.enrollmentState ≠ .submitted) (unique : UniqueSubmitted org) :
    UniqueSubmitted org' := by
  intro first second enrollment₁ enrollment₂ found₁ found₂ same waits₁ waits₂
  rw [written, Dict.get?_set] at found₁ found₂
  split at found₁
  · cases found₁
    exact absurd waits₁ isClosed
  · split at found₂
    · cases found₂
      exact absurd waits₂ isClosed
    · exact unique first second enrollment₁ enrollment₂ found₁ found₂ same waits₁ waits₂

theorem UniqueSubmitted.added {id : EnrollmentID} {enrollment : MemoryPkiEnrollment}
    (written : org'.pkiEnrollments = org.pkiEnrollments.set id enrollment)
    (alone : ∀ other waiting, org.pkiEnrollments.get? other = some waiting →
      waiting.submitterDerX509Certificate = enrollment.submitterDerX509Certificate →
      waiting.enrollmentState ≠ .submitted) (unique : UniqueSubmitted org) :
    UniqueSubmitted org' := by
  intro first second enrollment₁ enrollment₂ found₁ found₂ same waits₁ waits₂
  rw [written, Dict.get?_set] at found₁ found₂
  split at found₁
  · rename_i isNew₁
    cases found₁
    split at found₂
    · rename_i isNew₂
      rw [isNew₁, isNew₂]
    · exact absurd waits₂ (alone second enrollment₂ found₂ same.symm)
  · split at found₂
    · cases found₂
      exact absurd waits₁ (alone first enrollment₁ found₁ same)
    · exact unique first second enrollment₁ enrollment₂ found₁ found₂ same waits₁ waits₂

theorem Closing.uniqueSubmitted (closing : Closing org org') (unique : UniqueSubmitted org) :
    UniqueSubmitted org' := by
  cases closing with
  | nothing same =>
    unfold UniqueSubmitted
    rw [same]
    exact unique
  | closes id enrollment closed _ _ isClosed _ _ written => exact unique.closed written isClosed

theorem findSubmitted_ok {id : EnrollmentID} {enrollment : MemoryPkiEnrollment}
    (ok : findSubmitted org id = .ok enrollment) :
    org.pkiEnrollments.get? id = some enrollment ∧ enrollment.enrollmentState = .submitted := by
  unfold findSubmitted at ok
  split at ok
  · cases ok
  · rename_i found isFound
    obtain ⟨_, waits, ok⟩ := bind_eq_ok.mp ok
    cases ok
    rw [refuse_eq_ok, decide_eq_false_iff_not, not_not] at waits
    exact ⟨isFound, waits⟩

theorem asRefusal_eq_ok {α : Type} {outcome : Except BadOutcome α} {a : α} :
    asRefusal outcome = .ok a ↔ outcome = .ok a := by
  cases outcome with
  | error error => simp [asRefusal]
  | ok a => simp [asRefusal]

/-- What a call does to the enrollments and to the users. -/
def Changes (org org' : ServedOrganization) : Prop :=
  Closing org org' ∧ UsersKept org org'

theorem Changes.refl (org : ServedOrganization) : Changes org org :=
  ⟨.nothing rfl, usersKept_of_same rfl⟩

theorem changes_of_checked {α β : Type} {decide : ServedOrganization → Except Refusal α}
    {next : ServedOrganization → α → OrganizationCall β}
    (done : ∀ a, decide org = .ok a → Changes org (next org a org).2) :
    Changes org
      ((do let org ← get; let a ← check (decide org); next org a : OrganizationCall β) org).2 := by
  rw [bind_of_ok (get_apply org)]
  cases decided : decide org with
  | error error =>
    rw [bind_of_error (check_apply _ org)]
    exact Changes.refl org
  | ok a =>
    rw [bind_of_ok (check_apply _ org)]
    exact done a decided

theorem reject_changes (now : DateTime) (author : DeviceID) (id : EnrollmentID)
    (org : ServedOrganization) : Changes org (reject now author id org).2 := by
  apply changes_of_checked
  intro enrollment checked
  obtain ⟨_, -, checked⟩ := bind_eq_ok.mp checked
  obtain ⟨_, -, checked⟩ := bind_eq_ok.mp checked
  obtain ⟨found, waits⟩ := findSubmitted_ok checked
  constructor
  · apply Closing.closes id enrollment
      { enrollment with enrollmentState := .rejected, infoRejectedOn := some now } found waits
    · simp
    · rfl
    · simp
    · rfl
  · exact usersKept_of_same rfl

theorem createUser_changes (now : DateTime) (author : DeviceID) (key : VerifyKey)
    (u ru : Uploaded UserPayload) (d rd : Uploaded DevicePayload) (org : ServedOrganization) :
    Changes org (OrganizationCall.createUser now author key u ru d rd org).2 := by
  apply changes_of_checked
  rintro ⟨user, device⟩ -
  exact ⟨.nothing rfl, usersKept_of_set rfl⟩

theorem revokeUser_changes (now : DateTime) (author : DeviceID) (key : VerifyKey)
    (certificate : Uploaded RevokedUserCertificate) (org : ServedOrganization) :
    Changes org (OrganizationCall.revokeUser now author key certificate org).2 := by
  apply changes_of_checked
  rintro ⟨certif, targetUser⟩ -
  exact ⟨.nothing rfl, usersKept_of_set rfl⟩

theorem acceptCheck_ok {now : DateTime} {request : AcceptRequest} {u : UserPayload}
    {d : DeviceCertificate} {enrollment : MemoryPkiEnrollment}
    (ok : acceptCheck now org request = .ok (u, d, enrollment)) :
    org.pkiEnrollments.get? request.enrollmentId = some enrollment ∧
      enrollment.enrollmentState = .submitted ∧ org.devices.get? d.deviceId = none ∧
      d.userId = u.certif.userId := by
  unfold acceptCheck at ok
  obtain ⟨⟨_, _⟩, -, ok⟩ := bind_eq_ok.mp ok
  obtain ⟨_, -, ok⟩ := bind_eq_ok.mp ok
  obtain ⟨_, -, ok⟩ := bind_eq_ok.mp ok
  obtain ⟨⟨u', d'⟩, valid, ok⟩ := bind_eq_ok.mp ok
  obtain ⟨enrollment', isSubmitted, ok⟩ := bind_eq_ok.mp ok
  obtain ⟨_, stored, ok⟩ := bind_eq_ok.mp ok
  cases ok
  obtain ⟨found, waits⟩ := findSubmitted_ok isSubmitted
  obtain ⟨-, -, -, sameUser, -⟩ := userCreateUserValidate_ok (asRefusal_eq_ok.mp valid)
  have stored := asRefusal_eq_ok.mp stored
  obtain ⟨_, -, stored⟩ := bind_eq_ok.mp stored
  obtain ⟨_, -, stored⟩ := bind_eq_ok.mp stored
  obtain ⟨_, newDevice, -⟩ := bind_eq_ok.mp stored
  rw [refuse_eq_ok, Option.isSome_eq_false_iff, Option.isNone_iff_eq_none] at newDevice
  exact ⟨found, waits, newDevice, sameUser⟩

theorem accept_changes (now : DateTime) (request : AcceptRequest) (org : ServedOrganization) :
    Changes org (accept now request org).2 := by
  apply changes_of_checked
  rintro ⟨u, d, enrollment⟩ checked
  obtain ⟨found, waits, newDevice, sameUser⟩ := acceptCheck_ok checked
  let user : MemoryUser := ⟨u.certif, u.humanHandle, request.userCertificate.raw,
    request.redactedUserCertificate.raw, [], none⟩
  let device : MemoryDevice :=
    ⟨d, request.deviceCertificate.raw, request.redactedDeviceCertificate.raw⟩
  let closed : MemoryPkiEnrollment := { enrollment with
    enrollmentState := .accepted
    accepter := some request.author
    submitterAcceptedUserId := some d.userId
    submitterAcceptedDeviceId := some d.deviceId
    infoAccepted := some ⟨now, request.accepterDerX509Certificate, request.acceptPayloadSignature,
      request.acceptPayload.raw⟩ }
  let withUser : ServedOrganization :=
    { org with
      toMemoryOrganization := { org.withLastTimestamp .common u.certif.timestamp with
        users := org.users.set u.certif.userId user } }
  have asserted : assertNow (fun org => (org.devices.get? d.deviceId).isNone) withUser =
      (.ok (), withUser) := by
    change (refuse (!(org.devices.get? d.deviceId).isNone) _, withUser) = _
    rw [newDevice]
    rfl
  change Changes org ((assertNow (fun org => (org.devices.get? d.deviceId).isNone) >>= fun _ =>
    setDevice d.deviceId device >>= fun _ => setEnrollment request.enrollmentId closed) withUser).2
  rw [bind_of_ok asserted]
  constructor
  · apply Closing.closes request.enrollmentId enrollment closed found waits
    · simp [closed]
    · rfl
    · intro _
      exact ⟨d.userId, user, rfl, rfl, by rw [sameUser]; exact Dict.get?_set_self _ _ _⟩
    · rfl
  · exact usersKept_of_set rfl

section Submit
variable {now : DateTime} {submission : SubmitRequest}

theorem firstWithCertificate_found {certificate : List Byte}
    {item : EnrollmentID × MemoryPkiEnrollment}
    (found : firstWithCertificate org certificate = some item) :
    org.pkiEnrollments.get? item.1 = some item.2 ∧
      item.2.submitterDerX509Certificate = certificate := by
  constructor
  · exact Dict.get?_eq_some_iff.mpr (List.mem_of_find?_eq_some found)
  · simpa using List.find?_some found

theorem withCancelled_changes {item : EnrollmentID × MemoryPkiEnrollment}
    (found : firstWithCertificate org submission.certificate = some item)
    (waits : item.2.enrollmentState = .submitted) : Changes org (withCancelled org now item) := by
  constructor
  · apply Closing.closes item.1 item.2
      { item.2 with enrollmentState := .cancelled, infoCancelledOn := some now }
      (firstWithCertificate_found found).1 waits
    · simp
    · rfl
    · simp
    · rfl
  · exact usersKept_of_same rfl

theorem previous_changes {base : ServedOrganization} {outcome : Except Refusal Unit}
    (previous : PreviousOutcome now submission.force org
      (firstWithCertificate org submission.certificate) (outcome, base)) : Changes org base := by
  cases previous with
  | waits => exact Changes.refl org
  | holds => exact Changes.refl org
  | clear => exact Changes.refl org
  | overwritten found state forced => exact withCancelled_changes found state

theorem previous_unused {base : ServedOrganization}
    (previous : PreviousOutcome now submission.force org
      (firstWithCertificate org submission.certificate) (.ok (), base))
    (unused : org.pkiEnrollments.get? submission.enrollmentId = none) :
    base.pkiEnrollments.get? submission.enrollmentId = none := by
  cases previous with
  | clear => exact unused
  | overwritten found state forced =>
    rename_i item
    have apart : submission.enrollmentId ≠ item.1 := by
      intro same
      rw [same, (firstWithCertificate_found found).1] at unused
      cases unused
    rw [withCancelled, Dict.get?_set_of_ne apart]
    exact unused

theorem submit_changes (now : DateTime) (submission : SubmitRequest) (org : ServedOrganization) :
    ∃ base, Changes org base ∧ Adding base (submit now submission org).2 ∧
      UsersKept base (submit now submission org).2 := by
  have outcome : SubmitOutcome now submission org _ := submit_outcome
  generalize submit now submission org = result at outcome ⊢
  cases outcome with
  | unchecked => exact ⟨org, Changes.refl org, .nothing rfl, usersKept_of_same rfl⟩
  | refused checked previous =>
    exact ⟨_, previous_changes previous, .nothing rfl, usersKept_of_same rfl⟩
  | enrolled checked previous =>
    exact ⟨_, previous_changes previous, .nothing rfl, usersKept_of_same rfl⟩
  | done checked previous fresh =>
    have unused := previous_unused previous (submitCheck_eq_ok.mp checked).2.1
    exact ⟨_, previous_changes previous, .submits now submission unused rfl, usersKept_of_same rfl⟩

end Submit

theorem other_changes (request : EnrollmentRequest) (org : ServedOrganization)
    (other : ∀ now submission, request ≠ .submit now submission) :
    Changes org (request.call org).2 := by
  cases request with
  | submit now submission => exact absurd rfl (other now submission)
  | accept now acceptance => exact accept_changes now acceptance org
  | reject now author id => exact reject_changes now author id org
  | createUser now author key u ru d rd => exact createUser_changes now author key u ru d rd org
  | revokeUser now author key certificate => exact revokeUser_changes now author key certificate org

theorem step_changes (taken : EnrollmentRequest.Step org request org') :
    ∃ base, Changes org base ∧ Adding base org' ∧ UsersKept base org' := by
  cases taken
  by_cases isSubmission : ∃ now submission, request = .submit now submission
  · obtain ⟨now, submission, rfl⟩ := isSubmission
    exact submit_changes now submission org
  · refine ⟨_, other_changes request org ?_, .nothing rfl, usersKept_of_same rfl⟩
    intro now submission isSubmit
    exact isSubmission ⟨now, submission, isSubmit⟩

section Decides
variable {now : DateTime} {submission : SubmitRequest}

/-- A submission that reaches its insertion has the oldest enrollment decide. -/
theorem OldestDecides.others (decides : OldestDecides org (.submit now submission))
    (checked : submitCheck org submission = .ok ())
    (fresh : emailEnrolled org submission.email = false) {id : EnrollmentID}
    {enrollment : MemoryPkiEnrollment} (found : org.pkiEnrollments.get? id = some enrollment)
    (certificate : enrollment.submitterDerX509Certificate = submission.certificate)
    (other : firstWithCertificate org submission.certificate ≠ some (id, enrollment)) :
    ¬ IsOpenEnrollment org enrollment := by
  rcases decides with unchecked | enrolled | decides
  · exact absurd checked unchecked
  · rw [fresh] at enrolled
    cases enrolled
  · exact decides id enrollment found certificate other

theorem previous_alone (decides : OldestDecides org (.submit now submission))
    (checked : submitCheck org submission = .ok ())
    (fresh : emailEnrolled org submission.email = false) {base : ServedOrganization}
    (previous : PreviousOutcome now submission.force org
      (firstWithCertificate org submission.certificate) (.ok (), base)) {id : EnrollmentID}
    {enrollment : MemoryPkiEnrollment} (found : base.pkiEnrollments.get? id = some enrollment)
    (certificate : enrollment.submitterDerX509Certificate = submission.certificate) :
    enrollment.enrollmentState ≠ .submitted := by
  intro waits
  cases previous with
  | clear closed =>
    by_cases first : firstWithCertificate org submission.certificate = some (id, enrollment)
    · exact (closed id enrollment first).1 waits
    · exact decides.others checked fresh found certificate first (Or.inl waits)
  | overwritten isFirst state forced =>
    rename_i item
    rcases Dict.found_set rfl found with ⟨-, rfl⟩ | ⟨apart, found⟩
    · cases waits
    · apply decides.others checked fresh found certificate _ (Or.inl waits)
      intro first
      rw [isFirst] at first
      cases first
      exact apart rfl

theorem submit_unique (decides : OldestDecides org (.submit now submission))
    (unique : UniqueSubmitted org) : UniqueSubmitted (submit now submission org).2 := by
  have closes : ∀ {base : ServedOrganization} {outcome : Except Refusal Unit},
      PreviousOutcome now submission.force org
        (firstWithCertificate org submission.certificate) (outcome, base) →
      UniqueSubmitted base := by
    intro base outcome previous
    cases previous with
    | waits => exact unique
    | holds => exact unique
    | clear => exact unique
    | overwritten found state forced =>
      exact unique.closed rfl (by simp)
  have outcome : SubmitOutcome now submission org _ := submit_outcome
  generalize submit now submission org = result at outcome ⊢
  cases outcome with
  | unchecked => exact unique
  | refused checked previous => exact closes previous
  | enrolled checked previous => exact closes previous
  | done checked previous fresh =>
    exact (closes previous).added rfl
      fun id enrollment => previous_alone decides checked fresh previous

end Decides

/-- What holds in every state that such calls reach. -/
structure EnrollmentInvariant (org : ServedOrganization) : Prop where
  unique : UniqueSubmitted org
  named : AcceptedNamed org

theorem EnrollmentInvariant.step (inv : EnrollmentInvariant org)
    (decides : OldestDecides org request) (taken : EnrollmentRequest.Step org request org') :
    EnrollmentInvariant org' := by
  obtain ⟨base, ⟨closing, users⟩, adding, users'⟩ := step_changes taken
  constructor
  · cases taken
    by_cases isSubmission : ∃ now submission, request = .submit now submission
    · obtain ⟨now, submission, rfl⟩ := isSubmission
      exact submit_unique decides inv.unique
    · apply (other_changes request org _).1.uniqueSubmitted inv.unique
      intro now submission isSubmit
      exact isSubmission ⟨now, submission, isSubmit⟩
  · exact adding.acceptedNamed users' (closing.acceptedNamed users inv.named)

theorem EnrollmentInvariant.run {start : ServedOrganization}
    (fresh : start.pkiEnrollments = .empty)
    (run : Run EnrollmentRequest.Step OldestDecides start org) : EnrollmentInvariant org := by
  apply run.keeps _ fun _ _ _ inv decides taken => inv.step decides taken
  constructor
  · intro id id' enrollment enrollment' found
    rw [fresh] at found
    cases found
  · intro id enrollment found
    rw [fresh] at found
    cases found

section Refused
variable {now : DateTime} {submission : SubmitRequest} {id : EnrollmentID}
  {enrollment : MemoryPkiEnrollment}

theorem submitCheck_outcome {error : Refusal} (stopped : submitCheck org submission = .error error) :
    error.IsOutcome := by
  intro raised isRaised
  unfold submitCheck refuse at stopped
  cases expired : org.isExpired with
  | true =>
    rw [expired] at stopped
    cases stopped
    cases isRaised
  | false =>
    rw [expired] at stopped
    cases used : (org.pkiEnrollments.get? submission.enrollmentId).isSome with
    | true =>
      rw [used] at stopped
      cases stopped
      cases isRaised
    | false =>
      rw [used] at stopped
      cases loads : submission.submitPayload.loads with
      | true =>
        rw [loads] at stopped
        cases stopped
      | false =>
        rw [loads] at stopped
        cases stopped
        cases isRaised

/-- An accepted enrollment refuses a submission as long as its user is not revoked. -/
theorem checkAccepted_of_named (named : Named org enrollment) :
    checkAccepted org enrollment = .ok () ∨
      checkAccepted org enrollment = .error .x509CertificateAlreadyEnrolled := by
  obtain ⟨userId, user, isUser, isDevice, found⟩ := named
  obtain ⟨device, isDevice⟩ := Option.isSome_iff_exists.mp isDevice
  unfold checkAccepted
  simp only [isUser, isDevice, found]
  cases user.isRevoked with
  | true => exact Or.inl rfl
  | false => exact Or.inr rfl

theorem checkAccepted_of_active (named : Named org enrollment)
    (active : AcceptedForActive org enrollment) : checkAccepted org enrollment ≠ .ok () := by
  obtain ⟨-, userId, user, isUser, found, notRevoked⟩ := active
  obtain ⟨_, _, -, isDevice, -⟩ := named
  obtain ⟨device, isDevice⟩ := Option.isSome_iff_exists.mp isDevice
  unfold checkAccepted
  simp only [isUser, isDevice, found, notRevoked]
  simp [refuse]

/-- A submission is refused while an enrollment with its certificate is open. -/
theorem submit_refused (inv : EnrollmentInvariant org)
    (decides : OldestDecides org (.submit now submission))
    (found : org.pkiEnrollments.get? id = some enrollment)
    (certificate : enrollment.submitterDerX509Certificate = submission.certificate)
    (isOpen : enrollment.enrollmentState = .submitted ∧ submission.force = false ∨
      AcceptedForActive org enrollment) :
    ∃ refusal, (submit now submission org).1 = .error refusal ∧ refusal.IsOutcome := by
  have outcome : SubmitOutcome now submission org _ := submit_outcome
  generalize submit now submission org = result at outcome ⊢
  cases outcome with
  | unchecked stopped => exact ⟨_, rfl, submitCheck_outcome stopped⟩
  | refused checked previous =>
    cases previous with
    | waits => exact ⟨_, rfl, fun _ impossible => by cases impossible⟩
    | holds isFirst state refused =>
      have named := inv.named _ _ (firstWithCertificate_found isFirst).1 state
      rcases checkAccepted_of_named named with ok | error
      · rw [ok] at refused
        cases refused
      · rw [error] at refused
        cases refused
        exact ⟨_, rfl, fun _ impossible => by cases impossible⟩
  | enrolled => exact ⟨_, rfl, fun _ impossible => by cases impossible⟩
  | done checked previous fresh =>
    exfalso
    by_cases first : firstWithCertificate org submission.certificate = some (id, enrollment)
    · cases previous with
      | clear closed =>
        obtain ⟨closed, accepted⟩ := closed id enrollment first
        rcases isOpen with ⟨waits, -⟩ | active
        · exact closed waits
        · have named := inv.named _ _ found active.1
          exact checkAccepted_of_active named active (accepted active.1)
      | overwritten isFirst state forced =>
        rw [isFirst] at first
        cases first
        rcases isOpen with ⟨-, gentle⟩ | active
        · rw [forced] at gentle
          cases gentle
        · rw [active.1] at state
          cases state
    · apply decides.others checked fresh found certificate first
      rcases isOpen with ⟨waits, -⟩ | active
      · exact Or.inl waits
      · exact Or.inr active

end Refused

/-- The enrollments as they should be: one at most waits for each certificate, one that no longer
    waits never changes, and a submission is refused while there is an open one. -/
structure EnrollmentsUnique (admits : ServedOrganization → EnrollmentRequest → Prop)
    (org : ServedOrganization) : Prop where
  unique : UniqueSubmitted org
  final : ∀ request org', EnrollmentRequest.Step org request org' → ∀ id enrollment,
    org.pkiEnrollments.get? id = some enrollment → enrollment.enrollmentState ≠ .submitted →
    org'.pkiEnrollments.get? id = some enrollment
  refused : ∀ now submission id enrollment, admits org (.submit now submission) →
    org.pkiEnrollments.get? id = some enrollment →
    enrollment.submitterDerX509Certificate = submission.certificate →
    enrollment.enrollmentState = .submitted ∧ submission.force = false ∨
      AcceptedForActive org enrollment →
    ∃ refusal, (submit now submission org).1 = .error refusal ∧ refusal.IsOutcome

/-- In the runs whose submissions all have the oldest enrollment decide. -/
theorem enrollments_unique {start : ServedOrganization} (fresh : start.pkiEnrollments = .empty)
    (run : Run EnrollmentRequest.Step OldestDecides start org) :
    EnrollmentsUnique OldestDecides org := by
  have inv := EnrollmentInvariant.run fresh run
  constructor
  · exact inv.unique
  · intro request org' taken id enrollment found isClosed
    obtain ⟨base, ⟨closing, -⟩, adding, -⟩ := step_changes taken
    exact adding.stays (closing.closed_stays found isClosed)
  · intro now submission id enrollment decides found certificate isOpen
    exact submit_refused inv decides found certificate isOpen

/-- Alice, who administrates an organization without any enrollment. -/
def aliceAdministrates : ServedOrganization := { bootstrappedOrganization with
  users := Dict.empty.set ⟨1⟩ ⟨⟨.root, 0, ⟨1⟩, .admin⟩, ⟨"alice@example.com"⟩, [], [], [], none⟩
  devices := Dict.empty.set ⟨1⟩ ⟨⟨.root, 0, ⟨1⟩, ⟨1⟩, ⟨1⟩⟩, [], []⟩ }

/-- Bob submits with the same certificate each time. -/
def bobSubmits (enrollmentId : Nat) : SubmitRequest :=
  ⟨⟨enrollmentId⟩, false, [7], ⟨"bob@example.com"⟩, [], ⟨[], true⟩⟩

def bobSubmitted : ServedOrganization :=
  (submit 1 (bobSubmits 1) aliceAdministrates).2

def bobRejected : ServedOrganization :=
  (reject 2 ⟨1⟩ ⟨1⟩ bobSubmitted).2

def bobSubmittedAgain : ServedOrganization :=
  (submit 3 (bobSubmits 2) bobRejected).2

def bobSubmittedTwice : ServedOrganization :=
  (submit 4 (bobSubmits 3) bobSubmittedAgain).2

/-- After the rejection of the first submission, the second one waits alone. -/
theorem enrollments_unique_of_bob :
    EnrollmentsUnique OldestDecides bobSubmittedAgain ∧
      (bobSubmittedAgain.pkiEnrollments.get? ⟨1⟩).map (·.enrollmentState) = some .rejected ∧
      (bobSubmittedAgain.pkiEnrollments.get? ⟨2⟩).map (·.enrollmentState) = some .submitted := by
  refine ⟨?_, by decide +kernel, by decide +kernel⟩
  apply enrollments_unique (show aliceAdministrates.pkiEnrollments = .empty from rfl)
  apply Run.step (t := .submit 3 (bobSubmits 2)) (s := bobRejected) _ _ rfl
  · apply Run.step (t := .reject 2 ⟨1⟩ ⟨1⟩) (s := bobSubmitted) _ trivial rfl
    apply Run.step (t := .submit 1 (bobSubmits 1)) .start _ rfl
    refine Or.inr (Or.inr ?_)
    intro id enrollment found
    cases found
  · refine Or.inr (Or.inr ?_)
    intro id enrollment found _ notOldest
    -- the enrollment that was rejected is the only one
    cases List.mem_singleton.mp (Dict.get?_eq_some_iff.mp found)
    exact absurd rfl notOldest

/-- After a rejection, a second and a third submission wait together. -/
theorem two_enrollments_wait :
    ¬ ∀ start org : ServedOrganization, start.pkiEnrollments = .empty →
      Run EnrollmentRequest.Step (fun _ _ => True) start org →
        EnrollmentsUnique (fun _ _ => True) org := by
  intro claim
  have run : Run EnrollmentRequest.Step (fun _ _ => True) aliceAdministrates bobSubmittedTwice := by
    apply Run.step (t := .submit 4 (bobSubmits 3)) (s := bobSubmittedAgain) _ trivial rfl
    apply Run.step (t := .submit 3 (bobSubmits 2)) (s := bobRejected) _ trivial rfl
    apply Run.step (t := .reject 2 ⟨1⟩ ⟨1⟩) (s := bobSubmitted) _ trivial rfl
    exact Run.step (t := .submit 1 (bobSubmits 1)) .start trivial rfl
  have unique := (claim aliceAdministrates bobSubmittedTwice rfl run).unique
  have second : (bobSubmittedTwice.pkiEnrollments.get? ⟨2⟩).map
      (fun e => (e.submitterDerX509Certificate, e.enrollmentState)) = some ([7], .submitted) := by
    decide +kernel
  have third : (bobSubmittedTwice.pkiEnrollments.get? ⟨3⟩).map
      (fun e => (e.submitterDerX509Certificate, e.enrollmentState)) = some ([7], .submitted) := by
    decide +kernel
  obtain ⟨enrollment₂, found₂, is₂⟩ := Option.map_eq_some_iff.mp second
  obtain ⟨enrollment₃, found₃, is₃⟩ := Option.map_eq_some_iff.mp third
  have certificates := (congrArg Prod.fst is₂).trans (congrArg Prod.fst is₃).symm
  have same := unique ⟨2⟩ ⟨3⟩ enrollment₂ enrollment₃ found₂ found₃ certificates
    (congrArg Prod.snd is₂) (congrArg Prod.snd is₃)
  cases same

end ParsecCloud.Server

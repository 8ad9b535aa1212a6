import ParsecCloud.Server.CertificateCalls
import ParsecCloud.Server.EnrollmentCalls

/- What a refused call leaves behind. Each call makes all its checks before its first change, but for
   the submission of an enrollment, which may cancel the previous one and be refused after that. -/
namespace ParsecCloud.Server
open Certif Call OrganizationCall MemoryOrganization

/-- The same organization: a list of recoveries that is missing is an empty one. -/
structure SameData (org org' : ServedOrganization) : Prop where
  recoveries : org'.recoveriesOf = org.recoveriesOf
  others : { org' with shamirRecoveries := org.shamirRecoveries } = org

namespace SameData

theorem refl (org : ServedOrganization) : SameData org org := ⟨rfl, rfl⟩

theorem trans (org org' org'' : ServedOrganization) (first : SameData org org')
    (second : SameData org' org'') : SameData org org'' := by
  constructor
  · rw [second.recoveries, first.recoveries]
  · have moved := congrArg
      (fun o : ServedOrganization => { o with shamirRecoveries := org.shamirRecoveries })
      second.others
    exact moved.trans first.others

theorem pkiEnrollments {org org' : ServedOrganization} (same : SameData org org') :
    org'.pkiEnrollments = org.pkiEnrollments := by
  have enrollments := congrArg ServedOrganization.pkiEnrollments same.others
  exact enrollments

end SameData

abbrev Kept {α : Type} (call : OrganizationCall α) : Prop :=
  Keeps SameData Refusal.IsOutcome call

abbrev CallStored {α : Type} (call : OrganizationCall α) : Prop := Stores Refusal.IsOutcome call

theorem kept_bind {α β : Type} {call : OrganizationCall α} {next : α → OrganizationCall β}
    (reads : Reads SameData call) (rest : ∀ a, Kept (next a)) : Kept (call >>= next) :=
  Keeps.bind SameData.trans reads rest

theorem get_reads : Reads SameData (get : OrganizationCall ServedOrganization) :=
  .get SameData.refl

theorem check_reads {α : Type} (outcome : Except Refusal α) :
    Reads SameData (check outcome : OrganizationCall α) :=
  .check SameData.refl outcome

theorem kept_of_checked {α β : Type} {decide : ServedOrganization → Except Refusal α}
    {next : ServedOrganization → α → OrganizationCall β} (stored : ∀ org a, CallStored (next org a)) :
    Kept (do let org ← get; let a ← check (decide org); next org a) := by
  apply kept_bind get_reads
  intro org
  apply kept_bind (check_reads _)
  intro a
  exact (stored org a).keeps

theorem shamirRecoveriesOf_reads (userId : UserID) :
    Reads SameData (shamirRecoveriesOf userId) := by
  intro org
  constructor
  · funext other
    change (Dict.get? (org.shamirRecoveries.set userId _) other).getD [] = _
    rw [Dict.get?_set]
    split
    · rename_i same
      rw [same]
      rfl
    · rfl
  · rfl

theorem assertNow_stored (holds : ServedOrganization → Bool) : CallStored (assertNow holds) := by
  intro org error stopped
  change refuse (!holds org) _ = _ at stopped
  unfold refuse at stopped
  split at stopped
  · cases stopped
    intro isOutcome
    exact isOutcome _ rfl
  · cases stopped

theorem startSequester_stored (raw : List Byte) (s : Option SequesterAuthorityCertificate) :
    CallStored (startSequester raw s) := by
  cases s with
  | none => exact .pure ()
  | some s => exact .bind (.modify _) fun _ => .modify _

section Shamir
variable (now : DateTime) (author : DeviceID) (key : VerifyKey)

theorem setupShamir_kept (brief : Uploaded ShamirRecoveryBriefCertificate)
    (shares : List (Uploaded ShamirRecoveryShareCertificate)) :
    Kept (setupShamir now author key brief shares) := by
  apply kept_bind get_reads
  intro org
  apply kept_bind (check_reads _)
  rintro ⟨authorUserId, content, collected⟩
  apply kept_bind (shamirRecoveriesOf_reads authorUserId)
  intro recoveries
  apply kept_bind (check_reads _)
  intro _
  exact Stores.keeps (.bind (.modify _) fun _ => .modify _)

theorem deleteShamir_kept (certificate : Uploaded ShamirRecoveryDeletionCertificate) :
    Kept (deleteShamir now author key certificate) := by
  apply kept_bind get_reads
  intro org
  apply kept_bind (check_reads _)
  rintro ⟨authorUserId, deletion⟩
  apply kept_bind (shamirRecoveriesOf_reads authorUserId)
  intro recoveries
  apply kept_bind (check_reads _)
  intro setup
  exact Stores.keeps (.bind (.modify _) fun _ => .modify _)

end Shamir

inductive OrganizationRequest where
  | createUser (author : DeviceID) (key : VerifyKey)
      (userCertificate redactedUserCertificate : Uploaded UserPayload)
      (deviceCertificate redactedDeviceCertificate : Uploaded DevicePayload)
  | createDevice (author : DeviceID) (key : VerifyKey)
      (deviceCertificate redactedDeviceCertificate : Uploaded DevicePayload)
  | revokeUser (author : DeviceID) (key : VerifyKey) (certificate : Uploaded RevokedUserCertificate)
  | updateUser (author : DeviceID) (key : VerifyKey) (certificate : Uploaded UserUpdateCertificate)
  | freezeUser (userId : Option UserID) (userEmail : Option EmailAddress) (frozen : Bool)
  | acceptTos (author : DeviceID) (tosUpdatedOn : DateTime)
  | createRealm (author : DeviceID) (key : VerifyKey) (certificate : Uploaded RealmRoleCertificate)
  | shareRealm (author : DeviceID) (key : VerifyKey) (certificate : Uploaded RealmRoleCertificate)
      (access : List Byte) (keyIndex : Nat)
  | unshareRealm (author : DeviceID) (key : VerifyKey) (certificate : Uploaded RealmRoleCertificate)
  | renameRealm (author : DeviceID) (key : VerifyKey) (certificate : Uploaded RealmNameCertificate)
      (initialNameOrFail : Bool)
  | rotateKey (author : DeviceID) (key : VerifyKey)
      (certificate : Uploaded RealmKeyRotationCertificate)
      (perParticipantKeysBundleAccess : Dict UserID (List Byte)) (keysBundle : List Byte)
      (perSequesterServiceKeysBundleAccess : Option (Dict SequesterServiceID (List Byte)))
      (rejected : Bool)
  | createVlob (write : VlobWrite) (rejected : Bool)
  | updateVlob (write : VlobWrite) (rejected : Bool)
  | createBlock (author : DeviceID) (realmId : VlobID) (blockId : BlockID) (keyIndex : Nat)
      (block : List Byte) (unavailable : Bool)
  | setupShamir (author : DeviceID) (key : VerifyKey)
      (brief : Uploaded ShamirRecoveryBriefCertificate)
      (shares : List (Uploaded ShamirRecoveryShareCertificate))
  | deleteShamir (author : DeviceID) (key : VerifyKey)
      (certificate : Uploaded ShamirRecoveryDeletionCertificate)
  | createService (certificate : List Byte × SignedSequester) (serviceType : SequesterServiceType)
  | updateConfigForService (serviceId : SequesterServiceID) (serviceType : SequesterServiceType)
  | revokeService (certificate : List Byte × SignedSequester)
  | bootstrap (bootstrapToken : Option BootstrapToken) (rootVerifyKey : VerifyKey)
      (userCertificate redactedUserCertificate : Uploaded UserPayload)
      (deviceCertificate redactedDeviceCertificate : Uploaded DevicePayload)
      (sequesterAuthorityCertificate : Option (Uploaded SequesterAuthorityCertificate))
  | submit (request : SubmitRequest)
  | reject (author : DeviceID) (enrollmentId : EnrollmentID)
  | accept (request : AcceptRequest)

namespace OrganizationRequest

def call (now : DateTime) : OrganizationRequest → OrganizationCall Unit
  | createUser author key u ru d rd => OrganizationCall.createUser now author key u ru d rd
  | createDevice author key d rd => OrganizationCall.createDevice now author key d rd
  | revokeUser author key certificate => OrganizationCall.revokeUser now author key certificate
  | updateUser author key certificate => OrganizationCall.updateUser now author key certificate
  | freezeUser userId userEmail frozen => OrganizationCall.freezeUser userId userEmail frozen
  | acceptTos author tosUpdatedOn => OrganizationCall.acceptTos now author tosUpdatedOn
  | createRealm author key certificate => OrganizationCall.createRealm now author key certificate
  | shareRealm author key certificate access keyIndex =>
    OrganizationCall.shareRealm now author key certificate access keyIndex
  | unshareRealm author key certificate => OrganizationCall.unshareRealm now author key certificate
  | renameRealm author key certificate initialNameOrFail =>
    OrganizationCall.renameRealm now author key certificate initialNameOrFail
  | rotateKey author key certificate accesses keysBundle serviceAccesses rejected =>
    OrganizationCall.rotateKey now author key certificate accesses keysBundle serviceAccesses rejected
  | createVlob write rejected => OrganizationCall.createVlob now write rejected
  | updateVlob write rejected => OrganizationCall.updateVlob now write rejected
  | createBlock author realmId blockId keyIndex block unavailable =>
    OrganizationCall.createBlock now author realmId blockId keyIndex block unavailable
  | setupShamir author key brief shares => OrganizationCall.setupShamir now author key brief shares
  | deleteShamir author key certificate => OrganizationCall.deleteShamir now author key certificate
  | createService certificate serviceType => OrganizationCall.createService certificate serviceType
  | updateConfigForService serviceId serviceType =>
    OrganizationCall.updateConfigForService serviceId serviceType
  | revokeService certificate => OrganizationCall.revokeService certificate
  | bootstrap token key u ru d rd s => OrganizationCall.bootstrap now token key u ru d rd s
  | submit request => OrganizationCall.submit now request
  | reject author enrollmentId => OrganizationCall.reject now author enrollmentId
  | accept request => OrganizationCall.accept now request

/-- A forced submission that takes the place of one that waits, for an address that is enrolled. -/
def CancelsThenRefuses (org : ServedOrganization) : OrganizationRequest → Prop
  | submit request =>
    org.isExpired = false ∧ org.pkiEnrollments.get? request.enrollmentId = none ∧
    request.submitPayload.loads = true ∧ request.force = true ∧
    (∃ previous, firstWithCertificate org request.certificate = some previous ∧
      previous.2.enrollmentState = .submitted) ∧
    emailEnrolled org request.email = true
  | _ => False

end OrganizationRequest

section Submit
variable {now : DateTime} {org : ServedOrganization} {request : SubmitRequest}

theorem not_sameData_of_cancelled {previous : EnrollmentID × MemoryPkiEnrollment}
    (found : firstWithCertificate org request.certificate = some previous)
    (waits : previous.2.enrollmentState = .submitted) :
    ¬ SameData org (withCancelled org now previous) := by
  intro same
  have before : org.pkiEnrollments.get? previous.1 = some previous.2 :=
    Dict.get?_eq_some_iff.mpr (List.mem_of_find?_eq_some found)
  have enrollments := same.pkiEnrollments
  rw [← enrollments, withCancelled, Dict.get?_set_self] at before
  have states := congrArg MemoryPkiEnrollment.enrollmentState (Option.some.inj before)
  rw [waits] at states
  cases states

end Submit

/-- A refused submission changes the organization exactly when it cancels the previous attempt. -/
theorem submit_kept_iff (now : DateTime) (request : SubmitRequest) (org : ServedOrganization) :
    (∀ refusal, (submit now request org).1 = .error refusal → refusal.IsOutcome →
      SameData org (submit now request org).2) ↔
        ¬ (OrganizationRequest.submit request).CancelsThenRefuses org := by
  have outcome : SubmitOutcome now request org _ := submit_outcome
  generalize submit now request org = result at outcome ⊢
  constructor
  · rintro kept ⟨expired, unused, loads, force, ⟨item, found, waits⟩, enrolled⟩
    cases outcome with
    | unchecked stopped =>
      rw [submitCheck_eq_ok.mpr ⟨expired, unused, loads⟩] at stopped
      cases stopped
    | refused checked previous =>
      cases previous with
      | waits _ _ gentle =>
        rw [force] at gentle
        cases gentle
      | holds found' state _ =>
        rw [found] at found'
        cases found'
        rw [waits] at state
        cases state
    | enrolled checked previous known =>
      cases previous with
      | clear closed => exact (closed item.1 item.2 found).1 waits
      | overwritten found' state _ =>
        apply not_sameData_of_cancelled found' state
        apply kept _ rfl
        intro error impossible
        cases impossible
    | done checked previous fresh =>
      rw [enrolled] at fresh
      cases fresh
  · intro holds refusal refused isOutcome
    cases outcome with
    | unchecked stopped => exact SameData.refl org
    | refused checked previous =>
      cases previous with
      | waits => exact SameData.refl org
      | holds => exact SameData.refl org
    | enrolled checked previous known =>
      obtain ⟨expired, unused, loads⟩ := submitCheck_eq_ok.mp checked
      cases previous with
      | clear => exact SameData.refl org
      | overwritten found state forced =>
        exact absurd ⟨expired, unused, loads, forced, ⟨_, found, state⟩, known⟩ holds
    | done checked previous fresh => cases refused

theorem OrganizationRequest.kept (now : DateTime) (request : OrganizationRequest)
    (other : ∀ submission, request ≠ .submit submission) : Kept (request.call now) := by
  cases request with
  | createUser author key u ru d rd =>
    apply kept_of_checked
    rintro org ⟨user, device⟩
    exact .bind (.modify _) fun _ => .bind (.modify _) fun _ => .modify _
  | createDevice author key d rd =>
    apply kept_of_checked
    intro org certif
    exact .bind (.modify _) fun _ => .modify _
  | revokeUser author key certificate =>
    apply kept_of_checked
    rintro org ⟨certif, targetUser⟩
    exact .bind (.modify _) fun _ => .modify _
  | updateUser author key certificate =>
    apply kept_of_checked
    rintro org ⟨certif, targetUser⟩
    exact .bind (.modify _) fun _ => .modify _
  | freezeUser userId userEmail frozen =>
    apply kept_of_checked
    intro org found
    exact .modify _
  | acceptTos author tosUpdatedOn =>
    apply kept_of_checked
    intro org found
    exact .modify _
  | createRealm author key certificate =>
    apply kept_of_checked
    intro org certif
    exact .bind (.modify _) fun _ => .modify _
  | shareRealm author key certificate access keyIndex =>
    apply kept_of_checked
    rintro org ⟨certif, realm, lastKeyRotation⟩
    exact .bind (.modify _) fun _ => .bind (.modify _) fun _ => .modify _
  | unshareRealm author key certificate =>
    apply kept_of_checked
    rintro org ⟨certif, realm⟩
    exact .bind (.modify _) fun _ => .modify _
  | renameRealm author key certificate initialNameOrFail =>
    apply kept_of_checked
    rintro org ⟨certif, realm⟩
    exact .bind (.modify _) fun _ => .modify _
  | rotateKey author key certificate accesses keysBundle serviceAccesses rejected =>
    apply kept_of_checked
    rintro org ⟨certif, realm⟩
    exact .bind (.modify _) fun _ => .modify _
  | createVlob write rejected =>
    apply kept_of_checked
    intro org realm
    exact .bind (.modify _) fun _ => .bind (.modify _) fun _ => .modify _
  | updateVlob write rejected =>
    apply kept_of_checked
    rintro org ⟨realm, place⟩
    exact .bind (.modify _) fun _ => .bind (.modify _) fun _ => .modify _
  | createBlock author realmId blockId keyIndex block unavailable =>
    apply kept_of_checked
    intro org _
    exact .bind (.modify _) fun _ => .modify _
  | setupShamir author key brief shares => exact setupShamir_kept now author key brief shares
  | deleteShamir author key certificate => exact deleteShamir_kept now author key certificate
  | createService certificate serviceType =>
    apply kept_of_checked
    rintro org ⟨services, certif⟩
    exact .bind (.modify _) fun _ => .modify _
  | updateConfigForService serviceId serviceType =>
    apply kept_of_checked
    rintro org ⟨services, service⟩
    exact .modify _
  | revokeService certificate =>
    apply kept_of_checked
    rintro org ⟨services, service, certif⟩
    exact .bind (.modify _) fun _ => .modify _
  | bootstrap token key u ru d rd s =>
    apply kept_of_checked
    rintro org ⟨user, device, authority⟩
    exact .bind (.modify _) fun _ => .bind (.modify _) fun _ =>
      .bind (assertNow_stored _) fun _ => .bind (.modify _) fun _ =>
      .bind (assertNow_stored _) fun _ => .bind (.modify _) fun _ =>
      .bind (assertNow_stored _) fun _ => .bind (.modify _) fun _ =>
      .bind (assertNow_stored _) fun _ => .bind (assertNow_stored _) fun _ =>
      startSequester_stored _ _
  | submit submission => exact absurd rfl (other submission)
  | reject author enrollmentId =>
    apply kept_of_checked
    intro org enrollment
    exact .modify _
  | accept request =>
    apply kept_of_checked
    rintro org ⟨user, device, enrollment⟩
    exact .bind (.modify _) fun _ => .bind (.modify _) fun _ =>
      .bind (assertNow_stored _) fun _ => .bind (.modify _) fun _ => .modify _

theorem OrganizationRequest.kept_iff (now : DateTime) (request : OrganizationRequest)
    (org : ServedOrganization) :
    (∀ refusal, (request.call now org).1 = .error refusal → refusal.IsOutcome →
      SameData org (request.call now org).2) ↔ ¬ request.CancelsThenRefuses org := by
  by_cases isSubmission : ∃ submission, request = .submit submission
  · obtain ⟨submission, rfl⟩ := isSubmission
    exact submit_kept_iff now submission org
  · constructor
    · intro _ cancels
      cases request with
      | submit submission => exact isSubmission ⟨submission, rfl⟩
      | _ => exact cancels
    · intro _ refusal refused isOutcome
      apply request.kept now _ org refusal refused isOutcome
      intro submission isSubmit
      exact isSubmission ⟨submission, isSubmit⟩

structure OrganizationID where
  text : String
  deriving DecidableEq

structure MemoryDatamodel where
  organizations : Dict OrganizationID ServedOrganization

structure MemoryDatamodel.Same (data data' : MemoryDatamodel) : Prop where
  organizations : data'.organizations.keys = data.organizations.keys
  each : ∀ id org org', data.organizations.get? id = some org →
    data'.organizations.get? id = some org' → SameData org org'

theorem MemoryDatamodel.Same.refl (data : MemoryDatamodel) : data.Same data := by
  constructor
  · rfl
  · intro id org org' found found'
    rw [found] at found'
    cases found'
    exact SameData.refl org

theorem MemoryDatamodel.same_set_iff {data : MemoryDatamodel} {id : OrganizationID}
    {org org' : ServedOrganization} (found : data.organizations.get? id = some org) :
    data.Same ⟨data.organizations.set id org'⟩ ↔ SameData org org' := by
  constructor
  · intro same
    exact same.each id org org' found (Dict.get?_set_self _ _ _)
  · intro same
    constructor
    · exact Dict.keys_set_of_found found
    · intro other before after foundBefore foundAfter
      rw [Dict.get?_set] at foundAfter
      split at foundAfter
      · rename_i isId
        rw [isId, found] at foundBefore
        cases foundBefore
        cases foundAfter
        exact same
      · rw [foundBefore] at foundAfter
        cases foundAfter
        exact SameData.refl before

def OrganizationRequest.run (now : DateTime) (id : OrganizationID) (request : OrganizationRequest) :
    Call MemoryDatamodel Refusal Unit := fun data =>
  match data.organizations.get? id with
  | none => (.error .organizationNotFound, data)
  | some org =>
    let (outcome, org') := request.call now org
    (outcome, ⟨data.organizations.set id org'⟩)

/-- A refused call leaves the server as it was, unless it cancels an enrollment before it is
    refused. -/
theorem refused_call_changes_nothing (data : MemoryDatamodel) (now : DateTime)
    (id : OrganizationID) (request : OrganizationRequest) :
    (∀ refusal, (request.run now id data).1 = .error refusal → refusal.IsOutcome →
      data.Same (request.run now id data).2) ↔
        ¬ ∃ org, data.organizations.get? id = some org ∧ request.CancelsThenRefuses org := by
  unfold OrganizationRequest.run
  cases found : data.organizations.get? id with
  | none =>
    constructor
    · rintro - ⟨org, impossible, -⟩
      cases impossible
    · intro _ refusal _ _
      exact MemoryDatamodel.Same.refl data
  | some org =>
    have here := request.kept_iff now org
    simp only [MemoryDatamodel.same_set_iff found]
    rw [here]
    simp

/-- Bob, whose address is enrolled while his enrollment waits. -/
def bobEnrolled : ServedOrganization := { bootstrappedOrganization with
  users := Dict.empty.set ⟨1⟩ ⟨⟨.root, 0, ⟨1⟩, .admin⟩, ⟨"bob@example.com"⟩, [], [], [], none⟩
  pkiEnrollments := Dict.empty.set ⟨1⟩
    ⟨⟨1⟩, [7], [], [], 1, none, none, none, .submitted, none, none, none⟩ }

def forcedSubmission : SubmitRequest := ⟨⟨2⟩, true, [7], ⟨"bob@example.com"⟩, [], ⟨[], true⟩⟩

theorem refused_submission_cancels :
    ¬ ∀ (data : MemoryDatamodel) (now : DateTime) (id : OrganizationID)
      (request : OrganizationRequest) (refusal : Refusal),
      (request.run now id data).1 = .error refusal → refusal.IsOutcome →
        data.Same (request.run now id data).2 := by
  intro claim
  let data : MemoryDatamodel := ⟨Dict.empty.set ⟨"Coolorg"⟩ bobEnrolled⟩
  have found : data.organizations.get? ⟨"Coolorg"⟩ = some bobEnrolled := Dict.get?_set_self _ _ _
  have kept := claim data 2 ⟨"Coolorg"⟩ (.submit forcedSubmission)
  unfold OrganizationRequest.run at kept
  simp only [found, MemoryDatamodel.same_set_iff found] at kept
  apply (submit_kept_iff 2 forcedSubmission bobEnrolled).mp kept
  exact ⟨rfl, rfl, rfl, rfl, ⟨_, rfl, rfl⟩, by decide⟩

end ParsecCloud.Server

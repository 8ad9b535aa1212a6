import ParsecCloud.Certif.Batch

/- The validation of certificates asserts nothing but what is about the shamir recovery topic:
   the other checks return an error and never panic. -/
namespace ParsecCloud.Certif
open Rust

def NoPanic (result : Adding α) : Prop := ∀ panic, result ≠ .error (.panicked panic)

section Steps
variable {α β : Type} {x : Adding α} {f : α → Adding β}

theorem NoPanic.ok (a : α) : NoPanic (.ok a) := fun _ impossible => by cases impossible

theorem NoPanic.pure (a : α) : NoPanic (Pure.pure a) := .ok a

theorem NoPanic.invalid (error : InvalidCertificateError) :
    NoPanic (Certif.invalid error : Adding α) := fun _ impossible => by cases impossible

theorem NoPanic.internalError (message : String) :
    NoPanic (.error (.internal message) : Adding α) := fun _ impossible => by cases impossible

theorem NoPanic.bind (first : NoPanic x) (second : ∀ a, x = .ok a → NoPanic (f a)) :
    NoPanic (x >>= f) := by
  intro panic failed
  cases found : x with
  | error error =>
    rw [found] at failed
    cases failed
    exact first panic found
  | ok a =>
    rw [found] at failed
    exact second a found panic failed

theorem NoPanic.internal (found : Except String α) : NoPanic (internal found) := by
  cases found with
  | ok a => exact .ok a
  | error message => exact .internalError message

theorem NoPanic.refuseIf (condition : Bool) (error : InvalidCertificateError) :
    NoPanic (refuseIf condition error) := by
  unfold Certif.refuseIf
  split
  · exact .invalid error
  · exact .ok ()

theorem NoPanic.onlyIf {condition : Bool} {check : Adding Unit} (safe : NoPanic check) :
    NoPanic (onlyIf condition check) := by
  unfold Certif.onlyIf
  split
  · exact safe
  · exact .ok ()

theorem NoPanic.loaded (result : Except LoadError α) : NoPanic (loaded result) := by
  cases result with
  | ok a => exact .ok a
  | error error => exact .invalid _

end Steps

section Checks
variable {storage : Storage} {hint : Hint} {date : DateTime} {user : UserID} {store : Store}

theorem checkNewest_noPanic (last : Option DateTime) : NoPanic (checkNewest last date hint) := by
  cases last with
  | none => exact .ok ()
  | some last => exact .refuseIf _ _

theorem verifySignature_noPanic {author : DeviceID} {signedBy : VerifyKey} :
    NoPanic (verifySignature hint author date signedBy store) := by
  unfold verifySignature
  split
  · split
    · exact .ok _
    · exact .invalid _
  · exact .invalid _
  · exact .invalid _
  · exact .internalError _

theorem verifySignatureOrRoot_noPanic {device : LocalDevice} {author : CertificateSigner}
    {signedBy : VerifyKey} :
    NoPanic (verifySignatureOrRoot device hint author date signedBy store) := by
  unfold verifySignatureOrRoot
  split
  · split
    · exact .ok _
    · exact .invalid _
  · exact .bind verifySignature_noPanic fun _ _ => .pure _

theorem checkUserExists_noPanic : NoPanic (checkUserExists storage date user hint) := by
  unfold checkUserExists
  split
  · exact .ok _
  · exact .invalid _
  · exact .invalid _
  · exact .internalError _

theorem checkUserNotRevoked_noPanic : NoPanic (checkUserNotRevoked storage date user hint) := by
  refine .bind (.internal _) fun revoked _ => ?_
  cases revoked with
  | none => exact .pure _
  | some revoked => exact .invalid _

theorem getUserProfile_noPanic {fetched : Option UserCertificate} :
    NoPanic (getUserProfile storage date user hint fetched) := by
  refine .bind (.internal _) fun update _ => ?_
  cases update with
  | some update => exact .pure _
  | none =>
    cases fetched with
    | some certif => exact .pure _
    | none => exact .bind checkUserExists_noPanic fun _ _ => .pure _

theorem checkAuthorNotRevokedAndProfile_noPanic {mustBeAdmin : Bool} :
    NoPanic (checkAuthorNotRevokedAndProfile storage date user mustBeAdmin hint) := by
  refine .bind (.internal _) fun revoked _ => ?_
  cases revoked with
  | some revoked => exact .invalid _
  | none =>
    dsimp only
    split
    · split
      · exact .refuseIf _ _
      · exact .internalError _
      · rename_i error _ failed
        intro panic same
        cases same
        exact getUserProfile_noPanic panic failed
    · exact .pure _

theorem checkMissing_noPanic {α : Type} (found : Except GetCertificateError α) :
    NoPanic (checkMissing found hint) := by
  unfold checkMissing
  split
  · exact .ok ()
  · exact .invalid _
  · exact .internalError _
  · exact .internalError _

theorem checkUserAuthor_noPanic {last : Option DateTime} {author : Option UserID} :
    NoPanic (checkUserAuthor storage last date author hint) := by
  unfold checkUserAuthor
  split
  · exact checkAuthorNotRevokedAndProfile_noPanic
  · refine .bind (.refuseIf _ _) fun _ _ => .bind (.internal _) fun authority _ => ?_
    cases authority with
    | some authority => exact .refuseIf _ _
    | none => exact .pure _

theorem checkDeviceTimestamp_noPanic {last : Option DateTime} {first : Bool} :
    NoPanic (checkDeviceTimestamp last date first hint) := by
  cases last with
  | none => exact .ok ()
  | some last => exact .refuseIf _ _

theorem checkDeviceAuthor_noPanic {author : Option UserID} :
    NoPanic (checkDeviceAuthor storage date user author hint) := by
  cases author with
  | none => exact .ok ()
  | some author => exact checkAuthorNotRevokedAndProfile_noPanic

theorem authorRole_noPanic {roles : List RealmRoleCertificate} :
    NoPanic (authorRole roles user hint) := by
  unfold authorRole
  split
  · exact .ok _
  · exact .invalid _

theorem checkRoleChange_noPanic {author : RealmRole} {old new : Option RealmRole} :
    NoPanic (checkRoleChange author old new hint) := by
  unfold checkRoleChange
  split
  · exact .invalid _
  · split
    · exact .invalid _
    · split
      · exact .refuseIf _ _
      · exact .refuseIf _ _

theorem checkRoleAuthor_noPanic {roles : List RealmRoleCertificate}
    {cooked : RealmRoleCertificate} : NoPanic (checkRoleAuthor roles cooked user hint) := by
  unfold checkRoleAuthor
  split
  · exact .bind (.refuseIf _ _) fun _ _ => .refuseIf _ _
  · exact .bind authorRole_noPanic fun _ _ => checkRoleChange_noPanic

theorem checkOwner_noPanic {roles : List RealmRoleCertificate} :
    NoPanic (checkOwner roles user hint) := by
  unfold checkOwner
  split
  · exact .invalid _
  · exact .bind authorRole_noPanic fun _ _ => .refuseIf _ _

theorem checkWrittenByOwner_noPanic {id : VlobID} :
    NoPanic (checkWrittenByOwner id date hint user store) :=
  .bind (checkNewest_noPanic _) fun _ _ => .bind (.internal _) fun _ _ =>
    .bind checkOwner_noPanic fun _ _ =>
    .bind checkAuthorNotRevokedAndProfile_noPanic fun _ _ => .pure _

end Checks

section Validation
variable {device : LocalDevice} {store : Store}

theorem addCommon_noPanic (signed : Signed CommonCertificate) :
    NoPanic (addCommon device store signed) := by
  refine .bind ?_ fun _ _ => .pure _
  refine .bind (.loaded _) fun loaded _ => ?_
  obtain ⟨content, key⟩ := loaded
  cases content with
  | user certif =>
    refine .bind verifySignatureOrRoot_noPanic fun _ _ => .bind ?_ fun _ _ => .pure _
    exact .bind (checkNewest_noPanic _) fun _ _ => .bind checkUserAuthor_noPanic fun _ _ =>
      .bind (checkMissing_noPanic _) fun _ _ => .pure _
  | device certif =>
    refine .bind verifySignatureOrRoot_noPanic fun _ _ => .bind ?_ fun _ _ => .pure _
    exact .bind checkDeviceTimestamp_noPanic fun _ _ => .bind checkDeviceAuthor_noPanic fun _ _ =>
      .bind checkUserExists_noPanic fun _ _ =>
      .bind (.onlyIf (.bind (.refuseIf _ _) fun _ _ => .refuseIf _ _)) fun _ _ =>
      .bind checkUserNotRevoked_noPanic fun _ _ => .bind (checkMissing_noPanic _) fun _ _ => .pure _
  | userUpdate certif =>
    refine .bind verifySignature_noPanic fun _ _ => .bind ?_ fun _ _ => .pure _
    exact .bind (checkNewest_noPanic _) fun _ _ => .bind (.refuseIf _ _) fun _ _ =>
      .bind checkAuthorNotRevokedAndProfile_noPanic fun _ _ =>
      .bind checkUserExists_noPanic fun _ _ => .bind checkUserNotRevoked_noPanic fun _ _ =>
      .bind getUserProfile_noPanic fun _ _ => .bind (.refuseIf _ _) fun _ _ => .pure _
  | revokedUser certif =>
    refine .bind verifySignature_noPanic fun _ _ => .bind ?_ fun _ _ => .pure _
    exact .bind (checkNewest_noPanic _) fun _ _ => .bind (.refuseIf _ _) fun _ _ =>
      .bind checkAuthorNotRevokedAndProfile_noPanic fun _ _ =>
      .bind checkUserExists_noPanic fun _ _ => .bind checkUserNotRevoked_noPanic fun _ _ => .pure _

theorem addRealm_noPanic (id : VlobID) (signed : Signed RealmCertificate) :
    NoPanic (addRealm id store signed) := by
  refine .bind ?_ fun _ _ => .pure _
  refine .bind (.loaded _) fun loaded _ => ?_
  obtain ⟨content, key⟩ := loaded
  cases content with
  | role certif =>
    refine .bind verifySignature_noPanic fun _ _ => .bind (.refuseIf _ _) fun _ _ =>
      .bind ?_ fun _ _ => .pure _
    exact .bind (checkNewest_noPanic _) fun _ _ => .bind (.internal _) fun _ _ =>
      .bind checkRoleAuthor_noPanic fun _ _ => .bind checkUserExists_noPanic fun _ _ =>
      .bind (.onlyIf checkUserNotRevoked_noPanic) fun _ _ =>
      .bind getUserProfile_noPanic fun _ _ => .bind (.refuseIf _ _) fun _ _ => .pure _
  | name certif =>
    exact .bind verifySignature_noPanic fun _ _ => .bind (.refuseIf _ _) fun _ _ =>
      .bind checkWrittenByOwner_noPanic fun _ _ => .pure _
  | keyRotation certif =>
    exact .bind verifySignature_noPanic fun _ _ => .bind (.refuseIf _ _) fun _ _ =>
      .bind checkWrittenByOwner_noPanic fun _ _ => .pure _
  | archiving certif =>
    exact .bind verifySignature_noPanic fun _ _ => .bind (.refuseIf _ _) fun _ _ =>
      .bind checkWrittenByOwner_noPanic fun _ _ => .pure _

theorem validateSequesterNonAuthority_noPanic (date : DateTime) (signed : SignedSequester) :
    NoPanic (validateSequesterNonAuthorityCertificate date signed store) := by
  refine .bind (.internal _) fun authority _ => ?_
  cases authority with
  | none => exact .invalid _
  | some authority =>
    cases signed with
    | malformed error => exact .invalid _
    | authority content key => exact .invalid _
    | service content key =>
      dsimp only
      split
      · refine .bind ?_ fun _ _ => .pure _
        exact .bind (checkNewest_noPanic _) fun _ _ => .bind (.internal _) fun _ _ =>
          .bind (.refuseIf _ _) fun _ _ => .pure _
      · exact .invalid _
    | revokedService content key =>
      dsimp only
      split
      · refine .bind ?_ fun _ _ => .pure _
        refine .bind (checkNewest_noPanic _) fun _ _ => .bind (.internal _) fun revoked _ => ?_
        cases revoked with
        | none => exact .pure _
        | some revoked => exact .invalid _
      · exact .invalid _

theorem addSequester_noPanic (signed : SignedSequester) :
    NoPanic (addSequester device store signed) := by
  refine .bind ?_ fun _ _ => .pure _
  unfold validateSequesterCertificate
  generalize store.getLastTimestamps = read
  obtain ⟨last, seen⟩ := read
  dsimp only
  split
  · cases signed with
    | malformed error => exact .invalid _
    | service content key => exact .invalid _
    | revokedService content key => exact .invalid _
    | authority content key =>
      unfold validateSequesterAuthorityCertificate
      dsimp only
      split
      · exact .bind (.bind (.refuseIf _ _) fun _ _ => .pure _) fun _ _ => .pure _
      · exact .invalid _
  · exact validateSequesterNonAuthority_noPanic _ signed

end Validation

end ParsecCloud.Certif

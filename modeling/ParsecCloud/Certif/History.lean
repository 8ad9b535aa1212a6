import ParsecCloud.Certif.Accepted
import ParsecCloud.Lib.Runs

/- The certificates stored by a sequence of batches, in the order they were validated. -/
namespace ParsecCloud.Certif
open Rust HashMap Storage Journal Runs

variable {device : LocalDevice} {store store' : Store} {batch : Batch}

/-- Every stored certificate was accepted over those stored before it. -/
structure Authentic (store : Store) : Prop extends Trusted store where
  history : Admitted Accepted store.storage

def Adds (added : List Certificate) (store store' : Store) : Prop :=
  Authentic store → Authentic store' ∧ store'.storage = store.storage ++ added

theorem Adds.trans {first second : List Certificate} {store'' : Store}
    (one : Adds first store store') (two : Adds second store' store'') :
    Adds (first ++ second) store store'' := by
  intro sound
  obtain ⟨sound', same⟩ := one sound
  obtain ⟨sound'', same'⟩ := two sound'
  exact ⟨sound'', by rw [same', same, List.append_assoc]⟩

theorem validated_after {seen : Store} {certif : Certificate} (same : seen.storage = store.storage)
    (checked : Validated seen store' ∧ Accepted seen.storage certif) :
    Validated store store' ∧ Accepted store.storage certif := by
  obtain ⟨validated, accepted⟩ := checked
  exact ⟨⟨validated.storage.trans same, validated.trusted, validated.present⟩, same ▸ accepted⟩

section Validate
variable (sound : Authentic store)

include sound

theorem verifySignature_sound {author : DeviceID} {date : DateTime} {signedBy : VerifyKey}
    {hint : Hint} {user : UserID} {seen : Store}
    (checked : verifySignature hint author date signedBy store = .ok (user, seen)) :
    seen.storage = store.storage ∧ Authentic seen ∧ HasDevice seen.storage date user author := by
  obtain ⟨ofUser, same, trusted⟩ := verifySignature_ok sound.toTrusted checked
  exact ⟨same, ⟨trusted, same ▸ sound.history⟩, same ▸ ofUser⟩

theorem verifySignatureOrRoot_sound {author : CertificateSigner} {date : DateTime}
    {signedBy : VerifyKey} {hint : Hint} {signer : Option UserID} {seen : Store}
    (checked : verifySignatureOrRoot device hint author date signedBy store = .ok (signer, seen)) :
    seen.storage = store.storage ∧ Authentic seen ∧ SignedBy seen.storage date author signer := by
  obtain ⟨signed, same, trusted⟩ := verifySignatureOrRoot_ok sound.toTrusted checked
  exact ⟨same, ⟨trusted, same ▸ sound.history⟩, same ▸ signed⟩

theorem validateCommonCertificate_ok {signed : Signed CommonCertificate}
    {cooked : CommonCertificate}
    (checked : validateCommonCertificate device signed store = .ok (cooked, store')) :
    signed.certificates .common = [.common cooked] ∧ Validated store store' ∧
      Accepted store.storage (.common cooked) := by
  unfold validateCommonCertificate at checked
  obtain ⟨⟨content, key⟩, load, checked⟩ := bind_eq_ok.mp checked
  have content_eq := unsecureLoad_ok (loaded_ok.mp load) .common
  cases content with
  | user certif =>
    obtain ⟨⟨signer, seen⟩, signature, checked⟩ := bind_eq_ok.mp checked
    obtain ⟨last, consistent, checked⟩ := bind_eq_ok.mp checked
    cases checked
    obtain ⟨same, sound', signed⟩ := verifySignatureOrRoot_sound sound signature
    exact ⟨content_eq, validated_after same
      (checkUserCertificateConsistency_ok sound'.toTrusted signed consistent)⟩
  | device certif =>
    obtain ⟨⟨signer, seen⟩, signature, checked⟩ := bind_eq_ok.mp checked
    obtain ⟨last, consistent, checked⟩ := bind_eq_ok.mp checked
    cases checked
    obtain ⟨same, sound', signed⟩ := verifySignatureOrRoot_sound sound signature
    exact ⟨content_eq, validated_after same
      (checkDeviceCertificateConsistency_ok sound'.toTrusted signed consistent)⟩
  | userUpdate certif =>
    obtain ⟨⟨signer, seen⟩, signature, checked⟩ := bind_eq_ok.mp checked
    obtain ⟨last, consistent, checked⟩ := bind_eq_ok.mp checked
    cases checked
    obtain ⟨same, sound', signed⟩ := verifySignature_sound sound signature
    exact ⟨content_eq, validated_after same
      (checkUserUpdateCertificateConsistency_ok sound'.toTrusted sound'.history signed consistent)⟩
  | revokedUser certif =>
    obtain ⟨⟨signer, seen⟩, signature, checked⟩ := bind_eq_ok.mp checked
    obtain ⟨last, consistent, checked⟩ := bind_eq_ok.mp checked
    cases checked
    obtain ⟨same, sound', signed⟩ := verifySignature_sound sound signature
    exact ⟨content_eq, validated_after same
      (checkRevokedUserCertificateConsistency_ok sound'.toTrusted signed consistent)⟩

theorem validateRealmCertificate_ok {id : VlobID} {signed : Signed RealmCertificate}
    {cooked : RealmCertificate}
    (checked : validateRealmCertificate id signed store = .ok (cooked, store')) :
    signed.certificates .realm = [.realm cooked] ∧ Validated store store' ∧
      Accepted store.storage (.realm cooked) := by
  unfold validateRealmCertificate at checked
  obtain ⟨⟨content, key⟩, load, checked⟩ := bind_eq_ok.mp checked
  have content_eq := unsecureLoad_ok (loaded_ok.mp load) .realm
  cases content with
  | role certif =>
    obtain ⟨⟨signer, seen⟩, signature, checked⟩ := bind_eq_ok.mp checked
    obtain ⟨_, _, checked⟩ := bind_eq_ok.mp checked
    obtain ⟨last, consistent, checked⟩ := bind_eq_ok.mp checked
    cases checked
    obtain ⟨same, sound', signed⟩ := verifySignature_sound sound signature
    exact ⟨content_eq, validated_after same
      (checkRealmRoleCertificateConsistency_ok sound'.toTrusted sound'.history signed consistent)⟩
  | name certif =>
    obtain ⟨⟨signer, seen⟩, signature, checked⟩ := bind_eq_ok.mp checked
    obtain ⟨_, _, checked⟩ := bind_eq_ok.mp checked
    obtain ⟨last, consistent, checked⟩ := bind_eq_ok.mp checked
    cases checked
    obtain ⟨same, sound', signed⟩ := verifySignature_sound sound signature
    exact ⟨content_eq, validated_after same (checkWrittenByOwner_ok sound'.toTrusted sound'.history
      (fun _ role => by cases role) rfl signed consistent)⟩
  | keyRotation certif =>
    obtain ⟨⟨signer, seen⟩, signature, checked⟩ := bind_eq_ok.mp checked
    obtain ⟨_, _, checked⟩ := bind_eq_ok.mp checked
    obtain ⟨last, consistent, checked⟩ := bind_eq_ok.mp checked
    cases checked
    obtain ⟨same, sound', signed⟩ := verifySignature_sound sound signature
    exact ⟨content_eq, validated_after same (checkWrittenByOwner_ok sound'.toTrusted sound'.history
      (fun _ role => by cases role) rfl signed consistent)⟩
  | archiving certif =>
    obtain ⟨⟨signer, seen⟩, signature, checked⟩ := bind_eq_ok.mp checked
    obtain ⟨_, _, checked⟩ := bind_eq_ok.mp checked
    obtain ⟨last, consistent, checked⟩ := bind_eq_ok.mp checked
    cases checked
    obtain ⟨same, sound', signed⟩ := verifySignature_sound sound signature
    exact ⟨content_eq, validated_after same (checkWrittenByOwner_ok sound'.toTrusted sound'.history
      (fun _ role => by cases role) rfl signed consistent)⟩

theorem validateShamirRecoveryCertificate_ok {signed : Signed ShamirRecoveryCertificate}
    {cooked : ShamirRecoveryCertificate}
    (checked : validateShamirRecoveryCertificate device signed store = .ok (cooked, store')) :
    signed.certificates .shamirRecovery = [.shamirRecovery cooked] ∧ Validated store store' ∧
      Accepted store.storage (.shamirRecovery cooked) := by
  unfold validateShamirRecoveryCertificate at checked
  obtain ⟨⟨content, key⟩, load, checked⟩ := bind_eq_ok.mp checked
  have content_eq :=
    unsecureLoad_ok (unsecureLoadShamirRecovery_ok (loaded_ok.mp load)) .shamirRecovery
  cases content with
  | brief certif =>
    obtain ⟨⟨signer, seen⟩, signature, checked⟩ := bind_eq_ok.mp checked
    obtain ⟨last, consistent, checked⟩ := bind_eq_ok.mp checked
    cases checked
    obtain ⟨same, sound', signed⟩ := verifySignature_sound sound signature
    exact ⟨content_eq, validated_after same
      (checkShamirRecoveryBriefCertificateConsistency_ok sound'.toTrusted signed consistent)⟩
  | share certif =>
    obtain ⟨⟨signer, seen⟩, signature, checked⟩ := bind_eq_ok.mp checked
    obtain ⟨last, consistent, checked⟩ := bind_eq_ok.mp checked
    cases checked
    obtain ⟨same, sound', signed⟩ := verifySignature_sound sound signature
    exact ⟨content_eq, validated_after same
      (checkShamirRecoveryShareCertificateConsistency_ok sound'.toTrusted signed consistent)⟩
  | deletion certif =>
    obtain ⟨⟨signer, seen⟩, signature, checked⟩ := bind_eq_ok.mp checked
    obtain ⟨last, consistent, checked⟩ := bind_eq_ok.mp checked
    cases checked
    obtain ⟨same, sound', signed⟩ := verifySignature_sound sound signature
    exact ⟨content_eq, validated_after same
      (checkShamirRecoveryDeletionCertificateConsistency_ok sound'.toTrusted signed consistent)⟩

end Validate

section Add

theorem Accepted.lastCommon {rows : Storage} {certif : CommonCertificate}
    (accepted : Accepted rows (.common certif)) :
    ∀ other, .common other ∈ rows → other.timestamp ≤ certif.timestamp := by
  intro other stored
  cases accepted with
  | bootstrap _ _ none => exact absurd stored (none other)
  | user _ _ _ _ _ _ newest => exact le_of_lt (newest other stored)
  | firstDevice _ _ _ _ _ _ _ last => exact last other stored
  | device _ _ _ _ newest => exact le_of_lt (newest other stored)
  | userUpdate _ _ _ _ _ _ _ newest => exact le_of_lt (newest other stored)
  | revokedUser _ _ _ _ _ _ newest => exact le_of_lt (newest other stored)

theorem adds_certificate {seen : Store} {certif : Certificate} (sound : Authentic store)
    (validated : Validated store seen) (accepted : Accepted store.storage certif)
    (trusted : Trusted store') (added : store'.storage = seen.storage ++ [certif]) :
    Authentic store' ∧ store'.storage = store.storage ++ [certif] := by
  rw [validated.storage] at added
  refine ⟨⟨trusted, ?_⟩, added⟩
  rw [added]
  exact admitted_concat.mpr ⟨sound.history, accepted⟩

theorem addCommon_adds {signed : Signed CommonCertificate}
    (run : addCommon device store signed = .ok store') :
    Adds (signed.certificates .common) store store' := by
  intro sound
  obtain ⟨⟨cooked, seen⟩, checked, run⟩ := bind_eq_ok.mp run
  cases run
  obtain ⟨content, validated, accepted⟩ := validateCommonCertificate_ok sound checked
  rw [content]
  apply adds_certificate sound validated accepted _ rfl
  apply addNextCommon_trusted validated.trusted validated.present
  rw [validated.storage]
  exact accepted.lastCommon

theorem addRealm_adds {id : VlobID} {signed : Signed RealmCertificate}
    (run : addRealm id store signed = .ok store') :
    Adds (signed.certificates .realm) store store' := by
  intro sound
  obtain ⟨⟨cooked, seen⟩, checked, run⟩ := bind_eq_ok.mp run
  cases run
  obtain ⟨content, validated, accepted⟩ := validateRealmCertificate_ok sound checked
  rw [content]
  apply adds_certificate sound validated accepted _ rfl
  apply addNextRealmX_trusted validated.trusted validated.present
  rw [validated.storage]
  exact fun other stored ofRealm => le_of_lt (accepted.afterRealm other stored ofRealm)

theorem addShamirRecovery_adds {state state' : NextShamirCertifExpect × Store}
    {signed : Signed ShamirRecoveryCertificate}
    (run : addShamirRecovery device state signed = .ok state') :
    Adds (signed.certificates .shamirRecovery) state.2 state'.2 := by
  intro sound
  obtain ⟨⟨cooked, seen⟩, checked, run⟩ := bind_eq_ok.mp run
  obtain ⟨expected, _, run⟩ := bind_eq_ok.mp run
  cases run
  obtain ⟨content, validated, accepted⟩ := validateShamirRecoveryCertificate_ok sound checked
  rw [content]
  apply adds_certificate sound validated accepted _ rfl
  apply addNextShamirRecovery_trusted validated.trusted validated.present
  rw [validated.storage]
  cases accepted
  assumption

theorem addSequester_adds {signed : SignedSequester}
    (run : addSequester device store signed = .ok store') :
    Adds signed.certificates store store' := by
  intro sound
  obtain ⟨⟨cooked, seen⟩, checked, run⟩ := bind_eq_ok.mp run
  cases run
  obtain ⟨content, validated, accepted⟩ :=
    validateSequesterCertificate_ok sound.toTrusted checked
  rw [content]
  apply adds_certificate sound validated accepted _ rfl
  apply addNextSequester_trusted validated.trusted validated.present
  rw [validated.storage]
  cases accepted
  assumption

theorem addTopics_adds (run : addTopics device batch store = .ok store') :
    Adds batch.arrivals store store' :=
  addTopics_relates (fun _ sound => ⟨sound, (List.append_nil _).symm⟩)
    (fun _ _ _ _ _ => Adds.trans) (fun _ _ _ => addSequester_adds) (fun _ _ _ => addCommon_adds)
    (fun _ _ _ _ => addRealm_adds) (fun _ _ _ => addShamirRecovery_adds) run

end Add

theorem getCurrentSelfProfile_adds {profile : UserProfile}
    (read : store.getCurrentSelfProfile device = .ok (profile, store')) :
    Adds [] store store' := by
  intro sound
  rw [List.append_nil]
  unfold Store.getCurrentSelfProfile at read
  split at read
  · cases read
    exact ⟨sound, rfl⟩
  · obtain ⟨known, _, read⟩ := bind_eq_ok.mp read
    cases read
    exact ⟨{ sound with }, rfl⟩

theorem getLastTimestamps_adds {last : PerTopicLastTimestamps}
    (read : store.getLastTimestamps = (last, store')) : Adds [] store store' := by
  intro sound
  have same := getLastTimestamps_storage store
  have trusted := getLastTimestamps_trusted sound.toTrusted
  rw [read] at same trusted
  rw [List.append_nil]
  exact ⟨⟨trusted, same ▸ sound.history⟩, same⟩

/-- What a call goes through: the profile is read before the certificates are added, and it may be
    read again after that. -/
theorem addCertificatesBatch_cases {outcome : MaybeRedactedSwitch}
    (run : addCertificatesBatch device batch store = .ok (outcome, store')) :
    batch.isEmpty = true ∧ store' = store ∨
    ∃ profile known added,
      store.getLastTimestamps.2.getCurrentSelfProfile device = .ok (profile, known) ∧
      addTopics device batch known = .ok added ∧
      (store' = added ∨ (∃ profile, added.getCurrentSelfProfile device = .ok (profile, store')) ∨
        outcome = .switched ∧ store' = ⟨[], .empty⟩) := by
  unfold addCertificatesBatch at run
  split at run
  · rename_i empty
    cases run
    exact .inl ⟨empty, rfl⟩
  · obtain ⟨last, seen, read⟩ : ∃ last seen, store.getLastTimestamps = (last, seen) := ⟨_, _, rfl⟩
    rw [read] at run
    obtain ⟨⟨initial, known⟩, selfProfile, run⟩ := bind_eq_ok.mp run
    obtain ⟨added, topics, run⟩ := bind_eq_ok.mp run
    rw [read]
    refine .inr ⟨initial, known, added, internal_ok.mp selfProfile, topics, ?_⟩
    split at run
    · cases run
      exact .inl rfl
    · obtain ⟨⟨new, last⟩, profile, run⟩ := bind_eq_ok.mp run
      dsimp only at run
      split at run
      · cases run
        exact .inr (.inr ⟨rfl, rfl⟩)
      · cases run
        exact .inr (.inl ⟨new, internal_ok.mp profile⟩)

/-- A batch adds all its certificates, or else every certificate is forgotten. -/
theorem addCertificatesBatch_adds {outcome : MaybeRedactedSwitch}
    (run : addCertificatesBatch device batch store = .ok (outcome, store')) :
    Adds batch.arrivals store store' ∨ outcome = .switched ∧ store' = ⟨[], .empty⟩ := by
  rcases addCertificatesBatch_cases run with ⟨empty, rfl⟩ | ⟨_, known, added, profile, topics, last⟩
  · left
    intro sound
    rw [arrivals_of_isEmpty empty, List.append_nil]
    exact ⟨sound, rfl⟩
  · have adds : Adds batch.arrivals store added :=
      ((getLastTimestamps_adds rfl).trans (getCurrentSelfProfile_adds profile)).trans
        (addTopics_adds topics)
    rcases last with rfl | ⟨_, again⟩ | switched
    · exact .inl adds
    · have all := adds.trans (getCurrentSelfProfile_adds again)
      rw [List.append_nil] at all
      exact .inl all
    · exact .inr switched

def AddsBatch (device : LocalDevice) (store : Store) (batch : Batch) (store' : Store) : Prop :=
  ∃ outcome, addCertificatesBatch device batch store = .ok (outcome, store')

/-- The certificates of the batch meet a condition over those before them. -/
def Admits (P : Storage → Certificate → Prop) (store : Store) (batch : Batch) : Prop :=
  Admitted (fun before => P (store.storage ++ before)) batch.arrivals

/-- The stores reached from the empty one by batches of certificates that meet a condition. -/
def Reached (device : LocalDevice) (P : Storage → Certificate → Prop) (store : Store) : Prop :=
  Run (AddsBatch device) (Admits P) (Store.start []) store

def Reachable (device : LocalDevice) : Store → Prop := Reached device fun _ _ => True

theorem Reached.sound {P : Storage → Certificate → Prop} (reached : Reached device P store) :
    Authentic store ∧ Admitted P store.storage := by
  apply reached.keeps
  · exact ⟨⟨trusted_empty [], admitted_nil⟩, admitted_nil⟩
  · rintro store batch store' ⟨sound, met⟩ admits ⟨outcome, run⟩
    rcases addCertificatesBatch_adds run with adds | ⟨_, rfl⟩
    · obtain ⟨sound', added⟩ := adds sound
      refine ⟨sound', ?_⟩
      rw [added]
      exact admitted_append.mpr ⟨met, admits⟩
    · exact ⟨⟨trusted_empty [], admitted_nil⟩, admitted_nil⟩

theorem Reached.spec {P : Storage → Certificate → Prop} (reached : Reached device P store) :
    Admitted Accepted store.storage ∧ Admitted P store.storage :=
  ⟨reached.sound.1.history, reached.sound.2⟩

end ParsecCloud.Certif

import ParsecCloud.Certif.Batch
import ParsecCloud.Certif.Insertion

/- What a batch does to any store, whatever it holds: its certificates are appended, and the
   profile of our own user follows them. -/
namespace ParsecCloud.Certif
open Rust HashMap Storage

/-- A postcondition of code that may fail. -/
def Yields (post : α → Prop) (result : Adding α) : Prop := ∀ a, result = .ok a → post a

section Yields
variable {α β : Type} {post : β → Prop} {x : Adding α} {f : α → Adding β} {b : β}

theorem Yields.pure (met : post b) : Yields post (pure b) := by
  intro a same
  cases same
  exact met

theorem Yields.bind {mid : α → Prop} (first : Yields mid x)
    (second : ∀ a, mid a → Yields post (f a)) : Yields post (x >>= f) := by
  intro b done
  obtain ⟨a, found, done⟩ := bind_eq_ok.mp done
  exact second a (first a found) b done

theorem Yields.after (second : ∀ a, Yields post (f a)) : Yields post (x >>= f) :=
  Yields.bind (fun _ _ => trivial) fun a (_ : True) => second a

theorem Yields.refused {error : AddError} : Yields post (.error error : Adding β) := by
  intro a impossible
  cases impossible

end Yields

theorem internal_ok {α : Type} {found : Except String α} {a : α} :
    internal found = .ok a ↔ found = .ok a := by
  cases found <;> simp [internal]

section Topics
variable {device : LocalDevice} {R : List Certificate → Store → Store → Prop}
variable (refl : ∀ store, R [] store store)
variable (trans : ∀ first second store store' store'', R first store store' →
  R second store' store'' → R (first ++ second) store store'')

include refl trans

theorem foldlM_relates {σ β : Type} (view : σ → Store) {add : σ → β → Adding σ}
    {contents : β → List Certificate} {list : List β} {s s' : σ}
    (run : list.foldlM add s = .ok s')
    (step : ∀ s b s', add s b = .ok s' → R (contents b) (view s) (view s')) :
    R (list.flatMap contents) (view s) (view s') := by
  induction list generalizing s with
  | nil =>
    cases run
    exact refl _
  | cons b rest ih =>
    obtain ⟨next, added, run⟩ := bind_eq_ok.mp run
    rw [List.flatMap_cons]
    exact trans _ _ _ _ _ (step s b next added) (ih run)

theorem addTopics_relates {batch : Batch} {store store' : Store}
    (sequester : ∀ s signed s', addSequester device s signed = .ok s' → R signed.certificates s s')
    (common : ∀ s signed s', addCommon device s signed = .ok s' →
      R (signed.certificates .common) s s')
    (realm : ∀ id s signed s', addRealm id s signed = .ok s' → R (signed.certificates .realm) s s')
    (shamirRecovery : ∀ s signed s', addShamirRecovery device s signed = .ok s' →
      R (signed.certificates .shamirRecovery) s.2 s'.2)
    (run : addTopics device batch store = .ok store') : R batch.arrivals store store' := by
  obtain ⟨afterSequester, first, run⟩ := bind_eq_ok.mp run
  obtain ⟨afterCommon, second, run⟩ := bind_eq_ok.mp run
  obtain ⟨afterRealm, third, run⟩ := bind_eq_ok.mp run
  obtain ⟨⟨expected, last⟩, fourth, run⟩ := bind_eq_ok.mp run
  have last_eq : last = store' := by
    cases expected with
    | some brief => cases run
    | none =>
      cases run
      rfl
  subst last_eq
  have first := foldlM_relates refl trans id first sequester
  have second := foldlM_relates refl trans id second common
  have third := foldlM_relates refl trans id third fun _ entry _ added =>
    foldlM_relates refl trans id added (realm entry.1)
  have fourth := foldlM_relates refl trans Prod.snd fourth shamirRecovery
  exact trans _ _ _ _ _ (trans _ _ _ _ _ (trans _ _ _ _ _ first second) third) fourth

end Topics

/-- Nothing but the last timestamps and the device keys of the cache has changed. -/
structure Seen (store store' : Store) : Prop where
  storage : store'.storage = store.storage
  selfProfile : store'.cache.selfProfile = store.cache.selfProfile
  realmKeys : store'.cache.perRealmKeys = store.cache.perRealmKeys

section Seen
variable {device : LocalDevice} {store store' : Store}

theorem Seen.rfl : Seen store store := ⟨Eq.refl _, Eq.refl _, Eq.refl _⟩

theorem Seen.trans {store'' : Store} (first : Seen store store') (second : Seen store' store'') :
    Seen store store'' :=
  ⟨second.storage.trans first.storage, second.selfProfile.trans first.selfProfile,
    second.realmKeys.trans first.realmKeys⟩

theorem getLastTimestamps_seen : Seen store store.getLastTimestamps.2 := by
  unfold Store.getLastTimestamps
  split
  · exact .rfl
  · exact ⟨Eq.refl _, Eq.refl _, Eq.refl _⟩

theorem getDeviceVerifyKeyAndUserId_seen {upTo : UpTo} {id : DeviceID}
    {found : VerifyKey × UserID}
    (read : store.getDeviceVerifyKeyAndUserId upTo id = .ok (found, store')) :
    Seen store store' := by
  unfold Store.getDeviceVerifyKeyAndUserId at read
  split at read
  · split at read
    · split at read
      · cases read
      · cases read
        exact .rfl
    · cases read
      exact .rfl
  · obtain ⟨certif, _, read⟩ := bind_eq_ok.mp read
    cases read
    exact ⟨Eq.refl _, Eq.refl _, Eq.refl _⟩

theorem verifySignature_seen {hint : Hint} {author : DeviceID} {date : DateTime}
    {signedBy : VerifyKey} :
    Yields (fun signed => Seen store signed.2)
      (verifySignature hint author date signedBy store) := by
  intro signed checked
  unfold verifySignature at checked
  split at checked
  · rename_i read
    split at checked
    · cases checked
      exact getDeviceVerifyKeyAndUserId_seen read
    · cases checked
  · cases checked
  · cases checked
  · cases checked

theorem checkUserCertificateConsistency_seen {cooked : UserCertificate} {signer : Option UserID} :
    Yields (Seen store) (checkUserCertificateConsistency cooked signer store) :=
  .after fun _ => .after fun _ => .after fun _ => .pure getLastTimestamps_seen

theorem checkDeviceCertificateConsistency_seen {cooked : DeviceCertificate}
    {signer : Option UserID} :
    Yields (Seen store) (checkDeviceCertificateConsistency cooked signer store) :=
  .after fun _ => .after fun _ => .after fun _ => .after fun _ => .after fun _ => .after fun _ =>
    .pure getLastTimestamps_seen

theorem checkUserUpdateCertificateConsistency_seen {cooked : UserUpdateCertificate}
    {author : UserID} :
    Yields (Seen store) (checkUserUpdateCertificateConsistency cooked author store) :=
  .after fun _ => .after fun _ => .after fun _ => .after fun _ => .after fun _ => .after fun _ =>
    .after fun _ => .pure getLastTimestamps_seen

theorem checkRevokedUserCertificateConsistency_seen {cooked : RevokedUserCertificate}
    {author : UserID} :
    Yields (Seen store) (checkRevokedUserCertificateConsistency cooked author store) :=
  .after fun _ => .after fun _ => .after fun _ => .after fun _ => .after fun _ =>
    .pure getLastTimestamps_seen

theorem checkRealmRoleCertificateConsistency_seen {cooked : RealmRoleCertificate}
    {author : UserID} :
    Yields (Seen store) (checkRealmRoleCertificateConsistency cooked author store) :=
  .after fun _ => .after fun _ => .after fun _ => .after fun _ => .after fun _ => .after fun _ =>
    .after fun _ => .pure getLastTimestamps_seen

theorem checkWrittenByOwner_seen {id : VlobID} {date : DateTime} {hint : Hint} {author : UserID} :
    Yields (Seen store) (checkWrittenByOwner id date hint author store) :=
  .after fun _ => .after fun _ => .after fun _ => .after fun _ => .pure getLastTimestamps_seen

theorem checkShamirRecoveryBriefCertificateConsistency_seen
    {cooked : ShamirRecoveryBriefCertificate} {author : UserID} :
    Yields (Seen store)
      (checkShamirRecoveryBriefCertificateConsistency device cooked author store) :=
  .after fun _ => .after fun _ => .after fun _ => .after fun _ => .after fun _ => .after fun _ =>
    .after fun _ => .after fun _ => .pure getLastTimestamps_seen

theorem checkShamirRecoveryShareCertificateConsistency_seen
    {cooked : ShamirRecoveryShareCertificate} {author : UserID} :
    Yields (Seen store)
      (checkShamirRecoveryShareCertificateConsistency device cooked author store) :=
  .after fun _ => .after fun _ => .after fun _ => .after fun _ => .after fun _ => .after fun _ =>
    .after fun _ => .after fun _ => .pure getLastTimestamps_seen

theorem checkShamirRecoveryDeletionCertificateConsistency_seen
    {cooked : ShamirRecoveryDeletionCertificate} {author : UserID} :
    Yields (Seen store)
      (checkShamirRecoveryDeletionCertificateConsistency device cooked author store) :=
  .after fun _ => .after fun _ => .after fun _ => .after fun _ => .after fun _ => .after fun _ =>
    .after fun _ => .pure getLastTimestamps_seen

theorem verifySignatureOrRoot_seen {hint : Hint} {author : CertificateSigner} {date : DateTime}
    {signedBy : VerifyKey} :
    Yields (fun signed => Seen store signed.2)
      (verifySignatureOrRoot device hint author date signedBy store) := by
  cases author with
  | root =>
    unfold verifySignatureOrRoot
    dsimp only
    split
    · exact .pure .rfl
    · exact .refused
  | user id => exact .bind verifySignature_seen fun _ seen => .pure seen

theorem loaded_ok {α : Type} {result : Except LoadError α} {a : α} :
    loaded result = .ok a ↔ result = .ok a := by
  cases result <;> simp [loaded, invalid]

theorem unsecureLoad_ok {α : Type} {signed : Signed α} {content : α} {key : VerifyKey}
    (load : signed.unsecureLoad = .ok (content, key)) (wrap : α → Certificate) :
    signed.certificates wrap = [wrap content] := by
  cases signed with
  | malformed error => cases load
  | certificate content signedBy =>
    cases load
    rfl

theorem unsecureLoadShamirRecovery_ok {signed : Signed ShamirRecoveryCertificate}
    {content : ShamirRecoveryCertificate} {key : VerifyKey}
    (load : unsecureLoadShamirRecovery signed = .ok (content, key)) :
    signed.unsecureLoad = .ok (content, key) := by
  unfold unsecureLoadShamirRecovery at load
  obtain ⟨⟨found, signedBy⟩, read, load⟩ := bind_eq_ok.mp load
  rw [read]
  cases found with
  | brief certif =>
    obtain ⟨_, _, load⟩ := bind_eq_ok.mp load
    exact load
  | share certif => exact load
  | deletion certif => exact load

theorem loaded_certificates (signed : Signed α) (wrap : α → Certificate) :
    Yields (fun found => signed.certificates wrap = [wrap found.1])
      (loaded signed.unsecureLoad) :=
  fun _ load => unsecureLoad_ok (loaded_ok.mp load) wrap

theorem validateCommonCertificate_seen {signed : Signed CommonCertificate} :
    Yields (fun cooked => signed.certificates .common = [.common cooked.1] ∧ Seen store cooked.2)
      (validateCommonCertificate device signed store) := by
  refine Yields.bind (loaded_certificates signed .common) ?_
  rintro ⟨content, key⟩ same
  cases content with
  | user certif =>
    exact .bind verifySignatureOrRoot_seen fun _ seen =>
      .bind checkUserCertificateConsistency_seen fun _ seen' => .pure ⟨same, seen.trans seen'⟩
  | device certif =>
    exact .bind verifySignatureOrRoot_seen fun _ seen =>
      .bind checkDeviceCertificateConsistency_seen fun _ seen' => .pure ⟨same, seen.trans seen'⟩
  | userUpdate certif =>
    exact .bind verifySignature_seen fun _ seen =>
      .bind checkUserUpdateCertificateConsistency_seen fun _ seen' =>
        .pure ⟨same, seen.trans seen'⟩
  | revokedUser certif =>
    exact .bind verifySignature_seen fun _ seen =>
      .bind checkRevokedUserCertificateConsistency_seen fun _ seen' =>
        .pure ⟨same, seen.trans seen'⟩

theorem validateRealmCertificate_seen {id : VlobID} {signed : Signed RealmCertificate} :
    Yields (fun cooked => signed.certificates .realm = [.realm cooked.1] ∧ Seen store cooked.2)
      (validateRealmCertificate id signed store) := by
  refine Yields.bind (loaded_certificates signed .realm) ?_
  rintro ⟨content, key⟩ same
  cases content with
  | role certif =>
    exact .bind verifySignature_seen fun _ seen => .after fun _ =>
      .bind checkRealmRoleCertificateConsistency_seen fun _ seen' =>
        .pure ⟨same, seen.trans seen'⟩
  | name certif =>
    exact .bind verifySignature_seen fun _ seen => .after fun _ =>
      .bind checkWrittenByOwner_seen fun _ seen' => .pure ⟨same, seen.trans seen'⟩
  | keyRotation certif =>
    exact .bind verifySignature_seen fun _ seen => .after fun _ =>
      .bind checkWrittenByOwner_seen fun _ seen' => .pure ⟨same, seen.trans seen'⟩
  | archiving certif =>
    exact .bind verifySignature_seen fun _ seen => .after fun _ =>
      .bind checkWrittenByOwner_seen fun _ seen' => .pure ⟨same, seen.trans seen'⟩

theorem validateShamirRecoveryCertificate_seen {signed : Signed ShamirRecoveryCertificate} :
    Yields (fun cooked => signed.certificates .shamirRecovery = [.shamirRecovery cooked.1] ∧
      Seen store cooked.2) (validateShamirRecoveryCertificate device signed store) := by
  have load : Yields (fun found => signed.certificates .shamirRecovery = [.shamirRecovery found.1])
      (loaded (unsecureLoadShamirRecovery signed)) := fun _ load =>
    unsecureLoad_ok (unsecureLoadShamirRecovery_ok (loaded_ok.mp load)) .shamirRecovery
  refine Yields.bind load ?_
  rintro ⟨content, key⟩ same
  cases content with
  | brief certif =>
    exact .bind verifySignature_seen fun _ seen =>
      .bind checkShamirRecoveryBriefCertificateConsistency_seen fun _ seen' =>
        .pure ⟨same, seen.trans seen'⟩
  | share certif =>
    exact .bind verifySignature_seen fun _ seen =>
      .bind checkShamirRecoveryShareCertificateConsistency_seen fun _ seen' =>
        .pure ⟨same, seen.trans seen'⟩
  | deletion certif =>
    exact .bind verifySignature_seen fun _ seen =>
      .bind checkShamirRecoveryDeletionCertificateConsistency_seen fun _ seen' =>
        .pure ⟨same, seen.trans seen'⟩

theorem validateSequesterAuthorityCertificate_seen {signed : SignedSequester} :
    Yields (fun cooked => signed.certificates = [.sequester cooked.1] ∧ Seen store cooked.2)
      (validateSequesterAuthorityCertificate device signed store) := by
  have consistent : ∀ cooked, Yields (Seen store)
      (checkSequesterAuthorityCertificateConsistency cooked store) :=
    fun _ => .after fun _ => .pure getLastTimestamps_seen
  unfold validateSequesterAuthorityCertificate
  split
  · split
    · exact .bind (consistent _) fun _ seen => .pure ⟨rfl, seen⟩
    · exact .refused
  · exact .refused
  · exact .refused

theorem validateSequesterNonAuthorityCertificate_seen {date : DateTime} {signed : SignedSequester} :
    Yields (fun cooked => signed.certificates = [.sequester cooked.1] ∧ Seen store cooked.2)
      (validateSequesterNonAuthorityCertificate date signed store) := by
  have service : ∀ cooked, Yields (Seen store)
      (checkSequesterServiceCertificateConsistency date cooked store) :=
    fun _ => .after fun _ => .after fun _ => .after fun _ => .pure .rfl
  have revokedService : ∀ cooked, Yields (Seen store)
      (checkSequesterRevokedServiceCertificateConsistency date cooked store) := by
    intro cooked
    refine .after fun _ => .after fun revoked => ?_
    cases revoked with
    | some revoked => exact .refused
    | none => exact .pure .rfl
  refine .after fun authority => ?_
  cases authority with
  | none => exact .refused
  | some authority =>
    dsimp only
    split
    · split
      · exact .bind (service _) fun _ seen => .pure ⟨rfl, seen⟩
      · exact .refused
    · split
      · exact .bind (revokedService _) fun _ seen => .pure ⟨rfl, seen⟩
      · exact .refused
    · exact .refused
    · exact .refused

theorem validateSequesterCertificate_seen {signed : SignedSequester} :
    Yields (fun cooked => signed.certificates = [.sequester cooked.1] ∧ Seen store cooked.2)
      (validateSequesterCertificate device signed store) := by
  intro cooked checked
  unfold validateSequesterCertificate at checked
  have seen : Seen store store.getLastTimestamps.2 := getLastTimestamps_seen
  generalize store.getLastTimestamps = read at checked seen
  obtain ⟨last, store'⟩ := read
  dsimp only at checked
  split at checked
  · obtain ⟨content, seen'⟩ := validateSequesterAuthorityCertificate_seen cooked checked
    exact ⟨content, seen.trans seen'⟩
  · obtain ⟨content, seen'⟩ := validateSequesterNonAuthorityCertificate_seen cooked checked
    exact ⟨content, seen.trans seen'⟩

end Seen

/-- The profile that a certificate gives to our own user. -/
def ownProfile (device : LocalDevice) : Certificate → Option UserProfile
  | .common (.user certif) => if certif.userId = device.userId then some certif.profile else none
  | .common (.userUpdate certif) =>
    if certif.userId = device.userId then some certif.newProfile else none
  | _ => none

/-- Our own profile once the certificates are added. -/
def profileAfter (device : LocalDevice) (certifs : List Certificate) (profile : UserProfile) :
    UserProfile :=
  certifs.foldl (fun profile certif => (ownProfile device certif).getD profile) profile

/-- The certificates are appended, and the profile in the cache follows them. -/
structure Grows (device : LocalDevice) (added : List Certificate) (store store' : Store) : Prop where
  storage : store'.storage = store.storage ++ added
  selfProfile : ∀ profile, store.cache.selfProfile = some profile →
    store'.cache.selfProfile = some (profileAfter device added profile)

section Grows
variable {device : LocalDevice} {store store' : Store}

theorem Grows.refl : Grows device [] store store :=
  ⟨(List.append_nil _).symm, fun _ found => found⟩

theorem Grows.trans {first second : List Certificate} {store'' : Store}
    (one : Grows device first store store') (two : Grows device second store' store'') :
    Grows device (first ++ second) store store'' := by
  refine ⟨by rw [two.storage, one.storage, List.append_assoc], fun profile found => ?_⟩
  rw [two.selfProfile _ (one.selfProfile profile found), profileAfter, profileAfter, profileAfter,
    List.foldl_append]

theorem Seen.grows {certif : Certificate} (seen : Seen store store') {store'' : Store}
    (storage : store''.storage = store'.storage ++ [certif])
    (selfProfile : ∀ profile, store'.cache.selfProfile = some profile →
      store''.cache.selfProfile = some ((ownProfile device certif).getD profile)) :
    Grows device [certif] store store'' :=
  ⟨by rw [storage, seen.storage], fun profile found =>
    selfProfile profile (seen.selfProfile.trans found)⟩

theorem addCommon_grows {signed : Signed CommonCertificate}
    (run : addCommon device store signed = .ok store') :
    Grows device (signed.certificates .common) store store' := by
  obtain ⟨⟨cooked, seen⟩, checked, run⟩ := bind_eq_ok.mp run
  cases run
  obtain ⟨content, unchanged⟩ := validateCommonCertificate_seen _ checked
  rw [content]
  apply unchanged.grows rfl
  intro profile found
  cases cooked with
  | user certif =>
    show (Store.setProfile _ _ _ _).selfProfile = _
    rw [setProfile_selfProfile, updateTimestampCache_selfProfile, found, ownProfile]
    split <;> rfl
  | device certif => exact (updateTimestampCache_selfProfile _ _).trans found
  | userUpdate certif =>
    show (Store.setProfile _ _ _ _).selfProfile = _
    rw [setProfile_selfProfile, updateTimestampCache_selfProfile, found, ownProfile]
    split <;> rfl
  | revokedUser certif => exact (updateTimestampCache_selfProfile _ _).trans found

theorem addRealm_grows {id : VlobID} {signed : Signed RealmCertificate}
    (run : addRealm id store signed = .ok store') :
    Grows device (signed.certificates .realm) store store' := by
  obtain ⟨⟨cooked, seen⟩, checked, run⟩ := bind_eq_ok.mp run
  cases run
  obtain ⟨content, unchanged⟩ := validateRealmCertificate_seen _ checked
  rw [content]
  apply unchanged.grows rfl
  intro profile found
  cases cooked <;> exact (updateTimestampCache_selfProfile _ _).trans found

theorem addShamirRecovery_grows {state state' : NextShamirCertifExpect × Store}
    {signed : Signed ShamirRecoveryCertificate}
    (run : addShamirRecovery device state signed = .ok state') :
    Grows device (signed.certificates .shamirRecovery) state.2 state'.2 := by
  obtain ⟨⟨cooked, seen⟩, checked, run⟩ := bind_eq_ok.mp run
  obtain ⟨expected, _, run⟩ := bind_eq_ok.mp run
  cases run
  obtain ⟨content, unchanged⟩ := validateShamirRecoveryCertificate_seen _ checked
  rw [content]
  exact unchanged.grows rfl fun profile found =>
    (updateTimestampCache_selfProfile _ _).trans found

theorem addSequester_grows {signed : SignedSequester}
    (run : addSequester device store signed = .ok store') :
    Grows device signed.certificates store store' := by
  obtain ⟨⟨cooked, seen⟩, checked, run⟩ := bind_eq_ok.mp run
  cases run
  obtain ⟨content, unchanged⟩ := validateSequesterCertificate_seen _ checked
  rw [content]
  exact unchanged.grows rfl fun profile found =>
    (updateTimestampCache_selfProfile _ _).trans found

theorem addTopics_grows {batch : Batch} (run : addTopics device batch store = .ok store') :
    Grows device batch.arrivals store store' :=
  addTopics_relates (fun _ => Grows.refl) (fun _ _ _ _ _ => Grows.trans)
    (fun _ _ _ => addSequester_grows) (fun _ _ _ => addCommon_grows)
    (fun _ _ _ _ => addRealm_grows) (fun _ _ _ => addShamirRecovery_grows) run

end Grows

section Switch
variable {device : LocalDevice} {store store' : Store} {profile : UserProfile}

theorem getCurrentSelfProfile_read
    (read : store.getCurrentSelfProfile device = .ok (profile, store')) :
    store'.storage = store.storage ∧ store'.cache.selfProfile = some profile := by
  unfold Store.getCurrentSelfProfile at read
  split at read
  · rename_i cached
    cases read
    exact ⟨rfl, cached⟩
  · obtain ⟨known, _, read⟩ := bind_eq_ok.mp read
    cases read
    exact ⟨rfl, rfl⟩

theorem getCurrentSelfProfile_cached (cached : store.cache.selfProfile = some profile) :
    store.getCurrentSelfProfile device = .ok (profile, store) := by
  unfold Store.getCurrentSelfProfile
  rw [cached]

theorem Seen.currentSelfProfile (seen : Seen store store') :
    (store'.getCurrentSelfProfile device).map Prod.fst =
      (store.getCurrentSelfProfile device).map Prod.fst := by
  unfold Store.getCurrentSelfProfile
  rw [seen.storage, seen.selfProfile]
  cases store.cache.selfProfile with
  | some profile => rfl
  | none => cases store.storage.lastProfile device.userId device.initialProfile <;> rfl

theorem arrivals_of_isEmpty {batch : Batch} (empty : batch.isEmpty = true) : batch.arrivals = [] := by
  unfold Batch.isEmpty at empty
  simp only [Bool.and_eq_true, List.isEmpty_iff] at empty
  obtain ⟨⟨⟨common, sequester⟩, shamirRecovery⟩, realm⟩ := empty
  simp [Batch.arrivals, common, sequester, shamirRecovery, realm]

/-- The certificates of the batch leave our own profile on the same side of Outsider. -/
def KeepsRedaction (device : LocalDevice) (store : Store) (batch : Batch) : Prop :=
  ∀ profile, (store.getCurrentSelfProfile device).map Prod.fst = .ok profile →
    switchesRedaction profile (profileAfter device batch.arrivals profile) = false

theorem addCertificatesBatch_appends {batch : Batch} {outcome : MaybeRedactedSwitch}
    (keeps : KeepsRedaction device store batch)
    (run : addCertificatesBatch device batch store = .ok (outcome, store')) :
    store'.storage = store.storage ++ batch.arrivals := by
  unfold addCertificatesBatch at run
  split at run
  · rename_i empty
    cases run
    rw [arrivals_of_isEmpty empty, List.append_nil]
  · have seen : Seen store store.getLastTimestamps.2 := getLastTimestamps_seen
    generalize store.getLastTimestamps = read at run seen
    obtain ⟨last, seen'⟩ := read
    obtain ⟨⟨initial, known⟩, selfProfile, run⟩ := bind_eq_ok.mp run
    obtain ⟨added, topics, run⟩ := bind_eq_ok.mp run
    have selfProfile := internal_ok.mp selfProfile
    have initial_eq : (store.getCurrentSelfProfile device).map Prod.fst = .ok initial := by
      rw [← seen.currentSelfProfile, selfProfile]
      rfl
    obtain ⟨same, cached⟩ := getCurrentSelfProfile_read selfProfile
    have grows := addTopics_grows topics
    have stored : added.storage = store.storage ++ batch.arrivals := by
      rw [grows.storage, same, seen.storage]
    dsimp only at run
    split at run
    · cases run
      exact stored
    · rw [getCurrentSelfProfile_cached (grows.selfProfile initial cached)] at run
      obtain ⟨⟨new, last⟩, profile, run⟩ := bind_eq_ok.mp run
      cases profile
      rw [if_neg (by rw [keeps initial initial_eq]; exact Bool.false_ne_true)] at run
      cases run
      exact stored

end Switch

end ParsecCloud.Certif

import ParsecCloud.Certif.Rules
import ParsecCloud.Certif.Growth

/- Each check of the validation establishes the rule of its certificate. -/
namespace ParsecCloud.Certif
open Rust HashMap Storage Journal

variable {device : LocalDevice} {store store' : Store} {storage : Storage} {hint : Hint}
variable {date : DateTime} {user : UserID}

theorem refuseIf_ok {condition : Bool} {error : InvalidCertificateError} {done : Unit} :
    refuseIf condition error = .ok done ↔ condition = false := by
  cases condition <;> simp [refuseIf, invalid]

theorem checkNewest_ok {last : Option DateTime} {done : Unit}
    (checked : checkNewest last date hint = .ok done) : ∀ known, last = some known → known < date := by
  rintro known rfl
  simpa using refuseIf_ok.mp checked

theorem checkMissing_ok {α : Type} {found : Except GetCertificateError α} {done : Unit}
    (checked : checkMissing found hint = .ok done) : found = .error .nonExisting := by
  unfold checkMissing at checked
  split at checked
  · rfl
  · cases checked
  · cases checked
  · cases checked

theorem checkUserExists_ok {certif : UserCertificate}
    (checked : checkUserExists storage date user hint = .ok certif) :
    .common (.user certif) ∈ storage ∧ certif.userId = user ∧ certif.timestamp ≤ date := by
  unfold checkUserExists at checked
  split at checked
  · rename_i found
    cases checked
    obtain ⟨stored, same, covered, _⟩ := (selects_user user).getOne_ok found
    exact ⟨stored, same, covers_timestamp.mp covered⟩
  · cases checked
  · cases checked
  · cases checked

theorem getRevokedUserCertificate_none
    (found : storage.getRevokedUserCertificate (.timestamp date) user = .ok none) :
    NotRevoked storage date user := by
  intro certif stored same
  have := (selects_revokedUser user).getMaybe_none found stored same
  exact not_le.mp (of_decide_eq_false this)

theorem checkUserNotRevoked_ok {done : Unit}
    (checked : checkUserNotRevoked storage date user hint = .ok done) :
    NotRevoked storage date user := by
  unfold checkUserNotRevoked at checked
  obtain ⟨found, read, checked⟩ := bind_eq_ok.mp checked
  cases found with
  | none => exact getRevokedUserCertificate_none (internal_ok.mp read)
  | some revoked => cases checked

theorem getUserProfile_ok {profile : UserProfile} {fetched : Option UserCertificate}
    (known : ∀ certif, fetched = some certif →
      .common (.user certif) ∈ storage ∧ certif.userId = user ∧ certif.timestamp ≤ date)
    (checked : getUserProfile storage date user hint fetched = .ok profile) :
    HasProfile storage date user profile := by
  unfold getUserProfile at checked
  obtain ⟨found, read, checked⟩ := bind_eq_ok.mp checked
  have read := internal_ok.mp read
  cases found with
  | some update =>
    cases checked
    obtain ⟨stored, same, covered, last⟩ := (selects_userUpdate user).getMaybe_some read
    exact .updated update stored same (covers_timestamp.mp covered) fun other stored same early =>
      last other stored same (covers_timestamp.mpr early)
  | none =>
    have late : ∀ other, .common (.userUpdate other) ∈ storage → other.userId = user →
        date < other.timestamp := by
      intro other stored same
      have := (selects_userUpdate user).getMaybe_none read stored same
      exact not_le.mp (of_decide_eq_false this)
    cases fetched with
    | some certif =>
      cases checked
      obtain ⟨stored, same, early⟩ := known certif rfl
      exact .initial certif stored same early late
    | none =>
      obtain ⟨certif, exists_, given⟩ := bind_eq_ok.mp checked
      cases given
      obtain ⟨stored, same, early⟩ := checkUserExists_ok exists_
      exact .initial certif stored same early late

theorem checkAuthorNotRevokedAndProfile_ok {mustBeAdmin : Bool} {done : Unit}
    (checked : checkAuthorNotRevokedAndProfile storage date user mustBeAdmin hint = .ok done) :
    NotRevoked storage date user ∧ (mustBeAdmin = true → HasProfile storage date user .admin) := by
  unfold checkAuthorNotRevokedAndProfile at checked
  obtain ⟨found, read, checked⟩ := bind_eq_ok.mp checked
  cases found with
  | some revoked => cases checked
  | none =>
    refine ⟨getRevokedUserCertificate_none (internal_ok.mp read), fun must => ?_⟩
    subst must
    simp only [if_true] at checked
    split at checked
    · rename_i profile given
      have admin : profile = .admin := by simpa using refuseIf_ok.mp checked
      rw [← admin]
      exact getUserProfile_ok (fun _ impossible => by cases impossible) given
    · cases checked
    · cases checked

theorem checkDeviceTimestamp_ok {last : Option DateTime} {first : Bool} {done : Unit}
    (checked : checkDeviceTimestamp last date first hint = .ok done) (known : DateTime)
    (found : last = some known) : known ≤ date ∧ (first = false → known < date) := by
  subst found
  have accepted := refuseIf_ok.mp checked
  rw [Bool.or_eq_false_iff, decide_eq_false_iff_not] at accepted
  have le := not_lt.mp accepted.1
  refine ⟨le, ?_⟩
  rintro rfl
  exact lt_of_le_of_ne le fun equal => by simp [equal] at accepted

theorem roleAfter_append (roles : List RealmRoleCertificate) (certif : RealmRoleCertificate) :
    roleAfter (roles ++ [certif]) = Function.update (roleAfter roles) certif.userId certif.role := by
  simp [roleAfter]

/-- The scan of the certificates backwards finds the role that results from them. -/
theorem currentRole_eq (roles : List RealmRoleCertificate) (user : UserID) :
    currentRole roles user = roleAfter roles user := by
  induction roles using List.reverseRecOn with
  | nil => rfl
  | append_singleton roles certif ih =>
    rw [roleAfter_append]
    unfold currentRole at ih ⊢
    rw [List.reverse_append, List.reverse_singleton, List.singleton_append, List.find?_cons]
    by_cases same : certif.userId = user
    · subst same
      simp
    · rw [Function.update_of_ne (Ne.symm same), ← ih]
      simp [same]

theorem authorRole_ok {roles : List RealmRoleCertificate} {role : RealmRole}
    (found : authorRole roles user hint = .ok role) : roleAfter roles user = some role := by
  unfold authorRole at found
  rw [currentRole_eq] at found
  split at found
  · rename_i given
    cases found
    exact given
  · cases found

theorem checkRoleChange_ok {author : RealmRole} {old new : Option RealmRole} {done : Unit}
    (checked : checkRoleChange author old new hint = .ok done) :
    old ≠ new ∧ MayChange author old new := by
  rcases old with _ | (_ | _ | _ | _) <;> rcases new with _ | (_ | _ | _ | _) <;>
    rcases author with _ | _ | _ | _ <;>
    first
    | (cases checked; done)
    | simp [MayChange, isOwnerOrManager]

theorem getRealmRoles_newest {id : VlobID} {realmRoles : List RealmRoleCertificate}
    (history : Admitted Accepted storage) (newest : AfterRealm storage date id)
    (read : storage.getRealmRoles (.timestamp date) id = .ok realmRoles) :
    realmRoles = storage.roles id := by
  unfold getRealmRoles at read
  rw [getMultiple_realm history (selects_realmRoles id)] at read
  cases read
  apply List.filter_congr
  intro certif member
  obtain ⟨row, stored, found⟩ := List.mem_filterMap.mp member
  cases (selects_realmRoles id).wrap_expected row certif found
  by_cases ofRealm : certif.realmId = id
  · have covered : (UpTo.timestamp date).covers certif.timestamp = true :=
      covers_timestamp.mpr (le_of_lt (newest _ stored ofRealm))
    simpa [RealmCertificate.realmId, RealmCertificate.timestamp, ofRealm] using covered
  · simp [RealmCertificate.realmId, ofRealm]

/-- Who the signature of a certificate shows the author to be. -/
def SignedBy (rows : Storage) (date : DateTime) (author : CertificateSigner)
    (signer : Option UserID) : Prop :=
  author = .root ∧ signer = none ∨
    ∃ id user, author = .user id ∧ signer = some user ∧ HasDevice rows date user id

/-- The validation of a certificate changes nothing but the cache. -/
structure Validated (store store' : Store) : Prop where
  storage : store'.storage = store.storage
  trusted : Trusted store'
  present : store'.cache.perTopicLastTimestamps.isSome

theorem Validated.trans {store'' : Store} (first : Validated store store')
    (second : Validated store' store'') : Validated store store'' :=
  ⟨second.storage.trans first.storage, second.trusted, second.present⟩

theorem IsLast.lt {last : Option DateTime} {dates : DateTime → Prop} (isLast : IsLast last dates)
    (newest : ∀ known, last = some known → known < date) : ∀ other, dates other → other < date := by
  intro other isDate
  obtain ⟨known, found, le⟩ := isLast.bounds other isDate
  exact lt_of_le_of_lt le (newest known found)

theorem IsLast.le {last : Option DateTime} {dates : DateTime → Prop} (isLast : IsLast last dates)
    (newest : ∀ known, last = some known → known ≤ date) : ∀ other, dates other → other ≤ date := by
  intro other isDate
  obtain ⟨known, found, le⟩ := isLast.bounds other isDate
  exact le_trans le (newest known found)

theorem Storage.LastTimestamps.afterCommon {last : PerTopicLastTimestamps}
    (known : LastTimestamps last storage)
    (newest : ∀ known, last.common = some known → known < date) : AfterCommon storage date :=
  fun certif stored => known.common.lt newest _ ⟨certif, stored, rfl⟩

theorem Storage.LastTimestamps.afterRealm {last : PerTopicLastTimestamps} {id : VlobID}
    (known : LastTimestamps last storage)
    (newest : ∀ known, last.realm.lookup id = some known → known < date) :
    AfterRealm storage date id :=
  fun certif stored ofRealm => (known.realm id).lt newest _ ⟨certif, stored, ofRealm, rfl⟩

theorem validateSequesterNonAuthorityCertificate_ok {signed : SignedSequester}
    {cooked : SequesterCertificate}
    (last : ∀ other, .sequester other ∈ store.storage → other.timestamp ≤ date)
    (checked : validateSequesterNonAuthorityCertificate date signed store
      = .ok (cooked, store')) :
    signed.certificates = [.sequester cooked] ∧ store' = store ∧
      Accepted store.storage (.sequester cooked) := by
  unfold validateSequesterNonAuthorityCertificate at checked
  obtain ⟨authority, _, checked⟩ := bind_eq_ok.mp checked
  cases authority with
  | none => cases checked
  | some authority =>
    dsimp only at checked
    have newer : ∀ {timestamp : DateTime} {hint : Hint} {done : Unit},
        checkNewest (some date) timestamp hint = .ok done →
        ∀ other, .sequester other ∈ store.storage → other.timestamp ≤ timestamp :=
      fun newest other stored =>
        le_trans (last other stored) (le_of_lt (checkNewest_ok newest date rfl))
    split at checked
    · split at checked
      · obtain ⟨seen, consistent, checked⟩ := bind_eq_ok.mp checked
        cases checked
        unfold checkSequesterServiceCertificateConsistency at consistent
        obtain ⟨_, newest, consistent⟩ := bind_eq_ok.mp consistent
        obtain ⟨_, _, consistent⟩ := bind_eq_ok.mp consistent
        obtain ⟨_, _, consistent⟩ := bind_eq_ok.mp consistent
        cases consistent
        exact ⟨rfl, rfl, .sequester _ (newer newest)⟩
      · cases checked
    · split at checked
      · obtain ⟨seen, consistent, checked⟩ := bind_eq_ok.mp checked
        cases checked
        unfold checkSequesterRevokedServiceCertificateConsistency at consistent
        obtain ⟨_, newest, consistent⟩ := bind_eq_ok.mp consistent
        obtain ⟨revoked, _, consistent⟩ := bind_eq_ok.mp consistent
        cases revoked with
        | some revoked => cases consistent
        | none =>
          cases consistent
          exact ⟨rfl, rfl, .sequester _ (newer newest)⟩
      · cases checked
    · cases checked
    · cases checked

section Trusted
variable (trusted : Trusted store)

include trusted

theorem verifySignature_ok {author : DeviceID} {signedBy : VerifyKey}
    (checked : verifySignature hint author date signedBy store = .ok (user, store')) :
    HasDevice store.storage date user author ∧ store'.storage = store.storage ∧ Trusted store' := by
  unfold verifySignature at checked
  split at checked
  · rename_i read
    split at checked
    · cases checked
      obtain ⟨⟨certif, stored, same, _, ofUser, covered⟩, storage_eq, trusted', _⟩ :=
        getDeviceVerifyKeyAndUserId_trusted trusted read
      exact ⟨⟨certif, stored, same, ofUser, covers_timestamp.mp covered⟩, storage_eq, trusted'⟩
    · cases checked
  · cases checked
  · cases checked
  · cases checked

theorem verifySignatureOrRoot_ok {author : CertificateSigner} {signedBy : VerifyKey}
    {signer : Option UserID}
    (checked : verifySignatureOrRoot device hint author date signedBy store
      = .ok (signer, store')) :
    SignedBy store.storage date author signer ∧
      store'.storage = store.storage ∧ Trusted store' := by
  unfold verifySignatureOrRoot at checked
  cases author with
  | root =>
    dsimp only at checked
    split at checked
    · cases checked
      exact ⟨.inl ⟨rfl, rfl⟩, rfl, trusted⟩
    · cases checked
  | user id =>
    obtain ⟨⟨user, store⟩, signed, checked⟩ := bind_eq_ok.mp checked
    cases checked
    obtain ⟨ofUser, storage_eq, trusted'⟩ := verifySignature_ok trusted signed
    exact ⟨.inr ⟨id, user, rfl, rfl, ofUser⟩, storage_eq, trusted'⟩

theorem getLastTimestamps_ok : ∃ last seen, store.getLastTimestamps = (last, seen) ∧
    LastTimestamps last store.storage ∧ seen.storage = store.storage ∧ Validated store seen := by
  have same := getLastTimestamps_storage store
  refine ⟨store.getLastTimestamps.1, store.getLastTimestamps.2, rfl, ?_, same, same,
    getLastTimestamps_trusted trusted, ?_⟩
  · rw [getLastTimestamps_eq trusted]
    exact lastTimestamps_known store.storage
  · unfold Store.getLastTimestamps
    split
    · rename_i cached
      simp [cached]
    · rfl

theorem checkUserCertificateConsistency_ok {cooked : UserCertificate} {signer : Option UserID}
    (signed : SignedBy store.storage cooked.timestamp cooked.author signer)
    (checked : checkUserCertificateConsistency cooked signer store = .ok store') :
    Validated store store' ∧ Accepted store.storage (.common (.user cooked)) := by
  unfold checkUserCertificateConsistency at checked
  obtain ⟨last, seen, read, known, same, validated⟩ := getLastTimestamps_ok trusted
  rw [read] at checked
  dsimp only at checked
  rw [same] at checked
  obtain ⟨_, newest, checked⟩ := bind_eq_ok.mp checked
  obtain ⟨_, author, checked⟩ := bind_eq_ok.mp checked
  obtain ⟨_, missing, checked⟩ := bind_eq_ok.mp checked
  cases checked
  refine ⟨validated, ?_⟩
  rcases signed with ⟨root, rfl⟩ | ⟨id, admin, signed, rfl, ofUser⟩
  · obtain ⟨_, first, _⟩ := bind_eq_ok.mp author
    apply Accepted.bootstrap cooked root
    intro other stored
    obtain ⟨date, found, _⟩ := known.common.bounds _ ⟨other, stored, rfl⟩
    rw [found] at first
    cases refuseIf_ok.mp first
  · obtain ⟨notRevoked, profile⟩ := checkAuthorNotRevokedAndProfile_ok author
    apply Accepted.user cooked id admin signed ⟨ofUser, notRevoked, profile rfl⟩
    · intro other stored
      exact (selects_user cooked.userId).getOne_nonExisting (checkMissing_ok missing) stored
    · exact known.afterCommon (checkNewest_ok newest)

theorem checkDeviceCertificateConsistency_ok {cooked : DeviceCertificate} {signer : Option UserID}
    (signed : SignedBy store.storage cooked.timestamp cooked.author signer)
    (checked : checkDeviceCertificateConsistency cooked signer store = .ok store') :
    Validated store store' ∧ Accepted store.storage (.common (.device cooked)) := by
  unfold checkDeviceCertificateConsistency at checked
  obtain ⟨last, seen, read, known, same, validated⟩ := getLastTimestamps_ok trusted
  rw [read] at checked
  dsimp only at checked
  rw [same] at checked
  obtain ⟨_, newest, checked⟩ := bind_eq_ok.mp checked
  obtain ⟨_, author, checked⟩ := bind_eq_ok.mp checked
  obtain ⟨certif, related, checked⟩ := bind_eq_ok.mp checked
  obtain ⟨_, first, checked⟩ := bind_eq_ok.mp checked
  obtain ⟨_, notRevoked, checked⟩ := bind_eq_ok.mp checked
  obtain ⟨_, missing, checked⟩ := bind_eq_ok.mp checked
  cases checked
  refine ⟨validated, ?_⟩
  have newest := checkDeviceTimestamp_ok newest
  have new : NewDevice store.storage cooked :=
    ⟨fun other stored =>
      (selects_device cooked.deviceId).getOne_nonExisting (checkMissing_ok missing) stored,
      checkUserNotRevoked_ok notRevoked⟩
  by_cases own : signer = some cooked.userId
  · rcases signed with ⟨_, rfl⟩ | ⟨id, user, signed, rfl, ofUser⟩
    · cases own
    · cases own
      exact .device cooked id signed ofUser
        (known.afterCommon fun _ found => (newest _ found).2 (by simp)) new
  · obtain ⟨stored, ofUser, _⟩ := checkUserExists_ok related
    rw [onlyIf, if_pos (by simpa using own)] at first
    obtain ⟨_, sameAuthor, sameTimestamp⟩ := bind_eq_ok.mp first
    apply Accepted.firstDevice cooked certif stored ofUser
    · simpa using refuseIf_ok.mp sameAuthor
    · simpa using refuseIf_ok.mp sameTimestamp
    · intro id isAuthor
      rcases signed with ⟨root, _⟩ | ⟨id', user, signed, rfl, hasDevice⟩
      · rw [root] at isAuthor
        cases isAuthor
      · rw [signed] at isAuthor
        cases isAuthor
        have other : user ≠ cooked.userId := fun equal => own (congrArg some equal)
        obtain ⟨notRevoked, profile⟩ := checkAuthorNotRevokedAndProfile_ok author
        exact ⟨user, other, hasDevice, notRevoked, profile (decide_eq_true other)⟩
    · intro other stored
      exact known.common.le (fun _ found => (newest _ found).1) _ ⟨other, stored, rfl⟩
    · exact new

theorem checkUserUpdateCertificateConsistency_ok (history : Admitted Accepted store.storage)
    {cooked : UserUpdateCertificate} {admin : UserID}
    (signed : HasDevice store.storage cooked.timestamp admin cooked.author)
    (checked : checkUserUpdateCertificateConsistency cooked admin store = .ok store') :
    Validated store store' ∧ Accepted store.storage (.common (.userUpdate cooked)) := by
  unfold checkUserUpdateCertificateConsistency at checked
  obtain ⟨last, seen, read, known, same, validated⟩ := getLastTimestamps_ok trusted
  rw [read] at checked
  dsimp only at checked
  rw [same] at checked
  obtain ⟨_, newest, checked⟩ := bind_eq_ok.mp checked
  obtain ⟨_, other, checked⟩ := bind_eq_ok.mp checked
  obtain ⟨_, admitted, checked⟩ := bind_eq_ok.mp checked
  obtain ⟨certif, related, checked⟩ := bind_eq_ok.mp checked
  obtain ⟨_, relatedNotRevoked, checked⟩ := bind_eq_ok.mp checked
  obtain ⟨current, profile, checked⟩ := bind_eq_ok.mp checked
  obtain ⟨_, changed, checked⟩ := bind_eq_ok.mp checked
  cases checked
  obtain ⟨notRevoked, isAdmin⟩ := checkAuthorNotRevokedAndProfile_ok admitted
  have registered := checkUserExists_ok related
  have profile := getUserProfile_ok (fun _ found => Option.some.inj found ▸ registered) profile
  refine ⟨validated, .userUpdate cooked admin ⟨signed, notRevoked, isAdmin rfl⟩ ?_
    ⟨certif, registered⟩ (checkUserNotRevoked_ok relatedNotRevoked) ?_
    (known.afterCommon (checkNewest_ok newest))⟩
  · simpa using refuseIf_ok.mp other
  · intro new
    have := profile.unique history new
    simp [refuseIf_ok, this] at changed

theorem checkRevokedUserCertificateConsistency_ok {cooked : RevokedUserCertificate} {admin : UserID}
    (signed : HasDevice store.storage cooked.timestamp admin cooked.author)
    (checked : checkRevokedUserCertificateConsistency cooked admin store = .ok store') :
    Validated store store' ∧ Accepted store.storage (.common (.revokedUser cooked)) := by
  unfold checkRevokedUserCertificateConsistency at checked
  obtain ⟨last, seen, read, known, same, validated⟩ := getLastTimestamps_ok trusted
  rw [read] at checked
  dsimp only at checked
  rw [same] at checked
  obtain ⟨_, newest, checked⟩ := bind_eq_ok.mp checked
  obtain ⟨_, other, checked⟩ := bind_eq_ok.mp checked
  obtain ⟨_, admitted, checked⟩ := bind_eq_ok.mp checked
  obtain ⟨certif, related, checked⟩ := bind_eq_ok.mp checked
  obtain ⟨_, relatedNotRevoked, checked⟩ := bind_eq_ok.mp checked
  cases checked
  obtain ⟨notRevoked, isAdmin⟩ := checkAuthorNotRevokedAndProfile_ok admitted
  refine ⟨validated, .revokedUser cooked admin ⟨signed, notRevoked, isAdmin rfl⟩ ?_
    ⟨certif, checkUserExists_ok related⟩ (checkUserNotRevoked_ok relatedNotRevoked)
    (known.afterCommon (checkNewest_ok newest))⟩
  simpa using refuseIf_ok.mp other

section Realm
variable (history : Admitted Accepted store.storage)

include history

theorem checkRealmRoleCertificateConsistency_ok {cooked : RealmRoleCertificate} {author : UserID}
    (signed : HasDevice store.storage cooked.timestamp author cooked.author)
    (checked : checkRealmRoleCertificateConsistency cooked author store = .ok store') :
    Validated store store' ∧ Accepted store.storage (.realm (.role cooked)) := by
  unfold checkRealmRoleCertificateConsistency at checked
  obtain ⟨last, seen, read, known, same, validated⟩ := getLastTimestamps_ok trusted
  rw [read] at checked
  dsimp only at checked
  rw [same] at checked
  obtain ⟨_, newest, checked⟩ := bind_eq_ok.mp checked
  obtain ⟨realmRoles, stored, checked⟩ := bind_eq_ok.mp checked
  obtain ⟨_, role, checked⟩ := bind_eq_ok.mp checked
  obtain ⟨certif, related, checked⟩ := bind_eq_ok.mp checked
  obtain ⟨_, notRevoked, checked⟩ := bind_eq_ok.mp checked
  obtain ⟨profile, current, checked⟩ := bind_eq_ok.mp checked
  obtain ⟨_, notOutsider, checked⟩ := bind_eq_ok.mp checked
  cases checked
  refine ⟨validated, ?_⟩
  have newest := known.afterRealm (checkNewest_ok newest)
  have realmRoles_eq := getRealmRoles_newest history newest (internal_ok.mp stored)
  subst realmRoles_eq
  have registered := checkUserExists_ok related
  have current := getUserProfile_ok (fun _ found => Option.some.inj found ▸ registered) current
  have receives : MayReceive store.storage cooked.timestamp cooked.userId cooked.role := by
    refine ⟨⟨certif, registered⟩, fun given => ?_, fun high outsider => ?_⟩
    · rw [given] at notRevoked
      exact checkUserNotRevoked_ok notRevoked
    · have same := current.unique history outsider
      have refused := refuseIf_ok.mp notOutsider
      rcases high with high | high <;> simp [same, high] at refused
  unfold checkRoleAuthor at role
  split at role
  · rename_i none
    obtain ⟨_, selfSigned, owner⟩ := bind_eq_ok.mp role
    have self : author = cooked.userId := by simpa using refuseIf_ok.mp selfSigned
    have owner : cooked.role = some .owner := by simpa using refuseIf_ok.mp owner
    subst self
    exact .firstRole cooked (List.isEmpty_iff.mp none) signed owner receives newest
  · rename_i some
    obtain ⟨authorRole, found, change⟩ := bind_eq_ok.mp role
    rw [currentRole_eq] at change
    obtain ⟨changes, mayChange⟩ := checkRoleChange_ok change
    exact .role cooked author authorRole (fun none => some (List.isEmpty_iff.mpr none)) signed
      (authorRole_ok found) mayChange changes receives newest

theorem checkWrittenByOwner_ok {cooked : RealmCertificate} {id : DeviceID} {author : UserID}
    (notRole : ∀ role, cooked ≠ .role role)
    (isAuthor : (Certificate.realm cooked).author = some (.user id))
    (signed : HasDevice store.storage cooked.timestamp author id)
    (checked : checkWrittenByOwner cooked.realmId cooked.timestamp hint author store = .ok store') :
    Validated store store' ∧ Accepted store.storage (.realm cooked) := by
  unfold checkWrittenByOwner at checked
  obtain ⟨last, seen, read, known, same, validated⟩ := getLastTimestamps_ok trusted
  rw [read] at checked
  dsimp only at checked
  rw [same] at checked
  obtain ⟨_, newest, checked⟩ := bind_eq_ok.mp checked
  obtain ⟨realmRoles, stored, checked⟩ := bind_eq_ok.mp checked
  obtain ⟨_, owner, checked⟩ := bind_eq_ok.mp checked
  obtain ⟨_, admitted, checked⟩ := bind_eq_ok.mp checked
  cases checked
  refine ⟨validated, ?_⟩
  have newest := known.afterRealm (checkNewest_ok newest)
  have realmRoles_eq := getRealmRoles_newest history newest (internal_ok.mp stored)
  subst realmRoles_eq
  unfold checkOwner at owner
  split at owner
  · cases owner
  · rename_i some
    obtain ⟨role, found, owner⟩ := bind_eq_ok.mp owner
    have owner : role = .owner := by simpa using refuseIf_ok.mp owner
    subst owner
    exact .byOwner cooked id author notRole isAuthor (fun none => some (List.isEmpty_iff.mpr none))
      signed (checkAuthorNotRevokedAndProfile_ok admitted).1 (authorRole_ok found) newest

end Realm

theorem checkShamirRecoveryBriefCertificateConsistency_ok {cooked : ShamirRecoveryBriefCertificate}
    {author : UserID} (signed : HasDevice store.storage cooked.timestamp author cooked.author)
    (checked : checkShamirRecoveryBriefCertificateConsistency device cooked author store
      = .ok store') :
    Validated store store' ∧ Accepted store.storage (.shamirRecovery (.brief cooked)) := by
  unfold checkShamirRecoveryBriefCertificateConsistency at checked
  obtain ⟨last, seen, read, known, same, validated⟩ := getLastTimestamps_ok trusted
  rw [read] at checked
  dsimp only at checked
  rw [same] at checked
  obtain ⟨_, newest, checked⟩ := bind_eq_ok.mp checked
  obtain ⟨_, _, checked⟩ := bind_eq_ok.mp checked
  obtain ⟨_, _, checked⟩ := bind_eq_ok.mp checked
  obtain ⟨_, _, checked⟩ := bind_eq_ok.mp checked
  obtain ⟨_, _, checked⟩ := bind_eq_ok.mp checked
  obtain ⟨_, _, checked⟩ := bind_eq_ok.mp checked
  obtain ⟨_, admitted, checked⟩ := bind_eq_ok.mp checked
  obtain ⟨_, _, checked⟩ := bind_eq_ok.mp checked
  cases checked
  exact ⟨validated, .shamirRecovery (.brief cooked) cooked.author author rfl signed
    (checkAuthorNotRevokedAndProfile_ok admitted).1 fun other stored =>
      le_of_lt (known.shamirRecovery.lt (checkNewest_ok newest) _ ⟨other, stored, rfl⟩)⟩

theorem checkShamirRecoveryShareCertificateConsistency_ok {cooked : ShamirRecoveryShareCertificate}
    {author : UserID} (signed : HasDevice store.storage cooked.timestamp author cooked.author)
    (checked : checkShamirRecoveryShareCertificateConsistency device cooked author store
      = .ok store') :
    Validated store store' ∧ Accepted store.storage (.shamirRecovery (.share cooked)) := by
  unfold checkShamirRecoveryShareCertificateConsistency at checked
  obtain ⟨last, seen, read, known, same, validated⟩ := getLastTimestamps_ok trusted
  rw [read] at checked
  dsimp only at checked
  rw [same] at checked
  obtain ⟨_, newest, checked⟩ := bind_eq_ok.mp checked
  obtain ⟨_, _, checked⟩ := bind_eq_ok.mp checked
  obtain ⟨_, _, checked⟩ := bind_eq_ok.mp checked
  obtain ⟨_, _, checked⟩ := bind_eq_ok.mp checked
  obtain ⟨_, _, checked⟩ := bind_eq_ok.mp checked
  obtain ⟨_, _, checked⟩ := bind_eq_ok.mp checked
  obtain ⟨_, _, checked⟩ := bind_eq_ok.mp checked
  obtain ⟨_, admitted, checked⟩ := bind_eq_ok.mp checked
  cases checked
  have newest : ∀ date, last.shamirRecovery = some date → date ≤ cooked.timestamp := by
    intro date found
    rw [found] at newest
    exact not_lt.mp (of_decide_eq_false (refuseIf_ok.mp newest))
  exact ⟨validated, .shamirRecovery (.share cooked) cooked.author author rfl signed
    (checkAuthorNotRevokedAndProfile_ok admitted).1 fun other stored =>
      known.shamirRecovery.le newest _ ⟨other, stored, rfl⟩⟩

theorem checkShamirRecoveryDeletionCertificateConsistency_ok
    {cooked : ShamirRecoveryDeletionCertificate} {author : UserID}
    (signed : HasDevice store.storage cooked.timestamp author cooked.author)
    (checked : checkShamirRecoveryDeletionCertificateConsistency device cooked author store
      = .ok store') :
    Validated store store' ∧ Accepted store.storage (.shamirRecovery (.deletion cooked)) := by
  unfold checkShamirRecoveryDeletionCertificateConsistency at checked
  obtain ⟨last, seen, read, known, same, validated⟩ := getLastTimestamps_ok trusted
  rw [read] at checked
  dsimp only at checked
  rw [same] at checked
  obtain ⟨_, newest, checked⟩ := bind_eq_ok.mp checked
  obtain ⟨_, _, checked⟩ := bind_eq_ok.mp checked
  obtain ⟨_, _, checked⟩ := bind_eq_ok.mp checked
  obtain ⟨_, _, checked⟩ := bind_eq_ok.mp checked
  obtain ⟨_, _, checked⟩ := bind_eq_ok.mp checked
  obtain ⟨_, _, checked⟩ := bind_eq_ok.mp checked
  obtain ⟨_, admitted, checked⟩ := bind_eq_ok.mp checked
  cases checked
  exact ⟨validated, .shamirRecovery (.deletion cooked) cooked.author author rfl signed
    (checkAuthorNotRevokedAndProfile_ok admitted).1 fun other stored =>
      le_of_lt (known.shamirRecovery.lt (checkNewest_ok newest) _ ⟨other, stored, rfl⟩)⟩

theorem validateSequesterAuthorityCertificate_ok {signed : SignedSequester}
    {cooked : SequesterCertificate} (none : ∀ other, .sequester other ∉ store.storage)
    (checked : validateSequesterAuthorityCertificate device signed store = .ok (cooked, store')) :
    signed.certificates = [.sequester cooked] ∧ Validated store store' ∧
      Accepted store.storage (.sequester cooked) := by
  unfold validateSequesterAuthorityCertificate at checked
  split at checked
  · split at checked
    · obtain ⟨seen, consistent, checked⟩ := bind_eq_ok.mp checked
      cases checked
      unfold checkSequesterAuthorityCertificateConsistency at consistent
      obtain ⟨last, seen, read, known, same, validated⟩ := getLastTimestamps_ok trusted
      rw [read] at consistent
      obtain ⟨_, _, consistent⟩ := bind_eq_ok.mp consistent
      cases consistent
      exact ⟨rfl, validated, .sequester _ fun other stored => absurd stored (none other)⟩
    · cases checked
  · cases checked
  · cases checked

theorem validateSequesterCertificate_ok {signed : SignedSequester} {cooked : SequesterCertificate}
    (checked : validateSequesterCertificate device signed store = .ok (cooked, store')) :
    signed.certificates = [.sequester cooked] ∧ Validated store store' ∧
      Accepted store.storage (.sequester cooked) := by
  unfold validateSequesterCertificate at checked
  obtain ⟨last, seen, read, known, same, validated⟩ := getLastTimestamps_ok trusted
  rw [read] at checked
  dsimp only at checked
  rw [← same] at known ⊢
  split at checked
  · rename_i none
    have empty : ∀ other, .sequester other ∉ seen.storage := by
      intro other stored
      obtain ⟨date, found, _⟩ := known.sequester.bounds _ ⟨other, stored, rfl⟩
      rw [none] at found
      cases found
    obtain ⟨content, validated', accepted⟩ :=
      validateSequesterAuthorityCertificate_ok validated.trusted empty checked
    exact ⟨content, validated.trans validated', accepted⟩
  · rename_i date found
    have last : ∀ other, .sequester other ∈ seen.storage → other.timestamp ≤ date :=
      fun other stored => known.sequester.le
        (fun known equal => by
          rw [found] at equal
          cases equal
          exact le_refl date) _ ⟨other, stored, rfl⟩
    obtain ⟨content, rfl, accepted⟩ :=
      validateSequesterNonAuthorityCertificate_ok last checked
    exact ⟨content, validated, accepted⟩

end Trusted

end ParsecCloud.Certif

import ParsecCloud.Certif.Authors

/- The history of a realm: who may give a role, write a name, rotate the keys or archive the
   realm, and how the key rotations are numbered. -/
namespace ParsecCloud.Certif
open Rust Storage Journal Runs Samples

variable {device : LocalDevice} {store : Store} {rows storage before : Storage} {id : VlobID}

/-- What a role certificate has to be, the earlier ones of its realm being given. -/
structure RoleRule (storage : Storage) (earlier : List RealmRoleCertificate)
    (certif : RealmRoleCertificate) : Prop where
  newer : ∀ other ∈ earlier, other.timestamp < certif.timestamp
  author : ∃ author, HasDevice storage certif.timestamp author certif.author ∧
    (earlier = [] → author = certif.userId ∧ certif.role = some .owner) ∧
    (earlier ≠ [] → author ≠ certif.userId ∧
      roleAfter earlier certif.userId ≠ certif.role ∧
      ∃ role, roleAfter earlier author = some role ∧
        MayChange role (roleAfter earlier certif.userId) certif.role)

/-- What a certificate that is not about a role has to be. -/
structure OwnerRule (storage : Storage) (earlier : List RealmRoleCertificate)
    (certif : RealmCertificate) : Prop where
  notFirst : earlier ≠ []
  newer : ∀ other ∈ earlier, other.timestamp < certif.timestamp
  author : ∃ device author, (Certificate.realm certif).author = some (.user device) ∧
    HasDevice storage certif.timestamp author device ∧ roleAfter earlier author = some .owner

structure RealmRules (storage : Storage) : Prop where
  devices : DistinctDevices storage
  roles : ∀ id earlier certif later, storage.roles id = earlier ++ certif :: later →
    RoleRule storage earlier certif
  others : ∀ (before : Storage) certif after, storage = before ++ .realm certif :: after →
    (∀ role, certif ≠ .role role) → OwnerRule storage (before.roles certif.realmId) certif

/-- The users given a role were entitled to it by what was stored at that time. -/
def EntitledWhenValidated (storage : Storage) : Prop :=
  ∀ before certif after, storage = before ++ .realm (.role certif) :: after →
    MayReceive before certif.timestamp certif.userId certif.role

/-- The users given a role are entitled to it by what is stored now. -/
def Entitled (storage : Storage) : Prop :=
  ∀ certif, .realm (.role certif) ∈ storage →
    MayReceive storage certif.timestamp certif.userId certif.role

/-- A role certificate other than the first one is not about the user who signed it. -/
def NotOwnRole (rows : Storage) (certif : Certificate) : Prop :=
  ∀ role, certif = .realm (.role role) → rows.roles role.realmId ≠ [] →
    ∀ device, .common (.device device) ∈ rows → device.deviceId = role.author →
      device.userId ≠ role.userId

/-- A revocation or a change to Outsider is newer than the roles it would have prevented. -/
def CommonInTime (rows : Storage) (certif : Certificate) : Prop :=
  (∀ revoked, certif = .common (.revokedUser revoked) →
    ∀ role, .realm (.role role) ∈ rows → role.userId = revoked.userId → role.role.isSome →
      role.timestamp < revoked.timestamp) ∧
  (∀ update, certif = .common (.userUpdate update) → update.newProfile = .outsider →
    ∀ role, .realm (.role role) ∈ rows → role.userId = update.userId →
      isOwnerOrManager role.role → role.timestamp < update.timestamp)

theorem mem_roles {certif : RealmRoleCertificate} :
    certif ∈ rows.roles id ↔ .realm (.role certif) ∈ rows ∧ certif.realmId = id := by
  unfold Storage.roles
  rw [List.mem_filter, List.mem_filterMap, decide_eq_true_eq]
  constructor
  · rintro ⟨⟨row, stored, found⟩, same⟩
    cases (selects_realmRoles id).wrap_expected row certif found
    exact ⟨stored, same⟩
  · rintro ⟨stored, same⟩
    exact ⟨⟨_, stored, rfl⟩, same⟩

theorem roles_split {earlier later : List RealmRoleCertificate} {certif : RealmRoleCertificate}
    (split : storage.roles id = earlier ++ certif :: later) :
    ∃ (before : Storage) (after : Storage), storage = before ++ .realm (.role certif) :: after ∧
      before.roles id = earlier ∧ certif.realmId = id := by
  unfold Storage.roles at split ⊢
  simp only [List.filter_filterMap] at split ⊢
  obtain ⟨before, row, after, rfl, same, found⟩ := filterMap_split split
  obtain ⟨found, ofRealm⟩ := Option.filter_eq_some_iff.mp found
  cases (selects_realmRoles id).wrap_expected row certif found
  exact ⟨before, after, rfl, same, of_decide_eq_true ofRealm⟩

theorem Accepted.mayReceive {certif : RealmRoleCertificate}
    (accepted : Accepted rows (.realm (.role certif))) :
    MayReceive rows certif.timestamp certif.userId certif.role := by
  cases accepted with
  | firstRole => assumption
  | role => assumption
  | byOwner _ _ _ notRole => exact absurd rfl (notRole certif)

section Rules
variable (history : Admitted Accepted storage)

include history

theorem role_rule (met : Admitted NotOwnRole storage) {after : Storage}
    {certif : RealmRoleCertificate} (split : storage = before ++ .realm (.role certif) :: after) :
    RoleRule storage (before.roles certif.realmId) certif := by
  have accepted := history before _ after split
  have within : before ⊆ storage := by
    rw [split]
    exact List.subset_append_left before _
  have known : ∀ user, HasDevice before certif.timestamp user certif.author →
      HasDevice storage certif.timestamp user certif.author :=
    fun _ ⟨other, stored, found⟩ => ⟨other, within stored, found⟩
  refine ⟨fun other member => ?_, ?_⟩
  · obtain ⟨stored, same⟩ := mem_roles.mp member
    exact accepted.afterRealm _ stored same
  · cases accepted with
    | firstRole _ none ofUser owner =>
      exact ⟨certif.userId, known _ ofUser, fun _ => ⟨rfl, owner⟩, fun some => absurd none some⟩
    | role _ author authorRole some ofUser found mayChange changes =>
      refine ⟨author, known _ ofUser, fun none => absurd none some, fun _ =>
        ⟨?_, changes, authorRole, found, mayChange⟩⟩
      obtain ⟨other, stored, same, ofUser, _⟩ := ofUser
      subst ofUser
      exact met before _ after split certif rfl some other stored same
    | byOwner _ _ _ notRole => exact absurd rfl (notRole certif)

theorem owner_rule {after : Storage} {certif : RealmCertificate}
    (split : storage = before ++ .realm certif :: after) (notRole : ∀ role, certif ≠ .role role) :
    OwnerRule storage (before.roles certif.realmId) certif := by
  have accepted := history before _ after split
  have within : before ⊆ storage := by
    rw [split]
    exact List.subset_append_left before _
  have newer := accepted.afterRealm
  cases accepted with
  | firstRole certif => exact absurd rfl (notRole certif)
  | role certif => exact absurd rfl (notRole certif)
  | byOwner _ id owner _ author some ofUser _ found =>
    obtain ⟨other, stored, known⟩ := ofUser
    refine ⟨some, fun role member => ?_, id, owner, author, ⟨other, within stored, known⟩, found⟩
    obtain ⟨stored, same⟩ := mem_roles.mp member
    exact newer _ stored same

theorem realm_rules (met : Admitted NotOwnRole storage) : RealmRules storage := by
  refine ⟨devices_unique history, fun id earlier certif later split => ?_,
    fun before certif after => owner_rule history⟩
  obtain ⟨before, after, stored, rfl, rfl⟩ := roles_split split
  exact role_rule history met stored

end Rules

section Entitled
variable {added : Certificate} {date : DateTime} {user : UserID} {role : Option RealmRole}

theorem hasProfile_concat {profile : UserProfile} (accepted : Accepted rows added)
    (registered : Registered rows date user)
    (given : HasProfile (rows ++ [added]) date user profile) :
    HasProfile rows date user profile ∨ ∃ update, added = .common (.userUpdate update) ∧
      update.userId = user ∧ update.timestamp ≤ date ∧ update.newProfile = profile := by
  cases given with
  | updated update stored ofUser early last =>
    rcases List.mem_append.mp stored with stored | stored
    · exact .inl (.updated update stored ofUser early fun other member =>
        last other (List.mem_append_left _ member))
    · exact .inr ⟨update, (List.mem_singleton.mp stored).symm, ofUser, early, rfl⟩
  | initial certif stored ofUser early late =>
    rcases List.mem_append.mp stored with stored | stored
    · exact .inl (.initial certif stored ofUser early fun other member =>
        late other (List.mem_append_left _ member))
    · cases List.mem_singleton.mp stored
      obtain ⟨known, stored, same, _⟩ := registered
      exact absurd (same.trans ofUser.symm) (accepted.newUser stored)

theorem MayReceive.concat (receives : MayReceive rows date user role)
    (accepted : Accepted rows added)
    (revoked : ∀ certif, added = .common (.revokedUser certif) → certif.userId = user →
      role.isSome → date < certif.timestamp)
    (outsider : ∀ certif, added = .common (.userUpdate certif) → certif.userId = user →
      certif.newProfile = .outsider → isOwnerOrManager role → date < certif.timestamp) :
    MayReceive (rows ++ [added]) date user role := by
  obtain ⟨known, stored, found⟩ := receives.registered
  refine ⟨⟨known, List.mem_append_left _ stored, found⟩, fun given certif member same => ?_,
    fun high isOutsider => ?_⟩
  · rcases List.mem_append.mp member with member | member
    · exact receives.notRevoked given certif member same
    · exact revoked certif (List.mem_singleton.mp member).symm same given
  · rcases hasProfile_concat accepted receives.registered isOutsider with isOutsider | updated
    · exact receives.notOutsider high isOutsider
    · obtain ⟨update, rfl, ofUser, early, isOutsider⟩ := updated
      exact absurd early (not_le.mpr (outsider update rfl ofUser isOutsider high))

theorem entitled (history : Admitted Accepted storage) (inTime : Admitted CommonInTime storage) :
    Entitled storage := by
  induction storage using List.reverseRecOn with
  | nil =>
    intro certif stored
    cases stored
  | append_singleton rows added ih =>
    obtain ⟨history, accepted⟩ := admitted_concat.mp history
    obtain ⟨inTime, added_inTime⟩ := admitted_concat.mp inTime
    intro certif stored
    rcases List.mem_append.mp stored with stored | stored
    · apply (ih history inTime certif stored).concat accepted
      · intro revoked same ofUser given
        exact added_inTime.1 revoked same certif stored ofUser.symm given
      · intro update same ofUser isOutsider high
        exact added_inTime.2 update same isOutsider certif stored ofUser.symm high
    · cases List.mem_singleton.mp stored
      apply accepted.mayReceive.concat accepted
      · intro _ same
        cases same
      · intro _ same
        cases same

end Entitled

theorem role_history_respects_rules :
    (Reached device NotOwnRole store →
      RealmRules store.storage ∧ EntitledWhenValidated store.storage) ∧
    (Reached device (fun rows certif => NotOwnRole rows certif ∧ CommonInTime rows certif) store →
      RealmRules store.storage ∧ Entitled store.storage) := by
  constructor
  · intro reached
    obtain ⟨history, met⟩ := reached.spec
    exact ⟨realm_rules history met, fun before certif after split =>
      (history before _ after split).mayReceive⟩
  · intro reached
    obtain ⟨history, met⟩ := reached.spec
    exact ⟨realm_rules history (Admitted.imp (fun _ _ both => both.1) met),
      entitled history (Admitted.imp (fun _ _ both => both.2) met)⟩

namespace Samples

/-- The owners Alice and Bob, and the role that a device gives to Bob afterwards. -/
def handover (author : DeviceID) : Batch :=
  batch enrollment [role alice1 3 alice (some .owner), role alice1 4 bob (some .owner),
    role author 5 bob (some .reader)]

end Samples

set_option maxRecDepth 10000 in
/-- Alice takes away the role of Bob. -/
theorem role_history_of_handover : ∃ store, Reached self NotOwnRole store ∧
    store.storage = (handover alice1).arrivals ∧ RealmRules store.storage ∧
    EntitledWhenValidated store.storage ∧ Entitled store.storage := by
  have admits : Admits (fun rows certif => NotOwnRole rows certif ∧ CommonInTime rows certif)
      (Store.start []) (handover alice1) := by
    have arrivals : (handover alice1).arrivals = [.common (.user aliceUser),
        .common (.device aliceDevice), .common (.user bobUser), .common (.device bobDevice),
        .realm (.role ⟨alice1, 3, wksp, alice, some .owner⟩),
        .realm (.role ⟨alice1, 4, wksp, bob, some .owner⟩),
        .realm (.role ⟨alice1, 5, wksp, bob, some .reader⟩)] := rfl
    rw [Admits, arrivals]
    simp only [admitted_cons, admitted_nil, and_true, Store.start, List.nil_append]
    simp [NotOwnRole, CommonInTime, aliceDevice, bobDevice, Storage.roles, isRealmRole, alice, bob,
      alice1, bob1]
  obtain ⟨store, reached, stored⟩ := reached_batch self admits ⟨_, _, rfl, rfl⟩
  have weaker : Reached self NotOwnRole store :=
    reached.weaken fun _ _ met => Admitted.imp (fun _ _ both => both.1) met
  obtain ⟨rules, validated⟩ := role_history_respects_rules.1 weaker
  exact ⟨store, weaker, stored, rules, validated, (role_history_respects_rules.2 reached).2⟩

set_option maxRecDepth 10000 in
/-- Bob changes his own role. -/
theorem own_role_changed : ∃ store, Reachable self store ∧ ¬ RealmRules store.storage := by
  obtain ⟨store, reached, stored⟩ := reachable_batch self (handover bob1) ⟨_, _, rfl, rfl⟩
  refine ⟨store, reached, fun rules => ?_⟩
  rw [stored] at rules
  have split : Storage.roles (handover bob1).arrivals wksp =
      [⟨alice1, 3, wksp, alice, some .owner⟩, ⟨alice1, 4, wksp, bob, some .owner⟩] ++
        [⟨bob1, 5, wksp, bob, some .reader⟩] := rfl
  obtain ⟨author, ⟨signer, stored, same, ofUser, _⟩, _, later⟩ := (rules.roles wksp _ _ [] split).author
  have bobDevice_eq := rules.devices signer bobDevice stored (List.mem_of_getElem? (i := 3) rfl) same
  subst bobDevice_eq
  exact (later (by simp)).1 ofUser.symm

end ParsecCloud.Certif

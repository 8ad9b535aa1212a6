import ParsecCloud.Server.StatsAgreement

/- What the operations change of the users and of the realms that the statistics see, in the memory
   and in the tables. Both stay the same, when they see each operation on the same side of the date. -/
namespace ParsecCloud.Server
open Certif Rust Runs DatedLog MemoryOrganization

section Operations
variable {org org' : MemoryOrganization} {now : DateTime} {author : DeviceID} {key : VerifyKey}

/-- What an operation changes of the users and of the realms that the statistics see. -/
inductive OrgChange (org org' : MemoryOrganization) : StatsChange → Prop where
  | user {certif : UserCertificate} {email : EmailAddress} {raw redacted : List Byte}
      (isNew : org.users.get? certif.userId = none)
      (users : org'.users = org.users.set certif.userId ⟨certif, email, raw, redacted, [], none⟩)
      (realms : org'.realms = org.realms) : OrgChange org org' (.user certif)
  | profile {certif : UserUpdateCertificate} {target : MemoryUser} {raw : List Byte}
      (isTarget : org.users.get? certif.userId = some target)
      (later : org.lastTimestamp .common < certif.timestamp)
      (last : org'.lastTimestamp .common = certif.timestamp)
      (users : org'.users = org.users.set certif.userId
        { target with profileUpdates := target.profileUpdates ++ [(certif, raw)] })
      (realms : org'.realms = org.realms) : OrgChange org org' (.profile certif)
  | revocation {certif : RevokedUserCertificate} {target : MemoryUser} {raw : List Byte}
      (isTarget : org.users.get? certif.userId = some target)
      (users : org'.users = org.users.set certif.userId
        { target with revoked := some (certif, raw) })
      (realms : org'.realms = org.realms) : OrgChange org org' (.revocation certif)
  | realm {now : DateTime} {certif : RealmRoleCertificate} {raw : List Byte}
      (isNew : org.realms.get? certif.realmId = none) (users : org'.users = org.users)
      (realms : org'.realms = org.realms.set certif.realmId
        ⟨certif.realmId, now, [(certif, raw)], [], [], [], none, .empty⟩) :
      OrgChange org org' (.realm now certif)
  | role {certif : RealmRoleCertificate} {realm : MemoryRealm} {raw : List Byte}
      {keyRotations : List MemoryRealmKeyRotation}
      (isRealm : org.realms.get? certif.realmId = some realm)
      (later : org.lastTimestamp (.realm certif.realmId) < certif.timestamp)
      (users : org'.users = org.users)
      (realms : org'.realms = org.realms.set certif.realmId
        { realm with roles := realm.roles ++ [(certif, raw)], keyRotations }) :
      OrgChange org org' (.role certif)
  | other (users : org'.users = org.users) (keys : org'.realms.keys = org.realms.keys)
      (realms : ∀ realmId realm', org'.realms.get? realmId = some realm' →
        ∃ realm, org.realms.get? realmId = some realm ∧ realm'.createdOn = realm.createdOn ∧
          realm'.roles = realm.roles) : OrgChange org org' .other

theorem OrgChange.of_set {realmId : VlobID} {realm realm' : MemoryRealm}
    (isRealm : org.realms.get? realmId = some realm) (users : org'.users = org.users)
    (realms : org'.realms = org.realms.set realmId realm')
    (createdOn : realm'.createdOn = realm.createdOn) (roles : realm'.roles = realm.roles) :
    OrgChange org org' .other := by
  apply OrgChange.other users
  · rw [realms]
    exact Dict.keys_set_of_found isRealm
  · intro other found isFound
    rcases Dict.found_set realms isFound with ⟨same, rfl⟩ | ⟨-, isFound⟩
    · exact ⟨realm, same ▸ isRealm, createdOn, roles⟩
    · exact ⟨found, isFound, rfl, rfl⟩

theorem OrgChange.of_realms (users : org'.users = org.users) (realms : org'.realms = org.realms) :
    OrgChange org org' .other := by
  apply OrgChange.other users (by rw [realms])
  intro realmId realm isRealm
  exact ⟨realm, realms ▸ isRealm, rfl, rfl⟩

/-- What the statistics see of an operation. -/
def OperationKind.change : OperationKind → StatsChange
  | .createUser payload => payload.elim .other fun payload => .user payload.certif
  | .revokeUser certif => certif.elim .other .revocation
  | .updateUser certif => certif.elim .other .profile
  | .createRealm now certif => certif.elim .other (.realm now)
  | .shareRealm certif => certif.elim .other .role
  | .unshareRealm certif => certif.elim .other .role
  | _ => .other

theorem Operation.change_kind (op : Operation) : op.kind.change = op.change := by
  cases op with
  | _ => rfl

theorem Effect.orgChange {kind : OperationKind} {topic : TopicAndDiscriminant}
    (effect : Effect org kind topic org') : OrgChange org org' kind.change := by
  cases effect with
  | user raw redacted deviceRaw deviceRedacted hasAuthor admin userAuthor deviceAuthor sameUser
      sameTime newUser => exact .user newUser rfl rfl
  | revocation raw hasAuthor admin other isTarget => exact .revocation isTarget rfl rfl
  | update raw hasAuthor admin other isTarget active changes later =>
    exact .profile isTarget later ((lastTimestamp_update rfl .common).trans (if_pos rfl)) rfl rfl
  | newRealm now raw hasAuthor notOutsider owner isNew => exact .realm isNew rfl rfl
  | share raw access hasAuthor other role isUser active isRealm allowed outsider changes later =>
    exact .role isRealm (lt_of_le_of_lt KeysKept.lastTimestamp_le_forRole later) rfl rfl
  | unshare raw hasAuthor other noRole isUser isRealm allowed changes later =>
    exact .role isRealm (lt_of_le_of_lt KeysKept.lastTimestamp_le_forRole later) rfl rfl
  | rename raw hasAuthor isRealm => exact .of_set isRealm rfl rfl rfl rfl
  | _ => exact .of_realms rfl rfl

theorem Operation.orgChange {op : Operation} (ok : op.run org = .ok org') :
    OrgChange org org' op.change := by
  obtain ⟨topic, -, effect⟩ := Operation.effect ok
  exact op.change_kind ▸ effect.orgChange

theorem StoreEffect.orgChange {call : Waiting} (effect : StoreEffect org call org') :
    OrgChange org org' .other := by
  cases effect with
  | createVlob isRealm => exact .of_set isRealm rfl rfl rfl rfl
  | updateVlob isRealm => exact .of_set isRealm rfl rfl rfl rfl
  | rotateKey isRealm => exact .of_set isRealm rfl rfl rfl rfl

end Operations

section Mirror
variable {at_ : DateTime} {org org' : MemoryOrganization} {tables tables' : StatsTables}

/-- Both servers see the operation on the same side of the date. -/
def ComparableChange (at_ : DateTime) (org : MemoryOrganization) : StatsChange → Prop
  | .revocation certif => ∀ user, org.users.get? certif.userId = some user →
      user.cooked.timestamp ≤ at_ → certif.timestamp ≤ at_
  | .realm now certif => now ≤ at_ ↔ certif.timestamp ≤ at_
  | _ => True

theorem UserMirrored.congr {last last' : DateTime} {userId : UserID} {user : MemoryUser}
    (mirrored : UserMirrored at_ last tables userId user) (later : last ≤ last')
    (updates : (tables'.profile.filter fun row => row.user = userId) =
      tables.profile.filter fun row => row.user = userId) :
    UserMirrored at_ last' tables' userId user where
  updates := updates.trans mirrored.updates
  ordered := mirrored.ordered
  dated update isUpdate := (mirrored.dated update isUpdate).trans later
  revoked := mirrored.revoked

theorem UsersMirrored.same (mirrored : UsersMirrored at_ org tables)
    (common : org.lastTimestamp .common ≤ org'.lastTimestamp .common)
    (users : org'.users = org.users) (rows : tables'.user = tables.user)
    (updates : tables'.profile = tables.profile) : UsersMirrored at_ org' tables' := by
  constructor
  · rw [rows, users]
    exact mirrored.rows
  · rw [updates, users]
    exact mirrored.known
  · intro userId user isUser
    rw [users] at isUser
    exact (mirrored.each userId user isUser).congr common (by rw [updates])

theorem UsersMirrored.change {change : StatsChange} (mirrored : UsersMirrored at_ org tables)
    (common : org.lastTimestamp .common ≤ org'.lastTimestamp .common)
    (orgChange : OrgChange org org' change) (comparable : ComparableChange at_ org change) :
    UsersMirrored at_ org' (tables.record change) := by
  cases orgChange with
  | @user certif email raw redacted isNew users realms =>
    constructor
    · rw [users, Dict.items_set_of_absent isNew, List.map_append, ← mirrored.rows]
      rfl
    · intro row isRow
      rw [users, Dict.get?_set]
      split
      · rfl
      · exact mirrored.known row isRow
    · intro userId user isUser
      rcases Dict.found_set users isUser with ⟨same, rfl⟩ | ⟨-, isUser⟩
      · have noRow : (tables.profile.filter fun row => row.user = userId) = [] := by
          rw [List.filter_eq_nil_iff]
          intro row isRow isUser
          have known := mirrored.known row isRow
          rw [of_decide_eq_true isUser, same, isNew] at known
          cases known
        exact ⟨noRow, List.Pairwise.nil, by simp, by simp⟩
      · exact (mirrored.each userId user isUser).congr common rfl
  | @profile certif target raw isTarget later last users realms =>
    have added : ∀ userId, ((tables.record (.profile certif)).profile.filter
        fun row => row.user = userId) = (tables.profile.filter fun row => row.user = userId) ++
          if certif.userId = userId then [⟨certif.userId, certif.newProfile, certif.timestamp⟩]
          else [] := by
      intro userId
      by_cases same : certif.userId = userId
      · simp [StatsTables.record, same]
      · simp [StatsTables.record, same]
    constructor
    · obtain ⟨front, back, split⟩ := List.append_of_mem (Dict.get?_eq_some_iff.mp isTarget)
      have rows := mirrored.rows
      rw [split] at rows
      rw [users, Dict.items_set_of_split split]
      refine rows.trans ?_
      simp [userRow]
    · intro row isRow
      rw [users, Dict.get?_set]
      split
      · rfl
      · rename_i differs
        rcases List.mem_append.mp isRow with isOld | isNew
        · exact mirrored.known row isOld
        · cases List.mem_singleton.mp isNew
          exact absurd rfl differs
    · intro userId user isUser
      rcases Dict.found_set users isUser with ⟨same, rfl⟩ | ⟨differs, isUser⟩
      · subst same
        have old := mirrored.each certif.userId target isTarget
        constructor
        · rw [added, if_pos rfl, old.updates, List.map_append]
          rfl
        · rw [List.pairwise_append]
          refine ⟨old.ordered, List.pairwise_singleton _ _, ?_⟩
          intro update isOld new isNew
          rw [List.mem_singleton.mp isNew]
          exact lt_of_le_of_lt (old.dated update isOld) later
        · intro update isUpdate
          rw [last]
          rcases List.mem_append.mp isUpdate with isOld | isNew
          · exact (old.dated update isOld).trans later.le
          · rw [List.mem_singleton.mp isNew]
        · exact old.revoked
      · apply (mirrored.each userId user isUser).congr common
        rw [added, if_neg (Ne.symm differs), List.append_nil]
  | @revocation certif target raw isTarget users realms =>
    constructor
    · change tables.user.map (StatsTables.revokeRow certif) = _
      rw [users, Dict.items_set_of_found isTarget, mirrored.rows, List.map_map, List.map_map]
      apply List.map_congr_left
      rintro ⟨userId, user⟩ isItem
      simp only [Function.comp, Dict.replace, StatsTables.revokeRow, userRow]
      by_cases same : userId = certif.userId
      · subst same
        have isUser := Dict.get?_eq_some_iff.mpr isItem
        rw [isTarget] at isUser
        cases isUser
        simp
      · simp [same]
    · intro row isRow
      rw [users, Dict.get?_set]
      split
      · rfl
      · exact mirrored.known row isRow
    · intro userId user isUser
      rcases Dict.found_set users isUser with ⟨same, rfl⟩ | ⟨-, isUser⟩
      · subst same
        have old : UserMirrored at_ (org'.lastTimestamp .common) tables certif.userId target :=
          (mirrored.each certif.userId target isTarget).congr common rfl
        refine ⟨old.updates, old.ordered, old.dated, ?_⟩
        rintro byThen _ ⟨⟩
        exact comparable target isTarget byThen
      · exact (mirrored.each userId user isUser).congr common rfl
  | realm isNew users realms => exact mirrored.same common users rfl rfl
  | role isRealm later users realms => exact mirrored.same common users rfl rfl
  | other users keys realms => exact mirrored.same common users rfl rfl

theorem RealmMirrored.congr {realmId : VlobID} {realm realm' : MemoryRealm}
    (mirrored : RealmMirrored at_ tables realmId realm)
    (createdOn : realm'.createdOn = realm.createdOn) (sameRoles : realm'.roles = realm.roles)
    (rows : (tables'.realmUserRole.filter fun row => row.realm = realmId) =
      tables.realmUserRole.filter fun row => row.realm = realmId) :
    RealmMirrored at_ tables' realmId realm' := by
  constructor
  · rw [rows, sameRoles]
    exact mirrored.roles
  · rw [createdOn, sameRoles]
    exact mirrored.first

theorem RealmsMirrored.same (mirrored : RealmsMirrored at_ org tables)
    (realms : org'.realms = org.realms) (rows : tables'.realm = tables.realm)
    (roles : tables'.realmUserRole = tables.realmUserRole) :
    RealmsMirrored at_ org' tables' := by
  constructor
  · rw [rows, realms]
    exact mirrored.rows
  · rw [roles, rows]
    exact mirrored.known
  · intro realmId realm isRealm
    rw [realms] at isRealm
    exact (mirrored.each realmId realm isRealm).congr rfl rfl (by rw [roles])

theorem roleRows_append (roles : List RealmUserRoleRow) (row : RealmUserRoleRow)
    (realmId : VlobID) : ((roles ++ [row]).filter fun row => row.realm = realmId) =
      (roles.filter fun row => row.realm = realmId) ++ if row.realm = realmId then [row] else [] := by
  by_cases same : row.realm = realmId
  · simp [same]
  · simp [same]

theorem RealmsMirrored.change {change : StatsChange} (mirrored : RealmsMirrored at_ org tables)
    (keys : KeysKept org) (orgChange : OrgChange org org' change)
    (comparable : ComparableChange at_ org change) :
    RealmsMirrored at_ org' (tables.record change) := by
  cases orgChange with
  | user isNew users realms => exact mirrored.same realms rfl rfl
  | profile isTarget later last users realms => exact mirrored.same realms rfl rfl
  | revocation isTarget users realms => exact mirrored.same realms rfl rfl
  | @realm now certif raw isNew users realms =>
    have absent : certif.realmId ∉ tables.realm := by
      rw [mirrored.rows]
      exact Dict.get?_eq_none_iff.mp isNew
    constructor
    · rw [realms, Dict.keys, Dict.items_set_of_absent isNew, List.map_append]
      exact congrArg (· ++ [certif.realmId]) mirrored.rows
    · intro row isRow
      rcases List.mem_append.mp isRow with isOld | isAdded
      · exact List.mem_append_left _ (mirrored.known row isOld)
      · rw [List.mem_singleton.mp isAdded]
        exact List.mem_append_right _ (List.mem_singleton_self _)
    · intro realmId realm isRealm
      rcases Dict.found_set realms isRealm with ⟨same, rfl⟩ | ⟨differs, isRealm⟩
      · have noRow : (tables.realmUserRole.filter fun row => row.realm = realmId) = [] := by
          rw [List.filter_eq_nil_iff]
          intro row isRow isHere
          apply absent
          rw [← same, ← of_decide_eq_true isHere]
          exact mirrored.known row isRow
        constructor
        · refine (roleRows_append _ _ realmId).trans ?_
          rw [noRow, if_pos same.symm, List.nil_append, same]
          rfl
        · exact ⟨_, [], rfl, comparable, by simp⟩
      · apply (mirrored.each realmId realm isRealm).congr rfl rfl
        refine (roleRows_append _ _ realmId).trans ?_
        rw [if_neg (Ne.symm differs), List.append_nil]
  | @role certif realm raw keyRotations isRealm later users realms =>
    constructor
    · rw [realms, Dict.keys_set_of_found isRealm]
      exact mirrored.rows
    · intro row isRow
      rcases List.mem_append.mp isRow with isOld | isAdded
      · exact mirrored.known row isOld
      · rw [List.mem_singleton.mp isAdded]
        change certif.realmId ∈ tables.realm
        rw [mirrored.rows]
        exact Dict.mem_keys_of_mem (Dict.get?_eq_some_iff.mp isRealm)
    · intro realmId found isFound
      rcases Dict.found_set realms isFound with ⟨same, rfl⟩ | ⟨differs, isFound⟩
      · subst same
        have old := mirrored.each certif.realmId realm isRealm
        constructor
        · refine (roleRows_append _ _ certif.realmId).trans ?_
          rw [if_pos rfl, old.roles, List.map_append]
          rfl
        · obtain ⟨first, rest, isRoles, sameSide, after⟩ := old.first
          refine ⟨first, rest ++ [(certif, raw)], by rw [isRoles, List.cons_append], sameSide, ?_⟩
          intro role isRole
          rcases List.mem_append.mp isRole with isOld | isAdded
          · exact after role isOld
          · have isFirst : first ∈ realm.roles := by
              rw [isRoles]
              exact List.mem_cons_self
            have dated := (keys certif.realmId realm isRealm).rolesDated first isFirst
            rw [List.mem_singleton.mp isAdded]
            exact dated.trans later.le
      · apply (mirrored.each realmId found isFound).congr rfl rfl
        refine (roleRows_append _ _ realmId).trans ?_
        rw [if_neg (Ne.symm differs), List.append_nil]
  | other users keys realms =>
    constructor
    · rw [keys]
      exact mirrored.rows
    · exact mirrored.known
    · intro realmId realm' isRealm'
      obtain ⟨realm, isRealm, createdOn, roles⟩ := realms realmId realm' isRealm'
      exact (mirrored.each realmId realm isRealm).congr createdOn roles rfl

end Mirror

end ParsecCloud.Server

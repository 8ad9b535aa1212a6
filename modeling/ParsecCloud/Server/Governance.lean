import ParsecCloud.Server.KeyAccess

/- Who governs an organization, over all the runs: it keeps an administrator, a realm keeps an owner,
   and the users that are not revoked have emails of their own and stay within the limit. -/
namespace ParsecCloud.Server
open Certif Rust Runs MemoryOrganization

def MemoryUser.isActiveAdmin (user : MemoryUser) : Prop :=
  user.revoked = none ∧ user.currentProfile = .admin

def HasAdmin (org : MemoryOrganization) : Prop :=
  ∃ userId user, org.users.get? userId = some user ∧ user.isActiveAdmin

def RealmsOwned (org : MemoryOrganization) : Prop :=
  ∀ realmId realm, org.realms.get? realmId = some realm →
    ∃ userId, realm.getCurrentRoleFor userId = some .owner

/-- No two active users have the same email, and there are no more of them than the limit. -/
structure ActiveUsersSound (org : MemoryOrganization) : Prop where
  distinct : ∀ userId userId' user user', org.users.get? userId = some user →
    org.users.get? userId' = some user' → user.revoked = none → user'.revoked = none →
      user.email = user'.email → userId = userId'
  limited : ∀ limit, org.activeUsersLimit = some limit →
    (org.users.values.filter fun user => !user.isRevoked).length ≤ limit

section Steps
variable {org org' : MemoryOrganization} {kind : OperationKind} {topic : TopicAndDiscriminant}

/-- The author of a revocation or of an update is an administrator, and not its target. -/
theorem Effect.hasAdmin (effect : Effect org kind topic org') (admin : HasAdmin org) :
    HasAdmin org' := by
  have author : ∀ {authorId target : UserID} {authorUser changed : MemoryUser} {author : DeviceID},
      org.HasAuthor author authorId authorUser → authorUser.currentProfile = .admin →
        authorId ≠ target → org'.users = org.users.set target changed → HasAdmin org' := by
    rintro authorId target authorUser changed author ⟨-, device, -, -, isUser, active⟩ isAdmin other
      changes
    refine ⟨authorId, authorUser, ?_, active, isAdmin⟩
    rw [changes, Dict.get?_set_of_ne other, isUser]
  cases effect with
  | user raw redacted deviceRaw deviceRedacted hasAuthor isAdmin _ _ _ _ isNew =>
    obtain ⟨userId, user, isUser, active⟩ := admin
    refine ⟨userId, user, (Dict.get?_set_of_ne ?_).trans isUser, active⟩
    rintro rfl
    rw [isNew] at isUser
    cases isUser
  | revocation raw hasAuthor isAdmin other => exact author hasAuthor isAdmin other rfl
  | update raw hasAuthor isAdmin other => exact author hasAuthor isAdmin other rfl
  | _ => exact admin

section Roles
variable {roles : Roles} {certif : RealmRoleCertificate} {raw : List Byte} {authorId : UserID}

/-- Only another owner takes the role of an owner away. -/
theorem owner_append (other : authorId ≠ certif.userId)
    (allowed : currentRole roles authorId ∈
      (neededRoles (currentRole roles certif.userId) certif.role).map some)
    (owned : ∃ userId, currentRole roles userId = some .owner) :
    ∃ userId, currentRole (roles ++ [(certif, raw)]) userId = some .owner := by
  obtain ⟨userId, isOwner⟩ := owned
  by_cases target : certif.userId = userId
  · have needed : neededRoles (currentRole roles certif.userId) certif.role = [.owner] := by
      simp [neededRoles, target, isOwner]
    rw [needed, List.map_singleton, List.mem_singleton] at allowed
    refine ⟨authorId, ?_⟩
    rw [currentRole_append, if_neg (Ne.symm other), allowed]
  · refine ⟨userId, ?_⟩
    rw [currentRole_append, if_neg target, isOwner]

end Roles

theorem RealmsOwned.set (owned : RealmsOwned org) {realmId : VlobID} {realm : MemoryRealm}
    (realms : org'.realms = org.realms.set realmId realm)
    (owner : ∃ userId, realm.getCurrentRoleFor userId = some .owner) : RealmsOwned org' := by
  intro other found isFound
  rcases Dict.found_set realms isFound with ⟨-, rfl⟩ | ⟨-, isFound⟩
  · exact owner
  · exact owned other found isFound

theorem Effect.realmsOwned (effect : Effect org kind topic org') (owned : RealmsOwned org) :
    RealmsOwned org' := by
  cases effect with
  | @newRealm certif authorUser now raw hasAuthor notOutsider owner =>
    refine owned.set rfl ⟨certif.userId, ?_⟩
    change currentRole ([] ++ [(certif, raw)]) certif.userId = _
    rw [currentRole_append, if_pos rfl, owner]
  | @share certif _ _ authorId realm rotation raw access hasAuthor other role isUser active isRealm
      allowed =>
    exact owned.set rfl (owner_append other allowed (owned _ realm isRealm))
  | @unshare certif _ _ authorId realm raw hasAuthor other noRole isUser isRealm allowed =>
    exact owned.set rfl (owner_append other allowed (owned _ realm isRealm))
  | @rename certif authorUser authorId realm raw hasAuthor isRealm =>
    exact owned.set rfl (owned _ realm isRealm)
  | _ => exact owned

theorem StoreEffect.realmsOwned {call : Waiting} (effect : StoreEffect org call org')
    (owned : RealmsOwned org) : RealmsOwned org' := by
  cases effect with
  | @createVlob write realm isRealm => exact owned.set rfl (owned _ realm isRealm)
  | @updateVlob write place realm isRealm => exact owned.set rfl (owned _ realm isRealm)
  | @rotateKey rotation realm isRealm => exact owned.set rfl (owned _ realm isRealm)

/-- A user that replaces another one is only counted if the other one was. -/
theorem active_length_set {users : Dict UserID MemoryUser} {userId : UserID}
    {old new : MemoryUser} (there : users.get? userId = some old)
    (still : new.isRevoked = false → old.isRevoked = false) :
    ((users.set userId new).values.filter fun user => !user.isRevoked).length ≤
      (users.values.filter fun user => !user.isRevoked).length := by
  have present : userId ∈ users.keys := Dict.mem_keys_of_mem (Dict.get?_eq_some_iff.mp there)
  rw [← List.countP_eq_length_filter, ← List.countP_eq_length_filter, Dict.values, Dict.values,
    Dict.set, dif_pos present]
  dsimp only
  rw [List.map_map, List.countP_map, List.countP_map]
  refine List.countP_mono_left fun item member counted => ?_
  simp only [Function.comp_apply, Dict.replace] at counted ⊢
  split at counted
  · rename_i same
    have isOld := Dict.get?_eq_some_iff.mpr (show (item.1, item.2) ∈ users.items from member)
    rw [same, there] at isOld
    cases isOld
    simpa using still (by simpa using counted)
  · exact counted

theorem ActiveUsersSound.same (sound : ActiveUsersSound org)
    (limit : org'.activeUsersLimit = org.activeUsersLimit)
    (users : ∀ userId user', org'.users.get? userId = some user' → user'.revoked = none →
      ∃ user, org.users.get? userId = some user ∧ user.revoked = none ∧ user.email = user'.email)
    (length : (org'.users.values.filter fun user => !user.isRevoked).length ≤
      (org.users.values.filter fun user => !user.isRevoked).length) : ActiveUsersSound org' := by
  refine ⟨fun userId userId' user user' isUser isUser' active active' same => ?_, fun bound is => ?_⟩
  · obtain ⟨old, isOld, wasActive, email⟩ := users userId user isUser active
    obtain ⟨old', isOld', wasActive', email'⟩ := users userId' user' isUser' active'
    exact sound.distinct userId userId' old old' isOld isOld' wasActive wasActive'
      (by rw [email, email', same])
  · exact length.trans (sound.limited bound (limit ▸ is))

theorem Effect.activeUsersSound (effect : Effect org kind topic org')
    (other : ∀ payload, kind ≠ .createUser payload) (sound : ActiveUsersSound org) :
    ActiveUsersSound org' := by
  cases effect with
  | user => exact absurd rfl (other _)
  | @revocation certif target authorUser authorId raw hasAuthor admin _ isTarget active =>
    refine sound.same rfl ?_ (active_length_set isTarget fun still => by cases still)
    intro userId user' isUser' isActive
    rcases Dict.found_set rfl isUser' with ⟨-, rfl⟩ | ⟨-, isUser'⟩
    · cases isActive
    · exact ⟨user', isUser', isActive, rfl⟩
  | @update certif target authorUser authorId raw hasAuthor admin _ isTarget active =>
    refine sound.same rfl ?_ (active_length_set isTarget fun still => still)
    intro userId user' isUser' isActive
    rcases Dict.found_set rfl isUser' with ⟨rfl, rfl⟩ | ⟨-, isUser'⟩
    · exact ⟨target, isTarget, active, rfl⟩
    · exact ⟨user', isUser', isActive, rfl⟩
  | _ => exact ⟨sound.distinct, sound.limited⟩

theorem createUser_activeUsersSound {now : DateTime} {author : DeviceID} {key : VerifyKey}
    {userCertificate redactedUserCertificate : Uploaded UserPayload}
    {deviceCertificate redactedDeviceCertificate : Uploaded DevicePayload}
    (ok : org.createUser now author key userCertificate redactedUserCertificate deviceCertificate
      redactedDeviceCertificate = .ok org') (sound : ActiveUsersSound org) :
    ActiveUsersSound org' := by
  unfold MemoryOrganization.createUser at ok
  obtain ⟨_, -, ok⟩ := bind_eq_ok.mp ok
  obtain ⟨_, -, ok⟩ := bind_eq_ok.mp ok
  obtain ⟨⟨u, d⟩, -, ok⟩ := bind_eq_ok.mp ok
  obtain ⟨_, belowLimit, ok⟩ := bind_eq_ok.mp ok
  obtain ⟨_, newUser, ok⟩ := bind_eq_ok.mp ok
  obtain ⟨_, -, ok⟩ := bind_eq_ok.mp ok
  obtain ⟨_, newEmail, ok⟩ := bind_eq_ok.mp ok
  obtain ⟨_, -, ok⟩ := bind_eq_ok.mp ok
  cases ok
  rw [refuse_eq_ok] at belowLimit newUser newEmail
  rw [Option.isSome_eq_false_iff, Option.isNone_iff_eq_none] at newUser
  have free : ∀ userId user, org.users.get? userId = some user → user.revoked = none →
      user.email ≠ u.humanHandle := by
    intro userId user isUser active same
    have member : user ∈ org.users.values :=
      List.mem_map.mpr ⟨_, Dict.get?_eq_some_iff.mp isUser, rfl⟩
    have taken := List.any_eq_false.mp newEmail user member
    simp [MemoryUser.isRevoked, active, same] at taken
  constructor
  · intro userId userId' user user' isUser isUser' active active' same
    rcases Dict.found_set rfl isUser with ⟨rfl, rfl⟩ | ⟨-, isOld⟩
    · rcases Dict.found_set rfl isUser' with ⟨rfl, -⟩ | ⟨-, isOld'⟩
      · rfl
      · exact absurd same.symm (free userId' user' isOld' active')
    · rcases Dict.found_set rfl isUser' with ⟨rfl, rfl⟩ | ⟨-, isOld'⟩
      · exact absurd same (free userId user isOld active)
      · exact sound.distinct userId userId' user user' isOld isOld' active active' same
  · intro limit isLimit
    have isLimit : org.activeUsersLimit = some limit := isLimit
    rw [activeUserLimitReached, isLimit] at belowLimit
    have absent : u.certif.userId ∉ org.users.keys := Dict.get?_eq_none_iff.mp newUser
    change ((org.users.set _ _).values.filter _).length ≤ limit
    rw [Dict.values, Dict.set, dif_neg absent]
    dsimp only
    rw [List.map_append, List.filter_append, List.length_append]
    have below : (org.users.values.filter fun user => !user.isRevoked).length < limit := by
      simpa using belowLimit
    exact below

end Steps

section Main
variable {start s : State}

theorem stateValid_of_noCall (noCall : start.waiting = []) : StateValid start :=
  ⟨by simp [noCall], by simp [noCall]⟩

/-- An organization that has an administrator keeps one. -/
theorem organization_keeps_admin (noCall : start.waiting = []) (admin : HasAdmin start.org)
    (run : Run Step (fun _ _ => True) start s) : HasAdmin s.org := by
  refine (run_org (stateValid_of_noCall noCall) admin ?_ ?_ run).2
  · exact fun s op topic org' _ _ effect admin => effect.hasAdmin admin
  · intro s event call org' _ _ effect admin
    cases effect with
    | _ => exact admin

/-- The team may have two active users. -/
def limitedTeam : MemoryOrganization := { teamOrganization with activeUsersLimit := some 2 }

/-- The second user becomes an administrator, revokes the first one, and gives its email to a new
    user. -/
def replacedTeam : MemoryOrganization :=
  ((limitedTeam.withUpdate ⟨⟨.user ⟨11⟩, 1, ⟨2⟩, .standard⟩, ⟨"bob"⟩, [], [], [], none⟩
    ⟨⟨11⟩, 2, ⟨2⟩, .admin⟩ []).withRevocation
      ⟨⟨.root, 1, ⟨1⟩, .admin⟩, ⟨"alice"⟩, [], [], [], none⟩ ⟨⟨12⟩, 3, ⟨1⟩⟩ []).withUser
        ⟨⟨.user ⟨12⟩, 4, ⟨3⟩, .standard⟩, ⟨"alice"⟩, false⟩ ⟨.user ⟨12⟩, 4, ⟨3⟩, ⟨13⟩, ⟨23⟩⟩
        [] [] [] []

theorem replaced_run : Run Step (fun _ _ => True) ⟨limitedTeam, [], []⟩ ⟨replacedTeam, [], []⟩ := by
  refine .step (.step (.step .start (t := .operation (.updateUser 2 ⟨11⟩ ⟨21⟩
    ⟨[], .certificate ⟨⟨11⟩, 2, ⟨2⟩, .admin⟩ ⟨21⟩⟩)) trivial (.operation (by simp) rfl))
    (t := .operation (.revokeUser 3 ⟨12⟩ ⟨22⟩ ⟨[], .certificate ⟨⟨12⟩, 3, ⟨1⟩⟩ ⟨22⟩⟩)) trivial
    (.operation (by simp) rfl)) (t := .operation (.createUser 4 ⟨12⟩ ⟨22⟩
      ⟨[], .certificate ⟨⟨.user ⟨12⟩, 4, ⟨3⟩, .standard⟩, ⟨"alice"⟩, false⟩ ⟨22⟩⟩
      ⟨[], .certificate ⟨⟨.user ⟨12⟩, 4, ⟨3⟩, .standard⟩, ⟨"alice"⟩, true⟩ ⟨22⟩⟩
      ⟨[], .certificate ⟨⟨.user ⟨12⟩, 4, ⟨3⟩, ⟨13⟩, ⟨23⟩⟩, false⟩ ⟨22⟩⟩
      ⟨[], .certificate ⟨⟨.user ⟨12⟩, 4, ⟨3⟩, ⟨13⟩, ⟨23⟩⟩, true⟩ ⟨22⟩⟩)) trivial
    (.operation (by simp) rfl)

theorem organization_keeps_admin_team : HasAdmin replacedTeam :=
  organization_keeps_admin (s := ⟨replacedTeam, [], []⟩) rfl ⟨⟨1⟩, _, rfl, rfl, rfl⟩ replaced_run

/-- A realm always has an owner, whoever is revoked. -/
theorem realms_keep_owner (noCall : start.waiting = []) (owned : RealmsOwned start.org)
    (run : Run Step (fun _ _ => True) start s) : RealmsOwned s.org := by
  refine (run_org (stateValid_of_noCall noCall) owned ?_ ?_ run).2
  · exact fun s op topic org' _ _ effect owned => effect.realmsOwned owned
  · exact fun s event call org' _ _ effect owned => effect.realmsOwned owned

theorem realms_keep_owner_shared : ∃ userId, sharedRealm.getCurrentRoleFor userId = some .owner := by
  obtain ⟨s, run, rfl⟩ := @shared_run (fun _ _ => True) (fun _ _ _ => trivial) fun _ _ _ => trivial
  exact realms_keep_owner rfl (fun _ _ found => by cases found) run ⟨5⟩ sharedRealm rfl

theorem active_users_stay_distinct (noCall : start.waiting = [])
    (sound : ActiveUsersSound start.org) (run : Run Step (fun _ _ => True) start s) :
    ActiveUsersSound s.org := by
  refine (run_org (stateValid_of_noCall noCall) sound ?_ ?_ run).2
  · intro s op topic org' _ ok effect sound
    cases op with
    | createUser => exact createUser_activeUsersSound ok sound
    | _ => exact effect.activeUsersSound (by simp [Operation.kind]) sound
  · intro s event call org' _ _ effect sound
    cases effect with
    | _ => exact ⟨sound.distinct, sound.limited⟩

theorem active_users_stay_distinct_team : ActiveUsersSound replacedTeam := by
  refine active_users_stay_distinct (s := ⟨replacedTeam, [], []⟩) rfl ⟨?_, ?_⟩ replaced_run
  · intro userId userId' user user' isUser isUser' _ _ same
    rw [Dict.get?_eq_some_iff] at isUser isUser'
    simp only [limitedTeam, teamOrganization, Dict.mem_items_set] at isUser isUser'
    rcases isUser with ⟨rfl, rfl⟩ | ⟨-, ⟨rfl, rfl⟩ | ⟨-, ⟨⟩⟩⟩
    · rcases isUser' with ⟨rfl, -⟩ | ⟨-, ⟨-, rfl⟩ | ⟨-, ⟨⟩⟩⟩
      · rfl
      · simp at same
    · rcases isUser' with ⟨-, rfl⟩ | ⟨-, ⟨rfl, -⟩ | ⟨-, ⟨⟩⟩⟩
      · simp at same
      · rfl
  · rintro limit ⟨⟩
    exact le_refl 2

end Main
end ParsecCloud.Server

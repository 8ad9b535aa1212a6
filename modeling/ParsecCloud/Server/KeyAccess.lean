import ParsecCloud.Server.Roles

/- Every member of a realm obtains its last key, and nobody else has an access to it. -/
namespace ParsecCloud.Server
open Certif Rust Runs MemoryOrganization

/-- The user had a role at some date from a rotation on and before the next one. -/
def HadRole (roles : Roles) (userId : UserID) (since : DateTime) (next : Option DateTime)
    (last : DateTime) : Prop :=
  ∃ date role, since ≤ date ∧ date ≤ last ∧ (∀ limit, next = some limit → date < limit) ∧
    roleAt roles userId date = some role

def MemoryRealm.rotations (realm : MemoryRealm) : List RealmKeyRotationCertificate :=
  realm.keyRotations.map (·.cooked)

/-- The date of the rotation at an index, if there is one. -/
def MemoryRealm.rotatedAt (realm : MemoryRealm) (index : Nat) : Option DateTime :=
  realm.rotations[index]?.map (·.timestamp)

/-- What holds of the keys of a realm whose last certificate has this date. -/
structure RealmKeys (last : DateTime) (realm : MemoryRealm) : Prop where
  rolesDated : ∀ role ∈ realm.roles, role.1.timestamp ≤ last
  rolesOrdered : realm.roles.Pairwise fun a b => a.1.timestamp < b.1.timestamp
  rotationsDated : ∀ certif ∈ realm.rotations, certif.timestamp ≤ last
  indexes : ∀ index certif, realm.rotations[index]? = some certif → certif.keyIndex = index + 1
  ordered : realm.rotations.Pairwise fun a b => a.timestamp < b.timestamp
  members : ∀ rotation, realm.keyRotations.getLast? = some rotation → ∀ userId,
    currentRole realm.roles userId ≠ none →
      ∃ accesses, rotation.perParticipantKeysBundleAccesses.get? userId = some accesses ∧
        accesses ≠ []
  accessesDated : ∀ rotation ∈ realm.keyRotations, ∀ userId accesses,
    rotation.perParticipantKeysBundleAccesses.get? userId = some accesses →
      ∀ access ∈ accesses, rotation.cooked.timestamp ≤ access.1
  onlyMembers : ∀ index rotation, realm.keyRotations[index]? = some rotation → ∀ userId accesses,
    rotation.perParticipantKeysBundleAccesses.get? userId = some accesses →
      HadRole realm.roles userId rotation.cooked.timestamp (realm.rotatedAt (index + 1)) last

theorem HadRole.append {roles : Roles} {userId : UserID} {since last : DateTime}
    {next : Option DateTime} {certif : RealmRoleCertificate} {raw : List Byte}
    (had : HadRole roles userId since next last) (later : last < certif.timestamp) :
    HadRole (roles ++ [(certif, raw)]) userId since next certif.timestamp := by
  obtain ⟨date, role, isSince, isLast, isNext, isRole⟩ := had
  refine ⟨date, role, isSince, isLast.trans later.le, isNext, ?_⟩
  rw [roleAt_append (lt_of_le_of_lt isLast later)]
  exact isRole

theorem HadRole.mono {roles : Roles} {userId : UserID} {since last last' : DateTime}
    {next : Option DateTime} (had : HadRole roles userId since next last) (later : last ≤ last') :
    HadRole roles userId since next last' := by
  obtain ⟨date, role, isSince, isLast, isNext, isRole⟩ := had
  exact ⟨date, role, isSince, isLast.trans later, isNext, isRole⟩

namespace RealmKeys
variable {last last' : DateTime} {realm realm' : MemoryRealm}

theorem congr (keys : RealmKeys last realm) (later : last ≤ last')
    (roles : realm'.roles = realm.roles) (rotations : realm'.keyRotations = realm.keyRotations) :
    RealmKeys last' realm' := by
  have same : realm'.rotations = realm.rotations := by
    rw [MemoryRealm.rotations, rotations, MemoryRealm.rotations]
  constructor
  · intro role member
    exact (keys.rolesDated role (roles ▸ member)).trans later
  · rw [roles]
    exact keys.rolesOrdered
  · intro certif member
    exact (keys.rotationsDated certif (same ▸ member)).trans later
  · rw [same]
    exact keys.indexes
  · rw [same]
    exact keys.ordered
  · rw [roles, rotations]
    exact keys.members
  · rw [rotations]
    exact keys.accessesDated
  · rw [roles, rotations]
    intro index rotation found userId accesses isAccess
    have had := keys.onlyMembers index rotation found userId accesses isAccess
    rw [MemoryRealm.rotatedAt, same]
    exact had.mono later

theorem newRealm {now : DateTime} {certif : RealmRoleCertificate} {raw : List Byte} :
    RealmKeys certif.timestamp
      ⟨certif.realmId, now, [(certif, raw)], [], [], [], none, .empty⟩ where
  rolesDated := by simp
  rolesOrdered := List.pairwise_singleton _ _
  rotationsDated := by simp [MemoryRealm.rotations]
  indexes := by simp [MemoryRealm.rotations]
  ordered := List.Pairwise.nil
  members := by simp
  accessesDated := by simp
  onlyMembers := by simp

theorem roles_append {certif : RealmRoleCertificate} {raw : List Byte} (keys : RealmKeys last realm)
    (later : last < certif.timestamp) :
    (∀ role ∈ realm.roles ++ [(certif, raw)], role.1.timestamp ≤ certif.timestamp) ∧
      (realm.roles ++ [(certif, raw)]).Pairwise fun a b => a.1.timestamp < b.1.timestamp := by
  constructor
  · intro role member
    rcases List.mem_append.mp member with isOld | isNew
    · exact (keys.rolesDated role isOld).trans later.le
    · rw [List.mem_singleton.mp isNew]
  · rw [List.pairwise_append]
    refine ⟨keys.rolesOrdered, List.pairwise_singleton _ _, ?_⟩
    intro role isOld new isNew
    rw [List.mem_singleton.mp isNew]
    exact lt_of_le_of_lt (keys.rolesDated role isOld) later

theorem unshare {certif : RealmRoleCertificate} {raw : List Byte} (keys : RealmKeys last realm)
    (later : last < certif.timestamp) (noRole : certif.role = none) :
    RealmKeys certif.timestamp { realm with roles := realm.roles ++ [(certif, raw)] } where
  rolesDated := (keys.roles_append later).1
  rolesOrdered := (keys.roles_append later).2
  rotationsDated := fun rotation member => (keys.rotationsDated rotation member).trans later.le
  indexes := keys.indexes
  ordered := keys.ordered
  members := by
    intro rotation isLast userId hasRole
    rw [currentRole_append] at hasRole
    split at hasRole
    · exact absurd noRole hasRole
    · exact keys.members rotation isLast userId hasRole
  accessesDated := keys.accessesDated
  onlyMembers := by
    intro index rotation found userId accesses isAccess
    exact (keys.onlyMembers index rotation found userId accesses isAccess).append later

theorem share {certif : RealmRoleCertificate} {raw access : List Byte}
    {rotation : MemoryRealmKeyRotation} (keys : RealmKeys last realm)
    (later : last < certif.timestamp) (role : certif.role.isSome)
    (isLast : realm.keyRotations.getLast? = some rotation) :
    RealmKeys certif.timestamp { realm with
      roles := realm.roles ++ [(certif, raw)]
      keyRotations := realm.keyRotations.dropLast ++
        [addAccess rotation certif.userId certif.timestamp access] } := by
  obtain ⟨front, split⟩ := List.getLast?_eq_some_iff.mp isLast
  have isFront : realm.keyRotations.dropLast = front := by rw [split, List.dropLast_concat]
  have isCurrent : currentRole (realm.roles ++ [(certif, raw)]) certif.userId = certif.role := by
    rw [currentRole_append, if_pos rfl]
  obtain ⟨dated, rolesOrdered⟩ := @roles_append _ _ _ raw keys later
  have sameRotations : MemoryRealm.rotations { realm with
      roles := realm.roles ++ [(certif, raw)]
      keyRotations := front ++ [addAccess rotation certif.userId certif.timestamp access] } =
      realm.rotations := by
    rw [MemoryRealm.rotations, MemoryRealm.rotations, split, List.map_append, List.map_append]
    rfl
  have isAdded : ∀ {userId accesses}, (addAccess rotation certif.userId certif.timestamp
      access).perParticipantKeysBundleAccesses.get? userId = some accesses →
      userId = certif.userId ∧ accesses =
        (rotation.perParticipantKeysBundleAccesses.get? userId).getD [] ++
          [(certif.timestamp, access)] ∨
      rotation.perParticipantKeysBundleAccesses.get? userId = some accesses := by
    intro userId accesses found
    change (rotation.perParticipantKeysBundleAccesses.set _ _).get? userId = _ at found
    rcases Dict.found_set rfl found with ⟨same, rfl⟩ | ⟨-, found⟩
    · rw [same]
      exact Or.inl ⟨rfl, rfl⟩
    · exact Or.inr found
  rw [isFront]
  constructor
  · exact dated
  · exact rolesOrdered
  · rw [sameRotations]
    exact fun rotation member => (keys.rotationsDated rotation member).trans later.le
  · rw [sameRotations]
    exact keys.indexes
  · rw [sameRotations]
    exact keys.ordered
  · intro rotation' isLast' userId hasRole
    rw [List.getLast?_concat] at isLast'
    cases isLast'
    change ∃ accesses, (rotation.perParticipantKeysBundleAccesses.set _ _).get? userId = _ ∧ _
    rw [Dict.get?_set]
    split
    · exact ⟨_, rfl, by simp⟩
    · rename_i other
      rw [currentRole_append, if_neg (Ne.symm other)] at hasRole
      exact keys.members rotation isLast userId hasRole
  · intro rotation' member userId accesses isAccess pair isPair
    rcases List.mem_append.mp member with isOld | isNew
    · exact keys.accessesDated rotation' (split ▸ List.mem_append_left _ isOld) userId accesses
        isAccess pair isPair
    · rw [List.mem_singleton.mp isNew] at isAccess ⊢
      have member : rotation ∈ realm.keyRotations := by simp [split]
      rcases isAdded isAccess with ⟨same, isAccesses⟩ | isOld
      · rw [isAccesses] at isPair
        rcases List.mem_append.mp isPair with isBefore | isLastPair
        · cases found : rotation.perParticipantKeysBundleAccesses.get? userId with
          | none => simp [found] at isBefore
          | some before =>
            rw [found] at isBefore
            exact keys.accessesDated rotation member userId before found pair isBefore
        · rw [List.mem_singleton.mp isLastPair]
          exact (keys.rotationsDated rotation.cooked (List.mem_map_of_mem member)).trans later.le
      · exact keys.accessesDated rotation member userId accesses isOld pair isPair
  · intro index rotation' found userId accesses isAccess
    rw [MemoryRealm.rotatedAt, sameRotations]
    by_cases inside : index < front.length
    · rw [List.getElem?_append_left inside] at found
      have old : realm.keyRotations[index]? = some rotation' := by
        rw [split, List.getElem?_append_left inside, found]
      exact (keys.onlyMembers index rotation' old userId accesses isAccess).append later
    · have isIndex : index = front.length := by
        have bound := (List.getElem?_eq_some_iff.mp found).1
        rw [List.length_append, List.length_singleton] at bound
        omega
      have old : realm.keyRotations[index]? = some rotation := by
        rw [split, isIndex, List.getElem?_concat_length]
      rw [isIndex, List.getElem?_concat_length] at found
      cases found
      rcases isAdded isAccess with ⟨same, -⟩ | isOld
      · obtain ⟨newRole, isRole⟩ := Option.isSome_iff_exists.mp role
        refine ⟨certif.timestamp, newRole, ?_, le_refl _, ?_, ?_⟩
        · exact (keys.rotationsDated rotation.cooked
            (List.mem_map_of_mem (by simp [split]))).trans later.le
        · intro limit isLimit
          rw [List.getElem?_eq_none] at isLimit
          · cases isLimit
          · rw [MemoryRealm.rotations, List.length_map, split, List.length_append, isIndex]
            exact le_refl _
        · rw [same, roleAt_eq_currentRole dated, isCurrent, isRole]
      · exact (keys.onlyMembers index rotation old userId accesses isOld).append later

theorem rotate {rotation : WaitingRotation} (keys : RealmKeys last realm)
    (later : last < rotation.certif.timestamp)
    (index : rotation.certif.keyIndex = realm.keyRotations.length + 1)
    (members : rotation.accesses.keys.toFinset = participants realm.roles) :
    RealmKeys rotation.certif.timestamp { realm with
      keyRotations := realm.keyRotations ++ [⟨rotation.certif, rotation.raw,
        rotationAccesses rotation.certif.timestamp rotation.accesses, rotation.keysBundle,
        rotation.sequesterAccesses⟩] } := by
  have isMember : ∀ userId, currentRole realm.roles userId ≠ none ↔
      ∃ access, (userId, access) ∈ rotation.accesses.items := by
    intro userId
    rw [← mem_participants, ← members, List.mem_toFinset, Dict.keys, List.mem_map]
    constructor
    · rintro ⟨⟨user, access⟩, isItem, rfl⟩
      exact ⟨access, isItem⟩
    · rintro ⟨access, isItem⟩
      exact ⟨_, isItem, rfl⟩
  have isAccess : ∀ {userId accesses},
      (rotationAccesses rotation.certif.timestamp rotation.accesses).get? userId = some accesses ↔
        ∃ access, (userId, access) ∈ rotation.accesses.items ∧
          accesses = [(rotation.certif.timestamp, access)] := by
    intro userId accesses
    rw [Dict.get?_eq_some_iff, rotationAccesses, List.mem_map]
    constructor
    · rintro ⟨⟨user, access⟩, isItem, same⟩
      cases same
      exact ⟨access, isItem, rfl⟩
    · rintro ⟨access, isItem, rfl⟩
      exact ⟨_, isItem, rfl⟩
  have rotations : MemoryRealm.rotations { realm with
      keyRotations := realm.keyRotations ++ [⟨rotation.certif, rotation.raw,
        rotationAccesses rotation.certif.timestamp rotation.accesses, rotation.keysBundle,
        rotation.sequesterAccesses⟩] } =
      realm.rotations ++ [rotation.certif] := by
    rw [MemoryRealm.rotations, List.map_append]
    rfl
  have length : realm.rotations.length = realm.keyRotations.length := List.length_map _
  constructor
  · intro role member
    exact (keys.rolesDated role member).trans later.le
  · exact keys.rolesOrdered
  · rw [rotations]
    intro certif member
    rcases List.mem_append.mp member with isOld | isNew
    · exact (keys.rotationsDated certif isOld).trans later.le
    · rw [List.mem_singleton.mp isNew]
  · rw [rotations]
    intro i certif found
    by_cases inside : i < realm.rotations.length
    · rw [List.getElem?_append_left inside] at found
      exact keys.indexes i certif found
    · have isIndex : i = realm.rotations.length := by
        have bound := (List.getElem?_eq_some_iff.mp found).1
        rw [List.length_append, List.length_singleton] at bound
        omega
      rw [isIndex, List.getElem?_concat_length] at found
      cases found
      rw [index, isIndex, length]
  · rw [rotations, List.pairwise_append]
    refine ⟨keys.ordered, List.pairwise_singleton _ _, ?_⟩
    intro old isOld new isNew
    rw [List.mem_singleton.mp isNew]
    exact lt_of_le_of_lt (keys.rotationsDated old isOld) later
  · intro last isLast userId hasRole
    rw [List.getLast?_concat] at isLast
    cases isLast
    obtain ⟨access, isItem⟩ := (isMember userId).mp hasRole
    exact ⟨_, isAccess.mpr ⟨access, isItem, rfl⟩, by simp⟩
  · intro rotation' member userId accesses found pair isPair
    rcases List.mem_append.mp member with isOld | isNew
    · exact keys.accessesDated rotation' isOld userId accesses found pair isPair
    · rw [List.mem_singleton.mp isNew] at found ⊢
      obtain ⟨access, -, rfl⟩ := isAccess.mp found
      rw [List.mem_singleton.mp isPair]
  · intro i rotation' found userId accesses isFound
    rw [MemoryRealm.rotatedAt, rotations]
    by_cases inside : i < realm.keyRotations.length
    · rw [List.getElem?_append_left inside] at found
      obtain ⟨date, role, isSince, isLast, isNext, isRole⟩ :=
        keys.onlyMembers i rotation' found userId accesses isFound
      refine ⟨date, role, isSince, isLast.trans later.le, ?_, isRole⟩
      intro limit isLimit
      by_cases next : i + 1 < realm.rotations.length
      · rw [List.getElem?_append_left next] at isLimit
        exact isNext limit isLimit
      · rw [show i + 1 = realm.rotations.length by omega, List.getElem?_concat_length] at isLimit
        cases isLimit
        exact lt_of_le_of_lt isLast later
    · have isIndex : i = realm.keyRotations.length := by
        have bound := (List.getElem?_eq_some_iff.mp found).1
        rw [List.length_append, List.length_singleton] at bound
        omega
      rw [isIndex, List.getElem?_concat_length] at found
      cases found
      obtain ⟨access, isItem, -⟩ := isAccess.mp isFound
      obtain ⟨role, isRole⟩ := Option.ne_none_iff_exists'.mp ((isMember userId).mpr ⟨access, isItem⟩)
      refine ⟨rotation.certif.timestamp, role, le_refl _, le_refl _, ?_, ?_⟩
      · intro limit isLimit
        rw [List.getElem?_eq_none] at isLimit
        · cases isLimit
        · rw [List.length_append, List.length_singleton, isIndex, length]
      · rw [roleAt_eq_currentRole fun role member =>
          (keys.rolesDated role member).trans later.le]
        exact isRole

end RealmKeys

/-- The keys of all the realms. -/
def KeysKept (org : MemoryOrganization) : Prop :=
  ∀ realmId realm, org.realms.get? realmId = some realm →
    RealmKeys (org.lastTimestamp (.realm realmId)) realm

namespace KeysKept
variable {org org' : MemoryOrganization}

theorem sameRealms (keys : KeysKept org) (realms : org'.realms = org.realms)
    (topics : ∀ realmId, org'.lastTimestamp (.realm realmId) = org.lastTimestamp (.realm realmId)) :
    KeysKept org' := by
  intro realmId realm isRealm
  rw [realms] at isRealm
  rw [topics]
  exact keys realmId realm isRealm

theorem setRealm {realmId : VlobID} {realm : MemoryRealm} (keys : KeysKept org)
    (realms : org'.realms = org.realms.set realmId realm)
    (topics : ∀ other, other ≠ realmId →
      org'.lastTimestamp (.realm other) = org.lastTimestamp (.realm other))
    (realmKeys : RealmKeys (org'.lastTimestamp (.realm realmId)) realm) : KeysKept org' := by
  intro other found isFound
  rcases Dict.found_set realms isFound with ⟨same, rfl⟩ | ⟨different, isFound⟩
  · rw [same]
    exact realmKeys
  · rw [topics other different]
    exact keys other found isFound

theorem certificate {realmId : VlobID} {realm : MemoryRealm} {timestamp : DateTime}
    (keys : KeysKept org) (realms : org'.realms = org.realms.set realmId realm)
    (updated : org'.perTopicLastTimestamp =
      Function.update org.perTopicLastTimestamp (.realm realmId) (some timestamp))
    (realmKeys : RealmKeys timestamp realm) : KeysKept org' := by
  apply keys.setRealm realms
  · intro other different
    rw [lastTimestamp_update updated, if_neg (by simpa using different)]
  · rw [lastTimestamp_update updated, if_pos rfl]
    exact realmKeys

theorem lastTimestamp_le_forRole {realmId : VlobID} {realm : MemoryRealm} :
    org.lastTimestamp (.realm realmId) ≤ org.lastTimestampForRole realmId realm := by
  unfold lastTimestampForRole
  split
  · exact le_max_right _ _
  · exact (le_max_right _ _).trans (le_max_left _ _)

theorem operation {kind : OperationKind} {topic : TopicAndDiscriminant} (keys : KeysKept org)
    (effect : Effect org kind topic org') : KeysKept org' := by
  have topics : ∀ {org₁ : MemoryOrganization} {topic timestamp}, org₁.perTopicLastTimestamp =
      Function.update org.perTopicLastTimestamp topic (some timestamp) →
      (∀ realmId, topic ≠ .realm realmId) → ∀ realmId,
        org₁.lastTimestamp (.realm realmId) = org.lastTimestamp (.realm realmId) := by
    intro org₁ topic timestamp updated other realmId
    rw [lastTimestamp_update updated, if_neg (other realmId).symm]
  cases effect with
  | user => exact keys.sameRealms rfl (topics rfl (by simp))
  | device => exact keys.sameRealms rfl (topics rfl (by simp))
  | revocation => exact keys.sameRealms rfl (topics rfl (by simp))
  | update => exact keys.sameRealms rfl (topics rfl (by simp))
  | newRealm => exact keys.certificate rfl rfl RealmKeys.newRealm
  | @share certif authorUser user authorId realm rotation raw access hasAuthor other role isUser
      active isRealm allowed outsider changes later last =>
    exact keys.certificate rfl rfl
      ((keys _ realm isRealm).share (lt_of_le_of_lt lastTimestamp_le_forRole later) role last)
  | @unshare certif authorUser user authorId realm raw hasAuthor other noRole isUser isRealm allowed
      changes later =>
    exact keys.certificate rfl rfl
      ((keys _ realm isRealm).unshare (lt_of_le_of_lt lastTimestamp_le_forRole later) noRole)
  | @rename certif authorUser authorId realm raw hasAuthor isRealm owner index later =>
    exact keys.certificate rfl rfl
      ((keys _ realm isRealm).congr ((le_max_right _ _).trans later.le) rfl rfl)
  | setup => exact keys.sameRealms rfl (topics rfl (by simp))
  | deletion => exact keys.sameRealms rfl (topics rfl (by simp))
  | service => exact keys.sameRealms rfl (topics rfl (by simp))
  | revokedService => exact keys.sameRealms rfl (topics rfl (by simp))

theorem store {call : Waiting} (keys : KeysKept org) (valid : call.Valid org)
    (effect : StoreEffect org call org') : KeysKept org' := by
  cases effect with
  | @createVlob write realm isRealm =>
    exact keys.setRealm rfl (fun _ _ => rfl) ((keys _ realm isRealm).congr (le_refl _) rfl rfl)
  | @updateVlob write place realm isRealm =>
    exact keys.setRealm rfl (fun _ _ => rfl) ((keys _ realm isRealm).congr (le_refl _) rfl rfl)
  | @rotateKey rotation realm isRealm later =>
    obtain ⟨userId, user, found, valid⟩ := valid
    have same : found = realm := Option.some.inj (valid.isRealm.symm.trans isRealm)
    subst same
    refine keys.certificate rfl rfl
      ((keys _ found isRealm).rotate ?_ valid.index valid.participants)
    rw [← valid.realmTopic]
    exact lt_of_le_of_lt (le_max_right _ _) later

end KeysKept

/-- The members of the realms are not revoked. -/
structure MembersActive (org : MemoryOrganization) : Prop where
  notExpired : ∀ realmId realm, org.realms.get? realmId = some realm → org.isExpired = false
  active : ∀ realmId realm, org.realms.get? realmId = some realm → ∀ userId,
    currentRole realm.roles userId ≠ none →
      ∃ user, org.users.get? userId = some user ∧ user.revoked = none

namespace MembersActive
variable {org org' : MemoryOrganization}

theorem sameRealms (members : MembersActive org) (realms : org'.realms = org.realms)
    (expired : org'.isExpired = org.isExpired)
    (users : ∀ userId user, org.users.get? userId = some user → user.revoked = none →
      ∃ user', org'.users.get? userId = some user' ∧ user'.revoked = none) :
    MembersActive org' := by
  constructor
  · intro realmId realm isRealm
    rw [realms] at isRealm
    rw [expired]
    exact members.notExpired realmId realm isRealm
  · intro realmId realm isRealm userId hasRole
    rw [realms] at isRealm
    obtain ⟨user, isUser, active⟩ := members.active realmId realm isRealm userId hasRole
    exact users userId user isUser active

theorem setRealm {realmId : VlobID} {realm : MemoryRealm} (members : MembersActive org)
    (realms : org'.realms = org.realms.set realmId realm)
    (expired : org'.isExpired = org.isExpired) (notExpired : org.isExpired = false)
    (users : org'.users = org.users)
    (active : ∀ userId, currentRole realm.roles userId ≠ none →
      ∃ user, org.users.get? userId = some user ∧ user.revoked = none) :
    MembersActive org' := by
  constructor
  · intro other found isFound
    rw [expired]
    exact notExpired
  · intro other found isFound
    rw [users]
    rcases Dict.found_set realms isFound with ⟨-, rfl⟩ | ⟨-, isFound⟩
    · exact active
    · exact members.active other found isFound

theorem activeRoles {roles : Roles} {certif : RealmRoleCertificate} {raw : List Byte}
    (active : ∀ userId, currentRole roles userId ≠ none →
      ∃ user, org.users.get? userId = some user ∧ user.revoked = none)
    (recipient : certif.role ≠ none →
      ∃ user, org.users.get? certif.userId = some user ∧ user.revoked = none) (userId : UserID)
    (hasRole : currentRole (roles ++ [(certif, raw)]) userId ≠ none) :
    ∃ user, org.users.get? userId = some user ∧ user.revoked = none := by
  rw [currentRole_append] at hasRole
  split at hasRole
  · rename_i same
    rw [← same]
    exact recipient hasRole
  · exact active userId hasRole

theorem operation {kind : OperationKind} {topic : TopicAndDiscriminant}
    (members : MembersActive org) (effect : Effect org kind topic org')
    (notRevocation : ∀ certif, kind ≠ .revokeUser certif) : MembersActive org' := by
  have sameUsers : ∀ userId user, org.users.get? userId = some user → user.revoked = none →
      ∃ user', org.users.get? userId = some user' ∧ user'.revoked = none :=
    fun userId user isUser active => ⟨user, isUser, active⟩
  cases effect with
  | user raw redacted deviceRaw deviceRedacted hasAuthor admin _ _ _ _ isNew =>
    refine members.sameRealms rfl rfl ?_
    intro userId user isUser active
    refine ⟨user, (Dict.get?_set_of_ne ?_).trans isUser, active⟩
    rintro rfl
    rw [isNew] at isUser
    cases isUser
  | device => exact members.sameRealms rfl rfl sameUsers
  | revocation => exact absurd rfl (notRevocation _)
  | @update certif target authorUser authorId raw hasAuthor admin other isTarget active =>
    refine members.sameRealms rfl rfl ?_
    intro userId user isUser isActive
    change ∃ user', (org.users.set _ _).get? userId = some user' ∧ _
    rw [Dict.get?_set]
    split
    · exact ⟨_, rfl, active⟩
    · exact ⟨user, isUser, isActive⟩
  | @newRealm certif authorUser now raw hasAuthor notOutsider owner isNew later =>
    obtain ⟨notExpired, device, isDevice, sameUser, isUser, active⟩ := hasAuthor
    refine members.setRealm rfl rfl notExpired rfl (@activeRoles org [] certif raw ?_ ?_)
    · simp [currentRole]
    · exact fun _ => ⟨authorUser, isUser, active⟩
  | @share certif authorUser user authorId realm rotation raw access hasAuthor other role isUser
      active isRealm =>
    exact members.setRealm rfl rfl hasAuthor.1 rfl
      (activeRoles (members.active _ realm isRealm) fun _ => ⟨user, isUser, active⟩)
  | @unshare certif authorUser user authorId realm raw hasAuthor other noRole isUser isRealm =>
    exact members.setRealm rfl rfl hasAuthor.1 rfl
      (activeRoles (members.active _ realm isRealm) fun hasRole => absurd noRole hasRole)
  | @rename certif authorUser authorId realm raw hasAuthor isRealm =>
    exact members.setRealm rfl rfl hasAuthor.1 rfl (members.active _ realm isRealm)
  | setup => exact members.sameRealms rfl rfl sameUsers
  | deletion => exact members.sameRealms rfl rfl sameUsers
  | service => exact members.sameRealms rfl rfl sameUsers
  | revokedService => exact members.sameRealms rfl rfl sameUsers

theorem store {call : Waiting} (members : MembersActive org) (effect : StoreEffect org call org') :
    MembersActive org' := by
  cases effect with
  | @createVlob write realm isRealm =>
    exact members.setRealm rfl rfl (members.notExpired _ _ isRealm) rfl
      (members.active _ realm isRealm)
  | @updateVlob write place realm isRealm =>
    exact members.setRealm rfl rfl (members.notExpired _ _ isRealm) rfl
      (members.active _ realm isRealm)
  | @rotateKey rotation realm isRealm later =>
    exact members.setRealm rfl rfl (members.notExpired _ _ isRealm) rfl
      (members.active _ realm isRealm)

end MembersActive

/-- All the steps but the revocation of a user. -/
def NoRevocation (_ : State) : Event → Prop
  | .operation op => ∀ certif, op.kind ≠ .revokeUser certif
  | _ => True

theorem keys_of_run {start s : State} (noRealm : start.org.realms = .empty)
    (noCall : start.waiting = []) (run : Run Step NoRevocation start s) :
    KeysKept s.org ∧ MembersActive s.org := by
  have nothing : ∀ {realmId realm}, start.org.realms.get? realmId = some realm → False := by
    intro realmId realm isRealm
    rw [noRealm] at isRealm
    cases isRealm
  refine (@run_org (fun org => KeysKept org ∧ MembersActive org) _ _ _
    ⟨by simp [noCall], by simp [noCall]⟩ ?_ ?_ ?_ run).2
  · exact ⟨fun _ _ isRealm => (nothing isRealm).elim, fun _ _ isRealm => (nothing isRealm).elim,
      fun _ _ isRealm => (nothing isRealm).elim⟩
  · intro s op topic org' admitted _ effect kept
    exact ⟨kept.1.operation effect, kept.2.operation effect admitted⟩
  · intro s event call org' _ valid effect kept
    exact ⟨kept.1.store valid effect, kept.2.store effect⟩

/-- A member of the realm, with any of its devices, gets the key of the rotation with an access that
    was given to it in the rotation or after. -/
def GetsKey (org : MemoryOrganization) (realmId : VlobID) (rotation : MemoryRealmKeyRotation)
    (userId : UserID) (device : DeviceID) (keyIndex : Option Nat) : Prop :=
  ∃ bundle accesses date, org.getKeysBundle device realmId keyIndex = .ok bundle ∧
    bundle.keyIndex = rotation.cooked.keyIndex ∧ bundle.keysBundle = rotation.keysBundle ∧
    rotation.perParticipantKeysBundleAccesses.get? userId = some accesses ∧
    (date, bundle.keysBundleAccess) ∈ accesses ∧ rotation.cooked.timestamp ≤ date

theorem keyRotationAt_last {realm : MemoryRealm} {rotation : MemoryRealmKeyRotation}
    {keyIndex : Option Nat} (isLast : realm.keyRotations.getLast? = some rotation)
    (index : keyIndex = none ∨ keyIndex = some realm.keyRotations.length) :
    keyRotationAt realm keyIndex = .ok rotation := by
  rcases index with rfl | rfl
  · simp [keyRotationAt, isLast]
  · obtain ⟨front, split⟩ := List.getLast?_eq_some_iff.mp isLast
    have length : realm.keyRotations.length = front.length + 1 := by simp [split]
    have found : realm.keyRotations[front.length]? = some rotation := by
      rw [split, List.getElem?_concat_length]
    rw [length, keyRotationAt, found]

theorem KeysKept.getsKey {org : MemoryOrganization} (keys : KeysKept org)
    (members : MembersActive org)
    {realmId : VlobID} {realm : MemoryRealm} {rotation : MemoryRealmKeyRotation} {userId : UserID}
    {device : DeviceID} {found : MemoryDevice} {keyIndex : Option Nat}
    (isRealm : org.realms.get? realmId = some realm)
    (isLast : realm.keyRotations.getLast? = some rotation)
    (hasRole : realm.getCurrentRoleFor userId ≠ none)
    (isDevice : org.devices.get? device = some found) (ofUser : found.cooked.userId = userId)
    (index : keyIndex = none ∨ keyIndex = some realm.keyRotations.length) :
    GetsKey org realmId rotation userId device keyIndex := by
  have realmKeys := keys realmId realm isRealm
  obtain ⟨user, isUser, active⟩ := members.active realmId realm isRealm userId hasRole
  obtain ⟨accesses, isAccesses, nonempty⟩ := realmKeys.members rotation isLast userId hasRole
  obtain ⟨⟨date, access⟩, isAccess⟩ := Option.ne_none_iff_exists'.mp
    (mt List.getLast?_eq_none_iff.mp nonempty)
  have member := List.mem_of_getLast? isAccess
  refine ⟨⟨rotation.cooked.keyIndex, access, rotation.keysBundle⟩, accesses, date, ?_, rfl, rfl,
    isAccesses, member, realmKeys.accessesDated rotation (List.mem_of_getLast? isLast) userId
      accesses isAccesses _ member⟩
  have author : org.checkAuthor device = .ok (found, user) := by
    simp [checkAuthor, refuse, members.notExpired realmId realm isRealm, isDevice, ofUser, isUser,
      MemoryUser.isRevoked, active]
  have roleSome : (realm.getCurrentRoleFor userId).isNone = false := by
    simpa [Option.isNone_eq_false_iff, Option.isSome_iff_ne_none] using hasRole
  have isFound : org.findRealm realmId = .ok realm := by simp [findRealm, isRealm]
  unfold getKeysBundle
  refine bind_eq_ok.mpr ⟨_, author, bind_eq_ok.mpr ⟨realm, isFound, ?_⟩⟩
  rw [ofUser, roleSome]
  refine bind_eq_ok.mpr ⟨(), rfl, bind_eq_ok.mpr ⟨rotation, keyRotationAt_last isLast index, ?_⟩⟩
  rw [isAccesses]
  dsimp only
  rw [isAccess]
  rfl

theorem getKeysBundle_role {org : MemoryOrganization} {realmId : VlobID} {realm : MemoryRealm}
    {device : DeviceID} {keyIndex : Option Nat} {bundle : KeysBundle}
    (isRealm : org.realms.get? realmId = some realm)
    (got : org.getKeysBundle device realmId keyIndex = .ok bundle) :
    ∃ found, org.devices.get? device = some found ∧
      realm.getCurrentRoleFor found.cooked.userId ≠ none := by
  unfold getKeysBundle at got
  obtain ⟨⟨found, user⟩, isAuthor, got⟩ := bind_eq_ok.mp got
  obtain ⟨_, isFound, got⟩ := bind_eq_ok.mp got
  obtain ⟨_, hasRole, -⟩ := bind_eq_ok.mp got
  cases (findRealm_ok isFound).symm.trans isRealm
  rw [refuse_eq_ok] at hasRole
  refine ⟨found, (checkAuthor_ok isAuthor).2.1, ?_⟩
  intro noRole
  rw [noRole] at hasRole
  cases hasRole

/-- Members obtain the last key of their realm and nobody else gets any, the keys are numbered in the
    order of their dates, and an access is only for a user that had a role before the next rotation. -/
theorem members_get_the_key (start : State) (noRealm : start.org.realms = .empty)
    (noCall : start.waiting = []) (s : State) (run : Run Step NoRevocation start s)
    (realmId : VlobID) (realm : MemoryRealm) (isRealm : s.org.realms.get? realmId = some realm) :
    (∀ rotation, realm.keyRotations.getLast? = some rotation → ∀ userId,
      realm.getCurrentRoleFor userId ≠ none → ∀ device found,
        s.org.devices.get? device = some found → found.cooked.userId = userId →
          ∀ keyIndex, keyIndex = none ∨ keyIndex = some realm.keyRotations.length →
            GetsKey s.org realmId rotation userId device keyIndex) ∧
    (∀ device keyIndex bundle, s.org.getKeysBundle device realmId keyIndex = .ok bundle →
      ∃ found, s.org.devices.get? device = some found ∧
        realm.getCurrentRoleFor found.cooked.userId ≠ none) ∧
    (∀ index rotation, realm.keyRotations[index]? = some rotation →
      rotation.cooked.keyIndex = index + 1) ∧
    realm.keyRotations.Pairwise (fun a b => a.cooked.timestamp < b.cooked.timestamp) ∧
    ∀ index rotation, realm.keyRotations[index]? = some rotation → ∀ userId accesses,
      rotation.perParticipantKeysBundleAccesses.get? userId = some accesses →
        HadRole realm.roles userId rotation.cooked.timestamp (realm.rotatedAt (index + 1))
          (s.org.lastTimestamp (.realm realmId)) := by
  obtain ⟨keys, members⟩ := keys_of_run noRealm noCall run
  have realmKeys := keys realmId realm isRealm
  have ordered := realmKeys.ordered
  rw [MemoryRealm.rotations, List.pairwise_map] at ordered
  refine ⟨?_, fun device keyIndex bundle got => getKeysBundle_role isRealm got, ?_, ordered,
    realmKeys.onlyMembers⟩
  · intro rotation isLast userId hasRole device found isDevice ofUser keyIndex index
    exact keys.getsKey members isRealm isLast hasRole isDevice ofUser index
  · intro index rotation found
    apply realmKeys.indexes index rotation.cooked
    rw [MemoryRealm.rotations, List.getElem?_map, found]
    rfl

/-- An administrator and another user, with a device each. -/
def teamOrganization : MemoryOrganization where
  isExpired := false
  activeUsersLimit := none
  sequesterAuthority := none
  sequesterServices := none
  users := (Dict.empty.set ⟨1⟩ ⟨⟨.root, 1, ⟨1⟩, .admin⟩, ⟨"alice"⟩, [], [], [], none⟩).set ⟨2⟩
    ⟨⟨.user ⟨11⟩, 1, ⟨2⟩, .standard⟩, ⟨"bob"⟩, [], [], [], none⟩
  devices := (Dict.empty.set ⟨11⟩ ⟨⟨.root, 1, ⟨1⟩, ⟨11⟩, ⟨21⟩⟩, [], []⟩).set ⟨12⟩
    ⟨⟨.user ⟨11⟩, 1, ⟨2⟩, ⟨12⟩, ⟨22⟩⟩, [], []⟩
  invitations := .empty
  greetingAttempts := .empty
  realms := .empty
  atomLists := []
  shamirRecoveries := .empty
  perTopicLastTimestamp := Function.update (fun _ => none) .common (some 1)

def teamRealmRole : RealmRoleCertificate := ⟨⟨11⟩, 2, ⟨5⟩, ⟨1⟩, some .owner⟩

def teamRotation : WaitingRotation :=
  ⟨⟨⟨11⟩, 3, ⟨5⟩, 1, []⟩, [], Dict.empty.set ⟨1⟩ [10], [30], none, 1, 2⟩

def teamShare : RealmRoleCertificate := ⟨⟨11⟩, 4, ⟨5⟩, ⟨2⟩, some .contributor⟩

/-- A realm is created and gets its first key. -/
def keyedRealm : MemoryRealm :=
  ⟨⟨5⟩, 2, [(teamRealmRole, [])], [], [⟨teamRotation.certif, [],
    rotationAccesses 3 (Dict.empty.set ⟨1⟩ [10]), [30], none⟩], [], none, .empty⟩

/-- Then it is shared. -/
def sharedRealm : MemoryRealm :=
  { keyedRealm with
    roles := [(teamRealmRole, []), (teamShare, [])]
    keyRotations := [addAccess ⟨teamRotation.certif, [],
      rotationAccesses 3 (Dict.empty.set ⟨1⟩ [10]), [30], none⟩ ⟨2⟩ 4 [20]] }

theorem shared_run {admits : State → Event → Prop}
    (operations : ∀ s op, (∀ certif, op.kind ≠ .revokeUser certif) → admits s (.operation op))
    (rotations : ∀ s request rotation, admits s (.request request (.rotateKey rotation))) :
    ∃ s, Run Step admits ⟨teamOrganization, [], []⟩ s ∧ s = ⟨{ teamOrganization with
      realms := Dict.empty.set ⟨5⟩ sharedRealm
      perTopicLastTimestamp := Function.update (Function.update (Function.update
        teamOrganization.perTopicLastTimestamp (.realm ⟨5⟩) (some 2)) (.realm ⟨5⟩) (some 3))
          (.realm ⟨5⟩) (some 4) }, [], []⟩ := by
  refine ⟨_, .step (.step (.step .start (t := .operation (.createRealm 2 ⟨11⟩ ⟨21⟩
    ⟨[], .certificate teamRealmRole ⟨21⟩⟩)) (operations _ _ nofun) (.operation (by simp) rfl))
    (t := .request (.rotateKey 3 ⟨11⟩ ⟨21⟩ ⟨[], .certificate teamRotation.certif ⟨21⟩⟩
      (Dict.empty.set ⟨1⟩ [10]) [30] none) (.rotateKey teamRotation)) (rotations _ _ _)
    (.atOnce (.rotateKey (by rfl)) (by simp [CanLock]) (by decide) rfl))
    (t := .operation (.shareRealm 4 ⟨11⟩ ⟨21⟩ ⟨[], .certificate teamShare ⟨21⟩⟩ [20] 1))
    (operations _ _ nofun) (.operation (by simp) rfl), rfl⟩

theorem second_member_gets_the_key :
    ∃ s, Run Step NoRevocation ⟨teamOrganization, [], []⟩ s ∧
      s.org.realms.get? ⟨5⟩ = some sharedRealm ∧
      GetsKey s.org ⟨5⟩ (addAccess ⟨teamRotation.certif, [],
        rotationAccesses 3 (Dict.empty.set ⟨1⟩ [10]), [30], none⟩ ⟨2⟩ 4 [20]) ⟨2⟩ ⟨12⟩ none := by
  obtain ⟨s, run, rfl⟩ := @shared_run NoRevocation (fun _ _ other => other) fun _ _ _ => trivial
  refine ⟨_, run, rfl, ?_⟩
  exact (members_get_the_key _ rfl rfl _ run ⟨5⟩ sharedRealm rfl).1 _ rfl ⟨2⟩ (by decide) ⟨12⟩
    _ rfl rfl none (Or.inl rfl)

end ParsecCloud.Server
